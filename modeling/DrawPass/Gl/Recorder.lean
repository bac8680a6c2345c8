/-
DrawPass/Gl/Recorder.lean

Things that write down the calls made on them.
-/
import DrawPass.Gl.Call

namespace DrawPass.Gl

/-- A state in which the calls made so far are written down. -/
class Recorder (σ : Type) where
  /-- The calls, oldest first. -/
  calls : σ → List Call

/-- Act, and tell which calls were made meanwhile. -/
def recorded {σ α : Type} [Recorder σ] (act : StateM σ α) : StateM σ (α × List Call) := fun s =>
  let (a, s') := act s
  ((a, (Recorder.calls s').drop (Recorder.calls s).length), s')

end DrawPass.Gl
