/-
DrawPass/Proofs/Run.lean

Runs: what a host can do with a renderer on the device in memory.

An `Act` is one call of the host: a draw, a reset, a look at the reads under way, a
read of either kind, a change or the end of a target, or a change of the device's own
settings, among them the failures that can be armed.  Acts may name any target and any
story, also ones that have been freed or never existed, and an act that is refused
leaves the state that it had reached.

A renderer is reachable if it comes about from a new device by acts.  What every act
keeps holds of every reachable renderer (`ReachableBy.invariant`).
-/
import DrawPass.Proofs.RendererMoves

namespace DrawPass

open Gl Software

/-- A setting of the device in memory, or a failure to be armed. -/
inductive Control where
  | fenceLatency (waits : UInt32)
  | failFenceWaits (fail : Bool)
  | failNextLink (log : String)
  | failTextureAfter (count : Nat)
  | failNextFramebuffer
  | resizeDrawingBuffer (width height : UInt32)
  | registerEmulator (marker : String) (run : Fragment → Color)

/-- The device after a change of its settings. -/
def Control.apply (d : State) : Control → State
  | fenceLatency waits => { d with fenceLatency := waits }
  | failFenceWaits fail => { d with failFenceWaits := fail }
  | failNextLink log => { d with failNextLink := some log }
  | failTextureAfter count => { d with failTextureAfter := some count }
  | failNextFramebuffer => { d with failNextFramebuffer := true }
  | resizeDrawingBuffer width height => d.resizeDrawingBuffer width height
  | registerEmulator marker run => d.registerEmulator marker run

theorem Control.sameFixed (change : Control) (d : State) : d.SameFixed (change.apply d) := by
  cases change <;> exact .of_eq rfl rfl rfl

theorem Control.sameObjects (change : Control) (d : State) : d.SameObjects (change.apply d) := by
  cases change <;> exact .of_eq rfl rfl rfl rfl (Nat.le_refl _)

/-- One call of the host. -/
inductive Act where
  | draw (bag : Params.Bag) (destination : Destination)
  | reset
  | poll
  | read (key : TargetKey) (label : String) (region : Option Rect)
      (destination : Option PixelData)
  | readSync (key : TargetKey) (region : Option Rect)
  | update (key : TargetKey) (size : UInt32 × UInt32) (data : Option PixelData)
  | bindTarget (key : TargetKey) (readOnly : Bool)
  | free (key : TargetKey)
  | rotate (key : StoryKey)
  /-- Let time pass. -/
  | wait (time : Nat)
  | control (change : Control)

/-- The renderer after an act. -/
def Act.after (r : Renderer State) : Act → Renderer State
  | draw bag destination => ((Renderer.draw bag destination).run r).2
  | reset => (Renderer.reset r).2
  | poll => (Renderer.poll r).2
  | read key label region destination =>
    ((Renderer.tryOnStore (Store.read key label region destination)).run r).2
  | readSync key region => ((Renderer.tryOnStore (Store.readSync key region)).run r).2
  | update key size data => ((Renderer.tryOnStore (Store.update key size data)).run r).2
  | bindTarget key readOnly => ((Renderer.tryOnStore (Store.bindTarget key readOnly)).run r).2
  | free key => (Renderer.onStore (Store.free key) r).2
  | rotate key => { r with store := r.store.rotate key }
  | wait time => { r with store := { r.store with clock := r.store.clock + time } }
  | control change => { r with store := { r.store with device := change.apply r.store.device } }

/-- The renderer after several acts, the first one first. -/
def Act.afterAll (r : Renderer State) (acts : List Act) : Renderer State := acts.foldl after r

/-- A renderer with an index array of one element on a device of one pixel. -/
def Renderer.onePixel : Renderer State :=
  (Renderer.create { indexCapacity := 1 } { device := State.new 1 1 }).toOption.get rfl

theorem Renderer.create_onePixel :
    Renderer.create { indexCapacity := 1 } { device := State.new 1 1 } = .ok Renderer.onePixel :=
  rfl

/-! ### Acts move along what permits their parts -/

/-- Whether an act neither draws nor has to do with reads that do not wait. -/
def Act.isQuiet : Act → Bool
  | draw .. | poll | read .. => false
  | _ => true

/-- Whether an act at most binds targets, reads them, turns stories and lets time pass. -/
def Act.isLook : Act → Bool
  | poll | read .. | readSync .. | bindTarget .. | rotate _ | wait _ => true
  | _ => false

theorem Act.look_moves {I : Geometry.IndexArray → Prop} {R : Store State → Store State → Prop}
    [IsPreorder (Store State) R] {act : Act} (hbinding : Store.PermitsBinding R)
    (hreads : Store.PermitsReads R)
    (hrotate : ∀ key, act = .rotate key → ∀ s : Store State, R s (s.rotate key))
    (hact : act.isLook) (r : Renderer State) : Renderer.Along I R r (act.after r) := by
  cases act with
  | draw | reset | update | free | control => cases hact
  | poll => exact Renderer.onStore_moves (Store.poll_moves hreads.toLooks) r
  | read key label region destination =>
    exact Renderer.tryOnStore_moves (Store.read_moves hreads key label region destination
      (Store.bindForRead_moves hbinding key)) r
  | readSync key region =>
    exact Renderer.tryOnStore_moves (Store.readSync_moves hbinding key region) r
  | bindTarget key readOnly =>
    exact Renderer.tryOnStore_moves (Store.bindTarget_moves hbinding key readOnly) r
  | rotate key => exact fun hr => ⟨hr, hrotate key rfl r.store, id⟩
  | wait time => exact fun hr => ⟨hr, hreads.reads r.store _ rfl rfl rfl, id⟩

section

variable {I : Geometry.IndexArray → Prop} {R : Store State → Store State → Prop}
  [IsPreorder (Store State) R] {G : TargetSpec → Prop} {act : Act} (hpermits : Store.Permits R G)
  (hrotate : ∀ key, act = .rotate key → ∀ s : Store State, R s (s.rotate key))
  (hcontrol : ∀ change, act = .control change → ∀ s : Store State,
    R s { s with device := change.apply s.device })
include hpermits hrotate hcontrol

theorem Act.quiet_moves (hwait : ∀ (s : Store State) (time : Nat),
      R s { s with clock := s.clock + time }) (hact : act.isQuiet)
    (r : Renderer State) : Renderer.Along I R r (act.after r) := by
  cases act with
  | draw | poll | read => cases hact
  | reset => exact Renderer.reset_moves hpermits r
  | readSync key region =>
    exact Renderer.tryOnStore_moves (Store.readSync_moves hpermits.toBinding _ _) r
  | update key size data =>
    exact Renderer.tryOnStore_moves (Store.update_moves hpermits.toPermitsContents _ _ _) r
  | bindTarget key readOnly =>
    exact Renderer.tryOnStore_moves (Store.bindTarget_moves hpermits.toBinding _ _) r
  | free key => exact Renderer.onStore_moves (hpermits.free key) r
  | rotate key => exact fun hr => ⟨hr, hrotate key rfl r.store, id⟩
  | wait time => exact fun hr => ⟨hr, hwait r.store time, id⟩
  | control change => exact fun hr => ⟨hr, hcontrol change rfl r.store, id⟩

/-- Every act but a draw. -/
theorem Act.after_moves (h : Store.PermitsReads R)
    (hact : ∀ bag destination, act ≠ .draw bag destination)
    (r : Renderer State) : Renderer.Along I R r (act.after r) := by
  cases act with
  | draw bag destination => exact absurd rfl (hact bag destination)
  | poll | read => exact Act.look_moves hpermits.toBinding h hrotate rfl r
  | _ =>
    exact Act.quiet_moves hpermits hrotate hcontrol
      (fun s _ => h.reads s _ rfl rfl rfl) rfl r

end

/-- Every act moves along what permits everything that acts are made of. -/
theorem Act.moves {R : Store State → Store State → Prop} [IsPreorder (Store State) R]
    (hpermits : Store.Permits R fun _ => True) (hreads : Store.PermitsReads R)
    (hcommand : ∀ {α : Type} (command : Command α), command.keepsFrames →
      Moves R (perform command : StateM (Store State) α))
    (hrotate : ∀ (s : Store State) (key : StoryKey), R s (s.rotate key))
    (hcontrol : ∀ (s : Store State) (change : Control),
      R s { s with device := change.apply s.device }) (act : Act) (r : Renderer State) :
    R r.store (act.after r).store := by
  by_cases hact : ∃ bag destination, act = .draw bag destination
  · obtain ⟨bag, destination, rfl⟩ := hact
    exact (Renderer.draw_moves hpermits (fun _ _ _ => hcommand _ rfl)
      (fun command hobjects => hcommand command (command.keepsFrames_of_keepsObjects hobjects))
      hrotate bag (fun _ _ => trivial) r rfl).2.1
  · exact (Act.after_moves hpermits (fun key _ s => hrotate s key)
      (fun change _ s => hcontrol s change) hreads
      (fun bag destination h => hact ⟨bag, destination, h⟩) r rfl).2.1

/-! ### Acts move the device along what its commands move it along -/

/-- The devices are related. -/
def Store.OnDevice (D : State → State → Prop) (s s' : Store State) : Prop := D s.device s'.device

section Device

variable {D : State → State → Prop} [IsPreorder State D]

instance : IsPreorder (Store State) (Store.OnDevice D) where
  refl s := refl s.device
  trans s s' s'' h h' := IsTrans.trans (r := D) s.device s'.device s''.device h h'

variable (hcommand : ∀ {α : Type} (command : Command α) (d : State), D d (d.perform command).2)
include hcommand

/-- What every command does to the device, whatever is made of commands does. -/
theorem Store.permitsParts_onDevice : Store.PermitsParts (Store.OnDevice D) where
  command command _ s := hcommand command s.device
  modifyTarget s _ _ _ := refl s.device
  addTarget s _ _ := refl s.device
  reads s s' hdevice _ _ := by
    unfold Store.OnDevice
    rw [hdevice]
    exact refl s.device

theorem Act.onDevice_moves (hcontrol : ∀ (change : Control) (d : State), D d (change.apply d))
    (act : Act) (r : Renderer State) : Store.OnDevice D r.store (act.after r).store :=
  Act.moves
    ((Store.permitsParts_onDevice hcommand).permits fun _ _ _ _ _ =>
      Store.make_moves (Store.permitsParts_onDevice hcommand) (fun s _ => refl s.device) _ _)
    (Store.permitsParts_onDevice hcommand).toReads (fun command _ s => hcommand command s.device)
    (fun s _ => refl s.device) (fun s change => hcontrol change s.device) act r

end Device

theorem Act.afterAll_append (r : Renderer State) (acts acts' : List Act) :
    Act.afterAll r (acts ++ acts') = Act.afterAll (Act.afterAll r acts) acts' := List.foldl_append

/-- Runs move along what every act moves along. -/
theorem Act.afterAll_moves {R : Store State → Store State → Prop} [IsPreorder (Store State) R]
    (h : ∀ (act : Act) (r : Renderer State), R r.store (act.after r).store) (acts : List Act)
    (r : Renderer State) : R r.store (Act.afterAll r acts).store := by
  induction acts generalizing r with
  | nil => exact refl r.store
  | cons act acts ih => exact IsTrans.trans r.store _ _ (h act r) (ih (act.after r))

/-! ### Reachable renderers -/

/-- A renderer that comes about on a new device by acts of a kind. -/
inductive ReachableBy (P : Act → Prop) : Renderer State → Prop where
  | start {config : Config} {width height : UInt32} {r : Renderer State}
      (h : Renderer.create config { device := State.new width height } = .ok r) :
      ReachableBy P r
  | step {r : Renderer State} (act : Act) (h : ReachableBy P r) (hact : P act) :
      ReachableBy P (act.after r)

/-- A renderer that comes about by any acts. -/
abbrev Reachable : Renderer State → Prop := ReachableBy fun _ => True

namespace ReachableBy

variable {P Q : Act → Prop} {r : Renderer State}

theorem mono (hPQ : ∀ act, P act → Q act) (h : ReachableBy P r) : ReachableBy Q r := by
  induction h with
  | start h => exact .start h
  | step act _ hact ih => exact .step act ih (hPQ act hact)

/-- Fewer acts reach nothing new. -/
theorem reachable (h : ReachableBy P r) : Reachable r := h.mono fun _ _ => trivial

theorem afterAll (h : ReachableBy P r) {acts : List Act} (hacts : ∀ act ∈ acts, P act) :
    ReachableBy P (Act.afterAll r acts) := by
  induction acts generalizing r with
  | nil => exact h
  | cons act acts ih =>
    rw [List.forall_mem_cons] at hacts
    exact ih (h.step act hacts.1) hacts.2

/-- What the first acts of a host make of a small renderer. -/
theorem onePixel (acts : List Act) : Reachable (Act.afterAll Renderer.onePixel acts) :=
  (ReachableBy.start Renderer.create_onePixel).afterAll fun _ _ => trivial

/-- What holds of new renderers and is kept by every act holds throughout. -/
theorem invariant {I : Renderer State → Prop}
    (start : ∀ config width height r,
      Renderer.create config { device := State.new width height } = .ok r → I r)
    (step : ∀ act r, P act → I r → I (act.after r)) (h : ReachableBy P r) : I r := by
  induction h with
  | start h => exact start _ _ _ _ h
  | step act _ hact ih => exact step act _ hact ih

end ReachableBy

end DrawPass
