/-
DrawPass/Target/Read.lean

Reading targets back.

`readSync` waits for the pixels.  `read` does not: it has the device copy them into a
pixel buffer and sets a fence behind the copy; `poll` looks at the fences and hands
over the pixels of those that have signalled.  A read whose buffer has been deleted in
the meantime, because its target was freed, is dropped, and so is one whose fence
fails.
-/
import DrawPass.Target.Framebuffer

namespace DrawPass

open Gl Readback

namespace Store

variable {σ : Type} [Device σ]

/-- What became of a read that was looked at. -/
inductive Outcome where
  | waiting (read : PendingRead)
  | delivered
  | dropped

/-- Whether the buffer of a read is still good. -/
def bufferIsValid (s : Store σ) (read : PendingRead) : Bool :=
  ((s.target? read.target).map fun t => t.pool.isValid read.buffer).getD false

/-- Delete the fence of a read and give its buffer back. -/
def finish (read : PendingRead) : StateM (Store σ) Unit := do
  perform (.deleteSync read.fence)
  modify fun s => s.modifyPool read.target fun pool => pool.recycle read.buffer

/-- Hand over the pixels of a read. -/
def deliver (read : PendingRead) : StateM (Store σ) Unit := do
  let array := read.array
  let bytes ← perform (.getBufferSubData Constant.pixelPackBuffer read.buffer 0
    (array.bytes.take read.length))
  let delivery : Delivery := ⟨read.label, array.writeBytes bytes⟩
  modify fun s => { s with delivered := s.delivered ++ [delivery] }

/-- Look at the fence of a read. -/
def look (read : PendingRead) : StateM (Store σ) Outcome := do
  if !(← get).bufferIsValid read then
    perform (.deleteSync read.fence)
    return .dropped
  else
    match ← perform (.clientWaitSync read.fence 0) with
    | .timeout =>
      let s ← get
      return .waiting { read with nextPoll := s.clock + s.pollInterval }
    | .failed =>
      finish read
      return .dropped
    | .signaled =>
      deliver read
      finish read
      return .delivered

/-- Look at a read and keep it if it has to wait; the answer is whether it was delivered. -/
def step (read : PendingRead) : StateM (Store σ) Bool := do
  match ← look read with
  | .waiting read =>
    modify fun s => { s with pending := s.pending ++ [read] }
    return false
  | .delivered => return true
  | .dropped => return false

/-- Look at every read that is due; the answer is how many were delivered. Reads that are not due
keep their place in front of those that go on waiting. -/
def poll : StateM (Store σ) Nat := do
  let s ← get
  let isDue (read : PendingRead) : Bool := read.nextPoll ≤ s.clock
  set { s with pending := s.pending.filter fun read => !isDue read }
  (s.pending.filter isDue).foldlM (fun n read => do
    return if ← step read then n + 1 else n) 0

/-- The target to be read. -/
def readable (key : TargetKey) : Attempt ReadError (Store σ) Target := do
  match (← get).target? key with
  | none => throw .freed
  | some t => if t.freed then throw .freed else return t

/-- Bind a target that is going to be read. -/
def bindForRead (key : TargetKey) : Attempt ReadError (Store σ) Unit := do
  let _ ← ExceptT.adapt (fun e : DrawError => .gl e.message) (bindTarget key true)

/-- Take a buffer from the pool of a target. -/
def acquire (key : TargetKey) (t : Target) (bytes : Nat) : Attempt ReadError (Store σ) Name := do
  let (buffer, pool) ← t.pool.acquire bytes
  modify fun s => s.modifyPool key fun _ => pool
  return buffer

/-- Start reading a region of a target, the whole of it if none is given, under a label. The
pixels are handed over in the destination, or in a fresh array. -/
def read (key : TargetKey) (label : String) (region : Option Rect)
    (destination : Option PixelData) : Attempt ReadError (Store σ) Unit := do
  let t ← readable key
  let rect ← t.region region
  if destination.any fun d => d.kind != t.info.array || d.length < t.elements rect then
    throw .invalidRegion
  let bytes := t.regionBytes rect
  bindForRead key
  let buffer ← acquire key t bytes
  Attempt.perform (.packPixels rect t.info.layout.format t.info.layout.type buffer)
  match ← Attempt.perform .fenceSync with
  | .error cause =>
    modify fun s => s.modifyPool key fun pool => pool.recycle buffer
    throw (.gl cause)
  | .ok fence =>
    Attempt.perform .flush
    let _ ← ExceptT.lift <| step
      { label, fence, buffer, destination
        target := key
        length := bytes
        kind := t.info.array
        nextPoll := (← get).clock }

/-- Read a region of a target, the whole of it if none is given, and wait for the pixels. They go
through the target's staging memory, which keeps what it held where nothing is written. -/
def readSync (key : TargetKey) (region : Option Rect) : Attempt ReadError (Store σ) PixelData := do
  let t ← readable key
  let rect ← t.region region
  let bytes := t.regionBytes rect
  let staging := t.staging ++ List.replicate (bytes - t.staging.length) 0
  bindForRead key
  let pixels ← Attempt.perform (.readPixels rect t.info.layout.format t.info.layout.type
    (staging.take bytes))
  modify fun s => s.modifyTarget key fun t => { t with staging := overwrite staging pixels }
  return PixelData.ofBytes t.info.array pixels

end Store

end DrawPass
