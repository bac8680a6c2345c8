/-
DrawPass/Target/Store.lean

The store: a device together with everything of the library that lives on it and may
outlive a renderer, namely the targets, the stories and the reads under way.

Targets and stories are kept by keys that are given out in order and never used again,
so a key is a handle that stays good after its target has been freed.  A store is
itself a device: it passes commands on.
-/
import DrawPass.Gl.Recorder
import DrawPass.Readback.Pending
import DrawPass.Target.Basic
import DrawPass.Target.Story

namespace DrawPass

open Gl Readback

/-- A device and what lives on it. -/
structure Store (σ : Type) where
  device : σ
  targets : Table TargetKey Target := .empty
  stories : Table StoryKey Story := .empty
  /-- The reads under way, the one to be looked at next first. -/
  pending : List PendingRead := []
  /-- What finished reads have handed over, oldest first. -/
  delivered : List Delivery := []
  /-- The time, as the host tells it. -/
  clock : Nat := 0
  /-- The time from one look at a pending read to the next. -/
  pollInterval : Nat := 0
  /-- Whether profiling is switched on. -/
  profiling : Bool := false

namespace Store

variable {σ : Type}

/-- Commands go to the device. -/
instance [Device σ] : Device (Store σ) where
  perform command := fun s =>
    let (reply, device) := (Device.perform command : StateM σ _) s.device
    (reply, { s with device })

instance [Recorder σ] : Recorder (Store σ) where
  calls s := Recorder.calls s.device

/-- A target by its key. -/
def target? (s : Store σ) (key : TargetKey) : Option Target := s.targets.get? key

/-- A story by its key. -/
def story? (s : Store σ) (key : StoryKey) : Option Story := s.stories.get? key

/-- The key of the next target. -/
def nextTarget (s : Store σ) : TargetKey := ⟨s.targets.size⟩

/-- Add a target under its own key. -/
def addTarget (s : Store σ) (t : Target) : Store σ :=
  { s with targets := s.targets.insert t.texture.key t }

/-- Change a target. -/
def modifyTarget (s : Store σ) (key : TargetKey) (f : Target → Target) : Store σ :=
  { s with targets := s.targets.modify key f }

/-- Change the pool of a target. -/
def modifyPool (s : Store σ) (key : TargetKey) (f : PackPool → PackPool) : Store σ :=
  s.modifyTarget key fun t => { t with pool := f t.pool }

/-- Add a story; the answer is its key. -/
def addStory (s : Store σ) (story : Story) : StoryKey × Store σ :=
  (⟨s.stories.size⟩, { s with stories := s.stories.insert ⟨s.stories.size⟩ story })

/-- Make the oldest slot of a story the current one. -/
def rotate (s : Store σ) (key : StoryKey) : Store σ :=
  { s with stories := s.stories.modify key Story.rotate }

/-- Take what finished reads have handed over. -/
def takeDelivered (s : Store σ) : List Delivery × Store σ :=
  (s.delivered, { s with delivered := [] })

/-- Switch profiling on or off. -/
def setProfiling (s : Store σ) (enabled : Bool) : Store σ := { s with profiling := enabled }

/-- The target of a key, unless it has been freed. A key of no target is refused under an empty
tag. -/
def usable (key : TargetKey) : Attempt DrawError (Store σ) Target := do
  match (← get).target? key with
  | none => throw (.freedTarget "")
  | some t => if t.freed then throw (.freedTarget t.tag) else return t

end Store

end DrawPass
