/-
DrawPass/Session.lean

The host's side of rendering: a renderer and the names under which the host keeps what
it has drawn into.

A name is a handle.  It stays good when the renderer is reset or closed, although the
targets behind it are freed then.  After the renderer has been closed nothing can be
drawn any more, but handles can still be asked about their targets.
-/
import DrawPass.Renderer.Draw

namespace DrawPass

open Gl

/-- What a host means by a target: a handle, of a story perhaps a slot other than the current one,
and perhaps the depth companion of that target. -/
structure Reference where
  handle : String
  slot : Option Nat := none
  depth : Bool := false
  deriving DecidableEq

/-- A renderer with the host's handles. -/
structure Session (σ : Type) where
  renderer : Renderer σ
  /-- Whether the renderer has been closed. -/
  closed : Bool := false
  handles : Table String Resolved := .empty
  /-- The sampler objects of the host itself. -/
  samplers : Sampling.Cache := {}

namespace Session

variable {σ : Type}

instance [Recorder σ] : Recorder (Session σ) where
  calls s := Recorder.calls s.renderer

/-- The store that the renderer lives on, or has left. -/
def store (s : Session σ) : Store σ := s.renderer.store

/-- Act on the store. -/
def onStore {α : Type} (act : StateM (Store σ) α) : StateM (Session σ) α := fun s =>
  let (a, renderer) := Renderer.onStore act s.renderer
  (a, { s with renderer })

/-- Act on the renderer, unless it has been closed. -/
def onRenderer {α : Type} (act : StateM (Renderer σ) α) : StateM (Session σ) (Option α) := fun s =>
  if s.closed then (none, s)
  else
    let (a, renderer) := act s.renderer
    (some a, { s with renderer })

/-- Close the renderer; the answer is whether it was still open. -/
def close [Device σ] : StateM (Session σ) Bool := do
  let closed ← onRenderer Renderer.close
  modify fun s => { s with closed := true }
  return closed.isSome

/-- Keep something that has been drawn into under a name. -/
def keep (s : Session σ) (handle : String) (resolved : Resolved) : Session σ :=
  { s with handles := s.handles.insert handle resolved }

/-- Forget a name. -/
def release (s : Session σ) (handle : String) : Session σ :=
  { s with handles := s.handles.erase handle }

/-- The story of a handle. -/
def story? (s : Session σ) (handle : String) : Option StoryKey :=
  match s.handles.get? handle with
  | some (.story key) => some key
  | _ => none

/-- The target of a slot of a handle. -/
def slot? (s : Session σ) (handle : String) : Option Nat → Option TargetKey
  | none => (s.handles.get? handle).bind fun resolved => resolved.target? s.store
  | some n => do
    let story ← s.store.story? (← s.story? handle)
    story.slots[n]?

/-- The target that a reference means. -/
def target? (s : Session σ) (ref : Reference) : Option Target := do
  let t ← s.store.target? (← s.slot? ref.handle ref.slot)
  if ref.depth then s.store.target? (← t.companion.key?) else some t

/-- The handle of a target that the renderer has made for a tag. -/
def tagged? (s : Session σ) (tag : String) : Option Resolved := s.renderer.target? tag

end Session

end DrawPass
