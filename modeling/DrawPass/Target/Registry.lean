/-
DrawPass/Target/Registry.lean

Targets by tag.

The first spec that mentions a tag makes a target, or a story of several.  A later one
finds it again and changes its size or its data; it has no say in the format, the
sampling, the layers or the number of slots.  Of a story only the oldest slot, the one
to be drawn into next, is compared with the size asked for; the others follow as the
story goes round.
-/
import DrawPass.Config
import DrawPass.Target.Lifecycle
import DrawPass.Target.Spec

namespace DrawPass

open Gl

/-- What a tag stands for. -/
inductive Entry where
  | single (key : TargetKey)
  | story (key : StoryKey)
  deriving DecidableEq

/-- What has been drawn into. -/
inductive Resolved where
  /-- The default framebuffer. -/
  | screen
  | texture (key : TargetKey)
  | story (key : StoryKey)
  deriving DecidableEq

/-- What an entry is to the caller. -/
def Entry.resolved : Entry → Resolved
  | single key => .texture key
  | story key => .story key

/-- The target behind something that has been drawn into: of a story, the current slot. -/
def Resolved.target? {σ : Type} (r : Resolved) (s : Store σ) : Option TargetKey :=
  match r with
  | screen => none
  | texture key => some key
  | story key => (s.story? key).map Story.current

/-- Targets by tag, with the settings that specs leave open. -/
structure Registry where
  config : Config
  entries : Table String Entry := .empty

namespace Registry

variable {σ : Type}

/-- What a tag stands for. -/
def get? (r : Registry) (tag : String) : Option Resolved := (r.entries.get? tag).map Entry.resolved

/-- The tags, in the order in which they were first mentioned. -/
def tags (r : Registry) : List String := r.entries.keys

/-- How many tags there are. -/
def size (r : Registry) : Nat := r.entries.size

/-- The format of a spec. -/
def formatOf (r : Registry) (spec : TargetSpec) : Except DrawError TargetFormat :=
  match spec.format with
  | none => .ok ⟨r.config.format, false⟩
  | some name =>
    match TargetFormat.parse name with
    | .ok format => .ok format
    | .error e => .error (.unknownFormat e.name)

/-- Refuse data of a spec whose bytes do not fill the target. -/
def checkBytes (spec : TargetSpec) (format : TargetFormat) (size : UInt32 × UInt32) :
    Except DrawError Unit :=
  match spec.data with
  | none => .ok ()
  | some data =>
    let expected := dataBytes format.color.info size spec.layers
    if expected ≠ data.bytes.length then
      .error (.dataSizeMismatch spec.tag expected data.bytes.length)
    else .ok ()

/-- What the targets of a spec are made from. -/
def describe (r : Registry) (spec : TargetSpec) (format : TargetFormat)
    (size : UInt32 × UInt32) : TargetDescription where
  tag := spec.tag
  size := size
  format := format.color
  mode := ⟨spec.filter.getD r.config.filter, spec.wrap.getD r.config.wrap⟩
  layers := spec.layers
  data := spec.data
  withDepth := format.withDepth
  depth := spec.depth
  poolLimit := r.config.poolLimit

/-- The target of an entry that the next draw goes to. -/
def writeSlot? (s : Store σ) : Entry → Option TargetKey
  | .single key => some key
  | .story key => (s.story? key).map Story.writeSlot

variable [Device σ]

/-- Bring the target of an entry that the next draw goes to up to date. -/
def refresh (entry : Entry) (size : UInt32 × UInt32) (data : Option PixelData) :
    Attempt DrawError (Store σ) Unit := do
  let s ← get
  let some key := writeSlot? s entry | throw (.freedTarget "")
  if ((s.target? key).map Target.size) ≠ some size ∨ data.isSome then
    Store.update key size data

/-- Make what a spec asks for. -/
def make (spec : TargetSpec) (d : TargetDescription) : Attempt DrawError (Store σ) Entry := do
  match spec.story with
  | some (earlier + 1) =>
    let current ← Store.create d
    let slots ← (List.replicate earlier d).mapM Store.create
    return .story (← modifyGet fun s => s.addStory ⟨current, slots⟩)
  | _ => return .single (← Store.create d)

/-- Find or make the target of a spec, of the size and with the data that it asks for. -/
def prepare (r : Registry) (spec : TargetSpec) :
    Attempt DrawError (Store σ) (Resolved × Registry) := do
  if spec.tag.isEmpty then throw .missingTag
  let format ← r.formatOf spec
  let size := spec.resolveSize (← Attempt.perform .drawingBufferSize)
  checkBytes spec format size
  match r.entries.get? spec.tag with
  | some entry =>
    refresh entry size spec.data
    return (entry.resolved, r)
  | none =>
    let entry ← make spec (r.describe spec format size)
    return (entry.resolved, { r with entries := r.entries.insert spec.tag entry })

/-- Free every target of an entry. -/
def freeEntry (entry : Entry) : StateM (Store σ) Unit := do
  match entry with
  | .single key => Store.free key
  | .story key =>
    if let some story := (← get).story? key then
      for slot in story.slots do
        Store.free slot

/-- Free every target and forget every tag. -/
def freeAll (r : Registry) : StateM (Store σ) Registry := do
  for entry in r.entries.values do
    freeEntry entry
  return { r with entries := .empty }

end Registry

end DrawPass
