/-
DrawPass/Renderer/Basic.lean

Renderers: what draws have in common.

A renderer keeps the programs, the blend specs, the sampler objects, the index array and
the targets of the specs that it has been given.  It lives on a store, which it gives
back when it is closed; handles to its targets stay good as handles, but the targets
are freed.
-/
import DrawPass.Geometry.IndexArray
import DrawPass.Shader.Program
import DrawPass.Target.Read
import DrawPass.Target.Registry

namespace DrawPass

open Gl DrawPass.Geometry Shader

/-- A renderer on a store. -/
structure Renderer (σ : Type) where
  store : Store σ
  config : Config
  assembler : Assembler
  programs : ProgramCache := {}
  blends : Blend.Memo := {}
  samplers : Sampling.Cache := {}
  registry : Registry
  geometry : IndexArray

namespace Renderer

variable {σ : Type}

/-- Commands go to the store. -/
instance [Device σ] : Device (Renderer σ) where
  perform command := fun r =>
    let (reply, store) := (Device.perform command : StateM (Store σ) _) r.store
    (reply, { r with store })

instance [Recorder σ] : Recorder (Renderer σ) where
  calls r := Recorder.calls r.store

/-- Act on the store of a renderer. -/
def onStore {α : Type} (act : StateM (Store σ) α) : StateM (Renderer σ) α := fun r =>
  let (a, store) := act r.store
  (a, { r with store })

/-- Try something on the store of a renderer. -/
def tryOnStore {ε α : Type} (act : Attempt ε (Store σ) α) : Attempt ε (Renderer σ) α :=
  ExceptT.mk (onStore act.run)

variable [Device σ]

/-- Set up a device for rendering: rows of pixels are not padded, and the index array is made. -/
def setUp (config : Config) : Attempt DrawError (Store σ) IndexArray := do
  Attempt.perform (.pixelStore Constant.packAlignment 1)
  Attempt.perform (.pixelStore Constant.unpackAlignment 1)
  modify fun s => { s with profiling := config.profiling, pollInterval := config.pollInterval }
  IndexArray.create config.indexCapacity

/-- Make a renderer on a store. -/
def create (config : Config) (store : Store σ) : Except DrawError (Renderer σ) :=
  match (setUp config).run store with
  | (.error e, _) => .error e
  | (.ok geometry, store) =>
    .ok { store, config, geometry
          assembler := { header := config.header }
          registry := { config } }

/-- Delete every program, free every target that was made for a spec, and forget what was
assembled. -/
def reset : StateM (Renderer σ) Unit := do
  let programs ← (← get).programs.clear
  modify fun r => { r with programs }
  let registry ← onStore (← get).registry.freeAll
  modify fun r => { r with registry, assembler := r.assembler.clear }

/-- Give up a renderer and everything that it keeps on the device; the store is left. -/
def close : StateM (Renderer σ) (Store σ) := do
  reset
  let samplers ← (← get).samplers.clear
  modify fun r => { r with samplers }
  (← get).geometry.delete
  return (← get).store

/-- Look at the reads under way; the answer is how many were delivered. -/
def poll : StateM (Renderer σ) Nat := onStore Store.poll

/-- The target that a spec of a tag has made. -/
def target? (r : Renderer σ) (tag : String) : Option Resolved := r.registry.get? tag

end Renderer

end DrawPass
