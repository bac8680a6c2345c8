/-
DrawPass/Target/Lifecycle.lean

Making, changing and freeing targets.

The storage of a target is specified anew in place, so that samplers taken before a
change of size go on reading the same texture.  Freeing is final and may be repeated.
-/
import DrawPass.Target.Store

namespace DrawPass

open Gl Readback

namespace Store

variable {σ : Type} [Device σ]

/-- Specify the storage of one target anew, without its companion. -/
def respecify (key : TargetKey) (size : UInt32 × UInt32) (data : Option PixelData) :
    Attempt DrawError (Store σ) Unit := do
  let t ← usable key
  checkData t.tag t.info size t.layers data
  Attempt.perform (.texImage t.texture.name t.info.layout size.1 size.2 t.layers
    (data.map PixelData.bytes))
  modify fun s => s.modifyTarget key fun t => { t with size, mipsStale := true }

/-- Specify the storage of a target anew, with data if there is any. An owned companion follows
without data. -/
def update (key : TargetKey) (size : UInt32 × UInt32) (data : Option PixelData) :
    Attempt DrawError (Store σ) Unit := do
  let t ← usable key
  respecify key size data
  match t.companion.ownedKey? with
  | some companion => respecify companion size none
  | none => return

/-- Give back the device objects of one target. -/
def release (key : TargetKey) (t : Target) : StateM (Store σ) Unit := do
  if let some framebuffer := t.framebuffer then
    modify fun s => s.modifyTarget key fun t => { t with framebuffer := none }
    perform (.deleteFramebuffer framebuffer)
  let pool ← t.pool.invalidateAll
  modify fun s => s.modifyPool key fun _ => pool
  perform (.deleteTexture t.texture.name)

/-- Free one target, without its companion. -/
def freeAlone (key : TargetKey) : StateM (Store σ) Unit := do
  let some t := (← get).target? key | return
  unless t.freed do
    modify fun s => s.modifyTarget key fun t => { t with freed := true }
    release key t

/-- Free a target and the companion that it owns. -/
def free (key : TargetKey) : StateM (Store σ) Unit := do
  let some t := (← get).target? key | return
  unless t.freed do
    modify fun s => s.modifyTarget key fun t => { t with freed := true }
    if let some companion := t.companion.ownedKey? then freeAlone companion
    release key t

/-- Have a texture made for a target, and the target around it. If the device refuses, an owned
companion that was made before is freed again. -/
def createWith (d : TargetDescription) (companion : Companion) :
    Attempt DrawError (Store σ) TargetKey := do
  match ← Attempt.perform .createTexture with
  | .error cause =>
    if let some owned := companion.ownedKey? then ExceptT.lift (free owned)
    throw (.gl cause)
  | .ok name =>
    let key := (← get).nextTarget
    let texture : TextureRef :=
      { key, name, format := d.format, layered := d.layers.isSome, tag := d.tag }
    modify fun s => s.addTarget
      { texture, companion
        mode := d.mode
        layers := d.layers
        size := d.size
        pool := { limit := d.poolLimit } }
    tryCatch (update key d.size d.data) fun refusal => do
      ExceptT.lift (free key)
      throw refusal
    return key

/-- Make a target, after its own companion if it is to have one. -/
def create (d : TargetDescription) : Attempt DrawError (Store σ) TargetKey := do
  checkData d.tag d.format.info d.size d.layers d.data
  match d.depth with
  | some depth => createWith d (.borrowed depth)
  | none =>
    if d.withDepth then
      let depth : TargetDescription :=
        { d with
          tag := d.tag ++ "_depth"
          format := .depth
          layers := none
          data := none
          withDepth := false }
      createWith d (.owned (← createWith depth .none))
    else createWith d .none

end Store

end DrawPass
