/-
DrawPass/Target/Framebuffer.lean

Binding targets for drawing and reading.

The framebuffer of a target is made when it is first bound.  A flat texture is its
colour or its depth attachment; the layers of a layered one are colour attachments in
order.  The companion is attached after the target itself.
-/
import DrawPass.Target.Store

namespace DrawPass

open Gl

/-- Attach a target's texture to the bound framebuffer. -/
def Target.attach {σ : Type} [Device σ] (t : Target) : StateM σ Unit := do
  match t.layers with
  | none =>
    let point := if t.format.isDepth then Constant.depthAttachment else Constant.colorAttachment0
    perform (.framebufferTexture point t.texture.name none)
  | some layers =>
    let numbers := (List.range layers.toNat).map UInt32.ofNat
    for layer in numbers do
      perform (.framebufferTexture (Constant.colorAttachment0 + layer) t.texture.name (some layer))
    perform (.drawBuffers (numbers.map fun layer => Constant.colorAttachment0 + layer))

namespace Store

variable {σ : Type} [Device σ]

/-- Make the framebuffer of a target and bind it. -/
def makeFramebuffer (key : TargetKey) (t : Target) : Attempt DrawError (Store σ) Unit := do
  let framebuffer ← Attempt.create .gl .createFramebuffer
  Attempt.perform (.bindFramebuffer (some framebuffer))
  ExceptT.lift t.attach
  if let some companion := t.companion.key?.bind (← get).target? then
    ExceptT.lift companion.attach
  modify fun s => s.modifyTarget key fun t => { t with framebuffer := some framebuffer }

/-- Bind a target; the answer is its size. Unless it is only going to be read, its mip levels are
stale from now on. -/
def bindTarget (key : TargetKey) (readOnly : Bool) :
    Attempt DrawError (Store σ) (UInt32 × UInt32) := do
  let t ← usable key
  match t.framebuffer with
  | some framebuffer => Attempt.perform (.bindFramebuffer (some framebuffer))
  | none => makeFramebuffer key t
  unless readOnly do
    modify fun s => s.modifyTarget key fun t => { t with mipsStale := true }
  return t.size

end Store

end DrawPass
