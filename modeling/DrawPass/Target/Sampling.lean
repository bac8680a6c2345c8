/-
DrawPass/Target/Sampling.lean

Binding samplers to texture units.

A sampler whose texture has been freed leaves its unit empty.  One that reads mip
levels has them made anew if the texture has been written since.
-/
import DrawPass.Target.Store

namespace DrawPass

open Gl Sampling

/-- Make the mip levels of a sampler's texture, if it reads them and they are stale. -/
def Sampler.refreshMips {σ : Type} [Device σ] (s : Sampler) (stale : Bool) (unit : UInt32) :
    StateM (Store σ) Unit := do
  if s.filter = .mipLinear ∧ stale then
    let target := s.texture.bindingPoint
    perform (.bindTextureUnit unit target (some s.texture.name) none)
    perform (.generateMipmap target s.texture.name)
    modify fun store => store.modifyTarget s.texture.key fun t => { t with mipsStale := false }

/-- Bind a sampler's texture and sampler object to a unit. -/
def Sampler.bind {σ : Type} [Device σ] (s : Sampler) (unit : UInt32) (cache : Cache) :
    StateM (Store σ) Cache := do
  let target := s.texture.bindingPoint
  match ((← get).target? s.texture.key).filter fun t => !t.freed with
  | none =>
    perform (.bindTextureUnit unit target none none)
    return cache
  | some t =>
    s.refreshMips t.mipsStale unit
    let (object, cache) ← cache.getOrCreate s.mode
    perform (.bindTextureUnit unit target (some s.texture.name) object)
    return cache

end DrawPass
