/-
DrawPass/Sampling/Sampler.lean

Samplers: a texture together with the mode to read it in.

A sampler is a plain value.  Forking one leaves it as it was; the texture
is shared, and whether it has been freed or its mip levels are stale is state of the
texture's target, not of the sampler.
-/
import DrawPass.Pixel.Format
import DrawPass.Sampling.Mode

namespace DrawPass

open Sampling

/-- The handle of a render target. Keys are given out in order and never used again. -/
structure TargetKey where
  index : Nat
  deriving DecidableEq

/-- What never changes about the texture of a target. -/
structure TextureRef where
  /-- Which target the texture belongs to. -/
  key : TargetKey
  /-- The device's name of the texture. -/
  name : Gl.Name
  format : TextureFormat
  layered : Bool
  /-- The tag of the target. -/
  tag : String
  deriving DecidableEq

/-- The binding point of a texture. -/
def TextureRef.bindingPoint (t : TextureRef) : UInt32 :=
  if t.layered then Gl.Constant.texture2DArray else Gl.Constant.texture2D

/-- A texture and the mode to read it in. -/
structure Sampler where
  texture : TextureRef
  filter : Filter
  wrap : Wrap
  deriving DecidableEq

namespace Sampler

/-- A sampler of a texture. Depth textures are never filtered. -/
def make (texture : TextureRef) (filter : Filter) (wrap : Wrap) : Sampler :=
  ⟨texture, if texture.format.isDepth then .nearest else filter, wrap⟩

/-- The same texture with another filter. -/
def withFilter (s : Sampler) (filter : Filter) : Sampler := make s.texture filter s.wrap

/-- The same texture with another wrapping. -/
def withWrap (s : Sampler) (wrap : Wrap) : Sampler := make s.texture s.filter wrap

/-- The same texture in another mode, by the name of a filter or of a wrapping. A name that is
neither changes nothing. -/
def fork (s : Sampler) (mode : String) : Sampler :=
  match Filter.parse mode, Wrap.parse mode with
  | .ok filter, _ => s.withFilter filter
  | _, .ok wrap => s.withWrap wrap
  | _, _ => s

/-- The mode to read in. -/
def mode (s : Sampler) : Mode := ⟨s.filter, s.wrap⟩

/-- Whether two samplers read the same texture. -/
def sameTexture (s t : Sampler) : Bool := s.texture.key == t.texture.key

end Sampler

end DrawPass
