/-
DrawPass/Sampling/Mode.lean

How a texture is sampled: the filter and the wrapping of coordinates, their names,
and the device's sampler objects, of which one is kept for each combination in use.
-/
import DrawPass.Gl.Command
import DrawPass.Table

namespace DrawPass.Sampling

open Gl

/-- How texels are combined. -/
inductive Filter where
  | nearest
  | linear
  /-- Interpolated between texels and mip levels. -/
  | mipLinear
  deriving DecidableEq

/-- What happens to coordinates outside a texture. -/
inductive Wrap where
  | edge
  | repeated
  | mirror
  deriving DecidableEq

/-- A name that is no filter's or no wrapping's. -/
structure UnknownMode where
  name : String
  deriving DecidableEq

/-- The message for an unknown mode. -/
def UnknownMode.message (e : UnknownMode) : String :=
  "Unknown sampling mode \"" ++ e.name ++ "\""

namespace Filter

/-- The name of a filter. -/
def name : Filter → String
  | nearest => "nearest"
  | linear => "linear"
  | mipLinear => "miplinear"

/-- The filter of a name. -/
def parse (s : String) : Except UnknownMode Filter :=
  match [nearest, linear, mipLinear].find? fun f => f.name == s with
  | some f => .ok f
  | none => .error ⟨s⟩

/-- The constant for minification. -/
def minConstant : Filter → UInt32
  | nearest => Constant.nearest
  | linear => Constant.linear
  | mipLinear => Constant.linearMipmapLinear

/-- The constant for magnification, where mip levels play no part. -/
def magConstant : Filter → UInt32
  | nearest => Constant.nearest
  | linear | mipLinear => Constant.linear

end Filter

namespace Wrap

/-- The name of a wrapping. -/
def name : Wrap → String
  | edge => "edge"
  | repeated => "repeat"
  | mirror => "mirror"

/-- The wrapping of a name. -/
def parse (s : String) : Except UnknownMode Wrap :=
  match [edge, repeated, mirror].find? fun w => w.name == s with
  | some w => .ok w
  | none => .error ⟨s⟩

/-- The constant of a wrapping. -/
def constant : Wrap → UInt32
  | edge => Constant.clampToEdge
  | repeated => Constant.repeated
  | mirror => Constant.mirroredRepeat

end Wrap

/-- A filter and a wrapping together. -/
structure Mode where
  filter : Filter
  wrap : Wrap
  deriving DecidableEq

/-- The sampler objects made so far, one for each mode. -/
structure Cache where
  objects : Table Mode Name := .empty

namespace Cache

variable {σ : Type} [Device σ]

/-- How many sampler objects there are. -/
def size (c : Cache) : Nat := c.objects.size

/-- The sampler object of a mode, made on first use. A device that refuses to make one leaves
the texture to its own parameters. -/
def getOrCreate (c : Cache) (mode : Mode) : StateM σ (Option Name × Cache) := do
  match c.objects.get? mode with
  | some sampler => return (some sampler, c)
  | none =>
    match ← perform (.createSampler mode.filter.minConstant mode.filter.magConstant
        mode.wrap.constant) with
    | .ok sampler => return (some sampler, ⟨c.objects.insert mode sampler⟩)
    | .error _ => return (none, c)

/-- Delete every sampler object. -/
def clear (c : Cache) : StateM σ Cache := do
  for sampler in c.objects.values do
    perform (.deleteSampler sampler)
  return {}

end Cache

end DrawPass.Sampling
