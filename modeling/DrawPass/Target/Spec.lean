/-
DrawPass/Target/Spec.lean

Target specs: what a target is asked to be, by its tag.

Most of a spec may be left open.  An open size is that of a source, if one is given, or
of the surface that is drawn to; everything else falls back to the settings of the
renderer.  Sizes are scaled and rounded up.
-/
import DrawPass.Target.Store

namespace DrawPass

open Binary Sampling

/-- What a target is asked to be. -/
structure TargetSpec where
  tag : String
  size : Option (UInt32 × UInt32) := none
  /-- The size of something outside that the target is to match. -/
  sourceSize : Option (UInt32 × UInt32) := none
  scale : Single := .one
  /-- The name of the format, which may ask for a depth companion. -/
  format : Option String := none
  filter : Option Filter := none
  wrap : Option Wrap := none
  layers : Option UInt32 := none
  /-- How many targets take turns; none or zero is a single target. -/
  story : Option Nat := none
  data : Option PixelData := none
  /-- A depth companion that the caller owns. -/
  depth : Option TargetKey := none

/-- A length scaled and rounded up. The product is rounded to double precision first; what is not
a number gives zero, and the result stays within 32 bits. -/
def scaledLength (n : UInt32) (scale : Single) : UInt32 :=
  let product : Datum :=
    match scale.datum with
    | .finite negative q => .finite negative (n.toNat * q)
    | .infinity negative => if n = 0 then .nan negative 0 else .infinity negative
    | .nan negative payload => .nan negative payload
  let rounded := Format.double.decode (Format.double.encode product)
  UInt32.ofNat (rounded.toInt Rat.ceil 0 4294967295).toNat

/-- The size that a spec asks for on a surface. -/
def TargetSpec.resolveSize (spec : TargetSpec) (surface : UInt32 × UInt32) : UInt32 × UInt32 :=
  let (width, height) := (spec.size.or spec.sourceSize).getD surface
  (scaledLength width spec.scale, scaledLength height spec.scale)

end DrawPass
