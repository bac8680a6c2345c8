/-
DrawPass/Renderer/Toggles.lean

The capabilities that a draw switches on and must switch off again.
-/
import DrawPass.Gl.Constant

namespace DrawPass

open Gl

/-- A set of capabilities. -/
structure Toggles where
  blend : Bool := false
  depthTest : Bool := false
  cullFace : Bool := false
  alphaCoverage : Bool := false
  deriving DecidableEq

namespace Toggles

/-- The set of a mask: one bit each, in the order of the fields from the lowest. Other bits mean
nothing. -/
def ofBits (mask : Nat) : Toggles where
  blend := mask.testBit 0
  depthTest := mask.testBit 1
  cullFace := mask.testBit 2
  alphaCoverage := mask.testBit 3

/-- The mask of a set. -/
def bits (t : Toggles) : Nat :=
  t.blend.toNat + 2 * t.depthTest.toNat + 4 * t.cullFace.toNat + 8 * t.alphaCoverage.toNat

/-- The constants of the capabilities in a set. -/
def capabilities (t : Toggles) : List UInt32 :=
  (if t.blend then [Constant.blend] else []) ++
    (if t.depthTest then [Constant.depthTest] else []) ++
    (if t.cullFace then [Constant.cullFace] else []) ++
    (if t.alphaCoverage then [Constant.sampleAlphaToCoverage] else [])

end Toggles

end DrawPass
