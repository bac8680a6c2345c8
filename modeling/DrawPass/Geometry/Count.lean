/-
DrawPass/Geometry/Count.lean

How many vertices and instances a draw has.

A mesh of `x` by `y` cells is one triangle strip of `2 x + 3` vertices for each row,
rows joined by degenerate triangles, the last vertex left out.  A grid of instances
is their product.  Counts are computed in 32 bits and refused as soon as a step, or
the result as a signed count, does not fit.
-/

namespace DrawPass.Geometry

/-- The largest vertex or instance count of one draw. -/
def maxCount : UInt32 := 2147483647

/-- A product that fits 32 bits. -/
def checkedMul (a b : UInt32) : Option UInt32 :=
  if a.toNat * b.toNat < UInt32.size then some (a * b) else none

/-- A sum that fits 32 bits. -/
def checkedAdd (a b : UInt32) : Option UInt32 :=
  if a.toNat + b.toNat < UInt32.size then some (a + b) else none

/-- A count that one draw may have. -/
def checkCount (n : UInt32) : Option UInt32 := if n ≤ maxCount then some n else none

/-- The vertices of the strip over a mesh. -/
def vertexCount (x y : UInt32) : Option UInt32 := do
  let row ← checkedAdd (← checkedMul x 2) 3
  let count ← checkedMul row y
  checkCount (if count = 0 then 0 else count - 1)

/-- The instances of a grid. -/
def instanceCount (x y z : UInt32) : Option UInt32 := do
  checkCount (← checkedMul (← checkedMul x y) z)

end DrawPass.Geometry
