/-
DrawPass/Color.lean

Colours: four numbers, for red, green, blue and alpha.
-/
import DrawPass.Binary.Single

namespace DrawPass

/-- A colour: red, green, blue, alpha. -/
abbrev Color := Vector Single 4

namespace Color

/-- The colour of four components. -/
def rgba (red green blue alpha : Single) : Color := #v[red, green, blue, alpha]

/-- The colour of which all components are the same. -/
def uniform (x : Single) : Color := rgba x x x x

/-- The colour that is black and opaque. -/
def opaqueBlack : Color := rgba .zero .zero .zero .one

/-- The colour of the first four of some numbers; those that are missing are zero. -/
def ofList (xs : List Single) : Color := Vector.ofFn fun c => xs.getD c.val .zero

end Color

end DrawPass
