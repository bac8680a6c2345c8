/-
DrawPass/Gl/Call.lean

Calls as they are written down: the name of a function and its arguments, in order.
-/
import DrawPass.Gl.Command

namespace DrawPass.Gl

/-- An argument of a call, or a reply noted among the arguments. -/
inductive Argument where
  | int (n : Int)
  | truth (b : Bool)
  | single (x : Single)
  | text (s : String)
  /-- The contents of memory. -/
  | memory (bytes : Bytes)
  | ints (ns : List Int)
  | singles (xs : List Single)
  /-- Nothing was given. -/
  | absent
  deriving DecidableEq

/-- A call of a function. -/
structure Call where
  function : String
  arguments : List Argument
  deriving DecidableEq

namespace Argument

/-- A constant or another unsigned number. -/
def word (n : UInt32) : Argument := int n.toNat

/-- A signed number. -/
def signed (n : Int32) : Argument := int n.toInt

/-- The name of an object. -/
def name (n : Name) : Argument := int n

/-- An argument that may be missing. -/
def optional {α : Type} (f : α → Argument) : Option α → Argument
  | some a => f a
  | none => absent

/-- The four numbers of a rectangle. -/
def rect (r : Rect) : Argument := ints [r.x.toInt, r.y.toInt, r.width.toInt, r.height.toInt]

/-- The four numbers of a colour. -/
def color (c : Color) : Argument := singles c.toList

end Argument

end DrawPass.Gl
