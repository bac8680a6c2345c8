/-
DrawPass/Params/Bag.lean

Parameter bags: what one draw is described by.

A bag maps names to values in order of insertion.  Twelve names are reserved for
options of the draw; every other name is a uniform.
-/
import DrawPass.Uniform.Value

namespace DrawPass.Params

/-- A value of a bag. -/
inductive ParamValue where
  | uniform (v : Uniform.Value)
  | text (s : String)
  | texts (ss : List String)
  deriving DecidableEq

namespace ParamValue

/-- The text of a text value. -/
def text? : ParamValue → Option String
  | text s => some s
  | _ => none

/-- The uniform of a uniform value. -/
def uniform? : ParamValue → Option Uniform.Value
  | uniform v => some v
  | _ => none

/-- The numbers of a value; texts and samplers have none. -/
def numbers? (v : ParamValue) : Option (List Single) := v.uniform?.bind Uniform.Value.floats?

/-- The number of a value that is a single one. -/
def scalar? : ParamValue → Option Single
  | uniform (.float x) => some x
  | uniform (.int n) => some (Single.ofInt n.toInt)
  | uniform (.bool b) => some (if b then .one else .zero)
  | _ => none

end ParamValue

/-- The parameters of one draw. -/
abbrev Bag := Table String ParamValue

/-- The reserved names. -/
inductive OptionName where
  | inc
  | vp
  | fp
  | clear
  | blend
  | view
  | grid
  | mesh
  | aspect
  | depthTest
  | alphaCoverage
  | face
  deriving DecidableEq

namespace OptionName

/-- The reserved name as it stands in a bag. -/
def key : OptionName → String
  | inc => "Inc"
  | vp => "VP"
  | fp => "FP"
  | clear => "Clear"
  | blend => "Blend"
  | view => "View"
  | grid => "Grid"
  | mesh => "Mesh"
  | aspect => "Aspect"
  | depthTest => "DepthTest"
  | alphaCoverage => "AlphaCoverage"
  | face => "Face"

/-- Every reserved name. -/
def all : List OptionName :=
  [inc, vp, fp, clear, blend, view, grid, mesh, aspect, depthTest, alphaCoverage, face]

/-- The option that a key of a bag stands for. -/
def ofKey? (s : String) : Option OptionName := all.find? fun o => o.key == s

end OptionName

end DrawPass.Params
