/-
DrawPass/Uniform/Value.lean

Values of shader uniforms, and the components they have as floats and as integers.
-/
import DrawPass.Sampling.Sampler
import DrawPass.Table

namespace DrawPass.Uniform

/-- A value bound to a uniform. -/
inductive Value where
  | float (x : Single)
  | int (n : Int32)
  | bool (b : Bool)
  | vector (xs : List Single)
  | intVector (ns : List Int32)
  | sampler (s : Sampler)
  deriving DecidableEq

/-- The uniforms of one draw, in order of insertion. -/
abbrev Values := Table String Value

namespace Value

/-- The components as floats; a sampler has none. -/
def floats? : Value → Option (List Single)
  | float x => some [x]
  | int n => some [Single.ofInt n.toInt]
  | bool b => some [if b then .one else .zero]
  | vector xs => some xs
  | intVector ns => some (ns.map fun n => Single.ofInt n.toInt)
  | sampler _ => none

/-- The components as integers, floats without their fraction; a sampler has none. -/
def ints? : Value → Option (List Int32)
  | float x => some [x.toInt32]
  | int n => some [n]
  | bool b => some [if b then 1 else 0]
  | vector xs => some (xs.map Single.toInt32)
  | intVector ns => some ns
  | sampler _ => none

/-- The sampler of a sampler value. -/
def sampler? : Value → Option Sampler
  | sampler s => some s
  | _ => none

/-- How many components there are. -/
def length : Value → Nat
  | vector xs => xs.length
  | intVector ns => ns.length
  | sampler _ => 0
  | _ => 1

end Value

end DrawPass.Uniform
