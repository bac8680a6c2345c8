/-
DrawPass/Software/Program.lean

Programs of the device in memory: their sources, the uniforms that the sources
declare, and the values that the uniforms hold.

Nothing is compiled.  The uniforms are found by scanning the declarations of both
stages with the scanner of `DrawPass.Uniform.Declaration`; the first declaration of a
name counts.
-/
import DrawPass.Uniform.Declaration

namespace DrawPass.Software

open Gl Text

/-- The constant of a type name of the shading language. -/
def typeConstant? (type : String) : Option UInt32 :=
  match type with
  | "float" => some Constant.float
  | "vec2" => some Constant.floatVec2
  | "vec3" => some Constant.floatVec3
  | "vec4" => some Constant.floatVec4
  | "int" => some Constant.int
  | "ivec2" => some Constant.intVec2
  | "ivec3" => some Constant.intVec3
  | "ivec4" => some Constant.intVec4
  | "uint" => some Constant.unsignedInt
  | "uvec2" => some Constant.unsignedIntVec2
  | "uvec3" => some Constant.unsignedIntVec3
  | "uvec4" => some Constant.unsignedIntVec4
  | "bool" => some Constant.bool
  | "bvec2" => some Constant.boolVec2
  | "bvec3" => some Constant.boolVec3
  | "bvec4" => some Constant.boolVec4
  | "mat2" => some Constant.floatMat2
  | "mat3" => some Constant.floatMat3
  | "mat4" => some Constant.floatMat4
  | "sampler2D" => some Constant.sampler2D
  | "sampler2DArray" => some Constant.sampler2DArray
  | "isampler2D" => some Constant.intSampler2D
  | "usampler2D" => some Constant.unsignedIntSampler2D
  | "isampler2DArray" => some Constant.intSampler2DArray
  | "usampler2DArray" => some Constant.unsignedIntSampler2DArray
  | _ => none

/-- One name of a declaration: a word, and the digits of an array's length if it is one. -/
structure Declarator where
  name : List Char
  length : Option (List Char)
  deriving DecidableEq

/-- Read one name of a declaration. -/
def Declarator.parse? (text : List Char) : Option Declarator :=
  let text := trim text
  let name := text.takeWhile isWord
  if name.isEmpty then none
  else
    match (text.dropWhile isWord).dropWhile isBlank with
    | [] => some ⟨name, none⟩
    | '[' :: rest =>
      let rest := rest.dropWhile isBlank
      let digits := rest.takeWhile isDigit
      if digits.isEmpty then none
      else if (rest.dropWhile isDigit).dropWhile isBlank = [']'] then some ⟨name, some digits⟩
      else none
    | _ => none

/-- The value of a number in ASCII digits that fits a signed 32-bit integer. -/
def parseLength? (digits : List Char) : Option Int32 :=
  if digits.all Char.isDigit then
    let n := digits.foldl (fun n c => 10 * n + (c.toNat - '0'.toNat)) 0
    if n < 2147483648 then some (Int32.ofNat n) else none
  else none

/-- The uniform that a name of a declaration makes. The name of an array ends in `[0]`; a length
that is no plain number counts as 1. -/
def Declarator.activeUniform (d : Declarator) (type : UInt32) : ActiveUniform :=
  match d.length with
  | none => ⟨String.ofList d.name, type, 1⟩
  | some digits => ⟨String.ofList d.name ++ "[0]", type, (parseLength? digits).getD 1⟩

/-- A reported name without the ends that mark an array. -/
def baseName (name : String) : String :=
  let rec drop : List Char → List Char
    | ']' :: '0' :: '[' :: rest => drop rest
    | reversed => reversed
  String.ofList (drop name.toList.reverse).reverse

/-- The names and types that a declaration adds to those found before. -/
def addDeclaration (found : List ActiveUniform) (d : Uniform.Declaration) : List ActiveUniform :=
  match typeConstant? (String.ofList d.type) with
  | none => found
  | some type =>
    (d.names.splitOn ',').foldl (fun found text =>
      match Declarator.parse? text with
      | none => found
      | some declarator =>
        if found.any fun u => baseName u.name == String.ofList declarator.name then found
        else found ++ [declarator.activeUniform type]) found

/-- The uniforms that sources declare, in order, the first declaration of a name counting. -/
def scanUniforms (sources : List String) : List ActiveUniform :=
  sources.foldl (fun found source =>
    ((Uniform.declaration true).findAll (Shader.stripComments source.toList)).foldl
      addDeclaration found) []

/-- The value that a uniform holds. -/
inductive UniformValue where
  | floats (v : List Single)
  | ints (v : List Int32)
  | uints (v : List UInt32)
  deriving DecidableEq

namespace UniformValue

/-- The components as floats. -/
def asFloats : UniformValue → List Single
  | floats v => v
  | ints v => v.map fun n => Single.ofInt n.toInt
  | uints v => v.map fun n => Single.ofInt n.toNat

/-- The components as integers: floats without their fraction, unsigned ones by their bits. -/
def asInts : UniformValue → List Int32
  | floats v => v.map Single.toInt32
  | ints v => v
  | uints v => v.map UInt32.toInt32

end UniformValue

/-- A linked program. -/
structure Program where
  vertexSource : String
  fragmentSource : String
  uniforms : List ActiveUniform
  values : Table String UniformValue := .empty

/-- The source of a stage. -/
def Program.source (p : Program) : Stage → String
  | .vertex => p.vertexSource
  | .fragment => p.fragmentSource

end DrawPass.Software
