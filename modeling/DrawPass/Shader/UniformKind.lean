/-
DrawPass/Shader/UniformKind.lean

The kinds of uniforms that values can be written to.
-/
import DrawPass.Gl.Constant

namespace DrawPass.Shader

open Gl

/-- The kind of a uniform, with the number of its components or the dimension of its matrix. -/
inductive UniformKind where
  | float (n : UInt32)
  | int (n : UInt32)
  | uint (n : UInt32)
  | bool (n : UInt32)
  | matrix (n : UInt32)
  /-- A sampler, with the binding point of the textures it reads. -/
  | sampler (target : UInt32)
  deriving DecidableEq

namespace UniformKind

/-- The kind of a reported type. -/
def ofType? (type : UInt32) : Option UniformKind :=
  match type with
  | Constant.float => some (float 1)
  | Constant.floatVec2 => some (float 2)
  | Constant.floatVec3 => some (float 3)
  | Constant.floatVec4 => some (float 4)
  | Constant.int => some (int 1)
  | Constant.intVec2 => some (int 2)
  | Constant.intVec3 => some (int 3)
  | Constant.intVec4 => some (int 4)
  | Constant.unsignedInt => some (uint 1)
  | Constant.unsignedIntVec2 => some (uint 2)
  | Constant.unsignedIntVec3 => some (uint 3)
  | Constant.unsignedIntVec4 => some (uint 4)
  | Constant.bool => some (bool 1)
  | Constant.boolVec2 => some (bool 2)
  | Constant.boolVec3 => some (bool 3)
  | Constant.boolVec4 => some (bool 4)
  | Constant.floatMat2 => some (matrix 2)
  | Constant.floatMat3 => some (matrix 3)
  | Constant.floatMat4 => some (matrix 4)
  | Constant.sampler2D | Constant.intSampler2D | Constant.unsignedIntSampler2D =>
    some (sampler Constant.texture2D)
  | Constant.sampler2DArray | Constant.intSampler2DArray | Constant.unsignedIntSampler2DArray =>
    some (sampler Constant.texture2DArray)
  | _ => none

/-- How many numbers one uniform of a kind takes. -/
def components : UniformKind → Nat
  | float n | int n | uint n | bool n => n.toNat
  | matrix n => n.toNat * n.toNat
  | sampler _ => 1

end UniformKind

end DrawPass.Shader
