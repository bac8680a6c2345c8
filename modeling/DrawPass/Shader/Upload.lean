/-
DrawPass/Shader/Upload.lean

Writing the values of a draw to the uniforms of its program.

A value whose components do not fill whole uniforms of the declared kind is left out,
and so is a missing one: the uniform keeps what it holds.  A sampler uniform without a
sampler has its unit emptied.
-/
import DrawPass.Shader.Program
import DrawPass.Target.Sampling

namespace DrawPass.Shader

open Gl Sampling

/-- The command that writes a value to a uniform of a kind, if the value fits it. -/
def UniformKind.write? (kind : UniformKind) (location : Location) (value : Uniform.Value) :
    Option (Command Unit) :=
  if value.length = 0 ∨ value.length % kind.components ≠ 0 then none
  else
    match kind with
    | float n => value.floats?.map fun xs => .uniformFloats location n xs
    | matrix n => value.floats?.map fun xs => .uniformMatrix location n xs
    | int n | bool n => value.ints?.map fun ns => .uniformInts location n ns
    | uint n => value.ints?.map fun ns =>
        .uniformUInts location n (ns.map fun m => (max m 0).toUInt32)
    | sampler _ => none

variable {σ : Type} [Device σ]

/-- Write a value, which may be missing, to a uniform. -/
def Setter.apply (s : Setter) (value : Option Uniform.Value) (cache : Cache) :
    StateM (Store σ) Cache := do
  match s.slot with
  | .sampler unit target =>
    match value with
    | some (.sampler sampler) => sampler.bind unit cache
    | _ =>
      perform (.bindTextureUnit unit target none none)
      return cache
  | .value kind =>
    if let some command := value.bind (kind.write? s.location) then perform command
    return cache

/-- Write the values of a draw to the uniforms of a program. -/
def Program.applyUniforms (p : Program) (values : Uniform.Values) (cache : Cache) :
    StateM (Store σ) Cache :=
  p.setters.foldlM (fun cache s => s.apply (values.get? s.name) cache) cache

end DrawPass.Shader
