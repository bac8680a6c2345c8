/-
DrawPass/Shader/Assembler.lean

Complete programs from snippets.

Both stages share a part made of the template, the declarations inferred from the
uniforms, the varyings that the vertex snippet declares and the included chunks.
Around it come the header, the stage's own declarations, the expanded snippet and
the stage's main function.

Expansions are remembered; remembering changes no result.
-/
import DrawPass.Shader.Snippet
import DrawPass.Shader.Template
import DrawPass.Shader.Varying
import DrawPass.Uniform.Declaration

namespace DrawPass.Shader

open Text
open Gl (Stage)

/-- The complete sources of both stages. -/
structure Sources where
  vertex : String
  fragment : String
  deriving DecidableEq

/-- Builds programs from snippets. -/
structure Assembler where
  /-- What comes first in both stages. -/
  header : String
  /-- The expansions made so far. -/
  expanded : Table (Stage × String) String := .empty

namespace Assembler

/-- Expand a snippet, from memory if it has been expanded before. -/
def expand (a : Assembler) (code : String) (stage : Stage) : String × Assembler :=
  match a.expanded.get? (stage, code) with
  | some text => (text, a)
  | none =>
    let text := String.ofList (Shader.expand code.toList stage)
    (text, { a with expanded := a.expanded.insert (stage, code) text })

/-- The text that both stages share. -/
def sharedPart (includes : List String) (vertex fragment : String) (uniforms : Uniform.Values) :
    String :=
  let chunks := "\n".intercalate includes
  let allCode := "\n".intercalate [template, chunks, vertex, fragment]
  let inferred := String.ofList (Uniform.infer uniforms allCode.toList)
  let varyings := String.ofList (extractVaryings vertex.toList)
  template ++ "\n" ++ inferred ++ "\n" ++ varyings ++ "\n" ++ chunks ++ "\n"

/-- The source of one stage from its parts. -/
def stageSource (header : String) (stage : Stage) (shared body : String) : String :=
  let (front, main) :=
    match stage with
    | .vertex => (vertexHeader, vertexMain)
    | .fragment => (fragmentHeader, fragmentMain)
  header ++ "\n" ++ front ++ "\n" ++ shared ++ "\n" ++ body ++ "\n" ++ main

/-- Assemble both stages. -/
def assemble (a : Assembler) (includes : List String) (vertex fragment : String)
    (uniforms : Uniform.Values) : Sources × Assembler :=
  let shared := sharedPart includes vertex fragment uniforms
  let (vertexBody, a) := a.expand (String.ofList (stripVaryings vertex.toList)) .vertex
  let (fragmentBody, a) := a.expand fragment .fragment
  (⟨stageSource a.header .vertex shared vertexBody,
    stageSource a.header .fragment shared fragmentBody⟩, a)

/-- Forget every expansion. -/
def clear (a : Assembler) : Assembler := { a with expanded := .empty }

end Assembler

end DrawPass.Shader
