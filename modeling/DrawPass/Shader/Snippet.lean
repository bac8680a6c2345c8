/-
DrawPass/Shader/Snippet.lean

Snippets and the functions they stand for.

A snippet is an expression, a list of statements, or text that defines the entry
function itself.  `expand` turns each into a definition: an expression is assigned
to the output of its stage, statements are wrapped into the entry function, and text
in which the entry function already occurs is left alone.
-/
import DrawPass.Gl.Command
import DrawPass.Shader.Comment

namespace DrawPass.Shader

open Text
open Gl (Stage)

/-- The function of a stage that a snippet defines. -/
def entryFunction : Stage → List Char
  | .vertex => ['v', 'e', 'r', 't', 'e', 'x']
  | .fragment => ['f', 'r', 'a', 'g', 'm', 'e', 'n', 't']

/-- The variable of a stage that an expression is assigned to. -/
def entryOutput : Stage → List Char
  | .vertex => ['V', 'P', 'o', 's']
  | .fragment => ['F', 'O', 'u', 't']

/-- The entry function's name at the beginning of a word, with an opening parenthesis after
it. -/
def entryMention (stage : Stage) : Pattern Unit := fun before text =>
  if atWordStart before then
    match h : afterKeyword (entryFunction stage) text with
    | some afterWord =>
      match hr : afterWord.dropWhile isBlank with
      | '(' :: rest => some ((), ⟨rest, by
          have h₁ := length_afterKeyword h
          have h₂ := length_dropWhile_le isBlank afterWord
          rw [hr] at h₂
          simp only [List.length_cons] at h₂
          omega⟩)
      | _ => none
    | none => none
  else none

/-- An expression assigned to the output of a stage. -/
def assignOutput (stage : Stage) (expression : List Char) : List Char :=
  entryOutput stage ++ " = vec4(".toList ++ expression ++ ");".toList

/-- Statements wrapped into the entry function of a stage. -/
def wrapStatements (stage : Stage) (statements : List Char) : List Char :=
  "void ".toList ++ entryFunction stage ++ "() \x7b\n  ".toList ++ statements ++ ";\n\x7d".toList

/-- The definition of the entry function that a snippet stands for. -/
def expand (code : List Char) (stage : Stage) : List Char :=
  let stripped := stripComments code
  let body := trim stripped
  let code := if body.isEmpty || body.contains ';' then code else assignOutput stage body
  if (entryMention stage).occursIn stripped then code else wrapStatements stage code

end DrawPass.Shader
