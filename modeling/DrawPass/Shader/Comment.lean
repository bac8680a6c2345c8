/-
DrawPass/Shader/Comment.lean

Comments of shader text: from a slash and a star to the nearest star and slash, or
from two slashes to the end of the line.  An opening mark without a closing one is
no comment.
-/
import DrawPass.Text.Pattern

namespace DrawPass.Shader

open Text

/-- What follows the nearest closing mark. -/
def afterClose : List Char → Option (List Char)
  | '*' :: '/' :: rest => some rest
  | _ :: rest => afterClose rest
  | [] => none

theorem length_afterClose {text rest : List Char} (h : afterClose text = some rest) :
    rest.length < text.length := by
  fun_induction afterClose text with
  | case1 r =>
    cases h
    simp only [List.length_cons]
    omega
  | case2 c r _ ih =>
    have := ih h
    simp only [List.length_cons]
    omega
  | case3 => cases h

/-- A comment at the head of a text. -/
def comment : Pattern Unit := fun _ text =>
  match text with
  | '/' :: '*' :: rest =>
    match h : afterClose rest with
    | some rest' => some ((), ⟨rest', by
        have := length_afterClose h
        simp only [List.length_cons]
        omega⟩)
    | none => none
  | '/' :: '/' :: rest =>
    some ((), ⟨rest.dropWhile (· != '\n'), by
      have := length_dropWhile_le (· != '\n') rest
      simp only [List.length_cons]
      omega⟩)
  | _ => none

/-- A text without its comments. -/
def stripComments (text : List Char) : List Char := comment.replaceAll (fun _ => []) text

end DrawPass.Shader
