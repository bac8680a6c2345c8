/-
DrawPass/Shader/Varying.lean

Varyings declared by a vertex snippet, as in `varying vec3 c = vec3(1), n;`.

The declarations are hoisted into the part both stages share, with their
initialisers removed (`extractVaryings`); in the snippet itself the words `varying`
and the type go away, so that a declaration becomes an assignment
(`stripVaryings`).
-/
import DrawPass.Shader.Comment
import DrawPass.Text.Line

namespace DrawPass.Shader

open Text

/-- The word that begins a declaration. -/
def varyingKeyword : List Char := ['v', 'a', 'r', 'y', 'i', 'n', 'g']

/-- A whole declaration, up to its semicolon: the word, a blank, and at least one more character
before the semicolon. It yields its text. -/
def varyingDeclaration : Pattern (List Char) := fun before text =>
  if atWordStart before then
    match h : afterKeyword varyingKeyword text with
    | some afterWord =>
      let body := afterWord.takeWhile (· != ';')
      match hr : afterWord.dropWhile (· != ';') with
      | semicolon :: rest =>
        if body.head?.any isBlank && decide (2 ≤ body.length) then
          some (varyingKeyword ++ body ++ [semicolon], ⟨rest, by
            have h₁ := length_afterKeyword h
            have h₂ := length_dropWhile_le (· != ';') afterWord
            rw [hr] at h₂
            simp only [List.length_cons] at h₂
            omega⟩)
        else none
      | [] => none
    | none => none
  else none

/-- The beginning of a declaration: the word, blanks and the name of a type. -/
def varyingPrefix : Pattern Unit := fun before text =>
  if atWordStart before then
    match h : afterKeyword varyingKeyword text with
    | some afterWord =>
      let afterBlanks := afterWord.dropWhile isBlank
      if afterWord.head?.any isBlank && afterBlanks.head?.any isWord then
        some ((), ⟨afterBlanks.dropWhile isWord, by
          have h₁ := length_afterKeyword_lt (by simp [varyingKeyword]) h
          have h₂ : afterBlanks.length ≤ afterWord.length := length_dropWhile_le isBlank afterWord
          have h₃ := length_dropWhile_le isWord afterBlanks
          omega⟩)
      else none
    | none => none
  else none

/-- An innermost pair of parentheses with what is between. -/
def innerParens : Pattern Unit := fun _ text =>
  match text with
  | '(' :: rest =>
    match h : rest.dropWhile fun c => c != '(' && c != ')' with
    | ')' :: rest' => some ((), ⟨rest', by
        have := length_dropWhile_le (fun c => c != '(' && c != ')') rest
        rw [h] at this
        simp only [List.length_cons] at this ⊢
        omega⟩)
    | _ => none
  | _ => none

/-- An equals sign and what follows it up to a comma or a semicolon. -/
def initializer : Pattern Unit := fun _ text =>
  match text with
  | '=' :: rest => some ((), ⟨rest.dropWhile fun c => c != ',' && c != ';', by
      have := length_dropWhile_le (fun c => c != ',' && c != ';') rest
      simp only [List.length_cons]
      omega⟩)
  | _ => none

/-- Remove innermost parentheses until none are left or `rounds` are done. -/
def dropParensFor : (rounds : Nat) → List Char → List Char
  | 0, text => text
  | rounds + 1, text =>
    let next := innerParens.replaceAll (fun _ => []) text
    if next = text then text else dropParensFor rounds next

/-- Remove every balanced pair of parentheses. Each round that changes the text makes it
shorter, so as many rounds as characters are enough. -/
def dropParens (text : List Char) : List Char := dropParensFor text.length text

/-- The declarations of varyings in a snippet without their initialisers, one per line. -/
def extractVaryings (vertex : List Char) : List Char :=
  joinWith ['\n'] <|
    (varyingDeclaration.findAll (stripComments vertex)).map fun declaration =>
      initializer.replaceAll (fun _ => []) (dropParens declaration)

/-- A snippet with the word and the type removed from its declarations of varyings. -/
def stripVaryings (vertex : List Char) : List Char :=
  varyingPrefix.replaceAll (fun _ => []) vertex

end DrawPass.Shader
