/-
DrawPass/Blend/Spec.lean

Blend specs: blend equations written as an expression over the source `s` and the
destination `d`, such as `s*sa + d*(1-sa)` or `max(s, d)`.

A spec is read in two passes over its text without blanks.  The terms in it, an `s`
or a `d` with an optional factor, give the weights; the text with every term reduced
to its letter must then be one of a few shapes, and the shape gives the operation.
A term without a factor weighs 1, a term that does not occur weighs 0.
-/
import DrawPass.Blend.State
import DrawPass.Text.Pattern
import DrawPass.Table

namespace DrawPass.Blend

open Text

/-- Which side of the equation a term stands for. -/
inductive Side where
  | src
  | dst
  deriving DecidableEq

/-- The letter of a side. -/
def Side.letter : Side → Char
  | src => 's'
  | dst => 'd'

/-- A term of a spec: a side and the token of its factor, if it has one. -/
structure Term where
  side : Side
  factor : Option (List Char)
  deriving DecidableEq

/-- The token of a factor after the star of a term, and what follows it: a word, or a word
taken from one in parentheses. -/
def factorToken? (text : List Char) : Option (List Char × List Char) :=
  match text.takeWhile isWord with
  | w :: ws => some (w :: ws, text.dropWhile isWord)
  | [] =>
    match text with
    | '(' :: '1' :: '-' :: rest =>
      match rest.takeWhile isWord, rest.dropWhile isWord with
      | w :: ws, ')' :: rest' => some (['(', '1', '-'] ++ (w :: ws) ++ [')'], rest')
      | _, _ => none
    | _ => none

theorem length_factorToken? {text token rest : List Char}
    (h : factorToken? text = some (token, rest)) : rest.length ≤ text.length := by
  have hle := length_dropWhile_le isWord text
  unfold factorToken? at h
  split at h
  · cases h
    exact hle
  · split at h
    · rename_i cs _
      have hle' := length_dropWhile_le isWord cs
      split at h
      · rename_i heq
        cases h
        rw [heq] at hle'
        simp only [List.length_cons] at hle' ⊢
        omega
      · cases h
    · cases h

/-- The factor that follows the letter of a term, if a star and a token stand there, and what
is left. -/
def factorAfter (text : List Char) : Option (List Char) × List Char :=
  match text with
  | '*' :: rest =>
    match factorToken? rest with
    | some (token, rest') => (some token, rest')
    | none => (none, text)
  | _ => (none, text)

theorem length_factorAfter (text : List Char) : (factorAfter text).2.length ≤ text.length := by
  unfold factorAfter
  split
  · split
    · rename_i h
      have := length_factorToken? h
      simp only [List.length_cons]
      omega
    · exact Nat.le_refl _
  · exact Nat.le_refl _

/-- A term at the head of a text: its letter and the factor after it. -/
def term : Pattern Term := fun _ text =>
  match text with
  | c :: rest =>
    let read (side : Side) : Option (Term × { r : List Char // r.length < (c :: rest).length }) :=
      some (⟨side, (factorAfter rest).1⟩,
        ⟨(factorAfter rest).2, Nat.lt_succ_of_le (length_factorAfter rest)⟩)
    if c = 's' then read .src else if c = 'd' then read .dst else none
  | [] => none

/-- Why a spec is refused. -/
inductive SpecError where
  | unknownFactor (spec factor : String)
  | unrecognizedPattern (spec : String)
  deriving DecidableEq

/-- The kind of a refusal in one word. -/
def SpecError.kind : SpecError → String
  | .unknownFactor .. => "UnknownFactor"
  | .unrecognizedPattern .. => "UnrecognizedPattern"

/-- The message of a refusal. -/
def SpecError.message : SpecError → String
  | .unknownFactor spec factor =>
    "Unknown blend factor \"" ++ factor ++ "\" in blend spec \"" ++ spec ++ "\""
  | .unrecognizedPattern spec => "Unable to parse blend spec \"" ++ spec ++ "\""

/-- The weight of a term, or the token that names none. -/
def Term.weight (t : Term) : Except (List Char) Factor :=
  match t.factor with
  | none => .ok .one
  | some token =>
    match Factor.ofToken? token with
    | some f => .ok f
    | none => .error token

/-- The weights of both sides; the last term of a side decides, the first bad token is the
error. -/
def weights : List Term → Factor × Factor → Except (List Char) (Factor × Factor)
  | [], w => .ok w
  | t :: ts, (src, dst) =>
    match t.weight with
    | .error token => .error token
    | .ok f =>
      match t.side with
      | .src => weights ts (f, dst)
      | .dst => weights ts (src, f)

/-- The operation of a shape: a spec whose terms have been reduced to their letters. -/
def opOfShape? (shape : String) : Option Op :=
  if shape = "min(s,d)" ∨ shape = "min(d,s)" then some .min
  else if shape = "max(s,d)" ∨ shape = "max(d,s)" then some .max
  else if shape = "s" ∨ shape = "d" ∨ shape = "s+d" ∨ shape = "d+s" then some .add
  else if shape = "s-d" then some .subtract
  else if shape = "d-s" then some .reverseSubtract
  else none

/-- Read a blend spec. A blank one means no blending. -/
def parse (spec : String) : Except SpecError (Option State) :=
  let compact := spec.toList.filter fun c => !isBlank c
  if compact.isEmpty then .ok none
  else
    match weights (term.findAll compact) (.zero, .zero) with
    | .error token => .error (.unknownFactor spec (String.ofList token))
    | .ok (src, dst) =>
      let shape := term.replaceAll (fun t => [t.side.letter]) compact
      match opOfShape? (String.ofList shape) with
      | some op => .ok (some ⟨src, dst, op⟩)
      | none => .error (.unrecognizedPattern spec)

/-- Specs that have been read, by their exact text. Refusals are not remembered. -/
structure Memo where
  parsed : Table String (Option State) := .empty

namespace Memo

/-- What a spec means, from memory if it has been read before. -/
def parse (m : Memo) (spec : String) : Except SpecError (Option State) × Memo :=
  match m.parsed.get? spec with
  | some state => (.ok state, m)
  | none =>
    match Blend.parse spec with
    | .ok state => (.ok state, ⟨m.parsed.insert spec state⟩)
    | .error e => (.error e, m)

/-- How many specs are remembered. -/
def size (m : Memo) : Nat := m.parsed.size

end Memo

end DrawPass.Blend
