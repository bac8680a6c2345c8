/-
DrawPass/Text/Pattern.lean

Searching a text for a pattern.

A pattern looks at the head of a text, knowing the character before it, and either
finds nothing or yields a value and what is left of the text.  What is left is
shorter, so a search that starts again after each find comes to an end; the proof
travels with the answer.

`segments` cuts a text into what the pattern finds and the characters between,
leftmost find first and without overlap.  `replaceAll`, `findAll` and `occursIn`
are read off from it.
-/
import DrawPass.Text.Character

namespace DrawPass.Text

universe u

/-- What can be found at the head of a text, given the character before it. -/
abbrev Pattern (α : Type u) :=
  Option Char → (text : List Char) → Option (α × { rest : List Char // rest.length < text.length })

/-- A part of a searched text. -/
inductive Segment (α : Type u) where
  /-- A character outside every find. -/
  | plain (c : Char)
  /-- What the pattern yields for a find. -/
  | found (a : α)

namespace Pattern

variable {α : Type u}

/-- The last character of a text that has been read up to `rest`. -/
def lastRead (text rest : List Char) : Option Char :=
  (text.take (text.length - rest.length)).getLast?

/-- Cut a text into finds and the characters between them, from left to right. -/
def segments (p : Pattern α) (before : Option Char) (text : List Char) : List (Segment α) :=
  match text with
  | [] => []
  | c :: cs =>
    match p before (c :: cs) with
    | some (a, ⟨rest, _⟩) => .found a :: segments p (lastRead (c :: cs) rest) rest
    | none => .plain c :: segments p (some c) cs
termination_by text.length
decreasing_by
  · assumption
  · exact Nat.lt_succ_self cs.length

/-- Replace every find. -/
def replaceAll (p : Pattern α) (f : α → List Char) (text : List Char) : List Char :=
  (p.segments none text).flatMap fun
    | .plain c => [c]
    | .found a => f a

/-- What the finds yield, from left to right. -/
def findAll (p : Pattern α) (text : List Char) : List α :=
  (p.segments none text).filterMap fun
    | .plain _ => none
    | .found a => some a

/-- Whether the pattern is found anywhere in a text. -/
def occursIn (p : Pattern α) (text : List Char) : Bool := !(p.findAll text).isEmpty

/-- The same pattern, yielding `f` of its value. -/
def map {β : Type u} (f : α → β) (p : Pattern α) : Pattern β :=
  fun before text => (p before text).map fun r => (f r.1, r.2)

end Pattern

/-- Whether a word may begin after the given character: there is none, or it is not a word
character. -/
def atWordStart (before : Option Char) : Bool := !before.any isWord

/-- What follows a given keyword at the head of a text. -/
def afterKeyword (keyword text : List Char) : Option (List Char) :=
  if keyword.isPrefixOf text then some (text.drop keyword.length) else none

theorem length_afterKeyword {keyword text rest : List Char}
    (h : afterKeyword keyword text = some rest) : rest.length ≤ text.length := by
  unfold afterKeyword at h
  split at h
  · cases h
    simp
  · cases h

theorem length_afterKeyword_lt {keyword text rest : List Char} (hk : keyword ≠ [])
    (h : afterKeyword keyword text = some rest) : rest.length < text.length := by
  unfold afterKeyword at h
  split at h
  · rename_i hp
    cases h
    have h₁ := (List.isPrefixOf_iff_prefix.1 hp).length_le
    have h₂ := List.length_pos_iff.2 hk
    rw [List.length_drop]
    omega
  · cases h

theorem length_dropWhile_le {α : Type u} (p : α → Bool) (xs : List α) :
    (xs.dropWhile p).length ≤ xs.length :=
  (List.dropWhile_sublist p).length_le

end DrawPass.Text
