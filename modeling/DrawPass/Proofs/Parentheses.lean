/-
DrawPass/Proofs/Parentheses.lean

What is left of a text without its parentheses.

Parentheses are removed in rounds, each of which takes away the innermost pairs.  In a text whose
parentheses are balanced (`Balanced`) a round leaves a balanced text with the same characters
outside of all parentheses, and a shorter one as long as there are any (`Balanced.round`).  So the
rounds end with just these characters (`Balanced.dropParens_eq`), however deep the nesting.
-/
import DrawPass.Proofs.Declared
import DrawPass.Shader.Varying

namespace DrawPass.Shader

open Text

/-- A text whose parentheses are balanced, and what of it stands outside of all parentheses. -/
inductive Balanced : (text outside : List Char) → Prop where
  | nil : Balanced [] []
  | plain {c : Char} {text outside : List Char} (hopen : c ≠ '(') (hclose : c ≠ ')')
      (h : Balanced text outside) : Balanced (c :: text) (c :: outside)
  | paren {inner nested text outside : List Char} (hinner : Balanced inner nested)
      (h : Balanced text outside) : Balanced ('(' :: (inner ++ ')' :: text)) outside

namespace Balanced

variable {text text' outside outside' : List Char}

/-- A text without parentheses. -/
theorem of_plain (h : ∀ c ∈ text, c ≠ '(' ∧ c ≠ ')') : Balanced text text := by
  induction text with
  | nil => exact .nil
  | cons c text ih =>
    obtain ⟨⟨hopen, hclose⟩, htext⟩ := List.forall_mem_cons.1 h
    exact .plain hopen hclose (ih htext)

theorem append (h : Balanced text outside) (h' : Balanced text' outside') :
    Balanced (text ++ text') (outside ++ outside') := by
  induction h with
  | nil => exact h'
  | plain hopen hclose _ ih => exact .plain hopen hclose ih
  | paren hinner _ _ ih =>
    rw [List.cons_append, List.append_assoc, List.cons_append]
    exact .paren hinner ih

/-- Outside of all parentheses there are none. -/
theorem outside_plain (h : Balanced text outside) : ∀ c ∈ outside, c ≠ '(' ∧ c ≠ ')' := by
  induction h with
  | nil => nofun
  | plain hopen hclose _ ih => exact List.forall_mem_cons.2 ⟨⟨hopen, hclose⟩, ih⟩
  | paren _ _ _ ih => exact ih

/-- The first parenthesis, if there is one, is an open one. -/
theorem eq_or_opens (h : Balanced text outside) : outside = text ∨
    ∃ lead rest, text = lead ++ '(' :: rest ∧ ∀ c ∈ lead, c ≠ '(' ∧ c ≠ ')' := by
  induction h with
  | nil => exact .inl rfl
  | @plain c text outside hopen hclose _ ih =>
    rcases ih with rfl | ⟨lead, rest, rfl, hlead⟩
    · exact .inl rfl
    · exact .inr ⟨c :: lead, rest, rfl, List.forall_mem_cons.2 ⟨⟨hopen, hclose⟩, hlead⟩⟩
  | paren => exact .inr ⟨[], _, rfl, nofun⟩

end Balanced

/-! ### One round -/

variable {c : Char} {lead rest : List Char}

/-- A text without its innermost parentheses. -/
def dropInner (text : List Char) : List Char := innerParens.replaceAll (fun _ => []) text

theorem replaceFrom_innerParens (before : Option Char) (text : List Char) :
    innerParens.replaceFrom (fun _ => []) before text = dropInner text :=
  Pattern.replaceFrom_congr (fun _ _ _ => rfl) before none text

theorem dropInner_nil : dropInner [] = [] := by
  rw [dropInner, Pattern.replaceAll, Pattern.segments]
  rfl

theorem dropInner_cons_none {text : List Char} (h : innerParens none (c :: text) = none) :
    dropInner (c :: text) = c :: dropInner text := by
  rw [← replaceFrom_innerParens (some c) text]
  exact Pattern.replaceFrom_cons_none h

theorem dropInner_cons (hopen : c ≠ '(') (text : List Char) :
    dropInner (c :: text) = c :: dropInner text := by
  refine dropInner_cons_none (innerParens.eq_2 _ _ fun rest heq => ?_)
  cases heq
  exact hopen rfl

section

variable (hlead : ∀ c ∈ lead, c ≠ '(' ∧ c ≠ ')')
include hlead

/-- From an open parenthesis the next one is looked for. -/
theorem dropWhile_lead (hc : c = '(' ∨ c = ')') (rest : List Char) :
    (lead ++ c :: rest).dropWhile (fun c => c != '(' && c != ')') = c :: rest := by
  rw [List.dropWhile_append_of_pos fun d hd => by simp [hlead d hd]]
  rcases hc with rfl | rfl <;> rfl

/-- An innermost pair goes, with what is between. -/
theorem dropInner_pair (rest : List Char) :
    dropInner ('(' :: (lead ++ ')' :: rest)) = dropInner rest := by
  obtain ⟨hrest, hfound⟩ : ∃ hrest, innerParens none ('(' :: (lead ++ ')' :: rest)) =
      some ((), ⟨rest, hrest⟩) := by
    have hlt : rest.length < ('(' :: (lead ++ ')' :: rest)).length := by
      simp only [List.length_cons, List.length_append]
      omega
    rw [innerParens.eq_1]
    split
    · rename_i rest' hdrop
      cases (dropWhile_lead hlead (.inr rfl) rest).symm.trans hdrop
      exact ⟨hlt, rfl⟩
    · rename_i hnone
      exact absurd (dropWhile_lead hlead (.inr rfl) rest) (hnone rest)
  rw [← replaceFrom_innerParens none, Pattern.replaceFrom_cons_some hfound]
  exact replaceFrom_innerParens _ _

/-- A parenthesis that is followed by another open one stays. -/
theorem dropInner_outer (rest : List Char) :
    dropInner ('(' :: (lead ++ '(' :: rest)) = '(' :: dropInner (lead ++ '(' :: rest) := by
  refine dropInner_cons_none ?_
  rw [innerParens.eq_1]
  split
  · rename_i rest' hdrop
    cases (dropWhile_lead hlead (.inl rfl) rest).symm.trans hdrop
  · rfl

end

namespace Balanced

variable {text outside : List Char}

/-- One round removes something as long as there are parentheses, and nothing outside of them. -/
theorem round (h : Balanced text outside) : ∃ text', Balanced text' outside ∧
    (∀ rest, dropInner (text ++ rest) = text' ++ dropInner rest) ∧
    (text' = text ∧ outside = text ∨ text'.length < text.length) := by
  induction h with
  | nil => exact ⟨[], .nil, fun _ => rfl, .inl ⟨rfl, rfl⟩⟩
  | @plain c text outside hopen hclose _ ih =>
    obtain ⟨text', hbalanced, hround, hshorter⟩ := ih
    refine ⟨c :: text', .plain hopen hclose hbalanced, fun rest => ?_, ?_⟩
    · rw [List.cons_append, dropInner_cons hopen, hround, List.cons_append]
    · rcases hshorter with ⟨rfl, rfl⟩ | hlt
      · exact .inl ⟨rfl, rfl⟩
      · exact .inr (Nat.succ_lt_succ hlt)
  | @paren inner nested text outside hinner _ ihInner ih =>
    obtain ⟨text', hbalanced, hround, hshorter⟩ := ih
    have hle : text'.length ≤ text.length := by
      rcases hshorter with ⟨rfl, -⟩ | hlt
      · exact Nat.le_refl _
      · exact Nat.le_of_lt hlt
    have hassoc (rest : List Char) : '(' :: (inner ++ ')' :: text) ++ rest =
        '(' :: (inner ++ ')' :: (text ++ rest)) := by
      simp
    -- Without parentheses inside, the pair is an innermost one; else the round goes on inside it.
    rcases hinner.eq_or_opens with rfl | ⟨lead, more, rfl, hlead⟩
    · refine ⟨text', hbalanced, fun rest => ?_, .inr ?_⟩
      · rw [hassoc, dropInner_pair hinner.outside_plain, hround]
      · simp only [List.length_cons, List.length_append]
        omega
    · obtain ⟨inner', hbalanced', hround', hshorter'⟩ := ihInner
      refine ⟨'(' :: (inner' ++ ')' :: text'), .paren hbalanced' hbalanced, fun rest => ?_,
        .inr ?_⟩
      · have hinnerRound := hround' (')' :: (text ++ rest))
        rw [dropInner_cons (by decide), hround] at hinnerRound
        rw [hassoc, List.append_assoc, List.cons_append, dropInner_outer hlead,
          ← List.cons_append, ← List.append_assoc, hinnerRound]
        simp
      · rcases hshorter' with ⟨-, rfl⟩ | hlt
        · exact absurd rfl (hinner.outside_plain '(' (by simp)).1
        · simp only [List.length_cons, List.length_append] at hlt ⊢
          omega

theorem dropParensFor_eq (h : Balanced text outside) {rounds : Nat}
    (hrounds : text.length ≤ rounds) : dropParensFor rounds text = outside := by
  induction rounds generalizing text with
  | zero =>
    cases List.eq_nil_of_length_eq_zero (Nat.le_zero.1 hrounds)
    cases h
    rfl
  | succ rounds ih =>
    obtain ⟨text', hbalanced, hround, hshorter⟩ := h.round
    have hnext : innerParens.replaceAll (fun _ => []) text = text' := by
      have hwhole := hround []
      rwa [List.append_nil, dropInner_nil, List.append_nil] at hwhole
    rw [dropParensFor, hnext]
    rcases hshorter with ⟨rfl, rfl⟩ | hlt
    · exact if_pos rfl
    · rw [if_neg fun hsame => Nat.ne_of_lt hlt (congrArg List.length hsame)]
      exact ih hbalanced (by omega)

/-- What is left is what stands outside of all parentheses. -/
theorem dropParens_eq (h : Balanced text outside) : dropParens text = outside :=
  h.dropParensFor_eq (Nat.le_refl _)

end Balanced

end DrawPass.Shader
