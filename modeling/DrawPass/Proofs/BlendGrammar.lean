/-
DrawPass/Proofs/BlendGrammar.lean

What blend specs there are, and what they mean.

`Denotes` is the grammar: a term of either side, a sum or a difference of two terms, or
the smaller or the larger of two, where a term is a letter with or without one of the
factors.  Reading a spec accepts exactly this (`parse_spec_iff`), although it never
looks at the grammar: it searches the text for terms and compares what is left with a few
fixed shapes.

In between stands `Cut`, which says without a search how a text falls into terms and
single characters.  There is exactly one way (`cut_iff`), and the shape of a text decides
how many terms it has and where (`Cut.literal`, `Cut.letter`).
-/
import DrawPass.Blend.Spec
import Mathlib.Data.List.TakeWhile

namespace DrawPass.Blend

open Text

variable {text rest token : List Char} {segs : List (Segment Term)} {side : Side}

/-! ### The grammar -/

/-- A term of a side and its weight: the letter alone weighs one. -/
inductive Weighted (side : Side) : List Char → Factor → Prop where
  | bare : Weighted side [side.letter] .one
  | times (f : Factor) : Weighted side (side.letter :: '*' :: f.token) f

/-- The texts without blanks that ask for blending, and the equation that each stands for. A side
that does not occur weighs nothing. -/
inductive Denotes : List Char → State → Prop where
  | src {S : List Char} {f : Factor} (hS : Weighted .src S f) : Denotes S ⟨f, .zero, .add⟩
  | dst {D : List Char} {g : Factor} (hD : Weighted .dst D g) : Denotes D ⟨.zero, g, .add⟩
  | sum {S D : List Char} {f g : Factor} (hS : Weighted .src S f) (hD : Weighted .dst D g) :
      Denotes (S ++ '+' :: D) ⟨f, g, .add⟩
  | sumReversed {S D : List Char} {f g : Factor} (hS : Weighted .src S f)
      (hD : Weighted .dst D g) : Denotes (D ++ '+' :: S) ⟨f, g, .add⟩
  | difference {S D : List Char} {f g : Factor} (hS : Weighted .src S f)
      (hD : Weighted .dst D g) : Denotes (S ++ '-' :: D) ⟨f, g, .subtract⟩
  | differenceReversed {S D : List Char} {f g : Factor} (hS : Weighted .src S f)
      (hD : Weighted .dst D g) : Denotes (D ++ '-' :: S) ⟨f, g, .reverseSubtract⟩
  | min {S D : List Char} {f g : Factor} (hS : Weighted .src S f) (hD : Weighted .dst D g) :
      Denotes ("min(".toList ++ (S ++ ',' :: (D ++ [')']))) ⟨f, g, .min⟩
  | minReversed {S D : List Char} {f g : Factor} (hS : Weighted .src S f)
      (hD : Weighted .dst D g) : Denotes ("min(".toList ++ (D ++ ',' :: (S ++ [')']))) ⟨f, g, .min⟩
  | max {S D : List Char} {f g : Factor} (hS : Weighted .src S f) (hD : Weighted .dst D g) :
      Denotes ("max(".toList ++ (S ++ ',' :: (D ++ [')']))) ⟨f, g, .max⟩
  | maxReversed {S D : List Char} {f g : Factor} (hS : Weighted .src S f)
      (hD : Weighted .dst D g) : Denotes ("max(".toList ++ (D ++ ',' :: (S ++ [')']))) ⟨f, g, .max⟩

/-! ### How a text falls into terms -/

/-- A text that may follow a star as a factor, with what follows it: a word, as far as it goes, or
a word taken from one. -/
inductive IsToken : List Char → List Char → Prop where
  | word {w rest : List Char} (hne : w ≠ []) (hw : ∀ c ∈ w, isWord c = true)
      (hend : ∀ c ∈ rest.head?, isWord c = false) : IsToken w rest
  | complement {w rest : List Char} (hne : w ≠ []) (hw : ∀ c ∈ w, isWord c = true) :
      IsToken ('(' :: '1' :: '-' :: (w ++ [')'])) rest

/-- How a text falls into terms and the characters between them. Every `s` and every `d` that is
not part of a factor begins a term, and a term has a factor whenever one follows. -/
inductive Cut : List Char → List (Segment Term) → Prop where
  | nil : Cut [] []
  | plain {c : Char} {text : List Char} {segs : List (Segment Term)} (hs : c ≠ 's') (hd : c ≠ 'd')
      (h : Cut text segs) : Cut (c :: text) (.plain c :: segs)
  | bare {side : Side} {text : List Char} {segs : List (Segment Term)}
      (hnone : ∀ token rest, IsToken token rest → text ≠ '*' :: (token ++ rest))
      (h : Cut text segs) : Cut (side.letter :: text) (.found ⟨side, none⟩ :: segs)
  | weighted {side : Side} {token rest : List Char} {segs : List (Segment Term)}
      (htoken : IsToken token rest) (h : Cut rest segs) :
      Cut (side.letter :: '*' :: (token ++ rest)) (.found ⟨side, some token⟩ :: segs)

theorem takeWhile_append_of_all {p : Char → Bool} {w rest : List Char}
    (hw : ∀ c ∈ w, p c = true) (hend : ∀ c ∈ rest.head?, p c = false) :
    (w ++ rest).takeWhile p = w ∧ (w ++ rest).dropWhile p = rest := by
  rw [List.takeWhile_append_of_pos hw, List.dropWhile_append_of_pos hw]
  cases rest with
  | nil => simp
  | cons c rest => simp [hend c rfl]

theorem factorToken?_of_isToken (h : IsToken token rest) :
    factorToken? (token ++ rest) = some (token, rest) := by
  cases h with
  | word hne hw hend =>
    obtain ⟨htake, hdrop⟩ := takeWhile_append_of_all hw hend
    obtain ⟨c, w, rfl⟩ := List.exists_cons_of_ne_nil hne
    simp only [factorToken?, htake, hdrop]
  | @complement w _ hne hw =>
    have hparen : isWord '(' = false := by decide
    have hclose : ∀ c ∈ (')' :: rest).head?, isWord c = false := by
      intro c hc
      cases hc
      decide
    obtain ⟨htake, hdrop⟩ := takeWhile_append_of_all hw hclose
    obtain ⟨c, w, rfl⟩ := List.exists_cons_of_ne_nil hne
    have hassoc : '(' :: '1' :: '-' :: (c :: w ++ [')']) ++ rest =
        '(' :: '1' :: '-' :: (c :: w ++ ')' :: rest) := by simp
    rw [hassoc]
    simp only [factorToken?, List.takeWhile_cons, hparen, htake, hdrop]
    rfl

theorem isToken_of_factorToken? (h : factorToken? text = some (token, rest)) :
    IsToken token rest ∧ text = token ++ rest := by
  have hword (cs : List Char) : ∀ c ∈ cs.takeWhile isWord, isWord c = true :=
    fun c hc => List.mem_takeWhile_imp hc
  unfold factorToken? at h
  split at h
  · rename_i c w htake
    cases h
    refine ⟨.word (List.cons_ne_nil _ _) (htake ▸ hword text) fun c hc => ?_, ?_⟩
    · exact Bool.eq_false_iff.2 fun hc' => by
        have := List.head?_dropWhile_not isWord text
        rw [Option.mem_def.1 hc] at this
        simp [hc'] at this
    · rw [← htake, List.takeWhile_append_dropWhile]
  · split at h
    · rename_i cs _
      split at h
      · rename_i c w rest' htake hdrop
        cases h
        refine ⟨.complement (List.cons_ne_nil _ _) (htake ▸ hword cs), ?_⟩
        have hcs : cs = (c :: w) ++ ')' :: rest := by
          rw [← htake, ← hdrop, List.takeWhile_append_dropWhile]
        simp [hcs]
      · cases h
    · cases h

/-- A term has the factor that follows its letter. -/
theorem factorAfter_of_isToken (h : IsToken token rest) :
    factorAfter ('*' :: (token ++ rest)) = (some token, rest) := by
  simp only [factorAfter, factorToken?_of_isToken h]

theorem factorAfter_of_forall_ne
    (h : ∀ token rest, IsToken token rest → text ≠ '*' :: (token ++ rest)) :
    factorAfter text = (none, text) := by
  unfold factorAfter
  split
  · split
    · rename_i htoken
      obtain ⟨hs, rfl⟩ := isToken_of_factorToken? htoken
      exact absurd rfl (h _ _ hs)
    · rfl
  · rfl

theorem segments_letter (side : Side) (before : Option Char) (text : List Char) :
    ∃ before', term.segments before (side.letter :: text) =
      .found ⟨side, (factorAfter text).1⟩ :: term.segments before' (factorAfter text).2 := by
  cases side <;> exact ⟨_, by rw [Pattern.segments]; rfl⟩

theorem segments_plain {c : Char} (hs : c ≠ 's') (hd : c ≠ 'd') (before : Option Char)
    (text : List Char) :
    term.segments before (c :: text) = .plain c :: term.segments (some c) text := by
  rw [Pattern.segments]
  simp [term, hs, hd]

/-- Searching a text for terms cuts it. -/
theorem cut_segments (before : Option Char) (text : List Char) :
    Cut text (term.segments before text) := by
  match text with
  | [] =>
    rw [Pattern.segments]
    exact .nil
  | c :: text =>
    by_cases hletter : ∃ side : Side, side.letter = c
    · obtain ⟨side, rfl⟩ := hletter
      obtain ⟨before', hsegs⟩ := segments_letter side before text
      rw [hsegs]
      by_cases htoken : ∃ token rest, IsToken token rest ∧ text = '*' :: (token ++ rest)
      · obtain ⟨token, rest, htoken, heq⟩ := htoken
        have hlt : rest.length < (side.letter :: text).length := by simp +arith [heq]
        rw [heq, factorAfter_of_isToken htoken]
        exact .weighted htoken (cut_segments before' rest)
      · have hnone : ∀ token rest, IsToken token rest → text ≠ '*' :: (token ++ rest) :=
          fun token rest h heq => htoken ⟨token, rest, h, heq⟩
        rw [factorAfter_of_forall_ne hnone]
        exact .bare hnone (cut_segments before' text)
    · have hs : c ≠ 's' := fun h => hletter ⟨.src, h.symm⟩
      have hd : c ≠ 'd' := fun h => hletter ⟨.dst, h.symm⟩
      rw [segments_plain hs hd]
      exact .plain hs hd (cut_segments (some c) text)
termination_by text.length
decreasing_by all_goals first | assumption | simp

/-- There is only one way to cut a text. -/
theorem Cut.segments_eq (h : Cut text segs) (before : Option Char) :
    term.segments before text = segs := by
  induction h generalizing before with
  | nil => rw [Pattern.segments]
  | plain hs hd _ ih => rw [segments_plain hs hd, ih]
  | @bare side text _ hnone _ ih =>
    obtain ⟨before', hsegs⟩ := segments_letter side before text
    rw [hsegs, factorAfter_of_forall_ne hnone, ih]
  | @weighted side token rest _ htoken _ ih =>
    obtain ⟨before', hsegs⟩ := segments_letter side before ('*' :: (token ++ rest))
    rw [hsegs, factorAfter_of_isToken htoken, ih]

theorem cut_iff : Cut text segs ↔ term.segments none text = segs := by
  constructor
  · exact fun h => h.segments_eq none
  · rintro rfl
    exact cut_segments none text

/-! ### Terms and shapes -/

/-- The terms of a text that has been cut. -/
def termsOf (segs : List (Segment Term)) : List Term :=
  segs.filterMap fun
    | .plain _ => none
    | .found t => some t

/-- The text that is left when every term is reduced to its letter. -/
def shapeOf (segs : List (Segment Term)) : List Char :=
  segs.flatMap fun
    | .plain c => [c]
    | .found t => [t.side.letter]

/-- How a term is written. -/
def Term.written (t : Term) : List Char :=
  match t.factor with
  | none => [t.side.letter]
  | some token => t.side.letter :: '*' :: token

theorem Side.letter_inj {side side' : Side} (h : side.letter = side'.letter) : side = side' := by
  cases side <;> cases side' <;> first | rfl | exact absurd h (by decide)

theorem Side.ne_letter {c : Char} (hs : c ≠ 's') (hd : c ≠ 'd') (side : Side) : c ≠ side.letter := by
  cases side
  · exact hs
  · exact hd

/-- Where the shape has other characters, so has the text. -/
theorem Cut.literal {w cs : List Char} (hw : ∀ c ∈ w, c ≠ 's' ∧ c ≠ 'd') (h : Cut text segs)
    (hshape : shapeOf segs = w ++ cs) :
    ∃ rest segs', text = w ++ rest ∧ Cut rest segs' ∧ shapeOf segs' = cs ∧
      termsOf segs = termsOf segs' := by
  induction w generalizing text segs with
  | nil => exact ⟨text, segs, rfl, h, hshape, rfl⟩
  | cons c w ih =>
    obtain ⟨⟨hs, hd⟩, hw'⟩ := List.forall_mem_cons.1 hw
    cases h with
    | nil => cases hshape
    | plain _ _ h =>
      obtain ⟨rfl, hshape'⟩ := List.cons.inj hshape
      obtain ⟨rest, segs', rfl, hrest⟩ := ih hw' h hshape'
      exact ⟨rest, segs', rfl, hrest⟩
    | bare _ _ => exact absurd (List.cons.inj hshape).1.symm (Side.ne_letter hs hd _)
    | weighted _ _ => exact absurd (List.cons.inj hshape).1.symm (Side.ne_letter hs hd _)

/-- Where the shape has a letter, the text has a term. -/
theorem Cut.letter {cs : List Char} (h : Cut text segs) (hshape : shapeOf segs = side.letter :: cs) :
    ∃ t rest segs', t.side = side ∧ text = t.written ++ rest ∧ Cut rest segs' ∧ shapeOf segs' = cs ∧
      termsOf segs = t :: termsOf segs' := by
  cases h with
  | nil => cases hshape
  | plain hs hd _ => exact absurd (List.cons.inj hshape).1 (Side.ne_letter hs hd _)
  | @bare side' text segs _ h =>
    obtain ⟨hletter, hshape'⟩ := List.cons.inj hshape
    exact ⟨⟨side', none⟩, text, segs, Side.letter_inj hletter, rfl, h, hshape', rfl⟩
  | @weighted side' token rest segs _ h =>
    obtain ⟨hletter, hshape'⟩ := List.cons.inj hshape
    exact ⟨⟨side', some token⟩, rest, segs, Side.letter_inj hletter, rfl, h, hshape', rfl⟩

theorem Cut.eq_nil (h : Cut text segs) (hshape : shapeOf segs = []) :
    text = [] ∧ termsOf segs = [] := by
  cases h with
  | nil => exact ⟨rfl, rfl⟩
  | plain | bare | weighted => cases hshape

/-- A text whose shape has one letter. -/
theorem Cut.one (h : Cut text segs) (hshape : shapeOf segs = [side.letter]) :
    ∃ t, t.side = side ∧ text = t.written ∧ termsOf segs = [t] := by
  obtain ⟨t, rest, segs', hside, rfl, hrest, hshape, hterms⟩ := h.letter hshape
  obtain ⟨rfl, hnone⟩ := hrest.eq_nil hshape
  exact ⟨t, hside, List.append_nil _, by rw [hterms, hnone]⟩

/-- A text whose shape has two letters, with what stands before, between and after them. -/
theorem Cut.two {side' : Side} {before between after : List Char}
    (hbefore : ∀ c ∈ before, c ≠ 's' ∧ c ≠ 'd') (hbetween : ∀ c ∈ between, c ≠ 's' ∧ c ≠ 'd')
    (hafter : ∀ c ∈ after, c ≠ 's' ∧ c ≠ 'd') (h : Cut text segs)
    (hshape : shapeOf segs = before ++ side.letter :: (between ++ side'.letter :: after)) :
    ∃ t u, t.side = side ∧ u.side = side' ∧
      text = before ++ (t.written ++ (between ++ (u.written ++ after))) ∧ termsOf segs = [t, u] := by
  obtain ⟨text₁, segs₁, rfl, h₁, hshape₁, hterms⟩ := h.literal hbefore hshape
  obtain ⟨t, text₂, segs₂, ht, rfl, h₂, hshape₂, hterms₁⟩ := h₁.letter hshape₁
  obtain ⟨text₃, segs₃, rfl, h₃, hshape₃, hterms₂⟩ := h₂.literal hbetween hshape₂
  obtain ⟨u, text₄, segs₄, hu, rfl, h₄, hshape₄, hterms₃⟩ := h₃.letter hshape₃
  obtain ⟨text₅, segs₅, rfl, h₅, hshape₅, hterms₄⟩ :=
    h₄.literal hafter (hshape₄.trans (List.append_nil after).symm)
  obtain ⟨rfl, hnone⟩ := h₅.eq_nil hshape₅
  refine ⟨t, u, ht, hu, by rw [List.append_nil], ?_⟩
  rw [hterms, hterms₁, hterms₂, hterms₃, hterms₄, hnone]

/-! ### Texts of the grammar are cut as they are written -/

/-- Nothing that could be part of a word follows. -/
def EndsWord (rest : List Char) : Prop := ∀ c ∈ rest.head?, isWord c = false

/-- The token of a factor is read as a whole. -/
theorem isToken_token (f : Factor) (hend : EndsWord rest) : IsToken f.token rest := by
  have word (w : List Char) (hne : w ≠ []) (hw : w.all isWord = true) : IsToken w rest :=
    .word hne (List.all_eq_true.1 hw) hend
  have complement (w : List Char) (hne : w ≠ []) (hw : w.all isWord = true) :
      IsToken ('(' :: '1' :: '-' :: (w ++ [')'])) rest := .complement hne (List.all_eq_true.1 hw)
  cases f with
  | zero | one | srcColor | dstColor | srcAlpha | dstAlpha | constantColor | constantAlpha =>
    exact word _ (by decide) (by decide)
  | oneMinusSrcColor => exact complement ['s'] (by decide) (by decide)
  | oneMinusDstColor => exact complement ['d'] (by decide) (by decide)
  | oneMinusSrcAlpha => exact complement ['s', 'a'] (by decide) (by decide)
  | oneMinusDstAlpha => exact complement ['d', 'a'] (by decide) (by decide)
  | oneMinusConstantColor => exact complement ['c'] (by decide) (by decide)
  | oneMinusConstantAlpha => exact complement ['c', 'a'] (by decide) (by decide)

theorem ofToken?_token (f : Factor) : Factor.ofToken? f.token = some f := by
  cases f <;> decide

theorem ofToken?_eq_some {f : Factor} (h : Factor.ofToken? token = some f) : f.token = token :=
  beq_iff_eq.1 (List.find?_some (p := fun f : Factor => f.token == token) h)

/-- A weighted term stands at the head of a text as one segment. -/
theorem Weighted.cut {S : List Char} {f : Factor} (hS : Weighted side S f) (h : Cut rest segs)
    (hend : EndsWord rest) (hstar : rest.head? ≠ some '*') :
    ∃ t : Term, t.side = side ∧ t.weight = .ok f ∧ Cut (S ++ rest) (.found t :: segs) := by
  cases hS with
  | bare =>
    refine ⟨⟨side, none⟩, rfl, rfl, .bare (fun token rest' _ heq => hstar ?_) h⟩
    exact congrArg List.head? heq
  | times =>
    refine ⟨⟨side, some f.token⟩, rfl, ?_, .weighted (isToken_token f hend) h⟩
    simp only [Term.weight, ofToken?_token]

/-- Other characters stand for themselves. -/
theorem Cut.prepend {w : List Char} (hw : ∀ c ∈ w, c ≠ 's' ∧ c ≠ 'd') (h : Cut rest segs) :
    Cut (w ++ rest) (w.map .plain ++ segs) := by
  induction w with
  | nil => exact h
  | cons c w ih =>
    obtain ⟨⟨hs, hd⟩, hw⟩ := List.forall_mem_cons.1 hw
    exact .plain hs hd (ih hw)

theorem Term.weighted {t : Term} {f : Factor} (h : t.weight = .ok f) :
    Weighted t.side t.written f := by
  obtain ⟨side, factor⟩ := t
  cases factor with
  | none =>
    cases h
    exact .bare
  | some token =>
    simp only [Term.weight] at h
    split at h
    · rename_i hf
      cases h
      obtain rfl := ofToken?_eq_some hf
      exact .times _
    · cases h

/-! ### Shapes and weights -/

/-- The shapes of an operation. -/
def shapes : Op → List (List Char)
  | .min => ["min(s,d)".toList, "min(d,s)".toList]
  | .max => ["max(s,d)".toList, "max(d,s)".toList]
  | .add => [['s'], ['d'], ['s', '+', 'd'], ['d', '+', 's']]
  | .subtract => [['s', '-', 'd']]
  | .reverseSubtract => [['d', '-', 's']]

theorem opOfShape?_eq_some {shape : List Char} {op : Op} :
    opOfShape? (String.ofList shape) = some op ↔ shape ∈ shapes op := by
  have hlist (text : String) : String.ofList shape = text ↔ shape = text.toList := by
    constructor
    · rintro rfl
      simp
    · rintro rfl
      simp
  simp only [opOfShape?, hlist]
  constructor
  -- The tests come one after another, each for the shapes of one operation.
  · intro h
    split at h
    · cases h
      simpa [shapes] using ‹_›
    · split at h
      · cases h
        simpa [shapes] using ‹_›
      · split at h
        · cases h
          simpa [shapes] using ‹_›
        · split at h
          · cases h
            simpa [shapes] using ‹_›
          · split at h
            · cases h
              simpa [shapes] using ‹_›
            · cases h
  · intro h
    cases op <;> simp only [shapes, List.mem_cons, List.not_mem_nil, or_false] at h
    case add => rcases h with rfl | rfl | rfl | rfl <;> decide
    case subtract => subst h; decide
    case reverseSubtract => subst h; decide
    case min => rcases h with rfl | rfl <;> decide
    case max => rcases h with rfl | rfl <;> decide

/-- The weights are refused for the first term that has no weight. -/
theorem weights_eq_error {ts : List Term} {w : Factor × Factor} :
    weights ts w = .error token ↔ ∃ before t after, ts = before ++ t :: after ∧
      (∀ u ∈ before, ∃ f, u.weight = .ok f) ∧ t.weight = .error token := by
  induction ts generalizing w with
  | nil =>
    constructor
    · intro h
      cases h
    · rintro ⟨before, t, after, h, -⟩
      cases before <;> cases h
  | cons t ts ih =>
    -- What has been weighed so far does not matter to what is refused.
    have hcons : weights (t :: ts) w = .error token ↔ t.weight = .error token ∨
        ∃ f w', t.weight = .ok f ∧ weights ts w' = .error token := by
      rcases ht : t.weight with bad | f
      · simp [weights, ht]
      · have := Nonempty.intro f
        cases hside : t.side <;> simp [weights, ht, hside, ih]
    rw [hcons]
    constructor
    · rintro (ht | ⟨f, w', ht, hts⟩)
      · exact ⟨[], t, ts, rfl, nofun, ht⟩
      · obtain ⟨before, u, after, rfl, hbefore, hu⟩ := ih.1 hts
        exact ⟨t :: before, u, after, rfl, List.forall_mem_cons.2 ⟨⟨f, ht⟩, hbefore⟩, hu⟩
    · rintro ⟨before, u, after, heq, hbefore, hu⟩
      cases before with
      | nil =>
        cases heq
        exact .inl hu
      | cons _ before =>
        cases heq
        obtain ⟨⟨f, ht⟩, hbefore⟩ := List.forall_mem_cons.1 hbefore
        exact .inr ⟨f, w, ht, ih.2 ⟨before, u, after, rfl, hbefore, hu⟩⟩

/-- The weights of two terms, by the side of the first. -/
def pairWeights (side : Side) (f g : Factor) : Factor × Factor :=
  match side with
  | .src => (f, g)
  | .dst => (g, f)

theorem weights_pair {t u : Term} {w : Factor × Factor} (hne : t.side ≠ u.side) :
    weights [t, u] (.zero, .zero) = .ok w ↔
      ∃ f g, t.weight = .ok f ∧ u.weight = .ok g ∧ w = pairWeights t.side f g := by
  rcases ht : t.weight with bad | f
  · simp [weights, ht]
  · rcases hu : u.weight with bad | g
    · cases hside : t.side <;> simp [weights, ht, hu, hside]
    · cases hside : t.side <;> cases hside' : u.side <;>
        simp [weights, ht, hu, hside, hside', pairWeights, eq_comm] at hne ⊢

theorem weights_single {t : Term} {w : Factor × Factor} :
    weights [t] (.zero, .zero) = .ok w ↔ ∃ f, t.weight = .ok f ∧ w = pairWeights t.side f .zero := by
  rcases ht : t.weight with bad | f
  · simp [weights, ht]
  · cases hside : t.side <;> simp [weights, ht, hside, pairWeights, eq_comm]

/-! ### What reading a spec gives -/

/-- The text of a spec without blanks. -/
def compact (spec : String) : List Char := spec.toList.filter fun c => !isBlank c

theorem parse_of_nil {spec : String} (h : compact spec = []) : parse spec = .ok none := by
  unfold compact at h
  simp only [parse, h, List.isEmpty_nil, if_true]

theorem parse_of_cut {spec : String} (hne : compact spec ≠ []) (h : Cut (compact spec) segs) :
    parse spec =
      match weights (termsOf segs) (.zero, .zero) with
      | .error token => .error (.unknownFactor spec (String.ofList token))
      | .ok (src, dst) =>
        match opOfShape? (String.ofList (shapeOf segs)) with
        | some op => .ok (some ⟨src, dst, op⟩)
        | none => .error (.unrecognizedPattern spec) := by
  have hterms : term.findAll (compact spec) = termsOf segs := by
    rw [Pattern.findAll, cut_iff.1 h, termsOf]
    congr 1
    funext seg
    cases seg <;> rfl
  have hshape : term.replaceAll (fun t => [t.side.letter]) (compact spec) = shapeOf segs := by
    rw [Pattern.replaceAll, cut_iff.1 h, shapeOf]
    congr 1
    funext seg
    cases seg <;> rfl
  have hempty : (compact spec).isEmpty = false := by simpa using hne
  rw [← hterms, ← hshape]
  unfold compact at hempty ⊢
  simp only [parse, hempty]
  rfl

/-! ### Specs of the grammar are read as it says -/

/-- Nothing that could belong to a term follows. -/
def EndsTerm (rest : List Char) : Prop := EndsWord rest ∧ rest.head? ≠ some '*'

theorem endsTerm_cons {c : Char} (h : isWord c = false) (hstar : c ≠ '*') (rest : List Char) :
    EndsTerm (c :: rest) := by
  refine ⟨fun c' hc' => ?_, fun heq => hstar (Option.some.inj heq)⟩
  cases hc'
  exact h

theorem endsTerm_nil : EndsTerm [] := ⟨nofun, nofun⟩

@[simp] theorem shapeOf_found (t : Term) (segs : List (Segment Term)) :
    shapeOf (.found t :: segs) = t.side.letter :: shapeOf segs := rfl

@[simp] theorem termsOf_found (t : Term) (segs : List (Segment Term)) :
    termsOf (.found t :: segs) = t :: termsOf segs := rfl

@[simp] theorem shapeOf_plain_append (w : List Char) (segs : List (Segment Term)) :
    shapeOf (w.map .plain ++ segs) = w ++ shapeOf segs := by
  induction w with
  | nil => rfl
  | cons c w ih => exact congrArg (List.cons c) ih

@[simp] theorem termsOf_plain_append (w : List Char) (segs : List (Segment Term)) :
    termsOf (w.map .plain ++ segs) = termsOf segs := by
  induction w with
  | nil => rfl
  | cons c w ih => exact ih

/-- How a text of the grammar is read: its shape, and its weights. -/
def Reads (text shape : List Char) (w : Factor × Factor) : Prop :=
  ∃ segs, Cut text segs ∧ shapeOf segs = shape ∧ weights (termsOf segs) (.zero, .zero) = .ok w

theorem Weighted.reads {T : List Char} {f : Factor} (hT : Weighted side T f) :
    Reads T [side.letter] (pairWeights side f .zero) := by
  obtain ⟨t, rfl, hf, hcut⟩ := hT.cut .nil endsTerm_nil.1 endsTerm_nil.2
  rw [List.append_nil] at hcut
  exact ⟨_, hcut, rfl, weights_single.2 ⟨f, hf, rfl⟩⟩

theorem Weighted.reads_pair {side' : Side} {T U before after : List Char} {between : Char}
    {f g : Factor} (hT : Weighted side T f) (hU : Weighted side' U g) (hne : side ≠ side')
    (hbefore : ∀ c ∈ before, c ≠ 's' ∧ c ≠ 'd') (hafter : ∀ c ∈ after, c ≠ 's' ∧ c ≠ 'd')
    (hbetween : between ≠ 's' ∧ between ≠ 'd') (hends : ∀ rest, EndsTerm (between :: rest))
    (hlast : EndsTerm after) :
    Reads (before ++ (T ++ between :: (U ++ after)))
      (before ++ side.letter :: between :: side'.letter :: after) (pairWeights side f g) := by
  have hrest : Cut (after ++ []) (after.map .plain ++ []) := Cut.prepend hafter .nil
  simp only [List.append_nil] at hrest
  obtain ⟨u, rfl, hg, hu⟩ := hU.cut hrest hlast.1 hlast.2
  obtain ⟨t, rfl, hf, ht⟩ := hT.cut (.plain hbetween.1 hbetween.2 hu) (hends _).1 (hends _).2
  refine ⟨_, Cut.prepend hbefore ht, ?_, ?_⟩
  · have hshape : shapeOf (after.map .plain) = after := by
      simpa [shapeOf] using shapeOf_plain_append after []
    have hplain (segs : List (Segment Term)) :
        shapeOf (.plain between :: segs) = between :: shapeOf segs := rfl
    simp only [shapeOf_plain_append, shapeOf_found, hplain, hshape]
  · have hterms : termsOf (after.map .plain) = [] := by
      simp [termsOf]
    have hplain (segs : List (Segment Term)) :
        termsOf (.plain between :: segs) = termsOf segs := rfl
    simp only [termsOf_plain_append, termsOf_found, hplain, hterms]
    exact (weights_pair hne).2 ⟨f, g, hf, hg, rfl⟩

theorem Weighted.reads_infix {side' : Side} {T U : List Char} {between : Char} {f g : Factor}
    (hT : Weighted side T f) (hU : Weighted side' U g) (hne : side ≠ side')
    (hbetween : between ≠ 's' ∧ between ≠ 'd') (hends : ∀ rest, EndsTerm (between :: rest)) :
    Reads (T ++ between :: U) [side.letter, between, side'.letter] (pairWeights side f g) := by
  have h : Reads ([] ++ (T ++ between :: (U ++ [])))
      ([] ++ side.letter :: between :: side'.letter :: []) (pairWeights side f g) :=
    hT.reads_pair hU hne nofun nofun hbetween hends endsTerm_nil
  rwa [List.append_nil] at h

theorem Weighted.reads_call {side' : Side} {T U name : List Char} {f g : Factor}
    (hT : Weighted side T f) (hU : Weighted side' U g) (hne : side ≠ side')
    (hname : ∀ c ∈ name, c ≠ 's' ∧ c ≠ 'd') :
    Reads (name ++ (T ++ ',' :: (U ++ [')'])))
      (name ++ [side.letter, ',', side'.letter, ')']) (pairWeights side f g) :=
  hT.reads_pair hU hne hname (by simp) (by decide)
    (endsTerm_cons (by decide) (by decide)) (endsTerm_cons (by decide) (by decide) [])

/-- A text of the grammar has the shape and the weights of what it denotes. -/
theorem Denotes.reads {state : State} (h : Denotes text state) :
    ∃ shape ∈ shapes state.op, Reads text shape (state.src, state.dst) := by
  have plus : ∀ rest, EndsTerm ('+' :: rest) := endsTerm_cons (by decide) (by decide)
  have minus : ∀ rest, EndsTerm ('-' :: rest) := endsTerm_cons (by decide) (by decide)
  cases h with
  | src hS => exact ⟨['s'], by simp [shapes], hS.reads⟩
  | dst hD => exact ⟨['d'], by simp [shapes], hD.reads⟩
  | sum hS hD =>
    exact ⟨['s', '+', 'd'], by simp [shapes], hS.reads_infix hD nofun (by decide) plus⟩
  | sumReversed hS hD =>
    exact ⟨['d', '+', 's'], by simp [shapes], hD.reads_infix hS nofun (by decide) plus⟩
  | difference hS hD =>
    exact ⟨['s', '-', 'd'], by simp [shapes], hS.reads_infix hD nofun (by decide) minus⟩
  | differenceReversed hS hD =>
    exact ⟨['d', '-', 's'], by simp [shapes], hD.reads_infix hS nofun (by decide) minus⟩
  | min hS hD =>
    exact ⟨"min(s,d)".toList, by simp [shapes], hS.reads_call hD nofun (by simp)⟩
  | minReversed hS hD =>
    exact ⟨"min(d,s)".toList, by simp [shapes], hD.reads_call hS nofun (by simp)⟩
  | max hS hD =>
    exact ⟨"max(s,d)".toList, by simp [shapes], hS.reads_call hD nofun (by simp)⟩
  | maxReversed hS hD =>
    exact ⟨"max(d,s)".toList, by simp [shapes], hD.reads_call hS nofun (by simp)⟩

/-! ### Specs that are accepted are of the grammar -/

variable {w : Factor × Factor}

theorem Reads.one (h : Reads text [side.letter] w) :
    ∃ f, Weighted side text f ∧ w = pairWeights side f .zero := by
  obtain ⟨segs, hcut, hshape, hw⟩ := h
  obtain ⟨t, rfl, rfl, hterms⟩ := hcut.one hshape
  rw [hterms] at hw
  obtain ⟨f, hf, rfl⟩ := weights_single.1 hw
  exact ⟨f, t.weighted hf, rfl⟩

theorem Reads.two {side' : Side} {before between after : List Char}
    (h : Reads text (before ++ side.letter :: (between ++ side'.letter :: after)) w)
    (hne : side ≠ side') (hbefore : ∀ c ∈ before, c ≠ 's' ∧ c ≠ 'd')
    (hbetween : ∀ c ∈ between, c ≠ 's' ∧ c ≠ 'd') (hafter : ∀ c ∈ after, c ≠ 's' ∧ c ≠ 'd') :
    ∃ T U f g, Weighted side T f ∧ Weighted side' U g ∧ w = pairWeights side f g ∧
      text = before ++ (T ++ (between ++ (U ++ after))) := by
  obtain ⟨segs, hcut, hshape, hw⟩ := h
  obtain ⟨t, u, rfl, rfl, htext, hterms⟩ := hcut.two hbefore hbetween hafter hshape
  rw [hterms] at hw
  obtain ⟨f, g, hf, hg, rfl⟩ := (weights_pair hne).1 hw
  exact ⟨t.written, u.written, f, g, t.weighted hf, u.weighted hg, rfl, htext⟩

theorem Reads.infix {side' : Side} {between : Char}
    (h : Reads text [side.letter, between, side'.letter] w) (hne : side ≠ side')
    (hbetween : between ≠ 's' ∧ between ≠ 'd') :
    ∃ T U f g, Weighted side T f ∧ Weighted side' U g ∧ w = pairWeights side f g ∧
      text = T ++ between :: U := by
  have h' : Reads text ([] ++ side.letter :: ([between] ++ side'.letter :: [])) w := h
  obtain ⟨T, U, f, g, hT, hU, hw, rfl⟩ :=
    h'.two hne nofun (by simpa using hbetween) nofun
  exact ⟨T, U, f, g, hT, hU, hw, by rw [List.append_nil]; rfl⟩

theorem Reads.call {side' : Side} {name : List Char}
    (h : Reads text (name ++ [side.letter, ',', side'.letter, ')']) w) (hne : side ≠ side')
    (hname : ∀ c ∈ name, c ≠ 's' ∧ c ≠ 'd') :
    ∃ T U f g, Weighted side T f ∧ Weighted side' U g ∧ w = pairWeights side f g ∧
      text = name ++ (T ++ ',' :: (U ++ [')'])) := by
  have h' : Reads text (name ++ side.letter :: ([','] ++ side'.letter :: [')'])) w := h
  exact h'.two hne hname (by simp) (by simp)

/-- What has one of the shapes, and weights, is of the grammar. -/
theorem denotes_of_reads {op : Op} {shape : List Char} (hshape : shape ∈ shapes op)
    (h : Reads text shape w) : Denotes text ⟨w.1, w.2, op⟩ := by
  -- A shape with two letters, as one that a term of either side can be read off from.
  have both {side side' : Side} {between : Char}
      (h : Reads text [side.letter, between, side'.letter] w) (hne : side ≠ side')
      (hbetween : between ≠ 's' ∧ between ≠ 'd') := Reads.infix h hne hbetween
  have call {side side' : Side} {name : List Char}
      (h : Reads text (name ++ [side.letter, ',', side'.letter, ')']) w) (hne : side ≠ side')
      (hname : ∀ c ∈ name, c ≠ 's' ∧ c ≠ 'd') := Reads.call h hne hname
  cases op <;> simp only [shapes, List.mem_cons, List.not_mem_nil, or_false] at hshape
  case add =>
    rcases hshape with rfl | rfl | rfl | rfl
    · obtain ⟨f, hS, rfl⟩ : ∃ f, Weighted .src text f ∧ w = (f, .zero) := Reads.one h
      exact .src hS
    · obtain ⟨g, hD, rfl⟩ : ∃ g, Weighted .dst text g ∧ w = (.zero, g) := Reads.one h
      exact .dst hD
    · obtain ⟨_, _, _, _, hS, hD, rfl, rfl⟩ := @both .src .dst '+' h nofun (by decide)
      exact .sum hS hD
    · obtain ⟨_, _, _, _, hD, hS, rfl, rfl⟩ := @both .dst .src '+' h nofun (by decide)
      exact .sumReversed hS hD
  case subtract =>
    subst hshape
    obtain ⟨_, _, _, _, hS, hD, rfl, rfl⟩ := @both .src .dst '-' h nofun (by decide)
    exact .difference hS hD
  case reverseSubtract =>
    subst hshape
    obtain ⟨_, _, _, _, hD, hS, rfl, rfl⟩ := @both .dst .src '-' h nofun (by decide)
    exact .differenceReversed hS hD
  case min =>
    rcases hshape with rfl | rfl
    · obtain ⟨_, _, _, _, hS, hD, rfl, rfl⟩ := @call .src .dst "min(".toList h nofun (by simp)
      exact .min hS hD
    · obtain ⟨_, _, _, _, hD, hS, rfl, rfl⟩ := @call .dst .src "min(".toList h nofun (by simp)
      exact .minReversed hS hD
  case max =>
    rcases hshape with rfl | rfl
    · obtain ⟨_, _, _, _, hS, hD, rfl, rfl⟩ := @call .src .dst "max(".toList h nofun (by simp)
      exact .max hS hD
    · obtain ⟨_, _, _, _, hD, hS, rfl, rfl⟩ := @call .dst .src "max(".toList h nofun (by simp)
      exact .maxReversed hS hD

/-! ### Reading a spec -/

/-- Every term of a text is a bare letter or has one of the factors, up to one whose factor is
this token, which is none of them. -/
def FirstUnknown (text token : List Char) : Prop :=
  ∃ segs before t after, Cut text segs ∧ termsOf segs = before ++ t :: after ∧
    (∀ u ∈ before, ∀ known, u.factor = some known → ∃ f : Factor, f.token = known) ∧
    t.factor = some token ∧ ∀ f : Factor, f.token ≠ token

/-- Some term of a text has a factor that is none of the factors. -/
def HasUnknown (text : List Char) : Prop :=
  ∃ segs t token, Cut text segs ∧ t ∈ termsOf segs ∧ t.factor = some token ∧
    ∀ f : Factor, f.token ≠ token

theorem Term.weight_eq_error {t : Term} :
    t.weight = .error token ↔ t.factor = some token ∧ ∀ f : Factor, f.token ≠ token := by
  rcases hfactor : t.factor with - | known
  · simp [Term.weight, hfactor]
  · rcases hf : Factor.ofToken? known with - | f
    · have hnone (f : Factor) : f.token ≠ known := by
        rintro rfl
        rw [ofToken?_token] at hf
        cases hf
      simp only [Term.weight, hfactor, hf, Except.error.injEq, Option.some.injEq]
      exact ⟨fun h => ⟨h, h ▸ hnone⟩, And.left⟩
    · obtain rfl := ofToken?_eq_some hf
      simp only [Term.weight, hfactor, hf, Option.some.injEq, reduceCtorEq, false_iff, not_and]
      rintro rfl h
      exact h f rfl

theorem Term.weight_eq_ok {t : Term} :
    (∃ f, t.weight = .ok f) ↔
      ∀ known, t.factor = some known → ∃ f : Factor, f.token = known := by
  rcases ht : t.weight with token | f
  · obtain ⟨hfactor, hnone⟩ := Term.weight_eq_error.1 ht
    refine iff_of_false nofun fun h => ?_
    obtain ⟨f, hf⟩ := h token hfactor
    exact hnone f hf
  · refine iff_of_true ⟨f, rfl⟩ fun known hknown => ?_
    by_contra hnone
    rw [not_exists] at hnone
    rw [Term.weight_eq_error.2 ⟨hknown, hnone⟩] at ht
    cases ht

theorem firstUnknown_iff (h : Cut text segs) :
    FirstUnknown text token ↔ weights (termsOf segs) (.zero, .zero) = .error token := by
  rw [weights_eq_error]
  constructor
  · rintro ⟨segs', before, t, after, hcut, hterms, hbefore, ht⟩
    obtain rfl : segs = segs' := (cut_iff.1 h).symm.trans (cut_iff.1 hcut)
    exact ⟨before, t, after, hterms, fun u hu => Term.weight_eq_ok.2 (hbefore u hu),
      Term.weight_eq_error.2 ht⟩
  · rintro ⟨before, t, after, hterms, hbefore, ht⟩
    exact ⟨segs, before, t, after, h, hterms, fun u hu => Term.weight_eq_ok.1 (hbefore u hu),
      Term.weight_eq_error.1 ht⟩

/-- If there are weights, every term has one. -/
theorem weight_of_mem {ts : List Term} {w w' : Factor × Factor} (h : weights ts w = .ok w')
    {t : Term} (ht : t ∈ ts) : ∃ f, t.weight = .ok f := by
  obtain ⟨before, after, rfl⟩ := List.append_of_mem ht
  induction before generalizing w with
  | nil =>
    rcases hweight : t.weight with token | f
    · simp [weights, hweight] at h
    · exact ⟨f, rfl⟩
  | cons u before ih =>
    rcases hweight : u.weight with token | f
    · simp [weights, hweight] at h
    · cases hside : u.side <;> simp only [List.cons_append, weights, hweight, hside] at h <;>
        exact ih h (by simp)

/-- If some factor is unknown, one is the first. -/
theorem hasUnknown_iff : HasUnknown text ↔ ∃ token, FirstUnknown text token := by
  constructor
  · rintro ⟨segs, t, token, hcut, ht, hfactor⟩
    rcases hweights : weights (termsOf segs) (.zero, .zero) with first | w
    · exact ⟨first, (firstUnknown_iff hcut).2 hweights⟩
    · obtain ⟨f, hf⟩ := weight_of_mem hweights ht
      rw [Term.weight_eq_error.2 hfactor] at hf
      cases hf
  · rintro ⟨token, segs, before, t, after, hcut, hterms, -, ht⟩
    exact ⟨segs, t, token, hcut, hterms ▸ by simp, ht⟩

/-- What a text denotes can be read off from its terms and its shape. -/
theorem denotes_iff {state : State} (h : Cut text segs) :
    Denotes text state ↔ weights (termsOf segs) (.zero, .zero) = .ok (state.src, state.dst) ∧
      shapeOf segs ∈ shapes state.op := by
  constructor
  · intro hdenotes
    obtain ⟨shape, hshape, segs', hcut, rfl, hw⟩ := hdenotes.reads
    obtain rfl : segs = segs' := (cut_iff.1 h).symm.trans (cut_iff.1 hcut)
    exact ⟨hw, hshape⟩
  · rintro ⟨hw, hshape⟩
    exact denotes_of_reads hshape ⟨segs, h, rfl, hw⟩

section

variable {spec : String} (h : Cut (compact spec) segs)
include h

/-- A blank spec has no terms and no shape. -/
theorem segs_of_nil (hnil : compact spec = []) : segs = [] := by
  rw [hnil] at h
  exact (cut_iff.1 h).symm.trans (cut_iff.1 .nil)

theorem parse_eq_none : parse spec = .ok none ↔ compact spec = [] := by
  constructor
  · intro hparse
    by_contra hne
    rw [parse_of_cut hne h] at hparse
    split at hparse
    · cases hparse
    · split at hparse <;> cases hparse
  · exact parse_of_nil

theorem parse_eq_some {state : State} :
    parse spec = .ok (some state) ↔ Denotes (compact spec) state := by
  obtain ⟨src', dst', op'⟩ := state
  rw [denotes_iff h]
  by_cases hnil : compact spec = []
  · obtain rfl := segs_of_nil h hnil
    rw [parse_of_nil hnil]
    refine iff_of_false nofun fun ⟨_, hshape⟩ => ?_
    cases op' <;> simp [shapes, shapeOf] at hshape
  · rw [parse_of_cut hnil h, ← opOfShape?_eq_some]
    rcases weights (termsOf segs) (.zero, .zero) with token | ⟨src, dst⟩
    · simp
    · rcases opOfShape? (String.ofList (shapeOf segs)) with - | op
      · simp
      · simp only [Except.ok.injEq, Option.some.injEq, Prod.mk.injEq, State.mk.injEq, and_assoc]

theorem parse_eq_unknownFactor {given factor : String} :
    parse spec = .error (.unknownFactor given factor) ↔
      given = spec ∧ FirstUnknown (compact spec) factor.toList := by
  rw [firstUnknown_iff h]
  by_cases hnil : compact spec = []
  · obtain rfl := segs_of_nil h hnil
    rw [parse_of_nil hnil]
    exact iff_of_false nofun fun ⟨_, hweights⟩ => nomatch hweights
  · rw [parse_of_cut hnil h]
    rcases weights (termsOf segs) (.zero, .zero) with token | ⟨src, dst⟩
    · have hlist : String.ofList token = factor ↔ token = factor.toList := by
        constructor
        · rintro rfl
          simp
        · rintro rfl
          simp
      simp only [Except.error.injEq, SpecError.unknownFactor.injEq, hlist, eq_comm]
    · dsimp only
      split <;> simp

theorem parse_eq_unrecognizedPattern {given : String}
    (hparse : parse spec = .error (.unrecognizedPattern given)) : given = spec := by
  by_cases hnil : compact spec = []
  · rw [parse_of_nil hnil] at hparse
    cases hparse
  · rw [parse_of_cut hnil h] at hparse
    split at hparse
    · cases hparse
    · split at hparse
      · cases hparse
      · cases hparse
        rfl

end

/-- Reading a spec gives what its grammar says: no blending for a blank spec, what the text without
blanks denotes if it is of the grammar, and otherwise the first unknown factor if there is one,
else that the text is not understood. -/
theorem parse_spec_iff (spec : String) :
    (parse spec = .ok none ↔ compact spec = []) ∧
    (∀ state, parse spec = .ok (some state) ↔ Denotes (compact spec) state) ∧
    (∀ given factor, parse spec = .error (.unknownFactor given factor) ↔
      given = spec ∧ FirstUnknown (compact spec) factor.toList) ∧
    ((∃ factor, parse spec = .error (.unknownFactor spec factor)) ↔ HasUnknown (compact spec)) ∧
    ∀ given, parse spec = .error (.unrecognizedPattern given) ↔
      given = spec ∧ compact spec ≠ [] ∧ (∀ state, ¬ Denotes (compact spec) state) ∧
        ¬ HasUnknown (compact spec) := by
  have h := cut_segments none (compact spec)
  have hunknown : (∃ factor, parse spec = .error (.unknownFactor spec factor)) ↔
      HasUnknown (compact spec) := by
    rw [hasUnknown_iff]
    constructor
    · rintro ⟨factor, hparse⟩
      exact ⟨_, ((parse_eq_unknownFactor h).1 hparse).2⟩
    · rintro ⟨token, hfirst⟩
      refine ⟨String.ofList token, (parse_eq_unknownFactor h).2 ⟨rfl, ?_⟩⟩
      rwa [String.toList_ofList]
  refine ⟨parse_eq_none h, fun state => parse_eq_some h, fun _ _ => parse_eq_unknownFactor h,
    hunknown, fun given => ?_⟩
  rw [ne_eq, ← parse_eq_none h, ← hunknown]
  simp only [← parse_eq_some h]
  -- Each answer excludes the others.
  rcases hparse : parse spec with (⟨text, factor⟩ | text) | (_ | state)
  · obtain ⟨rfl, -⟩ := (parse_eq_unknownFactor h).1 hparse
    simp
  · obtain rfl := parse_eq_unrecognizedPattern h hparse
    simp [eq_comm]
  · simp
  · simp

end DrawPass.Blend
