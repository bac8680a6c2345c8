/-
DrawPass/Proofs/Blended.lean

Blending computes what a spec says.

A spec is also an expression of arithmetic: names of colours, numbers, products, sums and
differences, parentheses, and the smaller and the larger of two.  `Means` reads a text as such an
expression, for given colours, without regard to what specs are accepted.  A text has at most one
value (`Means.unique`): scanning a text counts the parentheses that are open, and an operator at
which a sum or a product falls apart stands outside of all parentheses and is the last that does.

What a device computes from a blend equation is `State.blended`.  Minimum and maximum take both
colours as they are, so factors under them are accepted and then left out.  These are the only
equations that differ from their specs (`blended_iff`).
-/
import DrawPass.Proofs.BlendGrammar
import Mathlib.Algebra.Order.Ring.Rat
import Mathlib.Tactic.NormNum
import Mathlib.Tactic.Linarith

namespace DrawPass.Blend

/-- The colours that a spec is about, in one channel, and their alphas. -/
structure Colours where
  /-- The source. -/
  s : ℚ
  /-- The destination. -/
  d : ℚ
  sa : ℚ
  da : ℚ
  /-- The constant colour. -/
  c : ℚ
  ca : ℚ

/-! ### Blending -/

namespace Factor

/-- The value of a factor. -/
def value (v : Colours) : Factor → ℚ
  | zero => 0
  | one => 1
  | srcColor => v.s
  | oneMinusSrcColor => 1 - v.s
  | dstColor => v.d
  | oneMinusDstColor => 1 - v.d
  | srcAlpha => v.sa
  | oneMinusSrcAlpha => 1 - v.sa
  | dstAlpha => v.da
  | oneMinusDstAlpha => 1 - v.da
  | constantColor => v.c
  | oneMinusConstantColor => 1 - v.c
  | constantAlpha => v.ca
  | oneMinusConstantAlpha => 1 - v.ca

end Factor

/-- Whether an operation takes the colours as they are. -/
def Op.dropsFactors : Op → Bool
  | add | subtract | reverseSubtract => false
  | min | max => true

namespace State

variable (state : State) (v : Colours)

/-- What a device computes from an equation: minimum and maximum take the colours as they are. -/
def blended : ℚ :=
  match state.op with
  | .add => v.s * state.src.value v + v.d * state.dst.value v
  | .subtract => v.s * state.src.value v - v.d * state.dst.value v
  | .reverseSubtract => v.d * state.dst.value v - v.s * state.src.value v
  | .min => min v.s v.d
  | .max => max v.s v.d

/-- An equation with both factors in place. -/
def weighted : ℚ :=
  match state.op with
  | .add => v.s * state.src.value v + v.d * state.dst.value v
  | .subtract => v.s * state.src.value v - v.d * state.dst.value v
  | .reverseSubtract => v.d * state.dst.value v - v.s * state.src.value v
  | .min => min (v.s * state.src.value v) (v.d * state.dst.value v)
  | .max => max (v.s * state.src.value v) (v.d * state.dst.value v)

end State

/-! ### Arithmetic -/

/-- The value of a word. -/
def Colours.named? (v : Colours) : List Char → Option ℚ
  | ['0'] => some 0
  | ['1'] => some 1
  | ['s'] => some v.s
  | ['d'] => some v.d
  | ['s', 'a'] => some v.sa
  | ['d', 'a'] => some v.da
  | ['c'] => some v.c
  | ['c', 'a'] => some v.ca
  | _ => none

/-- The operators between the parts of a sum. -/
def additive? : Char → Option (ℚ → ℚ → ℚ)
  | '+' => some (· + ·)
  | '-' => some (· - ·)
  | _ => none

/-- The functions of two expressions. -/
def function? : List Char → Option (ℚ → ℚ → ℚ)
  | ['m', 'i', 'n'] => some min
  | ['m', 'a', 'x'] => some max
  | _ => none

/-- What an expression may be a part of: anything, a sum, or nothing without parentheses. -/
inductive Level where
  | atom
  | product
  | sum

/-- A text is an expression of arithmetic and has a value. Products go before sums, and both are
taken from left to right. -/
inductive Means (v : Colours) : Level → List Char → ℚ → Prop where
  | name {w : List Char} {q : ℚ} (h : v.named? w = some q) : Means v .atom w q
  | parens {T : List Char} {q : ℚ} (h : Means v .sum T q) : Means v .atom ('(' :: (T ++ [')'])) q
  | call {w A B : List Char} {a b : ℚ} {f : ℚ → ℚ → ℚ} (hf : function? w = some f)
      (ha : Means v .sum A a) (hb : Means v .sum B b) :
      Means v .atom (w ++ '(' :: (A ++ ',' :: (B ++ [')']))) (f a b)
  | factor {A : List Char} {a : ℚ} (h : Means v .atom A a) : Means v .product A a
  | times {A B : List Char} {a b : ℚ} (ha : Means v .product A a) (hb : Means v .atom B b) :
      Means v .product (A ++ '*' :: B) (a * b)
  | term {A : List Char} {a : ℚ} (h : Means v .product A a) : Means v .sum A a
  | combine {o : Char} {A B : List Char} {a b : ℚ} {f : ℚ → ℚ → ℚ} (hf : additive? o = some f)
      (ha : Means v .sum A a) (hb : Means v .product B b) : Means v .sum (A ++ o :: B) (f a b)

/-! ### Every text has at most one value -/

/-- The characters at which an expression of a level does not fall apart, outside of parentheses. -/
def Level.separators : Level → List Char
  | atom => ['+', '-', '*', ',']
  | product => ['+', '-', ',']
  | sum => [',']

/-- One character further, with so many parentheses open: outside of all of them there may be none
of the separators. -/
def scanStep (separators : List Char) (n : Nat) (c : Char) : Option Nat :=
  if c = '(' then some (n + 1)
  else if c = ')' then if n = 0 then none else some (n - 1)
  else if n = 0 ∧ c ∈ separators then none
  else some n

/-- How many parentheses are open after a text, if none is closed that was not opened and no
separator stands outside. -/
def scan (separators : List Char) (n : Nat) (text : List Char) : Option Nat :=
  text.foldlM (scanStep separators) n

variable {separators more : List Char} {n k : Nat} {text A A' B B' : List Char} {c c' : Char}

theorem scan_append :
    scan separators n (A ++ B) = (scan separators n A).bind fun k => scan separators k B :=
  List.foldlM_append

theorem scan_cons :
    scan separators n (c :: A) = (scanStep separators n c).bind fun k => scan separators k A :=
  List.foldlM_cons

theorem scanStep_mono (h : ∀ c ∈ more, c ∈ separators) (hstep : scanStep separators n c = some k) :
    scanStep more n c = some k := by
  unfold scanStep at hstep ⊢
  split_ifs at hstep ⊢ <;> grind

theorem scan_mono (h : ∀ c ∈ more, c ∈ separators) (hscan : scan separators n text = some k) :
    scan more n text = some k := by
  induction text generalizing n with
  | nil => exact hscan
  | cons c text ih =>
    rw [scan_cons] at hscan ⊢
    obtain ⟨m, hstep, hrest⟩ := Option.bind_eq_some_iff.1 hscan
    rw [scanStep_mono h hstep]
    exact ih hrest

/-- Inside of parentheses there may be anything. -/
theorem scan_inside (hscan : scan separators n text = some k) :
    scan more (n + 1) text = some (k + 1) := by
  induction text generalizing n with
  | nil =>
    obtain rfl : n = k := Option.some.inj hscan
    rfl
  | cons c text ih =>
    rw [scan_cons] at hscan ⊢
    obtain ⟨m, hstep, hrest⟩ := Option.bind_eq_some_iff.1 hscan
    have hinside : scanStep more (n + 1) c = some (m + 1) := by
      unfold scanStep at hstep ⊢
      split_ifs at hstep ⊢ <;> grind
    rw [hinside]
    exact ih hrest

variable {v : Colours} {level : Level} {q q' : ℚ}

theorem scan_named (h : v.named? text = some q) : scan Level.atom.separators 0 text = some 0 := by
  unfold Colours.named? at h
  split at h <;> first | rfl | cases h

theorem scan_function {f : ℚ → ℚ → ℚ} (h : function? text = some f) :
    scan Level.atom.separators 0 text = some 0 := by
  unfold function? at h
  split at h <;> first | rfl | cases h

/-- A text in parentheses can be scanned wherever it stands. -/
theorem scan_parens (h : scan more 0 text = some 0) :
    scan separators 0 ('(' :: (text ++ [')'])) = some 0 := by
  have hinside : scan separators 1 text = some 1 := scan_inside h
  rw [scan_cons, show scanStep separators 0 '(' = some 1 from rfl, Option.bind_some, scan_append,
    hinside, Option.bind_some]
  rfl

theorem scan_between (hA : scan separators 0 A = some 0) (hc : scanStep separators 0 c = some 0)
    (hB : scan separators 0 B = some 0) : scan separators 0 (A ++ c :: B) = some 0 := by
  rw [scan_append, hA, Option.bind_some, scan_cons, hc, Option.bind_some, hB]

theorem additive?_cases {f : ℚ → ℚ → ℚ} (h : additive? c = some f) : c = '+' ∨ c = '-' := by
  unfold additive? at h
  split at h
  · exact .inl rfl
  · exact .inr rfl
  · cases h

theorem Means.scan_eq (h : Means v level text q) : scan level.separators 0 text = some 0 := by
  induction h with
  | name h => exact scan_named h
  | parens _ ih => exact scan_parens ih
  | @call w A B a b f hf _ _ iha ihb =>
    have hinside : scan [] 0 (A ++ ',' :: B) = some 0 :=
      scan_between (scan_mono (by simp) iha) rfl (scan_mono (by simp) ihb)
    have htext : A ++ ',' :: (B ++ [')']) = (A ++ ',' :: B) ++ [')'] := by simp
    rw [scan_append, scan_function hf, Option.bind_some, htext, scan_parens hinside]
  | factor _ ih => exact scan_mono (by simp [Level.separators]) ih
  | times _ _ iha ihb => exact scan_between iha rfl (scan_mono (by simp [Level.separators]) ihb)
  | term _ ih => exact scan_mono (by simp [Level.separators]) ih
  | combine hf _ _ iha ihb =>
    refine scan_between iha ?_ (scan_mono (by simp [Level.separators]) ihb)
    obtain rfl | rfl := additive?_cases hf <;> rfl

/-- No separator stands after the last one. -/
theorem not_scan_separator (hc : scanStep separators 0 c = none) (hA : scan [] 0 A = some 0) :
    scan separators 0 (A ++ c :: B) ≠ some 0 := by
  intro h
  rw [scan_append] at h
  obtain ⟨k, hscan, hrest⟩ := Option.bind_eq_some_iff.1 h
  obtain rfl : k = 0 := by
    have hplain : scan [] 0 A = some k := scan_mono nofun hscan
    exact Option.some.inj (hplain.symm.trans hA)
  rw [scan_cons, hc] at hrest
  cases hrest

/-- A text falls apart at its last separator in one way only. -/
theorem split_unique (hA : scan [] 0 A = some 0) (hA' : scan [] 0 A' = some 0)
    (hB : scan separators 0 B = some 0) (hB' : scan separators 0 B' = some 0)
    (hc : scanStep separators 0 c = none) (hc' : scanStep separators 0 c' = none)
    (hplain : scanStep [] 0 c = some 0) (hplain' : scanStep [] 0 c' = some 0)
    (h : A ++ c :: B = A' ++ c' :: B') : A = A' ∧ c = c' ∧ B = B' := by
  -- What stands between two separators is balanced, so the first of them would not be the last.
  have between {A M : List Char} {c : Char} (hA : scan [] 0 A = some 0)
      (hA' : scan [] 0 (A ++ c :: M) = some 0) (hplain : scanStep [] 0 c = some 0) :
      scan [] 0 M = some 0 := by
    rw [scan_append, hA, Option.bind_some, scan_cons, hplain, Option.bind_some] at hA'
    exact hA'
  rcases List.append_eq_append_iff.1 h with ⟨M, hM, hrest⟩ | ⟨M, hM, hrest⟩
  · cases M with
    | nil =>
      rw [List.append_nil] at hM
      obtain ⟨rfl, rfl⟩ := List.cons.inj hrest
      exact ⟨hM.symm, rfl, rfl⟩
    | cons _ M =>
      obtain ⟨rfl, rfl⟩ := List.cons.inj hrest
      rw [hM] at hA'
      exact absurd hB (not_scan_separator hc' (between hA hA' hplain))
  · cases M with
    | nil =>
      rw [List.append_nil] at hM
      obtain ⟨rfl, rfl⟩ := List.cons.inj hrest
      exact ⟨hM, rfl, rfl⟩
    | cons _ M =>
      obtain ⟨rfl, rfl⟩ := List.cons.inj hrest
      rw [hM] at hA
      exact absurd hB' (not_scan_separator hc (between hA' hA hplain'))

theorem function?_length {f : ℚ → ℚ → ℚ} (h : function? text = some f) : text.length = 3 := by
  unfold function? at h
  split at h <;> first | rfl | cases h

theorem named?_length (h : v.named? text = some q) : text.length ≤ 2 := by
  unfold Colours.named? at h
  split at h <;> first | decide | cases h

theorem function?_ne {f : ℚ → ℚ → ℚ} (h : function? text = some f)
    (hc : c ∉ ['m', 'i', 'n', 'a', 'x']) (A B : List Char) : c :: A ≠ text ++ B := by
  rintro heq
  unfold function? at h
  split at h
  · obtain rfl := (List.cons.inj heq).1
    exact hc (by decide)
  · obtain rfl := (List.cons.inj heq).1
    exact hc (by decide)
  · cases h

/-! What a text is can be seen from how it begins and from where it falls apart. -/

theorem Means.of_parens (h : Means v .atom ('(' :: text) q) :
    ∃ T, text = T ++ [')'] ∧ Means v .sum T q := by
  generalize htext : '(' :: text = whole at h
  cases h with
  | name h =>
    rw [← htext] at h
    cases h
  | parens h => exact ⟨_, (List.cons.inj htext).2, h⟩
  | call hf => exact absurd htext (function?_ne hf (by decide) _ _)

theorem Means.of_call {w : List Char} {f : ℚ → ℚ → ℚ} (h : Means v .atom (w ++ '(' :: text) q)
    (hf : function? w = some f) :
    ∃ A B a b, text = (A ++ ',' :: B) ++ [')'] ∧ Means v .sum A a ∧ Means v .sum B b ∧
      q = f a b := by
  generalize htext : w ++ '(' :: text = whole at h
  cases h with
  | name h =>
    have hlength := named?_length h
    rw [← htext, List.length_append, function?_length hf] at hlength
    omega
  | parens h => exact absurd htext.symm (function?_ne hf (by decide) _ _)
  | @call w' A B a b f' hf' ha hb =>
    obtain ⟨rfl, hrest⟩ :=
      List.append_inj htext ((function?_length hf).trans (function?_length hf').symm)
    obtain rfl := Option.some.inj (hf.symm.trans hf')
    exact ⟨A, B, a, b, by simpa using (List.cons.inj hrest).2, ha, hb, rfl⟩

theorem Means.of_name {w : List Char} (h : Means v .atom w q) (hw : v.named? w = some q') :
    q' = q := by
  have hlength := named?_length hw
  cases h with
  | name h => exact Option.some.inj (hw.symm.trans h)
  | parens => cases hw
  | call hf =>
    rw [List.length_append, function?_length hf] at hlength
    omega

theorem Means.of_times (h : Means v .product (A ++ '*' :: B) q) (hA : scan [] 0 A = some 0)
    (hB : Means v .atom B q') :
    ∃ a b, Means v .product A a ∧ Means v .atom B b ∧ q = a * b := by
  generalize htext : A ++ '*' :: B = whole at h
  cases h with
  | factor h =>
    rw [← htext] at h
    exact absurd h.scan_eq (not_scan_separator rfl hA)
  | times ha hb =>
    obtain ⟨rfl, -, rfl⟩ := split_unique hA (scan_mono nofun ha.scan_eq) hB.scan_eq hb.scan_eq
      rfl rfl rfl rfl htext
    exact ⟨_, _, ha, hb, rfl⟩

theorem additive?_separates {f : ℚ → ℚ → ℚ} (h : additive? c = some f) :
    scanStep Level.product.separators 0 c = none ∧ scanStep [] 0 c = some 0 := by
  obtain rfl | rfl := additive?_cases h <;> exact ⟨rfl, rfl⟩

theorem Means.of_combine {f : ℚ → ℚ → ℚ} (h : Means v .sum (A ++ c :: B) q)
    (hf : additive? c = some f) (hA : scan [] 0 A = some 0) (hB : Means v .product B q') :
    ∃ a b, Means v .sum A a ∧ Means v .product B b ∧ q = f a b := by
  obtain ⟨hc, hplain⟩ := additive?_separates hf
  generalize htext : A ++ c :: B = whole at h
  cases h with
  | term h =>
    rw [← htext] at h
    exact absurd h.scan_eq (not_scan_separator hc hA)
  | combine hf' ha hb =>
    obtain ⟨hc', hplain'⟩ := additive?_separates hf'
    obtain ⟨rfl, rfl, rfl⟩ := split_unique hA (scan_mono nofun ha.scan_eq) hB.scan_eq hb.scan_eq
      hc hc' hplain hplain' htext
    obtain rfl := Option.some.inj (hf.symm.trans hf')
    exact ⟨_, _, ha, hb, rfl⟩

/-- A text has one value. -/
theorem Means.unique (h : Means v level text q) (h' : Means v level text q') : q = q' := by
  -- The first reading says where the text falls apart, and the second has to follow.
  induction h generalizing q' with
  | name h => exact h'.of_name h
  | parens _ ih =>
    obtain ⟨T, htext, h'⟩ := h'.of_parens
    obtain ⟨rfl, -⟩ := List.append_inj' htext rfl
    exact ih h'
  | @call w A B a b f hf ha hb iha ihb =>
    obtain ⟨A', B', a', b', htext, ha', hb', rfl⟩ := h'.of_call hf
    have hinside : A ++ ',' :: B = A' ++ ',' :: B' :=
      List.append_cancel_right ((by simp : (A ++ ',' :: B) ++ [')'] = _).trans htext)
    obtain ⟨rfl, -, rfl⟩ := split_unique (scan_mono nofun ha.scan_eq) (scan_mono nofun ha'.scan_eq)
      hb.scan_eq hb'.scan_eq rfl rfl rfl rfl hinside
    rw [iha ha', ihb hb']
  | @factor A a h ih =>
    cases h' with
    | factor h' => exact ih h'
    | times ha' hb' => exact absurd h.scan_eq (not_scan_separator rfl (scan_mono nofun ha'.scan_eq))
  | times ha hb iha ihb =>
    obtain ⟨a', b', ha', hb', rfl⟩ := h'.of_times (scan_mono nofun ha.scan_eq) hb
    rw [iha ha', ihb hb']
  | term h ih =>
    cases h' with
    | term h' => exact ih h'
    | combine hf' ha' hb' =>
      exact absurd h.scan_eq
        (not_scan_separator (additive?_separates hf').1 (scan_mono nofun ha'.scan_eq))
  | combine hf ha hb iha ihb =>
    obtain ⟨a', b', ha', hb', rfl⟩ := h'.of_combine hf (scan_mono nofun ha.scan_eq) hb
    rw [iha ha', ihb hb']

/-! ### Specs are expressions -/

/-- A complement, in parentheses. -/
theorem means_complement {w : List Char} (h : v.named? w = some q) :
    Means v .atom ('(' :: (('1' :: '-' :: w) ++ [')'])) (1 - q) := by
  have hone : Means v .sum ['1'] 1 := .term (.factor (.name rfl))
  exact .parens (.combine rfl hone (.factor (.name h)))

/-- The token of a factor is an expression of its value. -/
theorem means_token (f : Factor) : Means v .atom f.token (f.value v) := by
  cases f with
  | zero | one | srcColor | dstColor | srcAlpha | dstAlpha | constantColor | constantAlpha =>
    exact .name rfl
  | oneMinusSrcColor => exact means_complement (w := ['s']) rfl
  | oneMinusDstColor => exact means_complement (w := ['d']) rfl
  | oneMinusSrcAlpha => exact means_complement (w := ['s', 'a']) rfl
  | oneMinusDstAlpha => exact means_complement (w := ['d', 'a']) rfl
  | oneMinusConstantColor => exact means_complement (w := ['c']) rfl
  | oneMinusConstantAlpha => exact means_complement (w := ['c', 'a']) rfl

/-- The colour of a side. -/
def Side.colour (v : Colours) : Side → ℚ
  | .src => v.s
  | .dst => v.d

theorem Weighted.means {side : Side} {S : List Char} {f : Factor} (h : Weighted side S f) :
    Means v .product S (side.colour v * f.value v) := by
  have hletter : Means v .product [side.letter] (side.colour v) := by
    cases side <;> exact .factor (.name rfl)
  cases h with
  | bare => simpa only [Factor.value, mul_one] using hletter
  | times => exact .times hletter (means_token f)

/-- A function of two products. -/
theorem means_call {w : List Char} {a b : ℚ} {f : ℚ → ℚ → ℚ} (hf : function? w = some f)
    (ha : Means v .product A a) (hb : Means v .product B b) :
    Means v .sum (w ++ '(' :: (A ++ ',' :: (B ++ [')']))) (f a b) :=
  .term (.factor (.call hf (.term ha) (.term hb)))

/-- A text of the grammar has the value of its equation with both factors in place. -/
theorem Denotes.means {state : State} (h : Denotes text state) :
    Means v .sum text (state.weighted v) := by
  cases h with
  | src hS => simpa [State.weighted, Factor.value, Side.colour] using Means.term hS.means
  | dst hD => simpa [State.weighted, Factor.value, Side.colour] using Means.term hD.means
  | sum hS hD => exact .combine rfl (.term hS.means) hD.means
  | sumReversed hS hD =>
    rw [State.weighted, add_comm]
    exact .combine rfl (.term hD.means) hS.means
  | difference hS hD => exact .combine rfl (.term hS.means) hD.means
  | differenceReversed hS hD => exact .combine rfl (.term hD.means) hS.means
  | min hS hD => exact means_call (w := ['m', 'i', 'n']) rfl hS.means hD.means
  | minReversed hS hD =>
    rw [State.weighted, min_comm]
    exact means_call (w := ['m', 'i', 'n']) rfl hD.means hS.means
  | max hS hD => exact means_call (w := ['m', 'a', 'x']) rfl hS.means hD.means
  | maxReversed hS hD =>
    rw [State.weighted, max_comm]
    exact means_call (w := ['m', 'a', 'x']) rfl hD.means hS.means

/-- The only value of a spec that is accepted. -/
theorem means_iff {spec : String} {state : State} (h : parse spec = .ok (some state)) :
    Means v .sum (compact spec) q ↔ q = state.weighted v := by
  have hmeans : Means v .sum (compact spec) (state.weighted v) :=
    ((parse_eq_some (cut_segments none _)).1 h).means
  constructor
  · exact fun hq => hq.unique hmeans
  · rintro rfl
    exact hmeans

/-! ### Factors that are left out -/

/-- Colours that no factor but one leaves as they are. -/
def distinct (s d : ℤ) : Colours := ⟨s, d, 5, 7, 11, 13⟩

theorem value_distinct {s d : ℤ} (hs : 1 < s) (hd : 1 < d) (f : Factor) :
    ∃ n : ℤ, f.value (distinct s d) = n ∧ (n = 1 → f = .one) := by
  cases f with
  | zero => exact ⟨0, by norm_num [Factor.value], by omega⟩
  | one => exact ⟨1, by norm_num [Factor.value], fun _ => rfl⟩
  | srcColor => exact ⟨s, rfl, by omega⟩
  | oneMinusSrcColor => exact ⟨1 - s, by norm_num [Factor.value, distinct], by omega⟩
  | dstColor => exact ⟨d, rfl, by omega⟩
  | oneMinusDstColor => exact ⟨1 - d, by norm_num [Factor.value, distinct], by omega⟩
  | srcAlpha => exact ⟨5, by norm_num [Factor.value, distinct], by omega⟩
  | oneMinusSrcAlpha => exact ⟨-4, by norm_num [Factor.value, distinct], by omega⟩
  | dstAlpha => exact ⟨7, by norm_num [Factor.value, distinct], by omega⟩
  | oneMinusDstAlpha => exact ⟨-6, by norm_num [Factor.value, distinct], by omega⟩
  | constantColor => exact ⟨11, by norm_num [Factor.value, distinct], by omega⟩
  | oneMinusConstantColor => exact ⟨-10, by norm_num [Factor.value, distinct], by omega⟩
  | constantAlpha => exact ⟨13, by norm_num [Factor.value, distinct], by omega⟩
  | oneMinusConstantAlpha => exact ⟨-12, by norm_num [Factor.value, distinct], by omega⟩

/-- The larger of two colours gives away the factor of the larger one, and so does the smaller. -/
theorem factors_eq_one {op : Op} {f g : Factor} (hop : op.dropsFactors = true)
    (h : ∀ v, State.blended ⟨f, g, op⟩ v = State.weighted ⟨f, g, op⟩ v) : f = .one ∧ g = .one := by
  obtain ⟨m, hm, hf⟩ := value_distinct (s := 2) (d := 3) (by decide) (by decide) f
  obtain ⟨n, hn, hg⟩ := value_distinct (s := 2) (d := 3) (by decide) (by decide) g
  obtain ⟨m', hm', hf'⟩ := value_distinct (s := 3) (d := 2) (by decide) (by decide) f
  obtain ⟨n', hn', hg'⟩ := value_distinct (s := 3) (d := 2) (by decide) (by decide) g
  -- Whichever colour a minimum or a maximum takes, it takes each of the two in one of the cases.
  have first := h (distinct 2 3)
  have second := h (distinct 3 2)
  cases op with
  | add | subtract | reverseSubtract => cases hop
  | min =>
    simp only [State.blended, State.weighted, hm, hn, hm', hn'] at first second
    dsimp only [distinct] at first second
    norm_cast at first second
    exact ⟨hf (by omega), hg' (by omega)⟩
  | max =>
    simp only [State.blended, State.weighted, hm, hn, hm', hn'] at first second
    dsimp only [distinct] at first second
    norm_cast at first second
    exact ⟨hf' (by omega), hg (by omega)⟩

theorem blended_eq_weighted {state : State}
    (h : state.op.dropsFactors = true → state.src = .one ∧ state.dst = .one) (v : Colours) :
    state.blended v = state.weighted v := by
  obtain ⟨f, g, op⟩ := state
  cases op with
  | add | subtract | reverseSubtract => rfl
  | min | max =>
    obtain ⟨rfl, rfl⟩ := h rfl
    simp [State.blended, State.weighted, Factor.value]

/-- Blending computes the value of a spec, whatever the colours are, if and only if the spec has no
factors under a minimum or a maximum. -/
theorem blended_iff {spec : String} {state : State} (h : parse spec = .ok (some state)) :
    (∀ v q, Means v .sum (compact spec) q ↔ q = state.blended v) ↔
      (state.op.dropsFactors = true → state.src = .one ∧ state.dst = .one) := by
  simp only [means_iff h]
  constructor
  · intro hvalue hop
    exact factors_eq_one hop fun v => ((hvalue v _).2 rfl)
  · intro hfactors v q
    rw [blended_eq_weighted hfactors]

/-- Alpha blending. -/
theorem blended_iff_of_alpha :
    parse "s*sa + d*(1-sa)" = .ok (some ⟨.srcAlpha, .oneMinusSrcAlpha, .add⟩) ∧
      ∀ v q, Means v .sum (compact "s*sa + d*(1-sa)") q ↔
        q = State.blended ⟨.srcAlpha, .oneMinusSrcAlpha, .add⟩ v := by
  have hparse : parse "s*sa + d*(1-sa)" = .ok (some ⟨.srcAlpha, .oneMinusSrcAlpha, .add⟩) :=
    (parse_eq_some (cut_segments none _)).2 (.sum (.times .srcAlpha) (.times .oneMinusSrcAlpha))
  exact ⟨hparse, (blended_iff hparse).2 nofun⟩

/-- A source without alpha is weighed by nothing, yet the maximum takes it as it is. -/
theorem max_leaves_out_factor :
    parse "max(s*sa,d)" = .ok (some ⟨.srcAlpha, .one, .max⟩) ∧
      State.blended ⟨.srcAlpha, .one, .max⟩ ⟨1, 1 / 2, 0, 1, 0, 0⟩ = 1 ∧
      ∀ q, Means ⟨1, 1 / 2, 0, 1, 0, 0⟩ .sum (compact "max(s*sa,d)") q ↔ q = 1 / 2 := by
  have hparse : parse "max(s*sa,d)" = .ok (some ⟨.srcAlpha, .one, .max⟩) :=
    (parse_eq_some (cut_segments none _)).2 (.max (.times .srcAlpha) .bare)
  refine ⟨hparse, ?_, fun q => ?_⟩
  · norm_num [State.blended]
  · rw [means_iff hparse]
    norm_num [State.weighted, Factor.value]

end DrawPass.Blend
