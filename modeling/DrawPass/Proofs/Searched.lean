/-
DrawPass/Proofs/Searched.lean

Where a pattern is found in a text.

A search goes from left to right and, after a find, goes on behind it.  So a pattern that matches
at some place is found there unless an earlier find reaches over the place
(`mem_places_iff`), and it occurs in a text just if it matches anywhere (`occursIn_iff`).  To
replace the finds by nothing is to cut them out (`replaceFrom_eq_outside`).

A place of a text is what there is of the text from there on.
-/
import DrawPass.Proofs.Declared

namespace DrawPass.Text

namespace Pattern

variable {α : Type} {p : Pattern α} {before : Option Char} {c : Char}
  {text lead place rest : List Char}

/-! ### The character before a place -/

/-- The character before what follows `lead` in a text that stands after `before`. -/
def lastOf (before : Option Char) (lead : List Char) : Option Char := lead.getLast?.or before

theorem lastOf_nil : lastOf before [] = before := rfl

theorem lastOf_none (lead : List Char) : lastOf none lead = lead.getLast? := Option.or_none

theorem lastOf_of_ne_nil (h : lead ≠ []) : lastOf before lead = lead.getLast? := by
  rw [lastOf, List.getLast?_eq_some_getLast h, Option.some_or]

theorem lastOf_append (before : Option Char) (lead lead' : List Char) :
    lastOf before (lead ++ lead') = lastOf (lastOf before lead) lead' := by
  rw [lastOf, lastOf, lastOf, List.getLast?_append, Option.or_assoc]

/-! ### The finds of a search -/

/-- What a pattern leaves of a text stands at its end. -/
def Cuts (p : Pattern α) : Prop :=
  ∀ ⦃before text a rest hrest⦄, p before text = some (a, ⟨rest, hrest⟩) → rest <:+ text

/-- The same pattern, yielding the text at whose head it is found, and what is left of it. -/
def spanned (p : Pattern α) : Pattern (List Char × List Char) := fun before text =>
  (p before text).map fun found => ((text, found.2.1), found.2)

/-- Every find of a search, with where it begins and what is left after it. -/
def spans (p : Pattern α) (before : Option Char) (text : List Char) :
    List (List Char × List Char) :=
  p.spanned.findsFrom before text

/-- What is left of a text if the finds are cut out of it. -/
def outside (text : List Char) : List (List Char × List Char) → List Char
  | [] => text
  | (place, rest) :: spans => text.take (text.length - place.length) ++ outside rest spans

/-- The places at which a search finds something. -/
def places (p : Pattern α) (before : Option Char) (text : List Char) : List (List Char) :=
  (p.spans before text).map Prod.fst

theorem spans_nil : p.spans before [] = [] := findsFrom_nil _ _

theorem spans_cons_none (h : p before (c :: text) = none) :
    p.spans before (c :: text) = p.spans (some c) text :=
  findsFrom_cons_none (by rw [spanned, h, Option.map_none])

/-- A find at the head of a text, with what the pattern passes over written out. -/
theorem cons_of_found {passed : List Char} {a : α}
    {hrest : rest.length < (passed ++ rest).length}
    (h : p before (passed ++ rest) = some (a, ⟨rest, hrest⟩)) :
    ∃ c text hrest', passed ++ rest = c :: text ∧ p before (c :: text) = some (a, ⟨rest, hrest'⟩) ∧
      lastRead (c :: text) rest = passed.getLast? := by
  obtain ⟨c, text, htext⟩ : ∃ c text, passed ++ rest = c :: text := by
    refine List.exists_cons_of_ne_nil fun hnil => ?_
    rw [hnil] at hrest
    exact absurd hrest (Nat.not_lt_zero _)
  have hlast := lastRead_eq passed rest
  revert h hrest hlast
  rw [htext]
  intro hrest h hlast
  exact ⟨c, text, hrest, rfl, h, hlast⟩

theorem findsFrom_found {passed : List Char} {a : α}
    {hrest : rest.length < (passed ++ rest).length}
    (h : p before (passed ++ rest) = some (a, ⟨rest, hrest⟩)) :
    p.findsFrom before (passed ++ rest) = a :: p.findsFrom passed.getLast? rest := by
  obtain ⟨c, text, hrest', htext, hfound, hlast⟩ := cons_of_found h
  rw [htext, findsFrom_cons_some hfound, hlast]

theorem replaceFrom_found {f : α → List Char} {passed : List Char} {a : α}
    {hrest : rest.length < (passed ++ rest).length}
    (h : p before (passed ++ rest) = some (a, ⟨rest, hrest⟩)) :
    p.replaceFrom f before (passed ++ rest) = f a ++ p.replaceFrom f passed.getLast? rest := by
  obtain ⟨c, text, hrest', htext, hfound, hlast⟩ := cons_of_found h
  rw [htext, replaceFrom_cons_some hfound, hlast]

theorem spans_found {passed : List Char} {a : α} {hrest : rest.length < (passed ++ rest).length}
    (h : p before (passed ++ rest) = some (a, ⟨rest, hrest⟩)) :
    p.spans before (passed ++ rest) = (passed ++ rest, rest) :: p.spans passed.getLast? rest :=
  findsFrom_found (by rw [spanned, h, Option.map_some])

section

variable (hp : p.Cuts)
include hp

/-- What holds of a text if it can be told by searching it: a search passes over a character or
over a find. -/
theorem search_induction {motive : Option Char → List Char → Prop}
    (nil : ∀ before, motive before [])
    (plain : ∀ before c text, p before (c :: text) = none → motive (some c) text →
      motive before (c :: text))
    (found : ∀ before passed rest a hrest, passed ≠ [] →
      p before (passed ++ rest) = some (a, ⟨rest, hrest⟩) → motive passed.getLast? rest →
      motive before (passed ++ rest))
    (before : Option Char) (text : List Char) : motive before text := by
  induction hn : text.length using Nat.strong_induction_on generalizing before text with
  | _ n ih =>
    subst hn
    rcases hmatch : p before text with - | ⟨a, rest, hrest⟩
    · cases text with
      | nil => exact nil before
      | cons c text => exact plain before c text hmatch (ih _ (Nat.lt_succ_self _) _ text rfl)
    · obtain ⟨passed, rfl⟩ := hp hmatch
      refine found before passed rest a hrest ?_ hmatch (ih _ hrest _ rest rfl)
      rintro rfl
      exact absurd hrest (Nat.lt_irrefl _)

/-- A find is a match. -/
theorem match_of_mem_spans (h : (place, rest) ∈ p.spans before text) :
    ∃ lead a hrest, text = lead ++ place ∧
      p (lastOf before lead) place = some (a, ⟨rest, hrest⟩) := by
  induction before, text using search_induction hp with
  | nil before =>
    rw [spans_nil] at h
    cases h
  | plain before c text hnone ih =>
    rw [spans_cons_none hnone] at h
    obtain ⟨lead, a, hrest, rfl, hmatch⟩ := ih h
    have hlast := lastOf_append before [c] lead
    exact ⟨c :: lead, a, hrest, rfl, hlast ▸ hmatch⟩
  | found before passed left a hleft hne hmatch ih =>
    rw [spans_found hmatch] at h
    rcases List.mem_cons.1 h with heq | h
    · cases heq
      exact ⟨[], a, hleft, rfl, hmatch⟩
    · obtain ⟨lead, a', hrest, rfl, hmatch'⟩ := ih h
      refine ⟨passed ++ lead, a', hrest, (List.append_assoc ..).symm, ?_⟩
      rw [lastOf_append, lastOf_of_ne_nil hne]
      exact hmatch'

/-- A find stands at the end of the text that is searched. -/
theorem suffix_of_mem_spans (h : (place, rest) ∈ p.spans before text) : place <:+ text := by
  obtain ⟨lead, -, -, htext, -⟩ := match_of_mem_spans hp h
  exact ⟨lead, htext.symm⟩

/-- What the finds yield is what the pattern yields at their places. -/
theorem mem_findsFrom_iff {a : α} : a ∈ p.findsFrom before text ↔
    ∃ lead place rest hrest, text = lead ++ place ∧ (place, rest) ∈ p.spans before text ∧
      p (lastOf before lead) place = some (a, ⟨rest, hrest⟩) := by
  -- As the search goes on, what has been passed over tells what a later place has in front of it.
  induction before, text using search_induction hp with
  | nil before =>
    simp only [spans_nil, findsFrom_nil, List.not_mem_nil, false_and, and_false, exists_false]
  | plain before c text hnone ih =>
    rw [findsFrom_cons_none hnone, spans_cons_none hnone, ih]
    constructor
    · rintro ⟨lead, place, rest, hrest, rfl, hspan, hmatch⟩
      have hlast := lastOf_append before [c] lead
      exact ⟨c :: lead, place, rest, hrest, rfl, hspan, hlast ▸ hmatch⟩
    · rintro ⟨lead, place, rest, hrest, htext, hspan, hmatch⟩
      cases lead with
      | nil =>
        obtain rfl : c :: text = place := htext
        rw [lastOf_nil, hnone] at hmatch
        cases hmatch
      | cons d lead =>
        obtain ⟨rfl, rfl⟩ := List.cons.inj htext
        have hlast := lastOf_append before [c] lead
        exact ⟨lead, place, rest, hrest, rfl, hspan, hlast ▸ hmatch⟩
  | found before passed left a' hleft hne hmatch ih =>
    rw [findsFrom_found hmatch, spans_found hmatch, List.mem_cons, ih]
    constructor
    · rintro (rfl | ⟨lead, place, rest, hrest, rfl, hspan, hmatch'⟩)
      · exact ⟨[], _, left, hleft, rfl, List.mem_cons_self, hmatch⟩
      · refine ⟨passed ++ lead, place, rest, hrest, (List.append_assoc ..).symm,
          List.mem_cons_of_mem _ hspan, ?_⟩
        rw [lastOf_append, lastOf_of_ne_nil hne]
        exact hmatch'
    · rintro ⟨lead, place, rest, hrest, htext, hspan, hmatch'⟩
      rcases List.mem_cons.1 hspan with heq | hspan
      · cases heq
        obtain rfl : lead = [] := List.self_eq_append_left.1 htext
        rw [lastOf_nil, hmatch] at hmatch'
        cases hmatch'
        exact .inl rfl
      -- The later find is behind the whole of this one, so its lead begins with what has been
      -- passed.
      · obtain ⟨lead, rfl⟩ : ∃ lead', lead = passed ++ lead' := by
          obtain ⟨lead', hlead⟩ := suffix_of_mem_spans hp hspan
          rw [← hlead, ← List.append_assoc, List.append_cancel_right_eq] at htext
          exact ⟨lead', htext.symm⟩
        rw [List.append_assoc, List.append_cancel_left_eq] at htext
        rw [lastOf_append, lastOf_of_ne_nil hne] at hmatch'
        exact .inr ⟨lead, place, rest, hrest, htext, hspan, hmatch'⟩

/-- To replace every find by nothing is to cut the finds out. -/
theorem replaceFrom_eq_outside (before : Option Char) (text : List Char) :
    p.replaceFrom (fun _ => []) before text = outside text (p.spans before text) := by
  induction before, text using search_induction hp with
  | nil before =>
    rw [spans_nil, replaceFrom, segments]
    rfl
  | plain before c text hnone ih =>
    rw [replaceFrom_cons_none hnone, ih, spans_cons_none hnone]
    rcases hspans : p.spans (some c) text with - | ⟨⟨place, rest⟩, spans⟩
    · rfl
    · have hmem : (place, rest) ∈ p.spans (some c) text := hspans ▸ List.mem_cons_self
      have hlength := (suffix_of_mem_spans hp hmem).length_le
      rw [outside, outside, List.length_cons, Nat.succ_sub hlength, List.take_succ_cons,
        List.cons_append]
  | found before passed left a hleft hne hmatch ih =>
    rw [replaceFrom_found hmatch, ih, spans_found hmatch, outside, Nat.sub_self, List.take_zero]

/-- A pattern is found at a place just if it matches there and no earlier find reaches over the
place. -/
theorem mem_places_iff : place ∈ p.places before text ↔
    (∃ lead, text = lead ++ place ∧ (p (lastOf before lead) place).isSome = true) ∧
      ∀ find ∈ p.spans before text, ∀ passed, passed ≠ [] → find.1 = passed ++ place →
        place.length ≤ find.2.length := by
  induction before, text using search_induction hp with
  | nil before =>
    simp only [places, spans_nil, List.map_nil, List.not_mem_nil, false_iff]
    rintro ⟨⟨lead, heq, hmatch⟩, -⟩
    obtain ⟨rfl, rfl⟩ := List.append_eq_nil_iff.1 heq.symm
    obtain ⟨⟨a, rest, hrest⟩, -⟩ := Option.isSome_iff_exists.1 hmatch
    exact absurd hrest (Nat.not_lt_zero _)
  | plain before c text hnone ih =>
    rw [places, spans_cons_none hnone]
    refine ih.trans (and_congr_left fun _ => ?_)
    constructor
    · rintro ⟨lead, rfl, hmatch⟩
      have hlast := lastOf_append before [c] lead
      exact ⟨c :: lead, rfl, hlast ▸ hmatch⟩
    · rintro ⟨lead, heq, hmatch⟩
      cases lead with
      | nil =>
        rw [List.nil_append] at heq
        rw [← heq, lastOf_nil, hnone] at hmatch
        cases hmatch
      | cons d lead =>
        injection heq with hd htext
        subst hd
        have hlast := lastOf_append before [c] lead
        exact ⟨lead, htext, hlast ▸ hmatch⟩
  | found before passed left a hleft hne hmatch ih =>
    rw [places, spans_found hmatch, List.map_cons, List.mem_cons]
    have hlater : ∀ find ∈ p.spans passed.getLast? left, find.1.length ≤ left.length :=
      fun find hfind => (suffix_of_mem_spans hp hfind).length_le
    constructor
    · rintro (rfl | hplace)
      · refine ⟨⟨[], rfl, by rw [lastOf_nil, hmatch]; rfl⟩, ?_⟩
        -- Nothing begins earlier than the whole text.
        intro find hfind reach hreach heq
        have hlong := congrArg List.length heq
        have hpos := List.length_pos_iff.2 hreach
        rcases List.mem_cons.1 hfind with rfl | hfind
        · simp only [List.length_append] at hlong
          omega
        · have := hlater find hfind
          simp only [List.length_append] at hlong
          omega
      · obtain ⟨⟨lead, rfl, hfound⟩, hfree⟩ := ih.1 hplace
        refine ⟨⟨passed ++ lead, (List.append_assoc ..).symm, ?_⟩, ?_⟩
        · rw [lastOf_append, lastOf_of_ne_nil hne]
          exact hfound
        · intro find hfind reach hreach heq
          rcases List.mem_cons.1 hfind with rfl | hfind
          · simp
          · exact hfree find hfind reach hreach heq
    · rintro ⟨⟨lead, htext, hfound⟩, hfree⟩
      by_cases hlead : lead = []
      · subst hlead
        exact .inl htext.symm
      · -- The first find does not reach over the place, so the place is behind it.
        have hbehind : place.length ≤ left.length := hfree _ List.mem_cons_self lead hlead htext
        obtain ⟨lead, rfl⟩ : ∃ lead', lead = passed ++ lead' := by
          have hle : passed.length ≤ lead.length := by
            have hlong := congrArg List.length htext
            simp only [List.length_append] at hlong
            omega
          exact List.prefix_of_prefix_length_le ⟨left, rfl⟩ ⟨place, htext.symm⟩ hle |>.imp
            fun _ h => h.symm
        rw [List.append_assoc, List.append_cancel_left_eq] at htext
        refine .inr (ih.2 ⟨⟨lead, htext, ?_⟩, ?_⟩)
        · rw [lastOf_append, lastOf_of_ne_nil hne] at hfound
          exact hfound
        · exact fun find hfind => hfree find (List.mem_cons_of_mem _ hfind)

/-- There are as many finds as places of finds. -/
theorem length_places (before : Option Char) (text : List Char) :
    (p.places before text).length = (p.findsFrom before text).length := by
  rw [places, List.length_map]
  induction before, text using search_induction hp with
  | nil before =>
    rw [spans_nil, findsFrom_nil]
    rfl
  | plain before c text hnone ih => rw [spans_cons_none hnone, findsFrom_cons_none hnone, ih]
  | found before passed left a hleft hne hmatch ih =>
    rw [spans_found hmatch, findsFrom_found hmatch, List.length_cons, List.length_cons, ih]

/-- Whether a pattern occurs in a text can be told by trying every place. -/
theorem occursIn_iff : p.occursIn text = true ↔
    ∃ lead rest, text = lead ++ rest ∧ (p lead.getLast? rest).isSome = true := by
  have hplaces : p.occursIn text = true ↔ p.places none text ≠ [] := by
    rw [occursIn, Bool.not_eq_true', List.isEmpty_eq_false_iff, ← List.length_pos_iff,
      ← List.length_pos_iff, length_places hp]
    rfl
  rw [hplaces]
  constructor
  · intro hfound
    obtain ⟨place, hplace⟩ := List.exists_mem_of_ne_nil _ hfound
    obtain ⟨⟨lead, htext, hmatch⟩, -⟩ := (mem_places_iff hp).1 hplace
    exact ⟨lead, place, htext, lastOf_none lead ▸ hmatch⟩
  · rintro ⟨lead, rest, htext, hmatch⟩ hnil
    have hnone : p.spans none text = [] := List.map_eq_nil_iff.1 hnil
    have hplace : rest ∈ p.places none text := by
      refine (mem_places_iff hp).2 ⟨⟨lead, htext, lastOf_none lead ▸ hmatch⟩, ?_⟩
      rw [hnone]
      nofun
    rw [hnil] at hplace
    cases hplace

/-- Each find begins behind those before it. -/
theorem places_pairwise (before : Option Char) (text : List Char) :
    (p.places before text).Pairwise fun place later => later.length < place.length := by
  induction before, text using search_induction hp with
  | nil before =>
    rw [places, spans_nil]
    exact .nil
  | plain before c text hnone ih => rwa [places, spans_cons_none hnone]
  | found before passed left a hleft hne hmatch ih =>
    rw [places, spans_found hmatch, List.map_cons]
    refine List.pairwise_cons.2 ⟨fun later hlater => ?_, ih⟩
    obtain ⟨find, hfind, rfl⟩ := List.mem_map.1 hlater
    exact Nat.lt_of_le_of_lt (suffix_of_mem_spans hp hfind).length_le hleft

end

end Pattern

end DrawPass.Text
