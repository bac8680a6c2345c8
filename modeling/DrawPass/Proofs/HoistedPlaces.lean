/-
DrawPass/Proofs/HoistedPlaces.lean

Where varyings are hoisted from, and where their words are taken away.

Two passes go over a snippet.  Hoisting looks at the text without its comments and wants a whole
declaration, up to its semicolon (`hoistedPlaces`); taking the words away looks at the text as it
stands and wants the word, blanks and a type (`strippedPlaces`).  Places of both kinds are told by
what of the snippet is left there, so that they can be compared.  They are not the same for every
snippet: `Regular` lists the five ways in which a place can be of one kind only, and without them
the two passes agree (`hoistedPlaces_eq_strippedPlaces_iff`).
-/
import DrawPass.Proofs.Commented
import DrawPass.Proofs.Searched
import Mathlib.Data.List.Infix

namespace DrawPass.Shader

open Text

variable {before : Option Char} {c : Char} {text code rest place : List Char}

/-! ### Places outside of comments -/

/-- The places of a text at which a character outside of comments stands. -/
def codePlaces (text : List Char) : List (List Char) :=
  match text with
  | [] => []
  | c :: cs =>
    match comment none (c :: cs) with
    | some ((), ⟨rest, _⟩) => codePlaces rest
    | none => (c :: cs) :: codePlaces cs
termination_by text.length
decreasing_by
  · assumption
  · exact Nat.lt_succ_self cs.length

theorem codePlaces_nil : codePlaces [] = [] := by
  rw [codePlaces]

theorem codePlaces_cons (h : comment none (c :: text) = none) :
    codePlaces (c :: text) = (c :: text) :: codePlaces text := by
  rw [codePlaces, h]

theorem codePlaces_block (h : afterClose text = some rest) :
    codePlaces ('/' :: '*' :: text) = codePlaces rest := by
  obtain ⟨hrest, hfound⟩ := comment_block h
  rw [codePlaces, hfound]

theorem codePlaces_line :
    codePlaces ('/' :: '/' :: text) = codePlaces (text.dropWhile (· != '\n')) := by
  rw [codePlaces, comment.eq_2]

/-- A reader who passes over comments comes to every place outside of them, and reads the
character there. -/
theorem readsTo_of_mem_codePlaces (h : place ∈ codePlaces text) :
    ∃ code c rest, place = c :: rest ∧ comment none place = none ∧ ReadsTo text code place := by
  induction text using comment_induction with
  | nil =>
    rw [codePlaces_nil] at h
    cases h
  | char c text hnone ih =>
    rw [codePlaces_cons hnone, List.mem_cons] at h
    rcases h with rfl | h
    · exact ⟨[], c, text, rfl, hnone, .here _⟩
    · obtain ⟨code, d, rest, hplace, hfree, hreads⟩ := ih h
      exact ⟨c :: code, d, rest, hplace, hfree, .char hnone hreads⟩
  | block text rest hclose ih =>
    rw [codePlaces_block hclose] at h
    obtain ⟨code, d, rest, hplace, hfree, hreads⟩ := ih h
    exact ⟨code, d, rest, hplace, hfree, .block hclose hreads⟩
  | line text ih =>
    rw [codePlaces_line] at h
    obtain ⟨code, d, rest, hplace, hfree, hreads⟩ := ih h
    exact ⟨code, d, rest, hplace, hfree, .line hreads⟩

/-- The places outside of comments are the places of the text without its comments. -/
theorem map_stripComments_codePlaces (text : List Char) :
    (codePlaces text).map stripComments ++ [[]] = (stripComments text).tails := by
  induction text using comment_induction with
  | nil =>
    rw [codePlaces_nil, stripComments_nil]
    rfl
  | char c text hnone ih =>
    rw [codePlaces_cons hnone, List.map_cons, stripComments_cons hnone, List.tails_cons,
      List.cons_append, ih]
  | block text rest hclose ih => rw [codePlaces_block hclose, stripComments_block hclose, ih]
  | line text ih => rw [codePlaces_line, stripComments_toLineEnd, ih]

/-- Before a place there is in the text what is there without the comments, or the end of one. -/
theorem ReadsTo.getLast?_lead (h : ReadsTo text code place) (hne : place ≠ [])
    (hline : place.head? ≠ some '\n') :
    ∃ lead, text = lead ++ place ∧
      (lead.getLast? = code.getLast? ∨ lead.getLast? = some '/') := by
  induction h with
  | here => exact ⟨[], rfl, .inl rfl⟩
  | @char c text code place hnone h ih =>
    obtain ⟨lead, rfl, hlast⟩ := ih hne hline
    refine ⟨c :: lead, rfl, ?_⟩
    rw [List.getLast?_cons, List.getLast?_cons]
    rcases hlast with hlast | hlast
    · exact .inl (by rw [hlast])
    · exact .inr (by rw [hlast, Option.getD_some])
  | @block text inner code place hclose h ih =>
    obtain ⟨lead, rfl, hlast⟩ := ih hne hline
    obtain ⟨inside, rfl⟩ := afterClose_eq_some hclose
    have hmark : ('/' :: '*' :: (inside ++ ['*', '/'])).getLast? = some '/' := by
      simp [List.getLast?_cons]
    refine ⟨'/' :: '*' :: (inside ++ ['*', '/']) ++ lead, by simp, ?_⟩
    rw [List.getLast?_append, hmark]
    cases hlead : lead.getLast? with
    | none => exact .inr rfl
    | some d =>
      rw [hlead] at hlast
      exact hlast
  | @line text code place h ih =>
    obtain ⟨lead, hlead, hlast⟩ := ih hne hline
    refine ⟨'/' :: '/' :: (text.takeWhile (· != '\n')) ++ lead, ?_, ?_⟩
    · rw [List.append_assoc, ← hlead, List.cons_append, List.cons_append,
        List.takeWhile_append_dropWhile]
    · -- Such a comment ends in front of a line feed, so the place is further on.
      have hfurther : lead ≠ [] := by
        rintro rfl
        obtain ⟨d, rest, rfl⟩ := List.exists_cons_of_ne_nil hne
        have hfeed := List.head?_dropWhile_not (· != '\n') text
        rw [hlead] at hfeed
        exact hline (by simpa using hfeed)
      rw [List.getLast?_append_of_ne_nil _ hfurther]
      exact hlast

/-! ### Declarations -/

/-- What is found is the word with what follows it up to the next semicolon. -/
theorem varyingDeclaration_inv {d : List Char} {hrest : rest.length < text.length}
    (h : varyingDeclaration before text = some (d, ⟨rest, hrest⟩)) :
    atWordStart before = true ∧ ∃ body, text = varyingKeyword ++ (body ++ ';' :: rest) ∧
      ';' ∉ body ∧ body.head?.any isBlank = true ∧ 2 ≤ body.length := by
  unfold varyingDeclaration at h
  split at h
  case isFalse => cases h
  case isTrue hstart =>
  split at h
  · rename_i after hafter
    dsimp only at h
    split at h
    · rename_i semicolon rest' hdrop
      split at h
      case isFalse => cases h
      case isTrue hbody =>
      obtain ⟨hblank, hlength⟩ := Bool.and_eq_true_iff.1 hbody
      cases h
      obtain ⟨hafter', hfirst⟩ := eq_takeWhile_append_cons hdrop
      exact ⟨hstart, _, (afterKeyword_eq_some_iff.1 hafter).trans (congrArg _ hafter'), hfirst,
        hblank, of_decide_eq_true hlength⟩
    · cases h
  · cases h

theorem cuts_varyingDeclaration : varyingDeclaration.Cuts := by
  intro before text d rest hrest h
  obtain ⟨-, body, rfl, -⟩ := varyingDeclaration_inv h
  exact ⟨varyingKeyword ++ (body ++ [';']), by simp⟩

/-- Where a declaration is found: a word begins, and it is the word of a whole declaration. -/
theorem isSome_varyingDeclaration_iff : (varyingDeclaration before text).isSome = true ↔
    atWordStart before = true ∧ ∃ body rest, text = varyingKeyword ++ (body ++ ';' :: rest) ∧
      ';' ∉ body ∧ body.head?.any isBlank = true ∧ 2 ≤ body.length := by
  constructor
  · intro h
    obtain ⟨⟨d, rest, hrest⟩, hfound⟩ := Option.isSome_iff_exists.1 h
    obtain ⟨hstart, body, hbody⟩ := varyingDeclaration_inv hfound
    exact ⟨hstart, body, rest, hbody⟩
  · rintro ⟨hstart, body, rest, rfl, hbody, hblank, hlength⟩
    obtain ⟨hrest, hfound⟩ := varyingDeclaration_eq_some hstart hblank hlength hbody rest
    rw [hfound]
    rfl

/-- A declaration that has been found goes up to the first semicolon. -/
theorem mem_spans_varyingDeclaration
    (h : (place, rest) ∈ varyingDeclaration.spans before text) :
    ∃ front, place = front ++ ';' :: rest ∧ ';' ∉ front := by
  obtain ⟨lead, d, hrest, -, hmatch⟩ := Pattern.match_of_mem_spans cuts_varyingDeclaration h
  obtain ⟨-, body, rfl, hbody, -⟩ := varyingDeclaration_inv hmatch
  have hkeyword : ';' ∉ varyingKeyword := by decide
  exact ⟨varyingKeyword ++ body, (List.append_assoc ..).symm, by simp [hkeyword, hbody]⟩

/-- A declaration is found at a place unless the place is within one that begins earlier, that is,
unless there is no semicolon between. -/
theorem mem_places_varyingDeclaration_iff :
    place ∈ varyingDeclaration.places none text ↔
      (∃ lead, text = lead ++ place ∧
        (varyingDeclaration lead.getLast? place).isSome = true) ∧
      ∀ earlier ∈ varyingDeclaration.places none text, ∀ passed, passed ≠ [] →
        earlier = passed ++ place → ';' ∈ passed := by
  rw [Pattern.mem_places_iff cuts_varyingDeclaration]
  simp only [Pattern.lastOf_none]
  refine and_congr_right fun _ => ?_
  constructor
  -- The earlier find ends with its semicolon and does not reach over the place, so the semicolon is
  -- passed.
  · intro hfree earlier hearlier passed hne heq
    obtain ⟨⟨start, rest⟩, hfind, rfl⟩ := List.mem_map.1 hearlier
    obtain ⟨front, hfront, -⟩ := mem_spans_varyingDeclaration hfind
    have hlength := hfree _ hfind passed hne heq
    have hwhole : passed ++ place = (front ++ [';']) ++ rest := by
      rw [← heq, List.append_assoc]
      exact hfront
    have hprefix : front ++ [';'] <+: passed := by
      refine List.prefix_of_prefix_length_le ⟨rest, rfl⟩ (hwhole ▸ ⟨place, rfl⟩) ?_
      have htotal := congrArg List.length hwhole
      simp only [List.length_append, List.length_singleton] at htotal hlength ⊢
      omega
    exact hprefix.subset (by simp)
  -- A find ends with its first semicolon, which is before the place.
  · intro hsemicolon find hfind passed hne heq
    obtain ⟨front, hfront, hfirst⟩ := mem_spans_varyingDeclaration hfind
    have hmem := hsemicolon _ (List.mem_map_of_mem hfind) passed hne heq
    obtain ⟨front', behind, rfl, hfirst'⟩ := List.eq_append_cons_of_mem hmem
    rw [heq, List.append_assoc] at hfront
    obtain ⟨-, hrest⟩ := append_cons_inj hfirst' hfirst hfront
    exact hrest ▸ (List.suffix_append behind place).length_le

/-! ### Words and types -/

/-- The word, blanks and a type. -/
def BeginsPrefix (text : List Char) : Prop :=
  ∃ gap type rest, text = varyingKeyword ++ (gap ++ (type ++ rest)) ∧ Blank gap ∧ gap ≠ [] ∧
    Word type

theorem takeWhile_ne_nil {p : Char → Bool} (h : text.head?.any p = true) :
    text.takeWhile p ≠ [] := by
  cases text with
  | nil => cases h
  | cons c text =>
    have hc : p c = true := h
    rw [List.takeWhile_cons_of_pos hc]
    exact List.cons_ne_nil _ _

/-- What is taken away is the word, all blanks behind it and the whole word behind those. -/
theorem varyingPrefix_inv {hrest : rest.length < text.length}
    (h : varyingPrefix before text = some ((), ⟨rest, hrest⟩)) :
    atWordStart before = true ∧ ∃ gap type, text = varyingKeyword ++ (gap ++ (type ++ rest)) ∧
      Blank gap ∧ gap ≠ [] ∧ Word type := by
  unfold varyingPrefix at h
  split at h
  case isFalse => cases h
  case isTrue hstart =>
  split at h
  · rename_i after hafter
    dsimp only at h
    split at h
    case isFalse => cases h
    case isTrue hprefix =>
    obtain ⟨hblank, hword⟩ := Bool.and_eq_true_iff.1 hprefix
    cases h
    refine ⟨hstart, after.takeWhile isBlank, (after.dropWhile isBlank).takeWhile isWord, ?_,
      fun c hc => List.mem_takeWhile_imp hc, takeWhile_ne_nil hblank, takeWhile_ne_nil hword,
      fun c hc => List.mem_takeWhile_imp hc⟩
    rw [List.takeWhile_append_dropWhile, List.takeWhile_append_dropWhile]
    exact afterKeyword_eq_some_iff.1 hafter
  · cases h

theorem cuts_varyingPrefix : varyingPrefix.Cuts := by
  intro before text u rest hrest h
  obtain ⟨-, gap, type, rfl, -⟩ := varyingPrefix_inv h
  exact ⟨varyingKeyword ++ (gap ++ type), by simp⟩

/-- Where a prefix is found: a word begins, and it is followed by a type. -/
theorem isSome_varyingPrefix_iff : (varyingPrefix before text).isSome = true ↔
    atWordStart before = true ∧ BeginsPrefix text := by
  constructor
  · intro h
    obtain ⟨⟨⟨⟩, rest, hrest⟩, hfound⟩ := Option.isSome_iff_exists.1 h
    obtain ⟨hstart, gap, type, hprefix⟩ := varyingPrefix_inv hfound
    exact ⟨hstart, gap, type, rest, hprefix⟩
  · rintro ⟨hstart, gap, type, rest, rfl, hgap, hne, htype⟩
    -- The blanks are passed over, and what is behind them is a word.
    have hdrop : (gap ++ (type ++ rest)).dropWhile isBlank = type ++ rest := by
      rw [List.dropWhile_append_of_pos hgap, htype.dropWhile_isBlank]
    have hblank : (gap ++ (type ++ rest)).head?.any isBlank = true := by
      obtain ⟨c, gap, rfl⟩ := List.exists_cons_of_ne_nil hne
      exact hgap c List.mem_cons_self
    have hword : (type ++ rest).head?.any isWord = true := by
      obtain ⟨c, type, rfl⟩ := List.exists_cons_of_ne_nil htype.ne_nil
      exact htype.isWord c List.mem_cons_self
    unfold varyingPrefix
    rw [if_pos hstart]
    split
    · rename_i after hafter
      obtain rfl := List.append_cancel_left (afterKeyword_eq_some_iff.1 hafter)
      dsimp only
      rw [if_pos]
      · rfl
      · rw [hdrop, hblank, hword]
        rfl
    · rename_i hafter
      cases hafter.symm.trans (afterKeyword_eq_some_iff.2 rfl)

/-- A word character in front of it keeps a word from beginning. -/
theorem atWordStart_append_word {lead word : List Char} (h : Word word) :
    atWordStart (lead ++ word).getLast? = false := by
  obtain ⟨front, c, rfl⟩ := (List.eq_nil_or_concat word).resolve_left h.ne_nil
  have hc := h.isWord c (by simp)
  simp [atWordStart, hc]

/-- If the word begins within a prefix, it begins where the type of that prefix does. -/
theorem passed_eq_of_reaches {passed gap type : List Char} (hplace : BeginsPrefix place)
    (hpassed : passed ≠ []) (hstart : atWordStart passed.getLast? = true)
    (heq : passed ++ place = varyingKeyword ++ (gap ++ (type ++ rest))) (hgap : Blank gap)
    (htype : Word type) (hreach : rest.length < place.length) :
    passed = varyingKeyword ++ gap := by
  have hkeyword : Word varyingKeyword := by decide
  -- No word begins behind a part of a word.
  have hinside {lead word more : List Char} (hword : Word (word ++ more))
      (hpassed : passed = lead ++ word) : word = [] := by
    by_contra hne
    have hpart : Word word := ⟨hne, fun c hc => hword.isWord c (List.mem_append_left _ hc)⟩
    rw [hpassed, atWordStart_append_word hpart] at hstart
    cases hstart
  rcases List.append_eq_append_iff.1 heq with ⟨more, hkeyword', -⟩ | ⟨front, rfl, hfront⟩
  · exact absurd (hinside (hkeyword' ▸ hkeyword) (List.nil_append passed).symm) hpassed
  · rcases List.append_eq_append_iff.1 hfront with ⟨more, rfl, hmore⟩ | ⟨within, rfl, hwithin⟩
    · rcases List.append_eq_append_iff.1 hmore with ⟨behind, rfl, rfl⟩ | ⟨behind, rfl, -⟩
      · rw [List.length_append] at hreach
        omega
      · rw [hinside htype (List.append_assoc ..).symm, List.append_nil]
    · cases within with
      | nil => rw [List.append_nil]
      | cons c within =>
        -- What is left of the blanks begins with a blank, and the place does not.
        obtain ⟨_, _, _, rfl, -⟩ := hplace
        obtain ⟨rfl, -⟩ := List.cons.inj hwithin
        exact absurd (hgap 'v' (by simp)) (by decide)

/-- A prefix is found at a place unless the word there is taken for the type of an earlier one. -/
theorem mem_places_varyingPrefix_iff :
    place ∈ varyingPrefix.places none text ↔
      (∃ lead, text = lead ++ place ∧ atWordStart lead.getLast? = true) ∧ BeginsPrefix place ∧
      ∀ gap, Blank gap → gap ≠ [] →
        varyingKeyword ++ (gap ++ place) ∉ varyingPrefix.places none text := by
  rw [Pattern.mem_places_iff cuts_varyingPrefix]
  simp only [Pattern.lastOf_none, isSome_varyingPrefix_iff]
  constructor
  · rintro ⟨⟨lead, htext, hstart, hbegins⟩, hfree⟩
    refine ⟨⟨lead, htext, hstart⟩, hbegins, ?_⟩
    intro gap hgap hne hearlier
    obtain ⟨⟨start, rest⟩, hfind, hspan⟩ := List.mem_map.1 hearlier
    obtain ⟨lead', ⟨⟩, hrest, -, hmatch⟩ := Pattern.match_of_mem_spans cuts_varyingPrefix hfind
    obtain ⟨-, gap', type, rfl, hgap', -, htype⟩ := varyingPrefix_inv hmatch
    have heq : gap' ++ (type ++ rest) = gap ++ place := List.append_cancel_left hspan
    -- The type follows the same blanks, so it begins at the place.
    obtain rfl : type ++ rest = place := by
      obtain ⟨_, _, _, rfl, -⟩ := hbegins
      have hkeyword : Word varyingKeyword := by decide
      have hdrop := congrArg (List.dropWhile isBlank) heq
      rwa [List.dropWhile_append_of_pos hgap', List.dropWhile_append_of_pos hgap,
        htype.dropWhile_isBlank, hkeyword.dropWhile_isBlank] at hdrop
    have hpast := hfree _ hfind (varyingKeyword ++ gap) (by simp [hne]) (by simp [← heq])
    have hlength := List.length_pos_iff.2 htype.ne_nil
    simp only [List.length_append] at hpast
    omega
  · rintro ⟨⟨lead, htext, hstart⟩, hbegins, hfree⟩
    refine ⟨⟨lead, htext, hstart, hbegins⟩, ?_⟩
    intro find hfind passed hne heq
    obtain ⟨lead', ⟨⟩, hrest, hlead', hmatch⟩ :=
      Pattern.match_of_mem_spans cuts_varyingPrefix hfind
    obtain ⟨-, gap, type, hspan, hgap, hgapne, htype⟩ := varyingPrefix_inv hmatch
    by_contra hshort
    refine hfree gap hgap hgapne ?_
    have hpassed : passed = varyingKeyword ++ gap := by
      refine passed_eq_of_reaches hbegins hne ?_ (heq ▸ hspan) hgap htype (Nat.lt_of_not_le hshort)
      rw [heq, ← List.append_assoc] at hlead'
      have hlead : lead = lead' ++ passed := List.append_cancel_right (htext ▸ hlead')
      rwa [hlead, List.getLast?_append_of_ne_nil _ hne] at hstart
    rw [← List.append_assoc, ← hpassed, ← heq]
    exact List.mem_map_of_mem hfind

/-! ### The two passes -/

/-- The declarations that are hoisted out of a snippet. -/
def hoisted (vertex : List Char) : List (List Char) :=
  (varyingDeclaration.findAll (stripComments vertex)).map fun declaration =>
    initializer.replaceAll (fun _ => []) (dropParens declaration)

/-- The places at which the declarations begin that are hoisted. -/
def hoistedPlaces (vertex : List Char) : List (List Char) :=
  (codePlaces vertex).filter fun place =>
    stripComments place ∈ varyingDeclaration.places none (stripComments vertex)

/-- The places outside of comments at which a word and a type are taken away. -/
def strippedPlaces (vertex : List Char) : List (List Char) :=
  (codePlaces vertex).filter (· ∈ varyingPrefix.places none vertex)

/-- A snippet in which the two passes find the same declarations. -/
structure Regular (vertex : List Char) : Prop where
  /-- A declaration that is hoisted has a type, and no comment stands in front of the type. -/
  typed : ∀ place ∈ hoistedPlaces vertex, BeginsPrefix place
  /-- Its word is not taken for the type of another one, as it is if the line before it is a
  comment that ends with the word. -/
  untaken : ∀ place ∈ hoistedPlaces vertex, ∀ gap, Blank gap → gap ≠ [] →
    varyingKeyword ++ (gap ++ place) ∉ varyingPrefix.places none vertex
  /-- A word that is taken away still begins as a word if the comments are gone. -/
  whole : ∀ place ∈ strippedPlaces vertex, ∀ code, ReadsTo vertex code place →
    atWordStart code.getLast? = true
  /-- There is a semicolon behind it. -/
  closed : ∀ place ∈ strippedPlaces vertex, ';' ∈ stripComments place
  /-- It does not stand within another declaration that is hoisted. -/
  single : ∀ place ∈ strippedPlaces vertex, ∀ earlier ∈ hoistedPlaces vertex, ∀ passed,
    passed ≠ [] → stripComments earlier = passed ++ stripComments place → ';' ∈ passed

section

variable {vertex : List Char}

theorem mem_hoistedPlaces_iff : place ∈ hoistedPlaces vertex ↔ place ∈ codePlaces vertex ∧
    stripComments place ∈ varyingDeclaration.places none (stripComments vertex) := by
  rw [hoistedPlaces, List.mem_filter, decide_eq_true_iff]

theorem mem_strippedPlaces_iff : place ∈ strippedPlaces vertex ↔
    place ∈ codePlaces vertex ∧ place ∈ varyingPrefix.places none vertex := by
  rw [strippedPlaces, List.mem_filter, decide_eq_true_iff]

/-- Every find in the text without comments is made at a place of the snippet. -/
theorem exists_codePlace (h : place ∈ varyingDeclaration.places none (stripComments vertex)) :
    ∃ here ∈ codePlaces vertex, stripComments here = place := by
  obtain ⟨⟨lead, htext, hmatch⟩, -⟩ := mem_places_varyingDeclaration_iff.1 h
  have hne : place ≠ [] := by
    obtain ⟨-, body, rest, rfl, -⟩ := isSome_varyingDeclaration_iff.1 hmatch
    simp [varyingKeyword]
  have hmem : place ∈ (codePlaces vertex).map stripComments ++ [[]] := by
    rw [map_stripComments_codePlaces, List.mem_tails]
    exact ⟨lead, htext.symm⟩
  rcases List.mem_append.1 hmem with hmem | hmem
  · exact List.mem_map.1 hmem
  · exact absurd (List.mem_singleton.1 hmem) hne

/-- Different places are different without the comments. -/
theorem nodup_codePlaces (vertex : List Char) :
    ((codePlaces vertex).map stripComments).Nodup := by
  have htails (text : List Char) : text.tails.Nodup := by
    induction text with
    | nil => exact List.pairwise_singleton ..
    | cons c text ih =>
      rw [List.tails_cons, List.nodup_cons, List.mem_tails]
      exact ⟨fun h => absurd h.length_le (Nat.not_succ_le_self _), ih⟩
  have hall := htails (stripComments vertex)
  rw [← map_stripComments_codePlaces] at hall
  exact hall.sublist (List.sublist_append_left ..)

/-- Each declaration that is hoisted begins at a place of its own. -/
theorem length_hoistedPlaces (vertex : List Char) :
    (hoistedPlaces vertex).length = (hoisted vertex).length := by
  have hperm : ((hoistedPlaces vertex).map stripComments).Perm
      (varyingDeclaration.places none (stripComments vertex)) := by
    refine (List.perm_ext_iff_of_nodup ?_ ?_).2 fun place => ?_
    · exact (nodup_codePlaces vertex).sublist (List.filter_sublist.map _)
    · refine (Pattern.places_pairwise cuts_varyingDeclaration none _).imp ?_
      rintro place later hlater rfl
      exact absurd hlater (Nat.lt_irrefl _)
    · rw [List.mem_map]
      constructor
      · rintro ⟨here, hhere, rfl⟩
        exact (mem_hoistedPlaces_iff.1 hhere).2
      · intro h
        obtain ⟨here, hhere, rfl⟩ := exists_codePlace h
        exact ⟨here, mem_hoistedPlaces_iff.2 ⟨hhere, h⟩, rfl⟩
  have hlength := hperm.length_eq
  rw [List.length_map, Pattern.length_places cuts_varyingDeclaration] at hlength
  rw [hlength, hoisted, List.length_map]
  rfl

/-- A place is hoisted from if a declaration begins there when the comments are gone. -/
theorem declaration_of_mem_hoistedPlaces (h : place ∈ hoistedPlaces vertex)
    (hreads : ReadsTo vertex code place) : atWordStart code.getLast? = true ∧
      ∃ body rest, stripComments place = varyingKeyword ++ (body ++ ';' :: rest) := by
  obtain ⟨⟨lead, htext, hmatch⟩, -⟩ :=
    mem_places_varyingDeclaration_iff.1 (mem_hoistedPlaces_iff.1 h).2
  rw [hreads.stripComments_eq] at htext
  obtain rfl := List.append_cancel_right htext
  obtain ⟨hstart, body, rest, hbody, -⟩ := isSome_varyingDeclaration_iff.1 hmatch
  exact ⟨hstart, body, rest, hbody⟩

theorem mem_strippedPlaces_of_mem_hoistedPlaces (hregular : Regular vertex)
    (h : place ∈ hoistedPlaces vertex) : place ∈ strippedPlaces vertex := by
  have hcode := (mem_hoistedPlaces_iff.1 h).1
  obtain ⟨code, c, rest, rfl, hfree, hreads⟩ := readsTo_of_mem_codePlaces hcode
  obtain ⟨hstart, body, after, hbody⟩ := declaration_of_mem_hoistedPlaces h hreads
  have hline : (c :: rest).head? ≠ some '\n' := by
    rw [stripComments_cons hfree] at hbody
    obtain ⟨rfl, -⟩ := List.cons.inj hbody
    simp
  obtain ⟨lead, htext, hlast⟩ := hreads.getLast?_lead (List.cons_ne_nil _ _) hline
  refine mem_strippedPlaces_iff.2 ⟨hcode, mem_places_varyingPrefix_iff.2
    ⟨⟨lead, htext, ?_⟩, hregular.typed _ h, hregular.untaken _ h⟩⟩
  rcases hlast with hlast | hlast
  · rw [hlast, hstart]
  · rw [hlast]
    decide

/-- A word and a type make a declaration of what follows them up to a semicolon. -/
theorem BeginsPrefix.isSome_varyingDeclaration (h : BeginsPrefix place)
    (hstart : atWordStart before = true) (hclosed : ';' ∈ stripComments place) :
    (varyingDeclaration before (stripComments place)).isSome = true := by
  obtain ⟨gap, type, rest, hbegins, hgap, hne, htype⟩ := h
  have hkept : stripComments place =
      varyingKeyword ++ (gap ++ type) ++ stripComments rest := by
    have hplain : '/' ∉ varyingKeyword ++ (gap ++ type) := by
      simp [varyingKeyword, hgap.not_mem (c := '/') rfl, htype.not_mem (c := '/') rfl]
    rw [hbegins, ← stripComments_append hplain]
    simp
  obtain ⟨front, after, hafter, hfront⟩ : ∃ front after,
      stripComments rest = front ++ ';' :: after ∧ ';' ∉ front := by
    refine List.eq_append_cons_of_mem ?_
    rw [hkept] at hclosed
    simpa [varyingKeyword, hgap.not_mem (c := ';') rfl, htype.not_mem (c := ';') rfl]
      using hclosed
  refine isSome_varyingDeclaration_iff.2
    ⟨hstart, gap ++ (type ++ front), after, ?_, ?_, ?_, ?_⟩
  · rw [hkept, hafter]
    simp
  · simp [hgap.not_mem (c := ';') rfl, htype.not_mem (c := ';') rfl, hfront]
  · obtain ⟨c, gap, rfl⟩ := List.exists_cons_of_ne_nil hne
    exact hgap c List.mem_cons_self
  · have hgap := List.length_pos_iff.2 hne
    have htype := List.length_pos_iff.2 htype.ne_nil
    simp only [List.length_append]
    omega

theorem mem_hoistedPlaces_of_mem_strippedPlaces (hregular : Regular vertex)
    (h : place ∈ strippedPlaces vertex) : place ∈ hoistedPlaces vertex := by
  obtain ⟨hcode, hplace⟩ := mem_strippedPlaces_iff.1 h
  obtain ⟨code, -, -, -, -, hreads⟩ := readsTo_of_mem_codePlaces hcode
  have hbegins := (mem_places_varyingPrefix_iff.1 hplace).2.1
  have hmatch := hbegins.isSome_varyingDeclaration (hregular.whole place h code hreads)
    (hregular.closed place h)
  refine mem_hoistedPlaces_iff.2 ⟨hcode, mem_places_varyingDeclaration_iff.2
    ⟨⟨code, hreads.stripComments_eq, hmatch⟩, ?_⟩⟩
  intro earlier hearlier passed hpassed heq
  obtain ⟨here, hhere, rfl⟩ := exists_codePlace hearlier
  exact hregular.single place h here (mem_hoistedPlaces_iff.2 ⟨hhere, hearlier⟩) passed hpassed heq

theorem regular_of_eq (h : hoistedPlaces vertex = strippedPlaces vertex) : Regular vertex where
  typed place hplace :=
    (mem_places_varyingPrefix_iff.1 (mem_strippedPlaces_iff.1 (h ▸ hplace)).2).2.1
  untaken place hplace :=
    (mem_places_varyingPrefix_iff.1 (mem_strippedPlaces_iff.1 (h ▸ hplace)).2).2.2
  whole place hplace code hreads :=
    (declaration_of_mem_hoistedPlaces (h ▸ hplace) hreads).1
  closed place hplace := by
    obtain ⟨code, -, -, -, -, hreads⟩ :=
      readsTo_of_mem_codePlaces (mem_strippedPlaces_iff.1 hplace).1
    obtain ⟨-, body, rest, hbody⟩ := declaration_of_mem_hoistedPlaces (h ▸ hplace) hreads
    rw [hbody]
    simp
  single place hplace earlier hearlier passed hpassed heq :=
    (mem_places_varyingDeclaration_iff.1 (mem_hoistedPlaces_iff.1 (h ▸ hplace)).2).2 _
      (mem_hoistedPlaces_iff.1 hearlier).2 passed hpassed heq

/-- The declarations that are hoisted are as many as the places they begin at.  What is taken away
is cut out of the snippet, and outside of comments it begins at the same places just if the snippet
is regular. -/
theorem hoistedPlaces_eq_strippedPlaces_iff (vertex : List Char) :
    extractVaryings vertex = joinWith ['\n'] (hoisted vertex) ∧
      stripVaryings vertex = Pattern.outside vertex (varyingPrefix.spans none vertex) ∧
      (hoistedPlaces vertex).length = (hoisted vertex).length ∧
      (hoistedPlaces vertex = strippedPlaces vertex ↔ Regular vertex) ∧
      (Regular vertex → (hoisted vertex).length = (strippedPlaces vertex).length) := by
  have heq : hoistedPlaces vertex = strippedPlaces vertex ↔ Regular vertex := by
    refine ⟨regular_of_eq, fun hregular => ?_⟩
    refine List.filter_congr fun place hcode => decide_eq_decide.2 ⟨fun h => ?_, fun h => ?_⟩
    · exact (mem_strippedPlaces_iff.1 (mem_strippedPlaces_of_mem_hoistedPlaces hregular
        (mem_hoistedPlaces_iff.2 ⟨hcode, h⟩))).2
    · exact (mem_hoistedPlaces_iff.1 (mem_hoistedPlaces_of_mem_strippedPlaces hregular
        (mem_strippedPlaces_iff.2 ⟨hcode, h⟩))).2
  have hlength := length_hoistedPlaces vertex
  have hstrip := Pattern.replaceFrom_eq_outside cuts_varyingPrefix none vertex
  exact ⟨rfl, hstrip, hlength, heq, fun hregular => by rw [← hlength, heq.2 hregular]⟩

/-- The last statement of a snippet may be a declaration without a semicolon, which the wrapper
supplies.  Such a declaration loses its word and its type, but it is not hoisted. -/
example : hoistedPlaces "P = p; varying float v".toList = [] ∧
    strippedPlaces "P = p; varying float v".toList = ["varying float v".toList] := by
  decide +kernel

end

end DrawPass.Shader
