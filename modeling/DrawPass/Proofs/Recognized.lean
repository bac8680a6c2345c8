/-
DrawPass/Proofs/Recognized.lean

What the device finds declared, the engine finds declared.

Both go over the same text without its comments, but the device wants the keyword to begin a word
and the engine takes it wherever it stands.  So an identifier that ends in the keyword begins a
declaration for the engine alone, and that declaration may run over one that the device finds.
Then both end with the same semicolon, and the names of the longer one include those of the
shorter one (`Declaration.words_names_subset`).  Hence wherever a declaration can be read its names
are declared, whether or not the search comes by there (`exists_find_of_match`).
-/
import DrawPass.Proofs.Rescanned
import DrawPass.Proofs.Scanned
import DrawPass.Proofs.Wrapped

namespace DrawPass

open Gl Text

namespace Uniform

variable {before : Option Char} {text lead rest name piece blanks separated : List Char}
  {d : Declaration}

/-! ### Words of parts of a text -/

/-- What begins with a blank has no word that goes on in front of it. -/
theorem words_subset_of_suffix (hsuffix : separated <:+ text)
    (hblank : separated.head?.any isBlank = true) : words separated ⊆ words text := by
  obtain ⟨lead, rfl⟩ := hsuffix
  cases separated with
  | nil => cases hblank
  | cons c separated =>
    have hc : isWord c = false := isWord_of_isBlank hblank
    rw [words_cons hc, words_append hc]
    exact List.subset_append_right ..

theorem words_subset_intercalate {pieces : List (List Char)} (hpiece : piece ∈ pieces) :
    words piece ⊆ words ([','].intercalate pieces) := by
  induction pieces with
  | nil => cases hpiece
  | cons first pieces ih =>
    cases pieces with
    | nil => rw [List.mem_singleton.1 hpiece, List.intercalate_singleton]; exact fun _ h => h
    | cons second pieces =>
      rw [List.intercalate_cons_cons, List.append_assoc, List.singleton_append, words_append rfl]
      rcases List.mem_cons.1 hpiece with rfl | hpiece
      · exact List.subset_append_left ..
      · exact List.Subset.trans (ih hpiece) (List.subset_append_right ..)

/-- Each of the names between commas is among all of them. -/
theorem words_subset_of_mem_splitOn (hpiece : piece ∈ text.splitOn ',') :
    words piece ⊆ words text := by
  have hsubset := words_subset_intercalate hpiece
  rwa [List.intercalate_splitOn] at hsubset

/-- A word with blanks in front of it that does not go on is one of the words of a text. -/
theorem mem_words_of_blank (hblanks : Blank blanks) (hname : Word name)
    (hrest : ∀ c ∈ rest.head?, isWord c = false) : name ∈ words (blanks ++ (name ++ rest)) := by
  rw [← words_dropWhile_isBlank, List.dropWhile_append_of_pos hblanks, hname.dropWhile_isBlank]
  cases rest with
  | nil =>
    rw [List.append_nil, words_word hname]
    exact List.mem_singleton_self name
  | cons c rest =>
    rw [words_append (hrest c rfl), words_word hname]
    exact List.mem_cons_self

/-! ### Declarations that run over others -/

/-- A declaration that ends like another one has all of its names. -/
theorem Declaration.words_names_subset {inside : List Char} {inner outer : Declaration}
    (houter : Declaration.ofBody? (lead ++ (keyword ++ inside)) = some outer)
    (hinner : Declaration.ofBody? inside = some inner) :
    words inner.names ⊆ words outer.names := by
  obtain ⟨blanks, separated, hbody, hblanks, htype, -, hnames⟩ :=
    Declaration.ofBody?_eq_some houter
  obtain ⟨blanks', separated', rfl, -, -, hblank', hnames'⟩ := Declaration.ofBody?_eq_some hinner
  rw [hnames, hnames']
  refine words_subset_of_suffix ?_ hblank'
  have hsuffix : separated <:+ lead ++ (keyword ++ (blanks' ++ (inner.type ++ separated'))) := by
    rw [hbody, ← List.append_assoc]
    exact List.suffix_append ..
  have hsuffix' : separated' <:+ lead ++ (keyword ++ (blanks' ++ (inner.type ++ separated'))) := by
    simp only [← List.append_assoc]
    exact List.suffix_append ..
  rcases List.suffix_or_suffix_of_suffix hsuffix' hsuffix with hshort | ⟨more, rfl⟩
  · exact hshort
  cases more with
  | nil => exact List.suffix_refl _
  | cons c more =>
    -- The blank behind the inner type stands in front of the outer one, and so does the keyword.
    have hc : isBlank c = true := hblank'
    have hfront : (lead ++ keyword ++ blanks' ++ inner.type) ++ c :: more =
        blanks ++ outer.type :=
      List.append_cancel_right (show _ ++ separated = _ ++ separated by simpa using hbody)
    rcases List.append_eq_append_iff.1 hfront with ⟨between, rfl, -⟩ | ⟨between, -, heq⟩
    · have hu : isBlank 'u' = true := hblanks 'u' (by simp [keyword])
      exact absurd hu (by decide)
    · have hmem : c ∈ outer.type := heq ▸ by simp
      exact absurd hmem (htype.not_mem (isWord_of_isBlank hc))

/-- A declaration that runs over the beginning of another one ends like it. -/
theorem words_names_subset_of_overrun {passed place left : List Char} {inner outer : Declaration}
    {hleft : left.length < (passed ++ place).length} {hrest : rest.length < place.length}
    {before' : Option Char}
    (houter : declaration false before (passed ++ place) = some (outer, ⟨left, hleft⟩))
    (hinner : declaration false before' place = some (inner, ⟨rest, hrest⟩))
    (hpassed : passed ≠ []) (hover : left.length < place.length) :
    words inner.names ⊆ words outer.names := by
  obtain ⟨body, houtertext, hbody, houter⟩ := declaration_inv houter
  obtain ⟨inside, rfl, hinside, hinner⟩ := declaration_inv hinner
  obtain ⟨lead, rfl, hplace⟩ : ∃ lead, passed = keyword ++ lead ∧
      body ++ ';' :: left = lead ++ (keyword ++ (inside ++ ';' :: rest)) := by
    rcases List.append_eq_append_iff.1 houtertext with ⟨more, hkeyword, hplace⟩ | hbehind
    · cases more with
      | nil => exact ⟨[], by rw [hkeyword, List.append_nil, List.append_nil], hplace.symm⟩
      | cons c more =>
        -- The keyword does not begin again inside itself.
        obtain ⟨p, passed, rfl⟩ := List.exists_cons_of_ne_nil hpassed
        obtain rfl : 'u' = c := (List.cons.inj hplace).1
        have hmem : 'u' ∈ keyword.tail := hkeyword ▸ by simp
        exact absurd hmem (by decide)
    · exact hbehind
  rcases List.append_eq_append_iff.1 hplace with ⟨more, -, hmore⟩ | ⟨tail, rfl, htail⟩
  · -- Only the semicolon is longer than what is left, and it does not begin a keyword.
    cases more with
    | nil => cases hmore
    | cons c more =>
      obtain rfl : left = more ++ _ := (List.cons.inj hmore).2
      rw [List.length_append] at hover
      omega
  · rw [← List.append_assoc] at htail
    have hboth : ';' ∉ keyword ++ inside := by simp [keyword, hinside]
    obtain ⟨rfl, -⟩ := append_cons_inj hboth (fun h => hbody (List.mem_append_right _ h)) htail
    exact Declaration.words_names_subset houter hinner

/-- Wherever a declaration can be read, the search finds one with its names. -/
theorem exists_find_of_match {place : List Char} {hrest : rest.length < place.length}
    (hmatch : declaration false (Pattern.lastOf before lead) place = some (d, ⟨rest, hrest⟩)) :
    ∃ d' ∈ (declaration false).findsFrom before (lead ++ place),
      words d.names ⊆ words d'.names := by
  have hcuts := cuts_declaration false
  by_cases hplace : place ∈ (declaration false).places before (lead ++ place)
  · obtain ⟨⟨place, left⟩, hspan, rfl⟩ := List.mem_map.1 hplace
    obtain ⟨lead', d', hleft, htext, hmatch'⟩ := Pattern.match_of_mem_spans hcuts hspan
    obtain rfl : lead = lead' := List.append_cancel_right htext
    cases hmatch.symm.trans hmatch'
    exact ⟨d, (Pattern.mem_findsFrom_iff hcuts).2 ⟨lead, place, _, _, rfl, hspan, hmatch⟩,
      List.Subset.refl _⟩
  · rw [Pattern.mem_places_iff hcuts] at hplace
    push Not at hplace
    obtain ⟨⟨start, left⟩, hspan, passed, hpassed, rfl, hover⟩ :=
      hplace ⟨lead, rfl, Option.isSome_of_eq_some hmatch⟩
    obtain ⟨lead', d', hleft, htext, hmatch'⟩ := Pattern.match_of_mem_spans hcuts hspan
    exact ⟨d', (Pattern.mem_findsFrom_iff hcuts).2 ⟨lead', _, left, hleft, htext, hspan, hmatch'⟩,
      words_names_subset_of_overrun hmatch' hmatch hpassed hover⟩

theorem declaration_true_eq (before : Option Char) (text : List Char) :
    declaration true before text =
      if atWordStart before then declaration false before text else none := by
  unfold declaration
  cases atWordStart before <;> rfl

/-- What is declared by whole words is declared. -/
theorem exists_find_of_wholeWord (hd : d ∈ (declaration true).findAll text) :
    ∃ d' ∈ (declaration false).findAll text, words d.names ⊆ words d'.names := by
  obtain ⟨lead, place, rest, hrest, rfl, -, hmatch⟩ :=
    (Pattern.mem_findsFrom_iff (cuts_declaration true)).1 hd
  rw [declaration_true_eq] at hmatch
  split at hmatch
  · exact exists_find_of_match hmatch
  · cases hmatch

end Uniform

namespace Software

open Uniform

variable {u : ActiveUniform} {text : List Char}

/-- The name that is read is one of the words of what it is read from. -/
theorem Declarator.mem_words {declarator : Declarator} (h : parse? text = some declarator) :
    declarator.name ∈ words text := by
  -- Whatever stands behind it, the name is the first word of the trimmed text.
  have hname : declarator.name = (trim text).takeWhile isWord := by
    unfold parse? at h
    dsimp only at h
    split at h
    · cases h
    · split at h
      · cases h; rfl
      · split at h
        · cases h
        · split at h
          · cases h; rfl
          · cases h
      · cases h
  have hword := word_of_parse? h
  obtain ⟨lead, trail, htext, hlead, htrail⟩ := exists_trim text
  have hwhole : text = lead ++ (declarator.name ++ ((trim text).dropWhile isWord ++ trail)) := by
    rw [hname, ← List.append_assoc (List.takeWhile _ _), List.takeWhile_append_dropWhile]
    exact htext
  rw [hwhole]
  refine mem_words_of_blank hlead hword fun c hc => ?_
  have hends := List.head?_dropWhile_not isWord (trim text)
  cases hrest : (trim text).dropWhile isWord with
  | nil =>
    rw [hrest] at hc
    exact isWord_of_isBlank (htrail c (List.mem_of_mem_head? hc))
  | cons d rest =>
    rw [hrest] at hc hends
    obtain rfl : d = c := by simpa using hc
    exact hends

/-- What a declaration makes goes by one of its names. -/
theorem MadeBy.baseName_mem {d : Uniform.Declaration} (h : MadeBy u d) :
    (baseName u.name).toList ∈ words d.names ∧
      (u.name = baseName u.name ∨ u.name = baseName u.name ++ "[0]") := by
  obtain ⟨type, -, text, htext, declarator, hparse, rfl⟩ := h
  have hreported := declarator.isReported (Declarator.word_of_parse? hparse) type
  refine ⟨?_, hreported.eq_baseName⟩
  rw [hreported.baseName_eq, String.toList_ofList]
  exact words_subset_of_mem_splitOn htext (declarator.mem_words hparse)

/-- Whatever the text, a uniform that the device finds in it is called by a name that the engine
takes for declared, or for an array by such a name with the first index. -/
theorem active_is_declared (text : String) (u : ActiveUniform) (hu : u ∈ scanUniforms [text]) :
    (baseName u.name).toList ∈ declaredNames text.toList ∧
      (u.name = baseName u.name ∨ u.name = baseName u.name ++ "[0]") := by
  obtain ⟨source, hsource, d, hd, hmade⟩ := exists_madeBy hu
  obtain rfl : source = text := List.mem_singleton.1 hsource
  obtain ⟨hname, hform⟩ := hmade.baseName_mem
  obtain ⟨d', hd', hsubset⟩ := exists_find_of_wholeWord hd
  exact ⟨mem_declaredNames_iff.2 ⟨d', hd', hsubset hname⟩, hform⟩

/-- The engine reads from the keyword at the end of the first word on, past the declaration that
the device finds. -/
theorem active_is_declared_of_overrun :
    (⟨"b[0]", Constant.floatVec2, 4⟩ : ActiveUniform) ∈
        scanUniforms ["myuniform int a /* uniform */ uniform vec2 b[4];"] ∧
      (declaration false).findAll
        (Shader.stripComments "myuniform int a /* uniform */ uniform vec2 b[4];".toList) =
          [⟨"int".toList, "a  uniform vec2 b[4]".toList⟩] ∧
      (baseName "b[0]").toList ∈
        declaredNames "myuniform int a /* uniform */ uniform vec2 b[4];".toList := by
  have hactive : (⟨"b[0]", Constant.floatVec2, 4⟩ : ActiveUniform) ∈
      scanUniforms ["myuniform int a /* uniform */ uniform vec2 b[4];"] := by
    decide +kernel
  exact ⟨hactive, by decide +kernel, (active_is_declared _ _ hactive).1⟩

end Software

end DrawPass
