/-
DrawPass/Proofs/Rescanned.lean

Inference writes one declaration for each value that wants one, and the scanner reads it back.

The text that is written is looked at by the scanner together with whatever stands before it, and
that text may end in a declaration without its semicolon.  Then the scanner takes the first of the
written declarations for more names of the unfinished one.  It still finds one declaration there,
and the name that was meant is among its names (`findsFrom_append_uniform`); all the others it
finds as they were written.  So nothing is left to be written after that
(`infer_declares_each_once`).
-/
import DrawPass.Proofs.Commented
import DrawPass.Proofs.Inferred
import DrawPass.Proofs.Searched

namespace DrawPass.Uniform

open Text Shader

variable {c : Char} {before : Option Char} {text rest after name type body : List Char}
  {d : Declaration}

/-! ### Words -/

theorem wordsFrom_append (hc : isWord c = false) (current text rest : List Char) :
    wordsFrom current (text ++ c :: rest) = wordsFrom current text ++ words rest := by
  induction text generalizing current with
  | nil =>
    simp only [List.nil_append, wordsFrom, hc]
    cases current <;> rfl
  | cons d text ih =>
    simp only [List.cons_append, wordsFrom]
    split
    · exact ih _
    · split
      · exact ih _
      · rw [ih, List.cons_append]

/-- A character that stands in no word separates words. -/
theorem words_append (hc : isWord c = false) (text rest : List Char) :
    words (text ++ c :: rest) = words text ++ words rest := wordsFrom_append hc [] text rest

theorem wordsFrom_of_isWord (current : List Char) (h : ∀ c ∈ text, isWord c = true) :
    wordsFrom current text = wordsFrom (text.reverse ++ current) [] := by
  induction text generalizing current with
  | nil => rfl
  | cons c text ih =>
    obtain ⟨hc, htext⟩ := List.forall_mem_cons.1 h
    have hread : wordsFrom current (c :: text) = wordsFrom (c :: current) text := if_pos hc
    rw [hread, ih _ htext, List.reverse_cons, List.append_assoc]
    rfl

/-- A word has one word. -/
theorem words_word (h : Word name) : words name = [name] := by
  have hne : (name.reverse ++ []).isEmpty = false := by simpa using h.ne_nil
  rw [words, wordsFrom_of_isWord [] h.isWord, wordsFrom, if_neg (Bool.eq_false_iff.1 hne),
    List.append_nil, List.reverse_reverse]

theorem words_cons (hc : isWord c = false) (text : List Char) : words (c :: text) = words text :=
  words_append hc [] text

/-- Blanks in front of a text belong to no word. -/
theorem words_dropWhile_isBlank (text : List Char) :
    words (text.dropWhile isBlank) = words text := by
  induction text with
  | nil => rfl
  | cons c text ih =>
    rw [List.dropWhile_cons]
    split
    · rename_i hblank
      rw [ih, words_cons (isWord_of_isBlank hblank)]
    · rfl

/-! ### The names of a declaration -/

/-- Between the keyword and the semicolon stand blanks, the type, and the names with blanks in
front of them. -/
theorem Declaration.ofBody?_eq_some (h : Declaration.ofBody? body = some d) :
    ∃ blanks separated, body = blanks ++ (d.type ++ separated) ∧ Blank blanks ∧ Word d.type ∧
      separated.head?.any isBlank = true ∧ words d.names = words separated := by
  have hbody : body = body.takeWhile isBlank ++ ((body.dropWhile isBlank).takeWhile isWord ++
      (body.dropWhile isBlank).dropWhile isWord) := by
    rw [List.takeWhile_append_dropWhile, List.takeWhile_append_dropWhile]
  have hblanks : Blank (body.takeWhile isBlank) := fun c hc => List.mem_takeWhile_imp hc
  unfold Declaration.ofBody? at h
  split at h
  case isFalse => cases h
  dsimp only at h
  split at h
  case isTrue => cases h
  case isFalse hparts =>
  rw [Bool.or_eq_true, not_or, Bool.not_eq_true', Bool.not_eq_false] at hparts
  have htype : Word ((body.dropWhile isBlank).takeWhile isWord) :=
    ⟨fun e => hparts.1 (List.isEmpty_iff.2 e), fun c hc => List.mem_takeWhile_imp hc⟩
  split at h
  · -- Nothing but blanks comes after the type, and the last of them is taken for the names.
    rename_i b c cs hnil hseparated
    cases h
    refine ⟨_, _, hbody, hblanks, htype, hparts.2, ?_⟩
    rw [← words_dropWhile_isBlank (List.dropWhile _ _), hnil]
    have hlast : isBlank ((c :: cs).getLast (List.cons_ne_nil c cs)) = true := by
      refine List.dropWhile_eq_nil_iff.1 hnil _ ?_
      rw [hseparated]
      exact List.mem_cons_of_mem _ (List.getLast_mem _)
    exact words_cons (isWord_of_isBlank hlast) []
  · cases h
  · cases h
    exact ⟨_, _, hbody, hblanks, htype, hparts.2, words_dropWhile_isBlank _⟩

/-- A word at the end of a declaration is one of its names. -/
theorem Declaration.mem_words_names (front : List Char) (hname : Word name)
    (h : Declaration.ofBody? (front ++ ' ' :: name) = some d) : name ∈ words d.names := by
  obtain ⟨blanks, separated, hbody, -, -, hblank, hnames⟩ := Declaration.ofBody?_eq_some h
  have hsuffix : separated <:+ front ++ ' ' :: name := by
    rw [hbody, ← List.append_assoc]
    exact List.suffix_append ..
  -- What separates the type from the names is longer than the last name, in which no blank is.
  obtain ⟨front', rfl⟩ : ∃ front', separated = front' ++ ' ' :: name := by
    rcases List.suffix_or_suffix_of_suffix hsuffix (List.suffix_append ..) with hshort | hlong
    · rcases List.suffix_cons_iff.1 hshort with rfl | hinside
      · exact ⟨[], rfl⟩
      · obtain ⟨c, hc, hcblank⟩ := (Option.any_eq_true ..).1 hblank
        have hword := hname.isWord c (hinside.subset (List.mem_of_mem_head? hc))
        rw [isBlank_of_isWord hword] at hcblank
        cases hcblank
    · obtain ⟨front', heq⟩ := hlong
      exact ⟨front', heq.symm⟩
  rw [hnames, words_append rfl, words_word hname]
  exact List.mem_append_right _ (List.mem_singleton_self _)

/-! ### The scanner, step by step -/

/-- What is found is the keyword with what follows it up to the next semicolon. -/
theorem declaration_inv {wholeWord : Bool} {hrest : rest.length < text.length}
    (h : declaration wholeWord before text = some (d, ⟨rest, hrest⟩)) :
    ∃ body, text = keyword ++ (body ++ ';' :: rest) ∧ ';' ∉ body ∧
      Declaration.ofBody? body = some d := by
  unfold declaration at h
  split at h
  case isTrue => cases h
  case isFalse =>
  split at h
  · rename_i after hafter
    split at h
    · rename_i semicolon rest' hdrop
      obtain ⟨d', hbody, heq⟩ := Option.map_eq_some_iff.1 h
      cases heq
      obtain ⟨hafter', hfirst⟩ := eq_takeWhile_append_cons hdrop
      exact ⟨_, (afterKeyword_eq_some_iff.1 hafter).trans (congrArg _ hafter'), hfirst, hbody⟩
    · cases h
  · cases h

theorem cuts_declaration (wholeWord : Bool) : (declaration wholeWord).Cuts := by
  intro before text d rest hrest h
  obtain ⟨body, rfl, -, -⟩ := declaration_inv h
  exact ⟨keyword ++ (body ++ [';']), by simp⟩

/-- A declaration is found wherever it stands. -/
theorem declaration_false_eq (before : Option Char) (rest : List Char) (hbody : ';' ∉ body)
    (hd : Declaration.ofBody? body = some d) :
    ∃ hrest, declaration false before (keyword ++ (body ++ ';' :: rest)) =
      some (d, ⟨rest, hrest⟩) := by
  have hfound : ∃ hrest, declaration false none (keyword ++ (body ++ ';' :: rest)) =
    some (d, ⟨rest, hrest⟩) := declaration_eq_some rfl hbody hd
  exact hfound

theorem findsFrom_declaration (before : Option Char) (rest : List Char) (hbody : ';' ∉ body)
    (hd : Declaration.ofBody? body = some d) :
    (declaration false).findsFrom before (keyword ++ (body ++ ';' :: rest)) =
      d :: (declaration false).findsFrom none rest := by
  obtain ⟨hrest, hfound⟩ := declaration_false_eq before rest hbody hd
  refine (Pattern.findsFrom_cons_some hfound).trans (congrArg _ ?_)
  exact Pattern.findsFrom_congr rfl

/-- A find reaches up to its semicolon, and what follows makes no difference. -/
theorem findsFrom_append_found {passed : List Char} (more : List Char)
    {hrest : rest.length < (passed ++ rest).length}
    (h : declaration false before (passed ++ rest) = some (d, ⟨rest, hrest⟩)) :
    (declaration false).findsFrom before (passed ++ rest ++ more) =
      d :: (declaration false).findsFrom passed.getLast? (rest ++ more) := by
  obtain ⟨body, heq, hbody, hd⟩ := declaration_inv h
  have hends : passed ++ rest ++ more = keyword ++ (body ++ ';' :: (rest ++ more)) := by simp [heq]
  rw [hends, findsFrom_declaration before _ hbody hd]
  exact congrArg _ (Pattern.findsFrom_congr rfl)

/-- Without a semicolon there is no declaration. -/
theorem findsFrom_eq_nil (h : ';' ∉ text) : (declaration false).findsFrom before text = [] := by
  induction text generalizing before with
  | nil => exact Pattern.findsFrom_nil _ _
  | cons c text ih =>
    rw [Pattern.findsFrom_cons_none, ih (List.not_mem_of_not_mem_cons h)]
    rw [Option.eq_none_iff_forall_ne_some]
    rintro ⟨d, rest, hrest⟩ hfound
    obtain ⟨body, heq, -, -⟩ := declaration_inv hfound
    rw [heq] at h
    simp at h

/-- A declaration that is found over the end of a text is its last one, without a semicolon. -/
theorem declaration_false_of_append (text : List Char) (hbody : ';' ∉ body)
    {hrest : rest.length < (text ++ '\n' :: (body ++ ';' :: after)).length}
    (h : declaration false before (text ++ '\n' :: (body ++ ';' :: after)) =
      some (d, ⟨rest, hrest⟩))
    (hnone : declaration false before text = none) :
    rest = after ∧ ';' ∉ text ∧ ∃ tail, Declaration.ofBody? (tail ++ '\n' :: body) = some d := by
  obtain ⟨found, heq, hfound, hd⟩ := declaration_inv h
  obtain ⟨tail, rfl⟩ : ∃ tail, text = keyword ++ tail := by
    rcases List.append_eq_append_iff.1 heq with ⟨passed, hkeyword, hpassed⟩ | ⟨tail, htext, -⟩
    · -- There is no line feed in the keyword, so it stands in the text.
      cases passed with
      | nil => exact ⟨[], by rw [hkeyword, List.append_nil, List.append_nil]⟩
      | cons c passed =>
        obtain ⟨rfl, -⟩ := List.cons.inj hpassed
        have hline : '\n' ∉ keyword := by decide
        exact absurd (hkeyword ▸ by simp) hline
    · exact ⟨tail, htext⟩
  rw [List.append_assoc, List.append_cancel_left_eq] at heq
  have htail : ';' ∉ tail := by
    intro hmem
    obtain ⟨front, behind, rfl, hfront⟩ := List.eq_append_cons_of_mem hmem
    rw [List.append_assoc] at heq
    obtain ⟨rfl, -⟩ := append_cons_inj hfront hfound heq
    obtain ⟨hlt, hsome⟩ := declaration_false_eq before behind hfront hd
    cases hnone.symm.trans hsome
  have hjoined : ';' ∉ tail ++ '\n' :: body := by simp [htail, hbody]
  rw [← List.cons_append, ← List.append_assoc] at heq
  obtain ⟨rfl, rfl⟩ := append_cons_inj hjoined hfound heq
  have hkeyword : ';' ∉ keyword := by decide
  exact ⟨rfl, by simp [hkeyword, htail], tail, hd⟩

/-- A declaration that is found needs a semicolon in front of its end. -/
theorem declaration_false_of_append_of_not_mem (text : List Char) {more : List Char}
    (hmore : ';' ∉ more) {hrest : rest.length < (text ++ more).length}
    (h : declaration false before (text ++ more) = some (d, ⟨rest, hrest⟩)) :
    declaration false before text ≠ none := by
  obtain ⟨body, heq, hbody, hd⟩ := declaration_inv h
  have hends : text ++ more = (keyword ++ (body ++ [';'])) ++ rest := by simp [heq]
  rcases List.append_eq_append_iff.1 hends with ⟨passed, hpassed, rfl⟩ | ⟨passed, rfl, -⟩
  · rcases List.eq_nil_or_concat passed with rfl | ⟨passed, c, rfl⟩
    · rw [List.append_nil] at hpassed
      obtain ⟨hlt, hsome⟩ := declaration_false_eq before [] hbody hd
      rw [← hpassed, hsome]
      exact Option.some_ne_none _
    · -- What ends with the semicolon cannot reach into a text without one.
      obtain rfl : ';' = c := by simpa using congrArg List.getLast? hpassed
      exact absurd (by simp) hmore
  · obtain ⟨hlt, hsome⟩ := declaration_false_eq before passed hbody hd
    rw [List.append_assoc, List.append_assoc, List.singleton_append, hsome]
    exact Option.some_ne_none _

/-! ### Text behind a text -/

/-- Text without a semicolon behind a text declares nothing more. -/
theorem findsFrom_append_of_not_mem {more : List Char} (hmore : ';' ∉ more)
    (before : Option Char) (text : List Char) :
    (declaration false).findsFrom before (text ++ more) =
      (declaration false).findsFrom before text := by
  induction before, text using Pattern.search_induction (cuts_declaration false) with
  | nil before => rw [List.nil_append, findsFrom_eq_nil hmore, Pattern.findsFrom_nil]
  | plain before c text hnone ih =>
    have hstill : declaration false before (c :: (text ++ more)) = none := by
      rw [Option.eq_none_iff_forall_ne_some]
      rintro ⟨d, rest, hrest⟩ hfound
      exact declaration_false_of_append_of_not_mem (c :: text) hmore hfound hnone
    rw [List.cons_append, Pattern.findsFrom_cons_none hstill, ih,
      Pattern.findsFrom_cons_none hnone]
  | found before passed rest d hrest hne hfound ih =>
    rw [findsFrom_append_found more hfound, ih, Pattern.findsFrom_found hfound]

/-- A declaration put on a line of its own behind a text is found there, or the last declaration
of the text goes on up to its semicolon.  In both ways its name is declared. -/
theorem findsFrom_append_uniform (htype : Word type) (hname : Word name) (after : List Char)
    (before : Option Char) (text : List Char) : ∃ d, name ∈ words d.names ∧
    (declaration false).findsFrom before
        (text ++ '\n' :: (keyword ++ ' ' :: (type ++ ' ' :: name) ++ ';' :: after)) =
      (declaration false).findsFrom before text ++
        d :: (declaration false).findsFrom none after := by
  have hbody : ';' ∉ ' ' :: (type ++ ' ' :: name) := by
    simp [htype.not_mem (c := ';') rfl, hname.not_mem (c := ';') rfl]
  have hline : ';' ∉ keyword ++ ' ' :: (type ++ ' ' :: name) := by
    have hkeyword : ';' ∉ keyword := by decide
    exact List.mem_append.not.2 (not_or_intro hkeyword hbody)
  induction before, text using Pattern.search_induction (cuts_declaration false) with
  | nil before =>
    refine ⟨⟨type, name⟩, words_word hname ▸ List.mem_singleton_self _, ?_⟩
    rw [List.nil_append, findsFrom_blank, List.append_assoc,
      findsFrom_declaration none after hbody (Declaration.ofBody?_words htype hname),
      Pattern.findsFrom_nil, List.nil_append]
  | plain before c text hnone ih =>
    rcases hmatch : declaration false before (c :: (text ++
        '\n' :: (keyword ++ ' ' :: (type ++ ' ' :: name) ++ ';' :: after))) with
      - | ⟨d, rest, hrest⟩
    · obtain ⟨d, hd, hfinds⟩ := ih
      refine ⟨d, hd, ?_⟩
      rw [List.cons_append, Pattern.findsFrom_cons_none hmatch, hfinds,
        Pattern.findsFrom_cons_none hnone]
    · -- Here the last declaration of the text begins; it has no semicolon of its own.
      obtain ⟨rfl, hunfinished, tail, hd⟩ :=
        declaration_false_of_append (c :: text) hline hmatch hnone
      have hmember := Declaration.mem_words_names (tail ++ '\n' :: (keyword ++ ' ' :: type)) hname
        (by simpa using hd)
      refine ⟨d, hmember, ?_⟩
      rw [List.cons_append, Pattern.findsFrom_cons_some hmatch, findsFrom_eq_nil hunfinished]
      exact congrArg _ (Pattern.findsFrom_congr rfl)
  | found before passed rest d hrest hne hfound ih =>
    obtain ⟨d', hd', hfinds⟩ := ih
    refine ⟨d', hd', ?_⟩
    rw [findsFrom_append_found _ hfound, hfinds, Pattern.findsFrom_found hfound, List.cons_append]

/-! ### What a text wants declared -/

theorem mem_declaredNames_iff {code : List Char} : name ∈ declaredNames code ↔
    ∃ d ∈ (declaration false).findAll (stripComments code), name ∈ words d.names := by
  rw [declaredNames, List.mem_eraseDups, List.mem_flatMap]

theorem isIdentifier_iff {name : String} : isIdentifier name = true ↔ Word name.toList := by
  refine ⟨word_of_isIdentifier, fun h => ?_⟩
  have hne : name ≠ "" := fun hnil => h.ne_nil (String.toList_eq_nil_iff.2 hnil)
  simp only [isIdentifier, Bool.and_eq_true, Bool.not_eq_true', List.all_eq_true]
  exact ⟨by simpa using hne, h.isWord⟩

/-- A value wants a declaration if its name is a word that the text does not declare, and its
shape has a type. -/
def Wanted (code : List Char) (e : String × Value) : Prop :=
  Word e.1.toList ∧ e.1.toList ∉ declaredNames code ∧
    (e.2.shape.declaration? e.1).isSome = true

instance (code : List Char) (e : String × Value) : Decidable (Wanted code e) :=
  inferInstanceAs (Decidable (_ ∧ _ ∧ _))

section

variable {code : List Char} {e : String × Value}

theorem written?_of_wanted (h : Wanted code e) :
    ∃ text type, e.2.shape.declaration? e.1 = some text ∧
      written? code e = some text.toList ∧ inferred? code e = some ⟨type, e.1.toList⟩ := by
  obtain ⟨hname, hfree, hsome⟩ := h
  obtain ⟨text, htext⟩ := Option.isSome_iff_exists.1 hsome
  have hwritten : written? code e = some text.toList := by
    have hwanted : (isIdentifier e.1 && !(declaredNames code).contains e.1.toList) = true := by
      simp [isIdentifier_iff.2 hname, hfree]
    rw [written?, if_pos hwanted, htext, Option.map_some]
  obtain ⟨type, -, -, -, hinferred, -, -⟩ := written?_lines hwritten
  exact ⟨text, type, htext, hwritten, hinferred⟩

theorem written?_of_not_wanted (h : ¬ Wanted code e) :
    written? code e = none ∧ inferred? code e = none := by
  rcases written?_cases code e with hnone | ⟨text, d, hwritten, -, -⟩
  · exact hnone
  · refine absurd ?_ h
    unfold written? at hwritten
    split at hwritten
    case isFalse => cases hwritten
    case isTrue hwanted =>
    obtain ⟨hname, hfree⟩ := Bool.and_eq_true_iff.1 hwanted
    obtain ⟨text, htext, -⟩ := Option.map_eq_some_iff.1 hwritten
    exact ⟨isIdentifier_iff.1 hname, by simpa using hfree, htext ▸ rfl⟩

/-- Nothing in what is written for a value can close a comment. -/
theorem star_not_mem_written {text : List Char} (h : written? code e = some text) :
    '*' ∉ text := by
  obtain ⟨type, helpers, htype, hname, -, hhelpers, hlines⟩ := written?_lines h
  have hname : '*' ∉ e.1.toList := hname.not_mem rfl
  have hword : '*' ∉ type := htype.not_mem rfl
  have hhelper : ∀ line ∈ helpers, '*' ∉ line := by
    rcases hhelpers with rfl | ⟨layered, rfl⟩
    · exact List.forall_mem_nil _
    · cases layered <;>
        exact List.forall_mem_cons.2 ⟨by simp [hname],
          List.forall_mem_cons.2 ⟨by simp [hname],
            List.forall_mem_singleton.2 (by simp [hname])⟩⟩
  intro hstar
  have hmem := List.mem_append_left ['\n'] hstar
  rw [hlines] at hmem
  obtain ⟨line, hline, hstar⟩ : ∃ line ∈ helpers, '*' ∈ line := by
    simpa [keyword, hname, hword] using hmem
  exact hhelper line hline hstar

end

variable (code : List Char)

/-- The texts that are written, one for each value that wants one, and what they declare. -/
theorem exists_texts (entries : List (String × Value)) : ∃ texts : List String,
    entries.filterMap (written? code) = texts.map String.toList ∧
      (entries.filter (Wanted code)).map (fun e => e.2.shape.declaration? e.1) =
        texts.map some ∧
      (entries.filterMap (inferred? code)).map Declaration.names =
        (entries.filter (Wanted code)).map fun e => e.1.toList := by
  induction entries with
  | nil => exact ⟨[], rfl, rfl, rfl⟩
  | cons e entries ih =>
    obtain ⟨texts, htexts, hdeclarations, hnames⟩ := ih
    by_cases h : Wanted code e
    · obtain ⟨text, type, htext, hwritten, hinferred⟩ := written?_of_wanted h
      refine ⟨text :: texts, ?_, ?_, ?_⟩
      · rw [List.filterMap_cons_some hwritten, htexts, List.map_cons]
      · rw [List.filter_cons_of_pos (by simpa using h), List.map_cons, htext, hdeclarations,
          List.map_cons]
      · rw [List.filterMap_cons_some hinferred, List.filter_cons_of_pos (by simpa using h),
          List.map_cons, hnames, List.map_cons]
    · obtain ⟨hwritten, hinferred⟩ := written?_of_not_wanted h
      refine ⟨texts, ?_, ?_, ?_⟩
      · rw [List.filterMap_cons_none hwritten, htexts]
      · rw [List.filter_cons_of_neg (by simpa using h), hdeclarations]
      · rw [List.filterMap_cons_none hinferred, List.filter_cons_of_neg (by simpa using h), hnames]

/-- What is written begins with the declaration of a name, if anything is written. -/
theorem written_cases (entries : List (String × Value)) :
    (entries.filterMap (written? code) = [] ∧ entries.filterMap (inferred? code) = []) ∨
      ∃ type name after ds, Word type ∧ Word name ∧
      (entries.filterMap (written? code)).flatMap (· ++ ['\n']) =
        keyword ++ ' ' :: (type ++ ' ' :: name) ++ ';' :: '\n' :: after ∧
      entries.filterMap (inferred? code) = ⟨type, name⟩ :: ds ∧ Declares after ds := by
  -- The first entry that needs a declaration is what the written text begins with.
  induction entries with
  | nil => exact .inl ⟨rfl, rfl⟩
  | cons e entries ih =>
    cases hwritten : written? code e with
    | none =>
      have hinferred : inferred? code e = none := by
        rcases written?_cases code e with ⟨-, hnone⟩ | ⟨text, d, hsome, -⟩
        · exact hnone
        · cases hwritten.symm.trans hsome
      rw [List.filterMap_cons_none hwritten, List.filterMap_cons_none hinferred]
      exact ih
    | some text =>
      obtain ⟨type, helpers, htype, hname, hinferred, hhelpers, hlines⟩ := written?_lines hwritten
      have hquiet : Declares (helpers.flatMap (· ++ ['\n'])) [] := by
        rcases hhelpers with rfl | ⟨layered, rfl⟩
        · exact .nil
        · exact .flatMap (declares_samplerHelpers hname layered)
      refine .inr ⟨type, e.1.toList, _, _, htype, hname, ?_, ?_,
        hquiet.append (declares_written code entries)⟩
      · rw [List.filterMap_cons_some hwritten, List.flatMap_cons, hlines]
        simp
      · rw [List.filterMap_cons_some hinferred, List.nil_append]

/-! ### Scanning what is written -/

/-- An empty line at the end declares nothing. -/
theorem findAll_newline (text : List Char) :
    (declaration false).findAll (stripComments (text ++ ['\n'])) =
      (declaration false).findAll (stripComments text) := by
  rw [stripComments_append_line List.not_mem_nil, stripComments_nil]
  exact findsFrom_append_of_not_mem (by decide) none _

/-- The scanner finds all it has found in a text, and then a declaration of each name for which
one was written behind the text. -/
theorem findAll_append_infer (values : Values) : ∃ found,
    (declaration false).findAll (stripComments (code ++ '\n' :: infer values code)) =
        (declaration false).findAll (stripComments code) ++ found ∧
      ∀ e ∈ values.entries, Wanted code e → ∃ d ∈ found, e.1.toList ∈ words d.names := by
  have hmeant {e : String × Value} (he : e ∈ values.entries) (h : Wanted code e) :
      ∃ type, ⟨type, e.1.toList⟩ ∈ values.entries.filterMap (inferred? code) := by
    obtain ⟨text, type, -, -, hinferred⟩ := written?_of_wanted h
    exact ⟨type, List.mem_filterMap.2 ⟨e, he, hinferred⟩⟩
  rcases written_cases code values.entries with ⟨hwritten, hinferred⟩ | ⟨type, name, after, ds,
    htype, hname, hwritten, hinferred, hafter⟩
  · refine ⟨[], ?_, ?_⟩
    · rw [infer_eq, hwritten, List.append_nil]
      exact findAll_newline code
    · intro e he h
      obtain ⟨type, hmem⟩ := hmeant he h
      rw [hinferred] at hmem
      cases hmem
  -- The lines that are written, each with a line break behind it.
  · have hlines : infer values code ++ ['\n'] =
        keyword ++ ' ' :: (type ++ ' ' :: name) ++ ';' :: '\n' :: after := by
      rw [← hwritten, infer_eq]
      cases htexts : values.entries.filterMap (written? code) with
      | nil => simp [htexts] at hwritten
      | cons text texts => exact joinWith_append text texts
    -- No line has a star, so none of them closes a comment that the text has left open.
    have hstar : '*' ∉ infer values code ++ ['\n'] := by
      rw [hlines, ← hwritten]
      intro hmem
      obtain ⟨text, htext, hmem⟩ := List.mem_flatMap.1 hmem
      obtain ⟨e, -, he⟩ := List.mem_filterMap.1 htext
      have hline := star_not_mem_written he
      simp [hline] at hmem
    have hplain : '/' ∉ keyword ++ ' ' :: (type ++ ' ' :: name) ++ [';', '\n'] := by
      simp [keyword, htype.not_mem (c := '/') rfl, hname.not_mem (c := '/') rfl]
    -- The first line has no slash either, so it is left when the comments go.
    have hfirst : stripComments (infer values code ++ ['\n']) =
        keyword ++ ' ' :: (type ++ ' ' :: name) ++ ';' :: '\n' :: stripComments after := by
      have happend := stripComments_append hplain after
      rw [hlines]
      simpa using happend
    obtain ⟨d, hd, hfinds⟩ :=
      findsFrom_append_uniform htype hname ('\n' :: stripComments after) none (stripComments code)
    refine ⟨d :: ds, ?_, ?_⟩
    · calc (declaration false).findAll (stripComments (code ++ '\n' :: infer values code))
          = (declaration false).findAll
              (stripComments (code ++ '\n' :: (infer values code ++ ['\n']))) := by
            rw [← findAll_newline, List.append_assoc, List.cons_append]
        _ = (declaration false).findsFrom none (stripComments code) ++
              d :: (declaration false).findsFrom none ('\n' :: stripComments after) := by
            rw [stripComments_append_line hstar, hfirst]
            exact hfinds
        _ = (declaration false).findAll (stripComments code) ++ d :: ds := by
            rw [findsFrom_blank]
            exact congrArg (_ ++ d :: ·) (hafter.findAll_self false)
    · intro e he h
      obtain ⟨type', hmem⟩ := hmeant he h
      rw [hinferred] at hmem
      rcases List.mem_cons.1 hmem with heq | hmem
      · cases heq
        exact ⟨d, List.mem_cons_self, hd⟩
      · exact ⟨_, List.mem_cons_of_mem d hmem, words_word h.1 ▸ List.mem_singleton_self _⟩

/-- Inference writes one declaration for each value that wants one, in their order and nothing
else.  The scanner finds just these in what is written; and whatever the text is like, nothing
more is wanted once they stand behind it on lines of their own. -/
theorem infer_declares_each_once (values : Values) :
    (∃ texts : List String,
      infer values code = joinWith ['\n'] (texts.map String.toList) ∧
      (values.entries.filter (Wanted code)).map (fun e => e.2.shape.declaration? e.1) =
        texts.map some) ∧
    ((declaration false).findAll (stripComments (infer values code))).map Declaration.names =
      (values.entries.filter (Wanted code)).map (fun e => e.1.toList) ∧
    infer values (code ++ '\n' :: infer values code) = [] := by
  obtain ⟨texts, htexts, hdeclarations, hnames⟩ := exists_texts code values.entries
  refine ⟨⟨texts, ?_, hdeclarations⟩, ?_, ?_⟩
  · rw [infer_eq, htexts]
  · rw [← findAll_newline, (declares_infer values code).findAll_self false]
    exact hnames
  · obtain ⟨found, hfinds, hfound⟩ := findAll_append_infer code values
    -- What is wanted has been declared just now, so it is not wanted any more.
    have hunwanted : ∀ e ∈ values.entries, ¬ Wanted (code ++ '\n' :: infer values code) e := by
      intro e he hwanted
      obtain ⟨hname, hfree, hsome⟩ := hwanted
      rw [mem_declaredNames_iff, hfinds] at hfree
      by_cases hdeclared : e.1.toList ∈ declaredNames code
      · obtain ⟨d, hd, hmem⟩ := mem_declaredNames_iff.1 hdeclared
        exact hfree ⟨d, List.mem_append_left _ hd, hmem⟩
      · obtain ⟨d, hd, hmem⟩ := hfound e he ⟨hname, hdeclared, hsome⟩
        exact hfree ⟨d, List.mem_append_right _ hd, hmem⟩
    have hnothing : values.entries.filterMap
        (written? (code ++ '\n' :: infer values code)) = [] :=
      List.filterMap_eq_nil_iff.2 fun e he => (written?_of_not_wanted (hunwanted e he)).1
    rw [infer_eq, hnothing]
    rfl

end DrawPass.Uniform
