/-
DrawPass/Proofs/Wrapped.lean

What a snippet is made into.

A snippet that mentions the entry function is left alone, any other is wrapped into it, and an
expression is assigned to the output first.  Two tests on the text without its comments decide:
whether the name of the function stands in front of a parenthesis (`MentionsEntry`), and whether
there is a semicolon (`IsExpression`).

* A text that defines the entry function is left alone just if it has a semicolon somewhere; if it
  has none, the definition is taken for an expression (`expand_eq_self_iff`).
* The wrapper is a definition with a semicolon, whatever the snippet, with one exception
  (`LosesTerminator`): statements are wrapped with their comments, and a comment to the end of the
  line at their end swallows the semicolon of the wrapper, though never its brace
  (`stripComments_expand`).
-/
import DrawPass.Proofs.Commented
import DrawPass.Proofs.Searched
import DrawPass.Shader.Snippet

namespace DrawPass

open Text

namespace Text

variable {c : Char} {text : List Char}

/-! ### Trimming -/

/-- Trimming takes blanks away from both ends. -/
theorem exists_trim (text : List Char) :
    ∃ lead trail, text = lead ++ (trim text ++ trail) ∧ Blank lead ∧ Blank trail := by
  have hblank (text : List Char) : Blank (text.takeWhile isBlank) := fun c hc =>
    List.mem_takeWhile_imp hc
  refine ⟨text.takeWhile isBlank, ((trimStart text).reverse.takeWhile isBlank).reverse,
    ?_, hblank text, fun c hc => hblank _ c (List.mem_reverse.1 hc)⟩
  have hstart : text = text.takeWhile isBlank ++ trimStart text :=
    List.takeWhile_append_dropWhile.symm
  have hend : trimStart text =
      trim text ++ ((trimStart text).reverse.takeWhile isBlank).reverse := by
    rw [trim, trimEnd, ← List.reverse_append, List.takeWhile_append_dropWhile,
      List.reverse_reverse]
  rw [← hend]
  exact hstart

/-- Trimming keeps whatever is no blank. -/
theorem count_trim (hc : isBlank c = false) : (trim text).count c = text.count c := by
  obtain ⟨lead, trail, htext, hlead, htrail⟩ := exists_trim text
  have hcount : text.count c = (lead ++ (trim text ++ trail)).count c := congrArg _ htext
  rw [hcount, List.count_append, List.count_append, List.count_eq_zero.2 (hlead.not_mem hc),
    List.count_eq_zero.2 (htrail.not_mem hc), Nat.zero_add, Nat.add_zero]

theorem mem_trim_iff (hc : isBlank c = false) : c ∈ trim text ↔ c ∈ text := by
  rw [← List.count_pos_iff, ← List.count_pos_iff, count_trim hc]

theorem trim_eq_nil_iff : trim text = [] ↔ Blank text := by
  constructor
  · intro h c hc
    cases hblank : isBlank c with
    | true => rfl
    | false =>
      have hmem := (mem_trim_iff hblank).2 hc
      rw [h] at hmem
      cases hmem
  · intro h
    rw [trim, trimStart, List.dropWhile_eq_nil_iff.2 h]
    rfl

theorem infix_trim (text : List Char) : trim text <:+: text := by
  obtain ⟨lead, trail, htext, -, -⟩ := exists_trim text
  exact ⟨lead, trail, by rw [List.append_assoc, ← htext]⟩

/-- A word may begin behind blanks. -/
theorem Blank.atWordStart (h : Blank text) (hne : text ≠ []) (lead : List Char) :
    atWordStart (lead ++ text).getLast? = true := by
  obtain ⟨text, c, rfl⟩ := (List.eq_nil_or_concat text).resolve_left hne
  have hblank : isBlank c = true := h c (by simp)
  simp [Text.atWordStart, isWord_of_isBlank hblank]

end Text

namespace Shader

open Gl (Stage)

variable {stage : Stage} {before : Option Char} {code rest : List Char}

/-! ### Mentions of the entry function -/

/-- The name of the entry function stands at the beginning of a word, and an opening parenthesis
comes after it. -/
def MentionsEntry (stage : Stage) (code : List Char) : Prop :=
  ∃ lead blanks rest, code = lead ++ (entryFunction stage ++ (blanks ++ '(' :: rest)) ∧
    Blank blanks ∧ atWordStart lead.getLast? = true

theorem entryMention_eq_some {hrest : rest.length < code.length}
    (h : entryMention stage before code = some ((), ⟨rest, hrest⟩)) :
    atWordStart before = true ∧
      ∃ blanks, Blank blanks ∧ code = entryFunction stage ++ (blanks ++ '(' :: rest) := by
  unfold entryMention at h
  split at h
  · rename_i hstart
    split at h
    · rename_i after hafter
      split at h
      · rename_i rest' hparen
        cases h
        refine ⟨hstart, after.takeWhile isBlank, fun c hc => List.mem_takeWhile_imp hc, ?_⟩
        rw [← hparen, List.takeWhile_append_dropWhile]
        exact afterKeyword_eq_some_iff.1 hafter
      · cases h
    · cases h
  · cases h

theorem isSome_entryMention {blanks : List Char} (hstart : atWordStart before = true)
    (hblanks : Blank blanks) (rest : List Char) :
    (entryMention stage before
      (entryFunction stage ++ (blanks ++ '(' :: rest))).isSome = true := by
  have hdrop : (blanks ++ '(' :: rest).dropWhile isBlank = '(' :: rest := by
    rw [List.dropWhile_append_of_pos hblanks]
    rfl
  have hname := afterKeyword_eq_some_iff.2
    (rfl : entryFunction stage ++ (blanks ++ '(' :: rest) = entryFunction stage ++ _)
  unfold entryMention
  rw [if_pos hstart]
  split
  · rename_i after hafter
    cases hname.symm.trans hafter
    split
    · rfl
    · rename_i hnone
      exact absurd hdrop (hnone rest)
  · rename_i hafter
    cases hname.symm.trans hafter

theorem entryMention_cuts (stage : Stage) : (entryMention stage).Cuts := by
  intro before code a rest hrest h
  obtain ⟨-, blanks, -, rfl⟩ := entryMention_eq_some h
  exact ⟨entryFunction stage ++ (blanks ++ ['(']), by simp⟩

theorem occursIn_entryMention_iff :
    (entryMention stage).occursIn code = true ↔ MentionsEntry stage code := by
  rw [Pattern.occursIn_iff (entryMention_cuts stage)]
  constructor
  · rintro ⟨lead, place, rfl, hmatch⟩
    obtain ⟨⟨⟨⟩, rest, hrest⟩, hfound⟩ := Option.isSome_iff_exists.1 hmatch
    obtain ⟨hstart, blanks, hblanks, rfl⟩ := entryMention_eq_some hfound
    exact ⟨lead, blanks, rest, rfl, hblanks, hstart⟩
  · rintro ⟨lead, blanks, rest, rfl, hblanks, hstart⟩
    exact ⟨lead, _, rfl, isSome_entryMention hstart hblanks rest⟩

instance (stage : Stage) (code : List Char) : Decidable (MentionsEntry stage code) :=
  decidable_of_iff _ occursIn_entryMention_iff

/-! ### Definitions of the entry function -/

/-- A definition of the entry function of a stage, whatever its parameters and its body. -/
structure EntryDefinition (stage : Stage) where
  gap : List Char
  blanks : List Char
  parameters : List Char
  between : List Char
  body : List Char
  gap_blank : Blank gap
  gap_ne_nil : gap ≠ []
  blanks_blank : Blank blanks
  between_blank : Blank between

/-- The whole of a definition. -/
def EntryDefinition.text (d : EntryDefinition stage) : List Char :=
  "void".toList ++ (d.gap ++ (entryFunction stage ++ (d.blanks ++ '(' ::
    (d.parameters ++ ')' :: (d.between ++ '\x7b' :: (d.body ++ ['\x7d']))))))

/-- A text defines the entry function of a stage. -/
def DefinesEntry (stage : Stage) (code : List Char) : Prop :=
  ∃ d : EntryDefinition stage, d.text <:+: code

/-- What defines the entry function mentions it. -/
theorem DefinesEntry.mentions (h : DefinesEntry stage code) : MentionsEntry stage code := by
  obtain ⟨d, lead, rest, rfl⟩ := h
  refine ⟨lead ++ "void".toList ++ d.gap, d.blanks, d.parameters ++ ')' ::
    (d.between ++ '\x7b' :: (d.body ++ ['\x7d'])) ++ rest, ?_, d.blanks_blank, ?_⟩
  · simp only [EntryDefinition.text, List.append_assoc, List.cons_append]
  · exact d.gap_blank.atWordStart d.gap_ne_nil _

/-- There is more than blanks to it. -/
theorem MentionsEntry.not_blank (h : MentionsEntry stage code) : ¬ Blank code := by
  obtain ⟨lead, blanks, rest, rfl, -, -⟩ := h
  intro hblank
  exact hblank.not_mem (c := '(') rfl (by simp)

/-! ### Expressions and statements -/

/-- A snippet that is taken for an expression: trimmed and without its comments, there is something
to it, but no semicolon. -/
def IsExpression (code : List Char) : Prop :=
  trim (stripComments code) ≠ [] ∧ ';' ∉ trim (stripComments code)

instance (code : List Char) : Decidable (IsExpression code) := inferInstanceAs (Decidable (_ ∧ _))

theorem isExpression_iff : IsExpression code ↔
    ¬ Blank (stripComments code) ∧ ';' ∉ stripComments code := by
  rw [IsExpression, Ne, trim_eq_nil_iff, mem_trim_iff rfl]

/-- What a snippet is as a statement or a list of statements. -/
def statements (stage : Stage) (code : List Char) : List Char :=
  if IsExpression code then assignOutput stage (trim (stripComments code)) else code

theorem expand_eq (code : List Char) (stage : Stage) : expand code stage =
    if MentionsEntry stage (stripComments code) then statements stage code
    else wrapStatements stage (statements stage code) := by
  have hexpression : IsExpression code ↔ ((trim (stripComments code)).isEmpty ||
      (trim (stripComments code)).contains ';') = false := by
    rw [IsExpression, Bool.or_eq_false_iff, List.isEmpty_eq_false_iff, List.contains_eq_mem,
      decide_eq_false_iff_not]
  have hstatements : (if (trim (stripComments code)).isEmpty ||
      (trim (stripComments code)).contains ';' then code
      else assignOutput stage (trim (stripComments code))) = statements stage code := by
    unfold statements
    by_cases h : IsExpression code
    · rw [if_pos h, hexpression.1 h]
      rfl
    · rw [if_neg h, if_pos]
      exact Bool.not_eq_false _ ▸ fun hfalse => h (hexpression.2 hfalse)
  unfold expand
  dsimp only
  rw [hstatements]
  simp only [occursIn_entryMention_iff]

/-- An assigned expression has a semicolon and no comment. -/
theorem commentFree_assignOutput (stage : Stage) (code : List Char) :
    CommentFree (assignOutput stage (trim (stripComments code))) := by
  have hbody : CommentFree (trim (stripComments code)) :=
    (commentFree_stripComments code).of_part (infix_trim _)
  have hopening : '/' ∉ entryOutput stage ++ " = vec4(".toList := by
    cases stage <;> decide
  have hsame : stripComments (assignOutput stage (trim (stripComments code))) =
      assignOutput stage (trim (stripComments code)) := by
    unfold assignOutput
    rw [List.append_assoc, stripComments_append hopening,
      stripComments_append_of_not (by decide) (by decide) hbody.not_endsInLineComment,
      hbody.stripComments_eq, @stripComments_of_not_mem ");".toList (by decide)]
  rw [← hsame]
  exact commentFree_stripComments _

/-! ### The wrapper -/

/-- What the wrapper puts in front of statements. -/
def opening (stage : Stage) : List Char :=
  "void ".toList ++ entryFunction stage ++ "() \x7b\n  ".toList

theorem wrapStatements_eq (stage : Stage) (code : List Char) :
    wrapStatements stage code = opening stage ++ (code ++ ";\n\x7d".toList) :=
  List.append_assoc ..

theorem slash_not_mem_opening (stage : Stage) : '/' ∉ opening stage := by
  cases stage <;> decide

/-- Whatever stands between, the wrapper is a definition. -/
theorem definesEntry_opening (stage : Stage) (code : List Char) :
    DefinesEntry stage (opening stage ++ (code ++ ['\x7d'])) := by
  let d : EntryDefinition stage := ⟨[' '], [], [], [' '], "\n  ".toList ++ code,
    by decide, by decide, by decide, by decide⟩
  have htext : d.text = opening stage ++ (code ++ ['\x7d']) := by cases stage <;> rfl
  exact ⟨d, htext ▸ List.infix_refl _⟩

/-- The terminator of the wrapper is lost: the snippet is wrapped as statements, and ends within a
comment to the end of the line. -/
def LosesTerminator (code : List Char) : Prop := ¬ IsExpression code ∧ EndsInLineComment code

/-- Comments within the wrapper leave it as it is, unless one of them swallows the terminator. -/
theorem stripComments_expand_eq (hmention : ¬ MentionsEntry stage (stripComments code))
    (hkeeps : ¬ LosesTerminator code) : stripComments (expand code stage) =
      opening stage ++ (stripComments (statements stage code) ++ ";\n\x7d".toList) := by
  have hends : ¬ EndsInLineComment (statements stage code) := by
    unfold statements
    split
    · exact (commentFree_assignOutput stage code).not_endsInLineComment
    · rename_i hstatements
      exact fun hends => hkeeps ⟨hstatements, hends⟩
  rw [expand_eq, if_neg hmention, wrapStatements_eq, stripComments_append (slash_not_mem_opening _),
    stripComments_append_of_not (by decide) (by decide) hends,
    @stripComments_of_not_mem ";\n\x7d".toList (by decide)]

/-- A comment that swallows the terminator ends in front of the brace. -/
theorem LosesTerminator.stripComments_expand_eq (h : LosesTerminator code)
    (hmention : ¬ MentionsEntry stage (stripComments code)) : stripComments (expand code stage) =
      opening stage ++ (stripComments code ++ "\n\x7d".toList) := by
  obtain ⟨hstatements, hends⟩ := h
  have hrest : stripComments (";\n\x7d".toList.dropWhile (· != '\n')) = "\n\x7d".toList :=
    @stripComments_of_not_mem "\n\x7d".toList (by decide)
  rw [expand_eq, if_neg hmention, statements, if_neg hstatements, wrapStatements_eq,
    stripComments_append (slash_not_mem_opening _),
    hends.stripComments_append (by decide) (by decide), hrest]

theorem stripComments_statements (stage : Stage) (code : List Char) :
    stripComments (statements stage code) =
      if IsExpression code then assignOutput stage (trim (stripComments code))
      else stripComments code := by
  unfold statements
  split
  · exact (commentFree_assignOutput stage code).stripComments_eq
  · rfl

/-- Comments of a snippet leave its wrapper as it is just if it does not lose its terminator; and
then it loses nothing else. -/
theorem stripComments_expand_iff (code : List Char) (stage : Stage)
    (hmention : ¬ MentionsEntry stage (stripComments code)) :
    (stripComments (expand code stage) = wrapStatements stage
        (if IsExpression code then assignOutput stage (trim (stripComments code))
          else stripComments code) ↔ ¬ LosesTerminator code) ∧
      (LosesTerminator code → stripComments (expand code stage) =
        opening stage ++ (stripComments code ++ "\n\x7d".toList)) := by
  refine ⟨⟨?_, ?_⟩, fun hloses => hloses.stripComments_expand_eq hmention⟩
  · -- Without its terminator the wrapper is too short.
    intro heq hloses
    rw [hloses.stripComments_expand_eq hmention, if_neg hloses.1, wrapStatements_eq] at heq
    have hlength := congrArg List.length heq
    simp at hlength
  · intro hkeeps
    rw [stripComments_expand_eq hmention hkeeps, stripComments_statements, wrapStatements_eq]

/-- Statements of which the last has no semicolon: with the comment behind it, it gets none from the
wrapper either. -/
theorem stripComments_expand_iff_of_last_comment :
    ¬ MentionsEntry .fragment (stripComments "a = b; c = d // e".toList) ∧
      LosesTerminator "a = b; c = d // e".toList ∧
      stripComments (expand "a = b; c = d // e".toList .fragment) =
        "void fragment() \x7b\n  a = b; c = d \n\x7d".toList := by
  have hmention : ¬ MentionsEntry .fragment (stripComments "a = b; c = d // e".toList) := by
    decide +kernel
  have hends : EndsInLineComment "a = b; c = d // e".toList :=
    ⟨"a = b; c = d ".toList, " e".toList,
      @ReadsTo.of_not_mem "a = b; c = d ".toList (by decide) _, by decide⟩
  have hloses : LosesTerminator "a = b; c = d // e".toList := ⟨by decide +kernel, hends⟩
  obtain ⟨-, hlost⟩ := stripComments_expand_iff "a = b; c = d // e".toList .fragment hmention
  exact ⟨hmention, hloses, (hlost hloses).trans (by decide +kernel)⟩

/-! ### Definitions are left alone -/

/-- A definition is left alone just if there is a semicolon in it. -/
theorem DefinesEntry.expand_iff (h : DefinesEntry stage (stripComments code)) :
    (expand code stage = code ↔ ';' ∈ stripComments code) ∧
      (';' ∉ stripComments code →
        expand code stage = assignOutput stage (trim (stripComments code))) := by
  have hexpression : ';' ∉ stripComments code → IsExpression code :=
    fun hnone => isExpression_iff.2 ⟨h.mentions.not_blank, hnone⟩
  have hassigned (hnone : ';' ∉ stripComments code) :
      expand code stage = assignOutput stage (trim (stripComments code)) := by
    rw [expand_eq, if_pos h.mentions, statements, if_pos (hexpression hnone)]
  refine ⟨⟨?_, ?_⟩, hassigned⟩
  · intro hsame
    by_contra hnone
    rw [hassigned hnone] at hsame
    -- The assignment has the slashes of the text without its comments, so there are no comments.
    have hcount : code.count '/' = (stripComments code).count '/' := calc
      code.count '/' = (assignOutput stage (trim (stripComments code))).count '/' := by rw [hsame]
      _ = (trim (stripComments code)).count '/' := by
        have hfront : (entryOutput stage ++ " = vec4(".toList).count '/' = 0 := by
          cases stage <;> decide
        have hback : (");".toList).count '/' = 0 := by decide
        rw [assignOutput, List.count_append, List.count_append, hfront, hback, Nat.zero_add,
          Nat.add_zero]
      _ = (stripComments code).count '/' := count_trim rfl
    have hfree : stripComments code = code := by
      rcases stripComments_eq_or_count_lt code with heq | hlt
      · exact heq
      · exact absurd hcount (Nat.ne_of_gt hlt)
    rw [hfree] at hnone
    rw [← hsame] at hnone
    exact hnone (by simp [assignOutput])
  · intro hsemicolon
    have hstatements : ¬ IsExpression code := fun hexpression =>
      (isExpression_iff.1 hexpression).2 hsemicolon
    rw [expand_eq, if_pos h.mentions, statements, if_neg hstatements]

/-- What a wrapper makes is a definition, without a semicolon just if there is nothing in it and
it has lost its terminator. -/
theorem expand_wrapped (hmention : ¬ MentionsEntry stage (stripComments code)) :
    DefinesEntry stage (stripComments (expand code stage)) ∧
      (';' ∈ stripComments (expand code stage) ↔
        ¬ (Blank (stripComments code) ∧ EndsInLineComment code)) := by
  by_cases hloses : LosesTerminator code
  · have hplain : ';' ∉ opening stage := by cases stage <;> decide
    rw [hloses.stripComments_expand_eq hmention]
    refine ⟨?_, ?_⟩
    · have hdefines := definesEntry_opening stage (stripComments code ++ ['\n'])
      rwa [List.append_assoc] at hdefines
    · have hmem : ';' ∈ opening stage ++ (stripComments code ++ "\n\x7d".toList) ↔
          ';' ∈ stripComments code := by
        simp [hplain]
      rw [hmem]
      constructor
      · rintro hsemicolon ⟨hblank, -⟩
        exact hblank.not_mem rfl hsemicolon
      · intro hfull
        by_contra hnone
        exact hloses.1 (isExpression_iff.2 ⟨fun hblank => hfull ⟨hblank, hloses.2⟩, hnone⟩)
  · rw [stripComments_expand_eq hmention hloses]
    refine ⟨?_, iff_of_true (by simp) ?_⟩
    · have hdefines := definesEntry_opening stage
        (stripComments (statements stage code) ++ [';', '\n'])
      rwa [List.append_assoc] at hdefines
    · rintro ⟨hblank, hends⟩
      exact hloses ⟨fun hexpression => (isExpression_iff.1 hexpression).1 hblank, hends⟩

/-- A text that defines the entry function is left alone just if it has a semicolon; without one it
is assigned to the output like an expression.  What wrapping makes of a text is left alone
afterwards, unless there was nothing in the text but comments, of which the last went on to the end
of the text. -/
theorem expand_eq_self_iff (code : List Char) (stage : Stage) :
    (DefinesEntry stage (stripComments code) →
      (expand code stage = code ↔ ';' ∈ stripComments code) ∧
        (';' ∉ stripComments code →
          expand code stage = assignOutput stage (trim (stripComments code)))) ∧
      (¬ MentionsEntry stage (stripComments code) →
        (expand (expand code stage) stage = expand code stage ↔
          ¬ (Blank (stripComments code) ∧ EndsInLineComment code))) := by
  refine ⟨DefinesEntry.expand_iff, ?_⟩
  intro hmention
  obtain ⟨hdefines, hsemicolon⟩ := expand_wrapped hmention
  exact hdefines.expand_iff.1.trans hsemicolon

/-- A definition without a semicolon is not left alone. -/
theorem expand_eq_self_iff_of_empty_body :
    DefinesEntry .fragment (stripComments "void fragment() \x7b\x7d".toList) ∧
      expand "void fragment() \x7b\x7d".toList .fragment =
        "FOut = vec4(void fragment() \x7b\x7d);".toList ∧
      expand "void fragment() \x7b\x7d".toList .fragment ≠ "void fragment() \x7b\x7d".toList := by
  have hdefines : DefinesEntry .fragment (stripComments "void fragment() \x7b\x7d".toList) := by
    let d : EntryDefinition .fragment :=
      ⟨[' '], [], [], [' '], [], by decide, by decide, by decide, by decide⟩
    exact ⟨d, [], [], by decide +kernel⟩
  have hnone : ';' ∉ stripComments "void fragment() \x7b\x7d".toList := by decide +kernel
  obtain ⟨hkept, -⟩ := expand_eq_self_iff "void fragment() \x7b\x7d".toList .fragment
  obtain ⟨hsame, hassigned⟩ := hkept hdefines
  exact ⟨hdefines, (hassigned hnone).trans (by decide +kernel), fun h => hnone (hsame.1 h)⟩

end Shader

end DrawPass
