/-
DrawPass/Proofs/Hoisted.lean

What is hoisted out of a snippet.

A snippet is made of statements and of declarations of varyings, whose names may be initialized
(`Snippet`).  The declarations are found one after the other, since no statement has their word in
it and none of them has a semicolon before its own.  An initializer may have commas and equals
signs between parentheses.  These go with the parentheses (`Balanced.dropParens_eq`), so that what
is left ends at the comma or the semicolon behind it (`VaryingDeclaration.hoist`).  So the
declarations that are hoisted are those of the snippet, in order, without the initializers
(`extractVaryings_snippet`).
-/
import DrawPass.Proofs.Parentheses

namespace DrawPass

open Text

namespace Text

/-! ### Blanks and words -/

/-- A text of nothing but blanks. -/
def Blank (text : List Char) : Prop := ∀ c ∈ text, isBlank c = true

instance (text : List Char) : Decidable (Blank text) :=
  decidable_of_iff (text.all isBlank = true) List.all_eq_true

theorem Blank.not_mem {text : List Char} (h : Blank text) {c : Char} (hc : isBlank c = false) :
    c ∉ text := fun hmem => by
  rw [h c hmem] at hc
  cases hc

theorem Blank.filter {text : List Char} (h : Blank text) :
    text.filter (fun c => !isBlank c) = [] :=
  List.filter_eq_nil_iff.2 fun c hc => by simp [h c hc]

theorem Word.filter {text : List Char} (h : Word text) :
    text.filter (fun c => !isBlank c) = text :=
  List.filter_eq_self.2 fun c hc => by simp [isBlank_of_isWord (h.isWord c hc)]

/-- A word stands somewhere in a text, and is not part of a longer one. -/
def HasWord (word text : List Char) : Prop :=
  ∃ lead rest, text = lead ++ (word ++ rest) ∧ atWordStart lead.getLast? = true ∧
    rest.head?.any isWord = false

theorem joinWith_cons (separator text : List Char) (texts : List (List Char)) :
    joinWith separator (text :: texts) = text ++ texts.flatMap (separator ++ ·) := by
  induction texts generalizing text with
  | nil => exact (List.append_nil text).symm
  | cons text' texts ih =>
    change text ++ separator ++ joinWith separator (text' :: texts) = _
    rw [ih, List.flatMap_cons, List.append_assoc, List.append_assoc]

end Text

namespace Shader

/-! ### Texts without comments -/

/-- There is no comment in a text: no two slashes, and no opening mark with a closing one after
it. -/
structure CommentFree (text : List Char) : Prop where
  line : ∀ lead rest, text ≠ lead ++ '/' :: '/' :: rest
  block : ∀ lead inner rest, text ≠ lead ++ '/' :: '*' :: (inner ++ '*' :: '/' :: rest)

theorem afterClose_eq_some {text rest : List Char} (h : afterClose text = some rest) :
    ∃ inner, text = inner ++ '*' :: '/' :: rest := by
  fun_induction afterClose text with
  | case1 text =>
    cases h
    exact ⟨[], rfl⟩
  | case2 c text _ ih =>
    obtain ⟨inner, rfl⟩ := ih h
    exact ⟨c :: inner, rfl⟩
  | case3 => cases h

theorem CommentFree.comment_eq_none {text : List Char} (h : CommentFree text) :
    comment none text = none := by
  unfold comment
  split
  · rename_i rest
    split
    · rename_i rest' hclose
      obtain ⟨inner, rfl⟩ := afterClose_eq_some hclose
      exact absurd rfl (h.block [] inner rest')
    · rfl
  · rename_i rest
    exact absurd rfl (h.line [] rest)
  · rfl

/-- A text without comments loses nothing. -/
theorem CommentFree.stripComments_eq {text : List Char} (h : CommentFree text) :
    stripComments text = text := by
  induction text with
  | nil => exact stripComments_nil
  | cons c text ih =>
    have htail : CommentFree text :=
      ⟨fun lead rest heq => h.line (c :: lead) rest (congrArg (c :: ·) heq),
        fun lead inner rest heq => h.block (c :: lead) inner rest (congrArg (c :: ·) heq)⟩
    rw [stripComments_cons h.comment_eq_none, ih htail]

/-! ### Snippets -/

/-- What a varying is initialized with: some text with balanced parentheses, without a semicolon,
and without a comma outside of parentheses. -/
structure Initial where
  text : List Char
  outside : List Char
  ne_nil : text ≠ []
  balanced : Balanced text outside
  semicolon : ';' ∉ text
  comma : ',' ∉ outside

/-- The name of a varying, between blanks, and what it is initialized with. -/
structure Declarator where
  lead : List Char
  name : List Char
  trail : List Char
  initial : Option Initial
  lead_blank : Blank lead
  name_word : Word name
  trail_blank : Blank trail

/-- A declaration of varyings of one type, behind blanks. -/
structure VaryingDeclaration where
  lead : List Char
  gap : List Char
  type : List Char
  first : Declarator
  others : List Declarator
  lead_blank : Blank lead
  gap_blank : Blank gap
  gap_ne_nil : gap ≠ []
  type_word : Word type
  apart : first.lead ≠ []

/-- A statement: whatever ends with a semicolon or a brace and has no declaration in it. -/
structure Statement where
  body : List Char
  close : Char
  closes : close = ';' ∨ close = '}'
  quiet : ¬ HasWord varyingKeyword (body ++ [close])

/-- A piece of a snippet. -/
inductive Piece where
  | statement (s : Statement)
  | declaration (d : VaryingDeclaration)

/-- Statements and declarations, and blanks after the last of them. -/
structure Snippet where
  pieces : List Piece
  trail : List Char
  trail_blank : Blank trail

namespace Declarator

/-- The name with the blanks around it. -/
def kept (d : Declarator) : List Char := d.lead ++ (d.name ++ d.trail)

/-- The whole of a declarator. -/
def text (d : Declarator) : List Char :=
  d.kept ++ (d.initial.map fun e => '=' :: e.text).getD []

/-- What of a declarator stands outside of parentheses. -/
def outside (d : Declarator) : List Char :=
  d.kept ++ (d.initial.map fun e => '=' :: e.outside).getD []

end Declarator

namespace VaryingDeclaration

/-- A declaration from its word on, with its declarators written in some way. -/
def written (d : VaryingDeclaration) (write : Declarator → List Char) : List Char :=
  varyingKeyword ++ (d.gap ++ (d.type ++ (write d.first ++
    (d.others.flatMap (fun other => ',' :: write other) ++ [';']))))

/-- The whole of a declaration. -/
def text (d : VaryingDeclaration) : List Char := d.lead ++ d.written Declarator.text

/-- A declaration without the initializers. -/
def hoisted (d : VaryingDeclaration) : List Char := d.written Declarator.kept

/-- A declaration without initializers and blanks. -/
def bare (d : VaryingDeclaration) : List Char :=
  varyingKeyword ++ (d.type ++
    (joinWith [','] ((d.first :: d.others).map Declarator.name) ++ [';']))

end VaryingDeclaration

/-- The whole of a piece. -/
def Piece.text : Piece → List Char
  | statement s => s.body ++ [s.close]
  | declaration d => d.text

/-- The declaration that a piece is. -/
def Piece.declaration? : Piece → Option VaryingDeclaration
  | statement _ => none
  | declaration d => some d

namespace Snippet

/-- The whole of a snippet. -/
def text (s : Snippet) : List Char := s.pieces.flatMap Piece.text ++ s.trail

/-- The declarations of a snippet. -/
def declarations (s : Snippet) : List VaryingDeclaration := s.pieces.filterMap Piece.declaration?

end Snippet

/-! ### Initializers -/

section

variable {c : Char} {text rest : List Char}

/-- A text without initializers. -/
def dropInitializers (text : List Char) : List Char := initializer.replaceAll (fun _ => []) text

theorem replaceFrom_initializer (before : Option Char) (text : List Char) :
    initializer.replaceFrom (fun _ => []) before text = dropInitializers text :=
  Pattern.replaceFrom_congr (fun _ _ _ => rfl) before none text

/-- Without an equals sign nothing is an initializer. -/
theorem dropInitializers_append (h : '=' ∉ text) (rest : List Char) :
    dropInitializers (text ++ rest) = text ++ dropInitializers rest := by
  induction text with
  | nil => rfl
  | cons c text ih =>
    rw [List.mem_cons, not_or] at h
    have hnone : initializer none (c :: (text ++ rest)) = none :=
      initializer.eq_2 _ _ fun rest heq => by
        cases heq
        exact h.1 rfl
    rw [List.cons_append, ← replaceFrom_initializer none, Pattern.replaceFrom_cons_none hnone,
      replaceFrom_initializer, ih h.2, List.cons_append]

/-- An initializer goes up to the next comma or semicolon. -/
theorem dropInitializers_initial (htext : ∀ c ∈ text, c ≠ ',' ∧ c ≠ ';')
    (hc : c = ',' ∨ c = ';') (rest : List Char) :
    dropInitializers ('=' :: (text ++ c :: rest)) = dropInitializers (c :: rest) := by
  have hend : (text ++ c :: rest).dropWhile (fun c => c != ',' && c != ';') = c :: rest := by
    rw [List.dropWhile_append_of_pos fun d hd => by simp [htext d hd]]
    rcases hc with rfl | rfl <;> rfl
  rw [← replaceFrom_initializer none, Pattern.replaceFrom_cons_some (initializer.eq_1 ..),
    replaceFrom_initializer, hend, List.nil_append]

end

namespace Balanced

/-- Outside of parentheses there is nothing that is not in the text. -/
theorem mem_of_mem_outside {text outside : List Char} (h : Balanced text outside) {c : Char}
    (hc : c ∈ outside) : c ∈ text := by
  induction h with
  | nil => exact hc
  | plain _ _ _ ih =>
    rcases List.mem_cons.1 hc with rfl | hc
    · exact List.mem_cons_self
    · exact List.mem_cons_of_mem _ (ih hc)
  | paren _ _ _ ih => simp [ih hc]

end Balanced

namespace Declarator

variable (d : Declarator)

/-- Around a name there are only blanks. -/
theorem not_mem_kept {c : Char} (hword : isWord c = false) (hblank : isBlank c = false) :
    c ∉ d.kept := by
  simp [kept, d.lead_blank.not_mem hblank, d.name_word.not_mem hword, d.trail_blank.not_mem hblank]

theorem semicolon_not_mem : ';' ∉ d.text := by
  rw [text, List.mem_append, not_or]
  refine ⟨d.not_mem_kept rfl rfl, ?_⟩
  cases d.initial with
  | none => exact List.not_mem_nil
  | some e => simp [e.semicolon]

theorem balanced : Balanced d.text d.outside := by
  have hkept : Balanced d.kept d.kept := .of_plain fun c hc =>
    ⟨fun h => d.not_mem_kept rfl rfl (h ▸ hc), fun h => d.not_mem_kept rfl rfl (h ▸ hc)⟩
  refine hkept.append ?_
  cases d.initial with
  | none => exact .nil
  | some e => exact .plain (by decide) (by decide) e.balanced

/-- Up to the next comma or semicolon the name is what is left. -/
theorem dropInitializers_outside {c : Char} (hc : c = ',' ∨ c = ';') (rest : List Char) :
    dropInitializers (d.outside ++ c :: rest) = d.kept ++ dropInitializers (c :: rest) := by
  rw [outside, List.append_assoc, dropInitializers_append (d.not_mem_kept rfl rfl)]
  cases d.initial with
  | none => rfl
  | some e =>
    refine congrArg (d.kept ++ ·) (dropInitializers_initial (fun c hmem => ?_) hc rest)
    exact ⟨fun h => e.comma (h ▸ hmem),
      fun h => e.semicolon (h ▸ e.balanced.mem_of_mem_outside hmem)⟩

theorem filter_kept : d.kept.filter (fun c => !isBlank c) = d.name := by
  rw [kept, List.filter_append, List.filter_append, d.lead_blank.filter, d.name_word.filter,
    d.trail_blank.filter, List.append_nil, List.nil_append]

end Declarator

namespace VaryingDeclaration

variable (d : VaryingDeclaration)

/-- The word, the blanks after it and the type have none of the characters that matter. -/
theorem not_mem_head {c : Char} (hword : isWord c = false) (hblank : isBlank c = false) :
    c ∉ varyingKeyword ∧ c ∉ d.gap ∧ c ∉ d.type :=
  ⟨(show Word varyingKeyword by decide).not_mem hword, d.gap_blank.not_mem hblank,
    d.type_word.not_mem hword⟩

/-- The parentheses of a declaration are those of its initializers. -/
theorem balanced : Balanced (d.written Declarator.text) (d.written Declarator.outside) := by
  have hplain {text : List Char} (hopen : '(' ∉ text) (hclose : ')' ∉ text) :
      Balanced text text :=
    .of_plain fun c hc => ⟨fun h => hopen (h ▸ hc), fun h => hclose (h ▸ hc)⟩
  have hopen := d.not_mem_head (c := '(') rfl rfl
  have hclose := d.not_mem_head (c := ')') rfl rfl
  have hothers : Balanced (d.others.flatMap fun other => ',' :: other.text)
      (d.others.flatMap fun other => ',' :: other.outside) := by
    induction d.others with
    | nil => exact .nil
    | cons other others ih =>
      rw [List.flatMap_cons, List.flatMap_cons]
      exact .append (.plain (by decide) (by decide) other.balanced) ih
  refine (hplain hopen.1 hclose.1).append ((hplain hopen.2.1 hclose.2.1).append
    ((hplain hopen.2.2 hclose.2.2).append (d.first.balanced.append (hothers.append ?_))))
  exact .plain (by decide) (by decide) .nil

/-- Outside of parentheses, an initializer is what stands between an equals sign and a comma or
the semicolon. -/
theorem dropInitializers_outside :
    dropInitializers (d.written Declarator.outside) = d.hoisted := by
  have hequals := d.not_mem_head (c := '=') rfl rfl
  -- Behind every declarator comes a comma or the semicolon.
  have hothers (first : Declarator) (others : List Declarator) :
      dropInitializers (first.outside ++
        (others.flatMap (fun other => ',' :: other.outside) ++ [';'])) =
      first.kept ++ (others.flatMap (fun other => ',' :: other.kept) ++ [';']) := by
    have hcomma (rest : List Char) :
        dropInitializers (',' :: rest) = ',' :: dropInitializers rest :=
      @dropInitializers_append [','] (by decide) rest
    induction others generalizing first with
    | nil =>
      have hend : dropInitializers [';'] = [';'] := by
        have hnil : dropInitializers [] = [] := by
          rw [dropInitializers, Pattern.replaceAll, Pattern.segments]
          rfl
        have hlast := @dropInitializers_append [';'] (by decide) []
        rwa [hnil, List.append_nil] at hlast
      rw [List.flatMap_nil, List.flatMap_nil, List.nil_append,
        first.dropInitializers_outside (.inr rfl), hend]
    | cons other others ih =>
      rw [List.flatMap_cons, List.flatMap_cons, List.append_assoc, List.cons_append,
        first.dropInitializers_outside (.inl rfl), hcomma, ih, List.append_assoc, List.cons_append]
  rw [written, dropInitializers_append hequals.1, dropInitializers_append hequals.2.1,
    dropInitializers_append hequals.2.2, hothers]
  rfl

/-- What is made of a declaration that has been found. -/
theorem hoist : dropInitializers (dropParens (d.written Declarator.text)) = d.hoisted := by
  rw [d.balanced.dropParens_eq, d.dropInitializers_outside]

theorem filter_hoisted : d.hoisted.filter (fun c => !isBlank c) = d.bare := by
  have hothers : (d.others.flatMap fun other => ',' :: other.kept).filter (fun c => !isBlank c) =
      (d.others.map Declarator.name).flatMap ([','] ++ ·) := by
    induction d.others with
    | nil => rfl
    | cons other others ih =>
      rw [List.flatMap_cons, List.filter_append, List.map_cons, List.flatMap_cons, ih]
      have hcomma : ([','] ++ other.kept).filter (fun c => !isBlank c) = [','] ++ other.name := by
        rw [List.filter_append, other.filter_kept]
        rfl
      exact congrArg (· ++ _) hcomma
  have hkeyword : varyingKeyword.filter (fun c => !isBlank c) = varyingKeyword :=
    (show Word varyingKeyword by decide).filter
  have hend : [';'].filter (fun c => !isBlank c) = [';'] := rfl
  rw [hoisted, written, bare, List.map_cons, joinWith_cons]
  simp only [List.filter_append, hkeyword, d.gap_blank.filter, d.type_word.filter,
    d.first.filter_kept, hothers, hend, List.nil_append, List.append_assoc]

end VaryingDeclaration

/-! ### Finding declarations -/

section

variable {before : Option Char} {c : Char} {text rest : List Char}

/-- What stands before a text matters only in so far as a word may begin there. -/
theorem findsFrom_congr (h : atWordStart before = true) (text : List Char) :
    varyingDeclaration.findsFrom before text = varyingDeclaration.findsFrom none text := by
  refine Pattern.findsFrom_congr ?_
  unfold varyingDeclaration
  rw [h]
  rfl

/-- Where a declaration begins, its word begins, and a blank comes after it. -/
theorem varyingDeclaration_eq_none (h : ∀ after, text = varyingKeyword ++ after →
    atWordStart before = true → after.head?.any isBlank = false) :
    varyingDeclaration before text = none := by
  unfold varyingDeclaration
  split
  · rename_i hstart
    split
    · rename_i after hafter
      have hblank := h after (afterKeyword_eq_some_iff.1 hafter) hstart
      split
      · rename_i semicolon rest hrest
        refine if_neg ?_
        cases after with
        | nil => simp
        | cons d after =>
          rw [List.takeWhile_cons]
          split
          · simp only [List.head?_cons, Option.any_some] at hblank ⊢
            simp [hblank]
          · simp
      · rfl
    · rfl
  · rfl

/-- The whole of a declaration is found, up to its semicolon. -/
theorem varyingDeclaration_eq_some {body : List Char} (hstart : atWordStart before = true)
    (hblank : body.head?.any isBlank = true) (hlength : 2 ≤ body.length) (hbody : ';' ∉ body)
    (rest : List Char) :
    ∃ hrest, varyingDeclaration before (varyingKeyword ++ (body ++ ';' :: rest)) =
      some (varyingKeyword ++ (body ++ [';']), ⟨rest, hrest⟩) := by
  have htake := takeWhile_append_cons hbody rest
  have hdrop := dropWhile_append_cons hbody rest
  have hkeyword : afterKeyword varyingKeyword (varyingKeyword ++ (body ++ ';' :: rest)) =
      some (body ++ ';' :: rest) := rfl
  have hlt : rest.length < (varyingKeyword ++ (body ++ ';' :: rest)).length := by
    simp only [List.length_append, List.length_cons]
    omega
  refine ⟨hlt, ?_⟩
  unfold varyingDeclaration
  rw [if_pos hstart]
  split
  · rename_i after hafter
    cases hkeyword.symm.trans hafter
    split
    · rename_i semicolon rest' hrest
      cases hdrop.symm.trans hrest
      simp [htake, hblank, hlength]
    · rename_i hrest
      cases hdrop.symm.trans hrest
  · rename_i hafter
    cases hkeyword.symm.trans hafter

theorem findsFrom_declaration {body : List Char} (hstart : atWordStart before = true)
    (hblank : body.head?.any isBlank = true) (hlength : 2 ≤ body.length) (hbody : ';' ∉ body)
    (rest : List Char) :
    varyingDeclaration.findsFrom before (varyingKeyword ++ (body ++ ';' :: rest)) =
      (varyingKeyword ++ (body ++ [';'])) :: varyingDeclaration.findsFrom none rest := by
  obtain ⟨hrest, hfound⟩ := varyingDeclaration_eq_some hstart hblank hlength hbody rest
  have happend : varyingKeyword ++ (body ++ ';' :: rest) =
      varyingKeyword ++ (body ++ [';']) ++ rest := by simp
  have hlast : Pattern.lastRead (varyingKeyword ++ (body ++ ';' :: rest)) rest = some ';' := by
    rw [happend, Pattern.lastRead_eq]
    simp
  refine (Pattern.findsFrom_cons_some hfound).trans ?_
  exact congrArg (_ :: ·) ((congrArg (varyingDeclaration.findsFrom · rest) hlast).trans
    (findsFrom_congr rfl rest))

/-- In front of a declaration blanks do not matter. -/
theorem findsFrom_blank (hstart : atWordStart before = true) (h : Blank text)
    (rest : List Char) :
    varyingDeclaration.findsFrom before (text ++ rest) =
      varyingDeclaration.findsFrom none rest := by
  induction text generalizing before with
  | nil => exact findsFrom_congr hstart rest
  | cons c text ih =>
    obtain ⟨hc, htext⟩ := List.forall_mem_cons.1 h
    have hnone : varyingDeclaration before (c :: (text ++ rest)) = none := by
      refine varyingDeclaration_eq_none fun after heq => ?_
      injection heq with hhead
      rw [hhead] at hc
      cases hc
    refine (Pattern.findsFrom_cons_none hnone).trans (ih ?_ htext)
    simp only [atWordStart, Option.any_some, Bool.not_eq_true']
    exact isWord_of_isBlank hc

/-- Nothing is found in a statement. -/
theorem Statement.findsFrom (s : Statement) (hstart : atWordStart before = true)
    (rest : List Char) :
    varyingDeclaration.findsFrom before (s.body ++ s.close :: rest) =
      varyingDeclaration.findsFrom none rest := by
  have hclose : s.close ∉ varyingKeyword ∧ atWordStart (some s.close) = true := by
    rcases s.closes with h | h <;> rw [h] <;> decide
  -- The statement is read from left to right: `lead` is what has been read of it.
  have hread (lead body : List Char) (hbody : s.body = lead ++ body) (before : Option Char)
      (hbefore : atWordStart before = atWordStart lead.getLast?) :
      varyingDeclaration.findsFrom before (body ++ s.close :: rest) =
        varyingDeclaration.findsFrom none rest := by
    have hnone (lead part : List Char) {before : Option Char}
        (hpart : s.body ++ [s.close] = lead ++ (part ++ [s.close]))
        (hbefore : atWordStart before = atWordStart lead.getLast?) :
        varyingDeclaration before (part ++ s.close :: rest) = none := by
      refine varyingDeclaration_eq_none fun after hafter hstart => ?_
      rw [← List.singleton_append, ← List.append_assoc] at hafter
      -- A declaration that begins here would be within the statement: its word has no closing mark.
      rcases List.append_eq_append_iff.1 hafter with ⟨more, hkeyword, -⟩ | ⟨more, hmore, rfl⟩
      · exact absurd (hkeyword ▸ by simp) hclose.1
      · cases more with
        | nil =>
          rw [List.append_nil] at hmore
          exact absurd (hmore ▸ by simp) hclose.1
        | cons d more =>
          refine Bool.eq_false_iff.2 fun hblank => s.quiet ⟨lead, d :: more, ?_, ?_, ?_⟩
          · rw [hpart, hmore]
          · rw [← hbefore, hstart]
          · exact isWord_of_isBlank hblank
    induction body generalizing lead before with
    | nil =>
      rw [List.append_nil] at hbody
      have hhere := hnone lead [] (by rw [hbody, List.nil_append]) hbefore
      exact (Pattern.findsFrom_cons_none hhere).trans (findsFrom_congr hclose.2 rest)
    | cons c body ih =>
      have hhere := hnone lead (c :: body) (by rw [hbody, List.append_assoc]) hbefore
      refine (Pattern.findsFrom_cons_none hhere).trans (ih (lead ++ [c]) ?_ (some c) ?_)
      · rw [hbody, List.append_assoc, List.singleton_append]
      · rw [List.getLast?_concat]
  exact hread [] s.body rfl before hstart

/-- A declaration is found as it is written. -/
theorem VaryingDeclaration.findsFrom (d : VaryingDeclaration) (hstart : atWordStart before = true)
    (rest : List Char) :
    varyingDeclaration.findsFrom before (d.text ++ rest) =
      d.written Declarator.text :: varyingDeclaration.findsFrom none rest := by
  let body := d.gap ++ (d.type ++ (d.first.text ++
    d.others.flatMap fun other => ',' :: other.text))
  obtain ⟨g, gap, hgap⟩ := List.exists_cons_of_ne_nil d.gap_ne_nil
  have hblank : body.head?.any isBlank = true := by
    simp only [body, hgap, List.cons_append, List.head?_cons, Option.any_some]
    exact d.gap_blank g (hgap ▸ List.mem_cons_self)
  have hlength : 2 ≤ body.length := by
    have hgap := List.length_pos_iff.2 d.gap_ne_nil
    have htype := List.length_pos_iff.2 d.type_word.ne_nil
    simp only [body, List.length_append]
    omega
  have hbody : ';' ∉ body := by
    have hhead := d.not_mem_head (c := ';') rfl rfl
    simp only [body, List.mem_append, List.mem_flatMap, List.mem_cons, not_or, not_exists, not_and]
    exact ⟨hhead.2.1, hhead.2.2, d.first.semicolon_not_mem,
      fun other _ => ⟨by decide, other.semicolon_not_mem⟩⟩
  have hwritten : d.written Declarator.text = varyingKeyword ++ (body ++ [';']) := by
    simp only [written, body, List.append_assoc]
  have happend : d.text ++ rest = d.lead ++ (varyingKeyword ++ (body ++ ';' :: rest)) := by
    rw [text, hwritten]
    simp only [List.append_assoc, List.singleton_append]
  rw [happend, findsFrom_blank hstart d.lead_blank, findsFrom_declaration rfl hblank hlength hbody,
    hwritten]

end

/-- Just the declarations of a snippet are found. -/
theorem Snippet.findAll (s : Snippet) : varyingDeclaration.findAll s.text =
    s.declarations.map fun d => d.written Declarator.text := by
  have hpieces (pieces : List Piece) :
      varyingDeclaration.findsFrom none (pieces.flatMap Piece.text ++ s.trail) =
        (pieces.filterMap Piece.declaration?).map fun d => d.written Declarator.text := by
    induction pieces with
    | nil =>
      have htrail := @findsFrom_blank none s.trail rfl s.trail_blank []
      rwa [List.append_nil, Pattern.findsFrom_nil] at htrail
    | cons piece pieces ih =>
      rw [List.flatMap_cons, List.append_assoc]
      cases piece with
      | statement statement =>
        change varyingDeclaration.findsFrom none (statement.body ++ [statement.close] ++ _) = _
        rw [List.append_assoc, List.singleton_append, statement.findsFrom rfl, ih]
        rfl
      | declaration d =>
        change varyingDeclaration.findsFrom none (d.text ++ _) = _
        rw [d.findsFrom rfl, ih]
        rfl
  exact hpieces s.pieces

/-- The declarations of varyings in a snippet without comments are hoisted one per line, in order,
each without its initializers: what is left of it, apart from blanks, is its word, its type and all
its names. -/
theorem extractVaryings_snippet (s : Snippet) (hfree : CommentFree s.text) :
    extractVaryings s.text = joinWith ['\n'] (s.declarations.map VaryingDeclaration.hoisted) ∧
      ∀ d ∈ s.declarations, d.hoisted.filter (fun c => !isBlank c) = d.bare := by
  refine ⟨?_, fun d _ => d.filter_hoisted⟩
  rw [extractVaryings, hfree.stripComments_eq, s.findAll, List.map_map]
  refine congrArg (joinWith ['\n']) (List.map_congr_left fun d _ => ?_)
  exact d.hoist

/-- An initializer with parentheses in parentheses and a comma between them. -/
theorem extractVaryings_snippet_of_nested :
    ∃ s : Snippet, s.text = "varying vec2 c = f((1), 2), n; P = c;".toList ∧ CommentFree s.text ∧
      extractVaryings s.text = "varying vec2 c , n;".toList ∧
      ∀ d ∈ s.declarations, d.hoisted.filter (fun c => !isBlank c) = d.bare := by
  have hone : Balanced "(1)".toList [] := .paren (@Balanced.of_plain ['1'] (by simp)) .nil
  have harguments : Balanced "((1), 2)".toList [] :=
    .paren (hone.append (@Balanced.of_plain ", 2".toList (by simp))) .nil
  have hcall : Balanced " f((1), 2)".toList " f".toList :=
    (@Balanced.of_plain " f".toList (by simp)).append harguments
  let initial : Initial := ⟨_, _, by decide, hcall, by decide, by decide⟩
  let first : Declarator := ⟨[' '], ['c'], [' '], some initial, by decide, by decide, by decide⟩
  let other : Declarator := ⟨[' '], ['n'], [], none, by decide, by decide, by decide⟩
  let declaration : VaryingDeclaration :=
    ⟨[], [' '], "vec2".toList, first, [other], by decide, by decide, by decide, by decide,
      List.cons_ne_nil _ _⟩
  have hquiet : ¬ HasWord varyingKeyword (" P = c".toList ++ [';']) := by
    rintro ⟨lead, rest, htext, -⟩
    have hmem : 'v' ∈ " P = c".toList ++ [';'] := htext ▸ by simp [varyingKeyword]
    exact absurd hmem (by decide)
  let statement : Statement := ⟨_, ';', .inl rfl, hquiet⟩
  let s : Snippet := ⟨[.declaration declaration, .statement statement], [], by decide⟩
  have htext : s.text = "varying vec2 c = f((1), 2), n; P = c;".toList := by rfl
  have hslash : '/' ∉ s.text := by
    rw [htext]
    decide
  have hfree : CommentFree s.text :=
    ⟨fun lead rest h => hslash (h ▸ by simp), fun lead inner rest h => hslash (h ▸ by simp)⟩
  obtain ⟨hlines, hbare⟩ := extractVaryings_snippet s hfree
  exact ⟨s, htext, hfree, hlines, hbare⟩

end Shader

end DrawPass
