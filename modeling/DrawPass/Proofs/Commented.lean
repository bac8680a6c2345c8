/-
DrawPass/Proofs/Commented.lean

What of a text stands outside of comments.

`ReadsTo text code rest` says that a reader who passes over comments comes from `text` to `rest`
and has read `code` on the way.  Comments are looked for once, from left to right, so in general
the comments of a text put together are not those of its parts.  Two facts keep this in hand:

* what is left of a text has no comment itself (`commentFree_stripComments`), so that removing
  comments twice is removing them once (`stripComments_stripComments`): a slash that is left keeps
  the character behind it, so no two characters are brought together to begin a comment
  (`stripComments_complete`);
* text put behind a text, if it can neither close a comment nor make one with the last character
  before it, keeps its own comments, unless the text in front ends within a comment to the end of
  the line; then the rest of that line belongs to the comment (`stripComments_append_of_not`,
  `EndsInLineComment.stripComments_append`).
-/
import DrawPass.Proofs.Hoisted
import DrawPass.Proofs.Searched

namespace DrawPass.Shader

open Text

variable {c : Char} {text code rest more : List Char}

/-! ### The scanner of comments, step by step -/

theorem afterClose_append (h : afterClose text = some rest) :
    afterClose (text ++ more) = some (rest ++ more) := by
  fun_induction afterClose text with
  | case1 text =>
    cases h
    rfl
  | case2 c text hc ih =>
    rw [List.cons_append, afterClose, ih h]
    intro inner hstar hslash
    cases text with
    | nil => cases h
    | cons d text =>
      injection hslash with hd htext
      exact hc text hstar (hd ▸ rfl)
  | case3 => cases h

/-- If something is left of the front of a text, all that comes behind is. -/
theorem dropWhile_append_of_ne_nil {p : Char → Bool} (h : text.dropWhile p ≠ [])
    (more : List Char) : (text ++ more).dropWhile p = text.dropWhile p ++ more := by
  rw [List.dropWhile_append]
  exact if_neg (by simpa using h)

/-- A closed comment of several lines. -/
theorem comment_block (h : afterClose text = some rest) :
    ∃ hrest, comment none ('/' :: '*' :: text) = some ((), ⟨rest, hrest⟩) := by
  have hlt : rest.length < ('/' :: '*' :: text).length := by
    have := length_afterClose h
    simp only [List.length_cons]
    omega
  refine ⟨hlt, ?_⟩
  rw [comment.eq_1]
  split
  · rename_i rest' hclose
    cases h.symm.trans hclose
    rfl
  · rename_i hnone
    cases h.symm.trans hnone

theorem stripComments_block (h : afterClose text = some rest) :
    stripComments ('/' :: '*' :: text) = stripComments rest := by
  obtain ⟨hrest, hfound⟩ := comment_block h
  rw [← replaceFrom_comment none, Pattern.replaceFrom_cons_some hfound]
  exact replaceFrom_comment _ _

/-- A text begins with no comment, with one of several lines, or with one to the end of the
line. -/
theorem comment_cases (text : List Char) : comment none text = none ∨
    (∃ inner rest, text = '/' :: '*' :: inner ∧ afterClose inner = some rest) ∨
      ∃ inner, text = '/' :: '/' :: inner := by
  unfold comment
  split
  · rename_i inner
    split
    · rename_i rest hclose
      exact .inr (.inl ⟨inner, rest, rfl, hclose⟩)
    · exact .inl rfl
  · rename_i inner
    exact .inr (.inr ⟨inner, rfl⟩)
  · exact .inl rfl

/-- A character begins no comment just if it is no slash, or neither a second slash nor a star
with a closing mark behind it comes after it. -/
theorem comment_eq_none_iff : comment none (c :: text) = none ↔ (c = '/' →
    text.head? ≠ some '/' ∧ ∀ inner, text = '*' :: inner → afterClose inner = none) := by
  constructor
  · rintro h rfl
    refine ⟨?_, ?_⟩
    · intro hslash
      obtain ⟨text, rfl⟩ := List.head?_eq_some_iff.1 hslash
      rw [comment.eq_2] at h
      cases h
    · rintro inner rfl
      rw [comment.eq_1] at h
      split at h
      · cases h
      · assumption
  · intro h
    rcases comment_cases (c :: text) with hnone | ⟨inner, rest, heq, hclose⟩ | ⟨inner, heq⟩
    · exact hnone
    · injection heq with hc htext
      rw [(h hc).2 inner htext] at hclose
      cases hclose
    · injection heq with hc htext
      exact absurd (htext ▸ rfl) (h hc).1

/-- What holds of a text if it can be told by scanning it for comments. -/
theorem comment_induction {motive : List Char → Prop} (nil : motive [])
    (char : ∀ c text, comment none (c :: text) = none → motive text → motive (c :: text))
    (block : ∀ text rest, afterClose text = some rest → motive rest →
      motive ('/' :: '*' :: text))
    (line : ∀ text, motive (text.dropWhile (· != '\n')) → motive ('/' :: '/' :: text))
    (text : List Char) : motive text := by
  induction hn : text.length using Nat.strong_induction_on generalizing text with
  | _ n ih =>
    subst hn
    rcases comment_cases text with hnone | ⟨inner, rest, rfl, hclose⟩ | ⟨inner, rfl⟩
    · cases text with
      | nil => exact nil
      | cons c text => exact char c text hnone (ih _ (Nat.lt_succ_self _) text rfl)
    · have hlt := length_afterClose hclose
      refine block inner rest hclose (ih _ ?_ rest rfl)
      simp only [List.length_cons]
      omega
    · have hle := length_dropWhile_le (· != '\n') inner
      refine line inner (ih _ ?_ _ rfl)
      simp only [List.length_cons]
      omega

/-! ### Reading past comments -/

/-- A reader who passes over comments comes from a text to what is left of it, and has read some
code on the way. -/
inductive ReadsTo : (text code rest : List Char) → Prop where
  | here (text : List Char) : ReadsTo text [] text
  | char {c : Char} {text code rest : List Char} (hnone : comment none (c :: text) = none)
      (h : ReadsTo text code rest) : ReadsTo (c :: text) (c :: code) rest
  | block {text inner code rest : List Char} (hclose : afterClose text = some inner)
      (h : ReadsTo inner code rest) : ReadsTo ('/' :: '*' :: text) code rest
  | line {text code rest : List Char} (h : ReadsTo (text.dropWhile (· != '\n')) code rest) :
      ReadsTo ('/' :: '/' :: text) code rest

namespace ReadsTo

/-- What has been read is what comes first without the comments. -/
theorem stripComments_eq (h : ReadsTo text code rest) :
    stripComments text = code ++ stripComments rest := by
  induction h with
  | here => rfl
  | char hnone _ ih => rw [stripComments_cons hnone, ih, List.cons_append]
  | block hclose _ ih => rw [stripComments_block hclose, ih]
  | line _ ih => rw [stripComments_toLineEnd, ih]

/-- What is left stands at the end. -/
theorem suffix (h : ReadsTo text code rest) : rest <:+ text := by
  induction h with
  | here => exact List.suffix_refl _
  | char _ _ ih => exact ih.trans (List.suffix_cons ..)
  | block hclose _ ih =>
    obtain ⟨inner, rfl⟩ := afterClose_eq_some hclose
    have hclosed : ∀ closed : List Char, closed <:+ inner ++ '*' :: '/' :: closed := by
      intro closed
      exact ⟨inner ++ ['*', '/'], by simp⟩
    exact ih.trans ((hclosed _).trans ((List.suffix_cons ..).trans (List.suffix_cons ..)))
  | line _ ih =>
    exact ih.trans ((List.dropWhile_suffix _).trans
      ((List.suffix_cons ..).trans (List.suffix_cons ..)))

/-- A text without a slash is read as it stands. -/
theorem of_not_mem (h : '/' ∉ text) (rest : List Char) : ReadsTo (text ++ rest) text rest := by
  induction text with
  | nil => exact .here rest
  | cons c text ih =>
    rw [List.mem_cons, not_or] at h
    exact .char (comment_eq_none_iff.2 fun hc => absurd hc.symm h.1) (ih h.2)

end ReadsTo

/-- A text without a slash has no comment to lose. -/
theorem stripComments_of_not_mem (h : '/' ∉ text) : stripComments text = text := by
  have happend := stripComments_append h []
  rwa [stripComments_nil, List.append_nil] at happend

/-! ### What is left has no comments -/

/-- The closing mark of a comment of several lines. -/
def closingMark : List Char := ['*', '/']

theorem closingMark_prefix_iff :
    closingMark <+: c :: text ↔ c = '*' ∧ text.head? = some '/' := by
  constructor
  · rintro ⟨rest, heq⟩
    injection heq with hc htext
    exact ⟨hc.symm, htext ▸ rfl⟩
  · rintro ⟨rfl, hslash⟩
    obtain ⟨rest, rfl⟩ := List.head?_eq_some_iff.1 hslash
    exact ⟨rest, rfl⟩

/-- Nothing follows a closing mark just if there is none. -/
theorem afterClose_eq_none_iff : afterClose text = none ↔ ¬ closingMark <:+: text := by
  fun_induction afterClose text with
  | case1 rest => exact iff_of_false (Option.some_ne_none rest) (not_not_intro ⟨[], rest, rfl⟩)
  | case2 c text hc ih =>
    rw [ih, List.infix_cons_iff, not_or]
    refine ⟨fun h => ⟨fun hmark => ?_, h⟩, And.right⟩
    obtain ⟨rfl, hslash⟩ := closingMark_prefix_iff.1 hmark
    obtain ⟨rest, rfl⟩ := List.head?_eq_some_iff.1 hslash
    exact hc rest rfl rfl
  | case3 => exact iff_of_true rfl (by simp [closingMark])

/-- Where no closing mark stands, none comes about. -/
theorem closingMark_stripComments (h : ¬ closingMark <:+: text) :
    ¬ closingMark <:+: stripComments text := by
  induction text using comment_induction with
  | nil => rwa [stripComments_nil]
  | char c text hnone ih =>
    rw [List.infix_cons_iff, not_or] at h
    rw [stripComments_cons hnone, List.infix_cons_iff]
    rintro (hmark | hmark)
    · obtain ⟨hc, hslash⟩ := closingMark_prefix_iff.1 hmark
      have hhead : text.head? ≠ some '/' := fun hhead =>
        h.1 (closingMark_prefix_iff.2 ⟨hc, hhead⟩)
      -- What comes after the star is no slash, so no comment begins there, and it stays.
      cases text with
      | nil =>
        rw [stripComments_nil] at hslash
        cases hslash
      | cons d text =>
        have hd : d ≠ '/' := fun hd => hhead (hd ▸ rfl)
        rw [stripComments_cons (comment_eq_none_iff.2 fun hd' => absurd hd' hd)] at hslash
        exact hd (Option.some.inj hslash)
    · exact ih h.2 hmark
  | block text rest hclose _ =>
    obtain ⟨inner, rfl⟩ := afterClose_eq_some hclose
    exact absurd ⟨'/' :: '*' :: inner, rest, by simp [closingMark]⟩ h
  | line text ih =>
    rw [stripComments_toLineEnd]
    refine ih fun hmark => h (hmark.trans ?_)
    exact ((List.dropWhile_suffix _).trans
      ((List.suffix_cons ..).trans (List.suffix_cons ..))).isInfix

/-- In front of a text without comments a character begins one or there is none. -/
theorem CommentFree.cons (hnone : comment none (c :: text) = none) (h : CommentFree text) :
    CommentFree (c :: text) := by
  rw [comment_eq_none_iff] at hnone
  refine ⟨?_, ?_⟩
  · intro lead rest heq
    cases lead with
    | nil =>
      injection heq with hc htext
      exact (hnone hc).1 (htext ▸ rfl)
    | cons d lead =>
      injection heq with hc htext
      exact h.line lead rest htext
  · intro lead inner rest heq
    cases lead with
    | nil =>
      injection heq with hc htext
      exact afterClose_eq_none_iff.1 ((hnone hc).2 _ htext) ⟨inner, rest, by simp [closingMark]⟩
    | cons d lead =>
      injection heq with hc htext
      exact h.block lead inner rest htext

/-- No comment begins right behind a slash that begins none, so the character behind it stays. -/
theorem stripComments_behind_slash (h : comment none ('/' :: c :: text) = none) :
    stripComments (c :: text) = c :: stripComments text := by
  refine stripComments_cons (comment_eq_none_iff.2 ?_)
  rintro rfl
  exact absurd rfl (comment_eq_none_iff.1 h rfl).1

/-- What is left of a text has no comment. -/
theorem commentFree_stripComments (text : List Char) : CommentFree (stripComments text) := by
  induction text using comment_induction with
  | nil =>
    rw [stripComments_nil]
    exact ⟨fun lead rest h => by simp at h, fun lead inner rest h => by simp at h⟩
  | char c text hnone ih =>
    rw [stripComments_cons hnone]
    refine ih.cons (comment_eq_none_iff.2 fun hc => ?_)
    obtain ⟨hslash, hstar⟩ := comment_eq_none_iff.1 hnone hc
    cases text with
    | nil =>
      rw [stripComments_nil]
      exact ⟨by simp, by simp⟩
    | cons d text =>
      rw [stripComments_behind_slash (hc ▸ hnone)]
      refine ⟨hslash, ?_⟩
      intro inner heq
      injection heq with hd htext
      rw [← htext]
      rw [afterClose_eq_none_iff]
      exact closingMark_stripComments (afterClose_eq_none_iff.1 (hstar text (hd ▸ rfl)))
  | block text rest hclose ih => rwa [stripComments_block hclose]
  | line text ih => rwa [stripComments_toLineEnd]

/-- Removing comments twice is removing them once. -/
theorem stripComments_stripComments (text : List Char) :
    stripComments (stripComments text) = stripComments text :=
  (commentFree_stripComments text).stripComments_eq

/-- There are no comments in a part of a text without any. -/
theorem CommentFree.of_part (h : CommentFree text) (hpart : code <:+: text) :
    CommentFree code := by
  obtain ⟨before, after, rfl⟩ := hpart
  refine ⟨?_, ?_⟩
  · rintro lead rest rfl
    exact h.line (before ++ lead) (rest ++ after) (by simp)
  · rintro lead inner rest rfl
    exact h.block (before ++ lead) inner (rest ++ after) (by simp)

/-! ### One pass is enough -/

/-- What a comment leaves of a text stands at its end. -/
theorem cuts_comment : comment.Cuts := by
  intro before text _ rest hrest h
  change comment none text = _ at h
  rcases comment_cases text with hnone | ⟨inner, left, rfl, hclose⟩ | ⟨inner, rfl⟩
  · cases hnone.symm.trans h
  · obtain ⟨_, hfound⟩ := comment_block hclose
    cases hfound.symm.trans h
    exact (ReadsTo.block hclose (.here _)).suffix
  · cases (comment.eq_2 none inner).symm.trans h
    exact (ReadsTo.line (.here _)).suffix

/-- A search finds a comment just if there is one. -/
theorem occursIn_comment_iff : comment.occursIn text = true ↔ ¬ CommentFree text := by
  rw [Pattern.occursIn_iff cuts_comment]
  constructor
  · rintro ⟨lead, rest, rfl, hfound⟩ hfree
    have hnone : comment none rest = none :=
      (hfree.of_part (List.suffix_append lead rest).isInfix).comment_eq_none
    change (comment none rest).isSome = true at hfound
    rw [hnone] at hfound
    cases hfound
  · intro hcomment
    by_contra hnone
    refine hcomment ⟨?_, ?_⟩
    · rintro lead rest rfl
      refine hnone ⟨lead, _, rfl, ?_⟩
      rw [comment.eq_2]
      rfl
    · rintro lead inner rest rfl
      refine hnone ⟨lead, _, rfl, ?_⟩
      obtain ⟨left, hclose⟩ : ∃ left, afterClose (inner ++ '*' :: '/' :: rest) = some left := by
        rw [← Option.ne_none_iff_exists', Ne, afterClose_eq_none_iff, not_not]
        exact ⟨inner, rest, by simp [closingMark]⟩
      obtain ⟨_, hfound⟩ := comment_block hclose
      exact Option.isSome_of_eq_some hfound

namespace ReadsTo

/-- A reader who passes over comments comes to the end of any text. -/
theorem to_end (text : List Char) : ReadsTo text (stripComments text) [] := by
  induction text using comment_induction with
  | nil =>
    rw [stripComments_nil]
    exact .here []
  | char c text hnone ih =>
    rw [stripComments_cons hnone]
    exact .char hnone ih
  | block text rest hclose ih =>
    rw [stripComments_block hclose]
    exact .block hclose ih
  | line text ih =>
    rw [stripComments_toLineEnd]
    exact .line ih

/-- A slash that is left, and the character left behind it, stood side by side where a reader
comes to them. -/
theorem to_slash {lead : List Char} (h : stripComments text = lead ++ '/' :: c :: rest) :
    ∃ left, ReadsTo text lead ('/' :: c :: left) ∧ stripComments left = rest := by
  -- The induction goes along the text as a reader does: a comment adds nothing to the lead.
  induction text using comment_induction generalizing lead with
  | nil =>
    rw [stripComments_nil] at h
    exact absurd h.symm (by simp)
  | char d text hnone ih =>
    rw [stripComments_cons hnone] at h
    cases lead with
    | nil =>
      injection h with hd hrest
      subst hd
      -- This is the slash that was meant, and no comment begins here.
      cases text with
      | nil =>
        rw [stripComments_nil] at hrest
        cases hrest
      | cons e text =>
        rw [stripComments_behind_slash hnone] at hrest
        injection hrest with he hrest
        exact ⟨text, he ▸ .here _, hrest⟩
    | cons d' lead =>
      injection h with hd hrest
      subst hd
      obtain ⟨left, hreads, hleft⟩ := ih hrest
      exact ⟨left, .char hnone hreads, hleft⟩
  | block text inner hclose ih =>
    rw [stripComments_block hclose] at h
    obtain ⟨left, hreads, hleft⟩ := ih h
    exact ⟨left, .block hclose hreads, hleft⟩
  | line text ih =>
    rw [stripComments_toLineEnd] at h
    obtain ⟨left, hreads, hleft⟩ := ih h
    exact ⟨left, .line hreads, hleft⟩

end ReadsTo

/-- Comments are removed completely in one pass.  What is left of a text is what is read outside
of its comments; there is no comment in it, at none of its places does one begin, and a search
finds none, so that another pass removes nothing.  No two characters are brought together to begin
a comment: a slash that is left stood right before the character that is left behind it. -/
theorem stripComments_complete (text : List Char) :
    (∀ code, ReadsTo text code [] ↔ code = stripComments text) ∧
      CommentFree (stripComments text) ∧
      (∀ before place, place <:+ stripComments text → comment before place = none) ∧
      comment.occursIn (stripComments text) = false ∧
      stripComments (stripComments text) = stripComments text ∧
      (stripComments text = text ↔ CommentFree text) ∧
      ∀ lead c rest, stripComments text = lead ++ '/' :: c :: rest →
        ∃ left, ReadsTo text lead ('/' :: c :: left) ∧ stripComments left = rest := by
  have hfree := commentFree_stripComments text
  refine ⟨?_, hfree, ?_, ?_, hfree.stripComments_eq, ?_, fun _ _ _ => ReadsTo.to_slash⟩
  · intro code
    constructor
    · intro hreads
      rw [hreads.stripComments_eq, stripComments_nil, List.append_nil]
    · rintro rfl
      exact .to_end text
  · intro before place hplace
    exact (hfree.of_part hplace.isInfix).comment_eq_none
  · rw [← Bool.not_eq_true, occursIn_comment_iff, not_not]
    exact hfree
  · constructor
    · intro heq
      exact heq ▸ hfree
    · exact CommentFree.stripComments_eq

/-- Marks that share a star or a slash, comments side by side, and one that is never closed. -/
example : stripComments "a/*/b*/c//*\n*/ /**//**/d/*".toList = "ac\n*/ d/*".toList := by cbv

/-! ### Text behind a text -/

/-- A text ends within a comment to the end of the line. -/
def EndsInLineComment (text : List Char) : Prop :=
  ∃ code line, ReadsTo text code ('/' :: '/' :: line) ∧ '\n' ∉ line

/-- A text ends in such a comment only if it has one. -/
theorem CommentFree.not_endsInLineComment (h : CommentFree text) : ¬ EndsInLineComment text := by
  rintro ⟨code, line, hreads, -⟩
  obtain ⟨lead, hlead⟩ := hreads.suffix
  exact h.line lead line hlead.symm

section

variable (hstar : '*' ∉ more) (hslash : more.head? ≠ some '/')
include hstar hslash

theorem closingMark_append (h : ¬ closingMark <:+: text) : ¬ closingMark <:+: text ++ more := by
  induction text with
  | nil => exact fun hmark => hstar (hmark.mem List.mem_cons_self)
  | cons c text ih =>
    rw [List.infix_cons_iff, not_or] at h
    rw [List.cons_append, List.infix_cons_iff]
    rintro (hmark | hmark)
    · obtain ⟨hc, hhead⟩ := closingMark_prefix_iff.1 hmark
      cases text with
      | nil => exact hslash hhead
      | cons d text => exact h.1 (closingMark_prefix_iff.2 ⟨hc, hhead⟩)
    · exact ih h.2 hmark

/-- Text put behind it makes no comment of a character. -/
theorem comment_append (h : comment none (c :: text) = none) :
    comment none (c :: (text ++ more)) = none := by
  rw [comment_eq_none_iff] at h ⊢
  intro hc
  obtain ⟨hhead, hblock⟩ := h hc
  cases text with
  | nil =>
    refine ⟨hslash, ?_⟩
    rintro inner rfl
    exact absurd List.mem_cons_self hstar
  | cons d text =>
    refine ⟨hhead, ?_⟩
    intro inner heq
    injection heq with hd hinner
    rw [← hinner, afterClose_eq_none_iff]
    exact closingMark_append hstar hslash (afterClose_eq_none_iff.1 (hblock text (hd ▸ rfl)))

/-- Text put behind it does not change how a text is read, as long as something of it is left. -/
theorem ReadsTo.append (h : ReadsTo text code rest) (hrest : rest ≠ []) :
    ReadsTo (text ++ more) code (rest ++ more) := by
  induction h with
  | here => exact .here _
  | char hnone _ ih => exact .char (comment_append hstar hslash hnone) (ih hrest)
  | block hclose _ ih => exact .block (afterClose_append hclose) (ih hrest)
  | @line text code rest h ih =>
    have hleft : text.dropWhile (· != '\n') ≠ [] := by
      intro hnil
      rw [hnil] at h
      exact hrest (List.suffix_nil.1 h.suffix)
    have hdrop := dropWhile_append_of_ne_nil hleft more
    exact .line (hdrop ▸ ih hrest)

/-- Text put behind a text that ends within a comment belongs to it up to the end of the line. -/
theorem EndsInLineComment.stripComments_append (h : EndsInLineComment text) :
    stripComments (text ++ more) =
      stripComments text ++ stripComments (more.dropWhile (· != '\n')) := by
  obtain ⟨code, line, hreads, hline⟩ := h
  have hpast : ∀ d ∈ line, (d != '\n') = true := fun d hd => by
    simpa using fun e : d = '\n' => hline (e ▸ hd)
  have happend := hreads.append hstar hslash (List.cons_ne_nil _ _)
  rw [happend.stripComments_eq, hreads.stripComments_eq, stripComments_toLineEnd,
    List.cons_append, List.cons_append, stripComments_toLineEnd,
    List.dropWhile_append_of_pos hpast, List.dropWhile_eq_nil_iff.2 hpast, stripComments_nil,
    List.append_nil]

/-- Text put behind any other text keeps its own comments. -/
theorem stripComments_append_of_not (h : ¬ EndsInLineComment text) :
    stripComments (text ++ more) = stripComments text ++ stripComments more := by
  induction text using comment_induction with
  | nil => rw [stripComments_nil]; rfl
  | char c text hnone ih =>
    have hends : ¬ EndsInLineComment text := fun ⟨code, line, hreads, hline⟩ =>
      h ⟨c :: code, line, .char hnone hreads, hline⟩
    rw [List.cons_append, stripComments_cons (comment_append hstar hslash hnone), ih hends,
      stripComments_cons hnone, List.cons_append]
  | block text rest hclose ih =>
    have hends : ¬ EndsInLineComment rest := fun ⟨code, line, hreads, hline⟩ =>
      h ⟨code, line, .block hclose hreads, hline⟩
    rw [List.cons_append, List.cons_append, stripComments_block (afterClose_append hclose),
      ih hends, stripComments_block hclose]
  | line text ih =>
    have hends : ¬ EndsInLineComment (text.dropWhile (· != '\n')) :=
      fun ⟨code, line, hreads, hline⟩ => h ⟨code, line, .line hreads, hline⟩
    have hleft : text.dropWhile (· != '\n') ≠ [] := by
      intro hnil
      rw [List.dropWhile_eq_nil_iff] at hnil
      exact h ⟨[], text, .here _, fun hmem => by simpa using hnil _ hmem⟩
    rw [List.cons_append, List.cons_append, stripComments_toLineEnd,
      dropWhile_append_of_ne_nil hleft, ih hends, stripComments_toLineEnd]

end

/-- A new line ends a comment to the end of the line and closes no other, so text on lines of its
own keeps its comments if it closes none that began before. -/
theorem stripComments_append_line (hstar : '*' ∉ more) :
    stripComments (text ++ '\n' :: more) = stripComments text ++ '\n' :: stripComments more := by
  have hmore : '*' ∉ '\n' :: more := by simp [hstar]
  have hslash : ('\n' :: more).head? ≠ some '/' := by simp
  have hline : stripComments ('\n' :: more) = '\n' :: stripComments more :=
    stripComments_cons (comment_eq_none nofun)
  rw [← hline]
  by_cases h : EndsInLineComment text
  · exact h.stripComments_append hmore hslash
  · exact stripComments_append_of_not hmore hslash h

/-! ### Slashes -/

/-- A comment takes slashes with it, so a text that keeps all of its slashes has no comment. -/
theorem stripComments_eq_or_count_lt (text : List Char) :
    stripComments text = text ∨ (stripComments text).count '/' < text.count '/' := by
  -- Either way there are no more slashes than before.
  have hle {text : List Char}
      (h : stripComments text = text ∨ (stripComments text).count '/' < text.count '/') :
      (stripComments text).count '/' ≤ text.count '/' := by
    rcases h with heq | hlt
    · rw [heq]
    · exact Nat.le_of_lt hlt
  induction text using comment_induction with
  | nil => exact .inl stripComments_nil
  | char c text hnone ih =>
    rw [stripComments_cons hnone]
    rcases ih with heq | hlt
    · exact .inl (congrArg (c :: ·) heq)
    · refine .inr ?_
      rw [List.count_cons, List.count_cons]
      omega
  | block text rest hclose ih =>
    -- The comment takes its own slashes, whatever is left of the rest.
    obtain ⟨inner, rfl⟩ := afterClose_eq_some hclose
    refine .inr ?_
    rw [stripComments_block hclose]
    have hrest := hle ih
    have hstar : '*' ≠ '/' := by decide
    simp only [List.count_append, List.count_cons_self, List.count_cons_of_ne hstar]
    omega
  | line text ih =>
    refine .inr ?_
    rw [stripComments_toLineEnd]
    have hrest := hle ih
    have hpart : (text.dropWhile (· != '\n')).count '/' ≤ text.count '/' :=
      (List.dropWhile_sublist _).count_le '/'
    simp only [List.count_cons_self]
    omega

end DrawPass.Shader
