/-
DrawPass/Proofs/Declared.lean

What a text declares, whatever stands behind it.

The scanner of declarations works on a text without its comments.  A comment that is not
closed, or a declaration without its semicolon, could swallow what comes after, so in
general the declarations of two texts are not those of the texts put together.  `Declares`
singles out the texts for which they are, and says which declarations they make: lines that
mention no uniform and open no comment (`declares_quiet`), and declarations of one name
(`declares_uniform`).  Texts of which this is true can be put together
(`Declares.append`).
-/
import DrawPass.Uniform.Declaration
import Mathlib.Data.List.Chain
import Mathlib.Data.List.TakeWhile

namespace DrawPass

open Text

namespace Text

/-! ### Characters of words -/

theorem ne_of_isWord {c d : Char} (hc : isWord c = true) (hd : isWord d = false) : c ≠ d := by
  rintro rfl
  rw [hc] at hd
  cases hd

/-- No blank can stand in a word. -/
theorem isBlank_of_isWord {c : Char} (h : isWord c = true) : isBlank c = false := by
  have hnone : ∀ n ∈ blankRanges.flatMap fun r => List.range' r.1 (r.2 + 1 - r.1),
      isWord (Char.ofNat n) = false := by
    decide +kernel
  cases hblank : isBlank c with
  | false => rfl
  | true =>
    obtain ⟨r, hr, hrange⟩ := List.any_eq_true.1 hblank
    have hmem : c.toNat ∈ List.range' r.1 (r.2 + 1 - r.1) := by
      rw [List.mem_range'_1]
      simp only [Bool.and_eq_true, decide_eq_true_eq] at hrange
      omega
    have hword := hnone _ (List.mem_flatMap.2 ⟨r, hr, hmem⟩)
    rw [Char.ofNat_toNat, h] at hword
    cases hword

theorem isWord_of_isBlank {c : Char} (h : isBlank c = true) : isWord c = false := by
  refine Bool.eq_false_iff.2 fun hword => ?_
  rw [isBlank_of_isWord hword] at h
  cases h

/-- A word: word characters, at least one. -/
structure Word (text : List Char) : Prop where
  ne_nil : text ≠ []
  isWord : ∀ c ∈ text, isWord c = true

theorem word_iff {text : List Char} : Word text ↔ text ≠ [] ∧ text.all Text.isWord = true :=
  ⟨fun h => ⟨h.ne_nil, List.all_eq_true.2 h.isWord⟩, fun h => ⟨h.1, List.all_eq_true.1 h.2⟩⟩

instance (text : List Char) : Decidable (Word text) := decidable_of_iff _ word_iff.symm

theorem Word.not_mem {text : List Char} (h : Word text) {c : Char} (hc : Text.isWord c = false) :
    c ∉ text := fun hmem => ne_of_isWord (h.isWord c hmem) hc rfl

/-- No blank stands in front of a word. -/
theorem Word.dropWhile_isBlank {text : List Char} (h : Word text) (rest : List Char) :
    (text ++ rest).dropWhile isBlank = text ++ rest := by
  obtain ⟨hne, hword⟩ := h
  cases text with
  | nil => exact absurd rfl hne
  | cons c text =>
    exact List.dropWhile_cons_of_neg
      (Bool.not_eq_true _ ▸ isBlank_of_isWord (hword c (List.mem_cons_self ..)))

/-! ### Up to a character -/

section

variable {c d : Char} {text text' rest rest' : List Char}

theorem takeWhile_append_cons (h : c ∉ text) (rest : List Char) :
    (text ++ c :: rest).takeWhile (· != c) = text := by
  rw [List.takeWhile_append_of_pos fun d hd => by simpa using fun e : d = c => h (e ▸ hd)]
  simp

theorem dropWhile_append_cons (h : c ∉ text) (rest : List Char) :
    (text ++ c :: rest).dropWhile (· != c) = c :: rest := by
  rw [List.dropWhile_append_of_pos fun d hd => by simpa using fun e : d = c => h (e ▸ hd)]
  simp

/-- A text in which a character is found is cut in front of the first of them. -/
theorem eq_takeWhile_append_cons (h : text.dropWhile (· != c) = d :: rest) :
    text = text.takeWhile (· != c) ++ c :: rest ∧ c ∉ text.takeWhile (· != c) := by
  obtain rfl : d = c := by
    have := List.head?_dropWhile_not (· != c) text
    rw [h] at this
    simpa using this
  refine ⟨by rw [← h, List.takeWhile_append_dropWhile], fun hmem => ?_⟩
  simpa using List.mem_takeWhile_imp hmem

/-- A text has one part in front of the first of a character. -/
theorem append_cons_inj (h : c ∉ text) (h' : c ∉ text')
    (heq : text ++ c :: rest = text' ++ c :: rest') : text = text' ∧ rest = rest' := by
  have htext : text = text' := by
    rw [← takeWhile_append_cons h rest, heq, takeWhile_append_cons h']
  subst htext
  exact ⟨rfl, by simpa using heq⟩

end

/-! ### Searching -/

namespace Pattern

variable {α : Type} {p : Pattern α} {before : Option Char} {c : Char} {text : List Char}

theorem lastRead_eq (lead rest : List Char) : lastRead (lead ++ rest) rest = lead.getLast? := by
  rw [lastRead, List.length_append, Nat.add_sub_cancel, List.take_left]

/-- What the finds yield in a text that stands after a given character. -/
def findsFrom (p : Pattern α) (before : Option Char) (text : List Char) : List α :=
  (p.segments before text).filterMap fun
    | .plain _ => none
    | .found a => some a

theorem findsFrom_nil (p : Pattern α) (before : Option Char) : p.findsFrom before [] = [] := by
  rw [findsFrom, segments]
  rfl

theorem findsFrom_cons_none (h : p before (c :: text) = none) :
    p.findsFrom before (c :: text) = p.findsFrom (some c) text := by
  rw [findsFrom, segments]
  simp only [h]
  rfl

theorem findsFrom_cons_some {a : α} {rest : List Char} {hrest : rest.length < (c :: text).length}
    (h : p before (c :: text) = some (a, ⟨rest, hrest⟩)) :
    p.findsFrom before (c :: text) = a :: p.findsFrom (lastRead (c :: text) rest) rest := by
  rw [findsFrom, segments]
  simp only [h]
  rfl

theorem findsFrom_congr {before' : Option Char} (h : p before text = p before' text) :
    p.findsFrom before text = p.findsFrom before' text := by
  unfold findsFrom
  cases text with
  | nil => rw [segments, segments]
  | cons c text => rw [segments, segments, h]

/-- The finds replaced in a text that stands after a given character. -/
def replaceFrom (p : Pattern α) (f : α → List Char) (before : Option Char) (text : List Char) :
    List Char :=
  (p.segments before text).flatMap fun
    | .plain c => [c]
    | .found a => f a

variable {f : α → List Char}

theorem replaceFrom_cons_none (h : p before (c :: text) = none) :
    p.replaceFrom f before (c :: text) = c :: p.replaceFrom f (some c) text := by
  rw [replaceFrom, segments]
  simp only [h, List.flatMap_cons, List.singleton_append]
  rfl

theorem replaceFrom_cons_some {a : α} {rest : List Char} {hrest : rest.length < (c :: text).length}
    (h : p before (c :: text) = some (a, ⟨rest, hrest⟩)) :
    p.replaceFrom f before (c :: text) =
      f a ++ p.replaceFrom f (lastRead (c :: text) rest) rest := by
  rw [replaceFrom, segments]
  simp only [h, List.flatMap_cons]
  rfl

/-- A pattern that does not look at what stands before a text. -/
theorem replaceFrom_congr (h : ∀ before before' text, p before text = p before' text)
    (before before' : Option Char) (text : List Char) :
    p.replaceFrom f before text = p.replaceFrom f before' text := by
  unfold replaceFrom
  cases text with
  | nil => rw [segments, segments]
  | cons c text => rw [segments, segments, h before before']

end Pattern

/-- What follows a keyword at the head of a text. -/
theorem afterKeyword_eq_some_iff {keyword text after : List Char} :
    afterKeyword keyword text = some after ↔ text = keyword ++ after := by
  unfold afterKeyword
  constructor
  · intro h
    split at h
    · rename_i hlead
      obtain ⟨after, rfl⟩ := List.isPrefixOf_iff_prefix.1 hlead
      rw [List.drop_left, Option.some.injEq] at h
      rw [h]
    · cases h
  · rintro rfl
    rw [if_pos (List.isPrefixOf_iff_prefix.2 (List.prefix_append ..)), List.drop_left]

/-- A word without a line feed is at the head of a line and what follows if it is at the head of
the line. -/
theorem isPrefixOf_line {word : List Char} (hword : '\n' ∉ word) (line rest : List Char) :
    word.isPrefixOf (line ++ '\n' :: rest) = word.isPrefixOf line := by
  induction word generalizing line with
  | nil => rfl
  | cons c word ih =>
    rw [List.mem_cons, not_or] at hword
    cases line with
    | nil => simp [List.isPrefixOf, Ne.symm hword.1]
    | cons d line => simp [List.isPrefixOf, ih hword.2]

end Text

/-! ### Comments of a line -/

namespace Shader

variable {c : Char} {text line rest : List Char}

/-- What stands before a text makes no difference to its comments. -/
theorem replaceFrom_comment (before : Option Char) (text : List Char) :
    comment.replaceFrom (fun _ => []) before text = stripComments text :=
  Pattern.replaceFrom_congr (fun _ _ _ => rfl) before none text

theorem stripComments_nil : stripComments [] = [] := by
  rw [stripComments, Pattern.replaceAll, Pattern.segments]
  rfl

/-- A character that begins no comment. -/
theorem stripComments_cons (h : comment none (c :: text) = none) :
    stripComments (c :: text) = c :: stripComments text := by
  rw [← replaceFrom_comment (some c) text]
  exact Pattern.replaceFrom_cons_none h

/-- A comment to the end of the line. -/
theorem stripComments_toLineEnd :
    stripComments ('/' :: '/' :: text) = stripComments (text.dropWhile (· != '\n')) := by
  rw [← replaceFrom_comment none, Pattern.replaceFrom_cons_some (comment.eq_2 ..)]
  exact replaceFrom_comment _ _

theorem comment_eq_none (h : c = '/' → text.head? ≠ some '/' ∧ text.head? ≠ some '*') :
    comment none (c :: text) = none := by
  refine comment.eq_3 _ _ ?_ ?_
  · intro rest heq
    cases heq
    exact (h rfl).2 rfl
  · intro rest heq
    cases heq
    exact (h rfl).1 rfl

/-- The part of a line in front of a comment. -/
def codeOf : List Char → List Char
  | '/' :: '/' :: _ => []
  | c :: cs => c :: codeOf cs
  | [] => []

/-- A line that opens no comment of several lines loses its own comment only. -/
theorem stripComments_line (hline : '\n' ∉ line) (hopen : hasInfix ['/', '*'] line = false) :
    stripComments (line ++ '\n' :: rest) = codeOf line ++ '\n' :: stripComments rest := by
  have hend : stripComments ('\n' :: rest) = '\n' :: stripComments rest :=
    stripComments_cons (comment_eq_none nofun)
  fun_induction codeOf line with
  | case1 text =>
    have htext : '\n' ∉ text := fun h => hline (by simp [h])
    have hdrop := dropWhile_append_cons htext rest
    exact stripComments_toLineEnd.trans ((congrArg stripComments hdrop).trans hend)
  | case2 c text hc ih =>
    simp only [List.mem_cons, not_or] at hline
    simp only [hasInfix, Bool.or_eq_false_iff] at hopen
    rw [List.cons_append, stripComments_cons (comment_eq_none fun e => ?_),
      ih hline.2 hopen.2, List.cons_append]
    subst e
    cases text with
    | nil => simp
    | cons d text =>
      refine ⟨fun hd => ?_, fun hd => ?_⟩
      · cases hd
        exact hc text rfl rfl
      · cases hd
        simp [List.isPrefixOf] at hopen
  | case3 => exact hend

/-- A text without a slash has no comment. -/
theorem stripComments_append (h : '/' ∉ text) (rest : List Char) :
    stripComments (text ++ rest) = text ++ stripComments rest := by
  induction text with
  | nil => rfl
  | cons c text ih =>
    rw [List.mem_cons, not_or] at h
    rw [List.cons_append, stripComments_cons (comment_eq_none fun e => absurd e.symm h.1), ih h.2,
      List.cons_append]

end Shader

/-! ### Declarations of a line -/

namespace Uniform

variable {wholeWord : Bool} {before : Option Char} {text line rest type name : List Char}

/-- Whether the keyword stands in front of a blank at the head of a text. -/
def beginsDeclaration (text : List Char) : Bool :=
  (afterKeyword keyword text).any fun after => after.head?.any isBlank

/-- Whether the keyword stands in front of a blank anywhere in a text. -/
def mentions : List Char → Bool
  | [] => false
  | c :: text => beginsDeclaration (c :: text) || mentions text

theorem Declaration.ofBody?_eq_none {body : List Char} (h : body.head?.any isBlank = false) :
    Declaration.ofBody? body = none := by
  simp [Declaration.ofBody?, h]

/-- A declaration of one name. -/
theorem Declaration.ofBody?_words (htype : Word type) (hname : Word name) :
    Declaration.ofBody? (' ' :: (type ++ ' ' :: name)) = some ⟨type, name⟩ := by
  have htake : (type ++ ' ' :: name).takeWhile isWord = type := by
    rw [List.takeWhile_append_of_pos htype.isWord]
    exact List.append_nil type
  have hdrop : (type ++ ' ' :: name).dropWhile isWord = ' ' :: name := by
    rw [List.dropWhile_append_of_pos htype.isWord]
    rfl
  have hnames : (' ' :: name).dropWhile isBlank = name := by
    have := hname.dropWhile_isBlank []
    rwa [List.append_nil] at this
  have hblanks : (' ' :: (type ++ ' ' :: name)).dropWhile isBlank = type ++ ' ' :: name :=
    htype.dropWhile_isBlank _
  have hhead : Option.any isBlank (' ' :: (type ++ ' ' :: name)).head? = true := rfl
  unfold Declaration.ofBody?
  rw [if_pos hhead]
  dsimp only
  rw [hblanks, htake, hdrop, hnames]
  obtain ⟨c, type, rfl⟩ := List.exists_cons_of_ne_nil htype.ne_nil
  obtain ⟨d, name, rfl⟩ := List.exists_cons_of_ne_nil hname.ne_nil
  rfl

/-- What stands before a text matters only in so far as a word may begin there. -/
theorem declaration_congr {before' : Option Char} (h : atWordStart before = atWordStart before') :
    declaration wholeWord before text = declaration wholeWord before' text := by
  unfold declaration
  rw [h]

/-- Where the keyword does not stand in front of a blank, no declaration begins. -/
theorem declaration_eq_none (h : beginsDeclaration text = false) :
    declaration wholeWord before text = none := by
  unfold declaration
  split
  · rfl
  · split
    · rename_i after hafter
      split
      · rw [Declaration.ofBody?_eq_none, Option.map_none]
        rw [beginsDeclaration, hafter] at h
        cases after with
        | nil => rfl
        | cons c after =>
          rw [List.takeWhile_cons]
          split
          · exact h
          · rfl
      · rfl
    · rfl

/-- A declaration at the beginning of a word. -/
theorem declaration_eq_some {body : List Char} {d : Declaration}
    (hstart : atWordStart before = true) (hbody : ';' ∉ body)
    (hd : Declaration.ofBody? body = some d) :
    ∃ hrest, declaration wholeWord before (keyword ++ (body ++ ';' :: rest)) =
      some (d, ⟨rest, hrest⟩) := by
  have hkeyword : afterKeyword keyword (keyword ++ (body ++ ';' :: rest)) =
      some (body ++ ';' :: rest) := rfl
  have htake := takeWhile_append_cons hbody rest
  have hdrop := dropWhile_append_cons hbody rest
  unfold declaration
  rw [hstart]
  simp only [Bool.not_true, Bool.and_false, Bool.false_eq_true, if_false]
  split
  · rename_i after hafter
    cases hkeyword.symm.trans hafter
    split
    · rename_i semicolon rest' hrest
      cases hdrop.symm.trans hrest
      rw [htake, hd]
      have hlt : rest.length < (keyword ++ (body ++ ';' :: rest)).length := by
        simp only [List.length_append, List.length_cons]
        omega
      exact ⟨hlt, rfl⟩
    · rename_i hrest
      cases hdrop.symm.trans hrest
  · rename_i hafter
    cases hkeyword.symm.trans hafter

/-- A line is seen whole at its beginning. -/
theorem beginsDeclaration_line (line rest : List Char) :
    beginsDeclaration (line ++ '\n' :: rest) = beginsDeclaration (line ++ ['\n']) := by
  have hkeyword : '\n' ∉ keyword := by decide
  unfold beginsDeclaration afterKeyword
  rw [isPrefixOf_line hkeyword, isPrefixOf_line hkeyword]
  split
  · rename_i hlead
    have hle := (List.isPrefixOf_iff_prefix.1 hlead).length_le
    rw [List.drop_append_of_le_length hle, List.drop_append_of_le_length hle]
    cases List.drop keyword.length line <;> rfl
  · rfl

theorem findsFrom_blank (rest : List Char) :
    (declaration wholeWord).findsFrom before ('\n' :: rest) =
      (declaration wholeWord).findsFrom none rest := by
  rw [Pattern.findsFrom_cons_none (declaration_eq_none rfl)]
  exact Pattern.findsFrom_congr (declaration_congr rfl)

/-- Nothing is found in a line in which the keyword does not stand in front of a blank. -/
theorem findsFrom_quiet (h : mentions (line ++ ['\n']) = false) (rest : List Char) :
    (declaration wholeWord).findsFrom before (line ++ '\n' :: rest) =
      (declaration wholeWord).findsFrom none rest := by
  induction line generalizing before with
  | nil => exact findsFrom_blank rest
  | cons c line ih =>
    obtain ⟨hbegins, hmentions⟩ := Bool.or_eq_false_iff.1 h
    have hnone : beginsDeclaration (c :: line ++ '\n' :: rest) = false :=
      (beginsDeclaration_line ..).trans hbegins
    exact (Pattern.findsFrom_cons_none (declaration_eq_none hnone)).trans (ih hmentions)

/-! ### Two characters at a time -/

/-- The two characters neither open a comment nor end the keyword in front of a blank. -/
def Apart (c d : Char) : Prop := ¬(c = '/' ∧ (d = '/' ∨ d = '*')) ∧ ¬(c = 'm' ∧ isBlank d = true)

instance (c d : Char) : Decidable (Apart c d) := inferInstanceAs (Decidable (_ ∧ _))

/-- Whether a character is apart from whatever stands before it. -/
def isAloof (d : Char) : Bool := d != '/' && d != '*' && !isBlank d

theorem apart_of_isAloof {d : Char} (h : isAloof d = true) (c : Char) : Apart c d := by
  simp only [isAloof, Bool.and_eq_true, bne_iff_ne, Bool.not_eq_true'] at h
  obtain ⟨⟨hslash, hstar⟩, hblank⟩ := h
  refine ⟨fun hopen => hopen.2.elim hslash hstar, fun hends => ?_⟩
  rw [hblank] at hends
  cases hends.2

theorem isAloof_of_isWord {d : Char} (h : isWord d = true) : isAloof d = true := by
  have hslash : d ≠ '/' := ne_of_isWord h rfl
  have hstar : d ≠ '*' := ne_of_isWord h rfl
  simp [isAloof, hslash, hstar, isBlank_of_isWord h]

/-- A word put between two texts. -/
theorem isChain_word {left right : List Char} (hleft : left.IsChain Apart) (hname : Word name)
    (hright : right.IsChain Apart) (hhead : right.head?.all isAloof = true) :
    (left ++ (name ++ right)).IsChain Apart := by
  have haloof {texts : List Char} (h : texts.head?.all isAloof = true) (c d : Char)
      (hd : d ∈ texts.head?) : Apart c d :=
    apart_of_isAloof ((Option.all_eq_true _ _).1 h d hd) c
  have hword {texts : List Char} (h : ∀ c ∈ texts, isWord c = true) : texts.IsChain Apart := by
    induction texts with
    | nil => exact .nil
    | cons c texts ih =>
      refine List.isChain_cons.2 ⟨fun d hd => ?_, ih fun d hd => h d (List.mem_cons_of_mem _ hd)⟩
      have hmem := List.mem_cons_of_mem c (List.mem_of_mem_head? hd)
      exact apart_of_isAloof (isAloof_of_isWord (h d hmem)) c
  have hmiddle : (name ++ right).IsChain Apart :=
    List.isChain_append.2 ⟨hword hname.isWord, hright, fun c _ => haloof hhead c⟩
  refine List.isChain_append.2 ⟨hleft, hmiddle, fun c _ => haloof ?_ c⟩
  obtain ⟨d, name, rfl⟩ := List.exists_cons_of_ne_nil hname.ne_nil
  exact isAloof_of_isWord (hname.isWord d (List.mem_cons_self ..))

theorem codeOf_of_apart (h : line.IsChain Apart) : Shader.codeOf line = line := by
  fun_induction Shader.codeOf line with
  | case1 text => exact absurd ⟨rfl, .inl rfl⟩ (List.isChain_cons_cons.1 h).1.1
  | case2 c text _ ih => rw [ih h.tail]
  | case3 => rfl

theorem hasInfix_of_apart (h : line.IsChain Apart) : hasInfix ['/', '*'] line = false := by
  induction line with
  | nil => rfl
  | cons c line ih =>
    rw [hasInfix, ih h.tail, Bool.or_false]
    cases line with
    | nil => simp [List.isPrefixOf]
    | cons d line =>
      have hapart := (List.isChain_cons_cons.1 h).1.1
      rw [Bool.eq_false_iff]
      intro hlead
      simp only [List.isPrefixOf, Bool.and_true, Bool.and_eq_true, beq_iff_eq] at hlead
      exact hapart ⟨hlead.1.symm, .inr hlead.2.symm⟩

theorem mentions_of_apart (h : text.IsChain Apart) : mentions text = false := by
  induction text with
  | nil => rfl
  | cons c text ih =>
    rw [mentions, ih h.tail, Bool.or_false, Bool.eq_false_iff]
    intro hbegins
    unfold beginsDeclaration afterKeyword at hbegins
    split at hbegins
    · rename_i hlead
      obtain ⟨after, hafter⟩ := List.isPrefixOf_iff_prefix.1 hlead
      rw [← hafter, List.drop_left' rfl] at hbegins
      rw [← hafter] at h
      cases after with
      | nil => cases hbegins
      | cons d after =>
        exact ((List.isChain_append.1 h).2.2 'm' rfl d rfl).2 ⟨rfl, hbegins⟩
    · cases hbegins

/-! ### What a text declares -/

/-- Whatever comes after, the text loses the comments that are its own and declares just this. -/
def Declares (text : List Char) (found : List Declaration) : Prop :=
  ∃ code, (∀ rest, Shader.stripComments (text ++ rest) = code ++ Shader.stripComments rest) ∧
    ∀ wholeWord rest, (declaration wholeWord).findsFrom none (code ++ rest) =
      found ++ (declaration wholeWord).findsFrom none rest

namespace Declares

variable {text' : List Char} {found found' : List Declaration}

theorem nil : Declares [] [] := ⟨[], fun _ => rfl, fun _ _ => rfl⟩

theorem append (h : Declares text found) (h' : Declares text' found') :
    Declares (text ++ text') (found ++ found') := by
  obtain ⟨code, hcode, hfound⟩ := h
  obtain ⟨code', hcode', hfound'⟩ := h'
  refine ⟨code ++ code', fun rest => ?_, fun wholeWord rest => ?_⟩
  · rw [List.append_assoc, hcode, hcode', List.append_assoc]
  · rw [List.append_assoc, hfound, hfound', List.append_assoc]

/-- The declarations of a text come first. -/
theorem findAll (h : Declares text found) (wholeWord : Bool) (rest : List Char) :
    (declaration wholeWord).findAll (Shader.stripComments (text ++ rest)) =
      found ++ (declaration wholeWord).findAll (Shader.stripComments rest) := by
  obtain ⟨code, hcode, hfound⟩ := h
  rw [hcode]
  exact hfound wholeWord _

/-- The declarations of a text that stands alone. -/
theorem findAll_self (h : Declares text found) (wholeWord : Bool) :
    (declaration wholeWord).findAll (Shader.stripComments text) = found := by
  have hnil : (declaration wholeWord).findAll (Shader.stripComments []) = [] := by
    rw [Shader.stripComments_nil]
    exact Pattern.findsFrom_nil _ none
  have hfound := h.findAll wholeWord []
  rwa [hnil, List.append_nil, List.append_nil] at hfound

/-- A line that opens no comment of several lines and does not mention the keyword declares
nothing. -/
theorem quiet (hline : '\n' ∉ line) (hopen : hasInfix ['/', '*'] line = false)
    (hmentions : mentions (Shader.codeOf line ++ ['\n']) = false) :
    Declares (line ++ ['\n']) [] := by
  refine ⟨Shader.codeOf line ++ ['\n'], fun rest => ?_, fun wholeWord rest => ?_⟩
  · rw [List.append_assoc, List.append_assoc]
    exact Shader.stripComments_line hline hopen
  · rw [List.append_assoc]
    exact findsFrom_quiet hmentions rest

/-- A line that can be told to declare nothing by looking at two characters at a time. -/
theorem smooth (hline : '\n' ∉ line) (h : (line ++ ['\n']).IsChain Apart) :
    Declares (line ++ ['\n']) [] := by
  have hleft := (List.isChain_append.1 h).1
  refine quiet hline (hasInfix_of_apart hleft) ?_
  rw [codeOf_of_apart hleft]
  exact mentions_of_apart h

/-- The declaration of one name, on a line of its own. -/
theorem uniform (htype : Word type) (hname : Word name) :
    Declares (keyword ++ (' ' :: (type ++ ' ' :: name) ++ [';', '\n'])) [⟨type, name⟩] := by
  have hbody {c : Char} (hc : isWord c = false) (hblank : c ≠ ' ') :
      c ∉ ' ' :: (type ++ ' ' :: name) := by
    simp [hblank, htype.not_mem hc, hname.not_mem hc]
  refine ⟨_, Shader.stripComments_append ?_, fun wholeWord rest => ?_⟩
  · have hkeyword : '/' ∉ keyword := by decide
    simp only [List.mem_append, not_or]
    exact ⟨hkeyword, hbody rfl (by decide), by decide⟩
  · obtain ⟨hrest, hfound⟩ : ∃ hrest, declaration wholeWord none
        (keyword ++ (' ' :: (type ++ ' ' :: name) ++ ';' :: '\n' :: rest)) =
          some (⟨type, name⟩, ⟨'\n' :: rest, hrest⟩) :=
      declaration_eq_some rfl (hbody rfl (by decide)) (Declaration.ofBody?_words htype hname)
    have happend : keyword ++ (' ' :: (type ++ ' ' :: name) ++ [';', '\n']) ++ rest =
        keyword ++ (' ' :: (type ++ ' ' :: name) ++ ';' :: '\n' :: rest) := by
      simp
    rw [happend]
    refine (Pattern.findsFrom_cons_some hfound).trans ?_
    rw [findsFrom_blank]
    rfl

end Declares

end Uniform

end DrawPass
