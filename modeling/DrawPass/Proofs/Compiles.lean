/-
DrawPass/Proofs/Compiles.lean

What the device refuses to compile.

A stage is refused if one of its lines holds the directive that asks for that.  The directive
stands within one line, so texts without it can be put together by lines.  The fixed parts of
a program have it nowhere, and what is written for the values of a draw has it nowhere either,
whatever the values are called: the only directive there defines a macro.  So a program of
snippets without the directive compiles (`compileError?_stageSource`).
-/
import DrawPass.Proofs.Inferred
import DrawPass.Software.Device

namespace DrawPass

open Text

namespace Text

variable {part text line rest : List Char}

/-- Whether a part occurs in a text can be told by trying every place. -/
theorem hasInfix_iff : hasInfix part text = true ↔ part <:+: text := by
  induction text with
  | nil => rw [hasInfix, List.isEmpty_iff, List.infix_nil]
  | cons c text ih =>
    rw [hasInfix, Bool.or_eq_true, List.isPrefixOf_iff_prefix, ih, List.infix_cons_iff]

theorem hasInfix_eq_false_iff : hasInfix part text = false ↔ ¬part <:+: text := by
  rw [← hasInfix_iff, Bool.not_eq_true]

theorem cutAt_eq_none (h : hasInfix part text = false) : cutAt part text = none := by
  induction text with
  | nil =>
    unfold hasInfix at h
    unfold cutAt
    rw [if_neg (Bool.eq_false_iff.1 h)]
  | cons c text ih =>
    obtain ⟨hhead, htext⟩ := Bool.or_eq_false_iff.1 h
    unfold cutAt
    rw [if_neg (Bool.eq_false_iff.1 hhead), ih htext]
    rfl

/-- What occurs in a line occurs in the text. -/
theorem infix_of_mem_linesFrom {current : List Char} (h : line ∈ linesFrom current text) :
    line <:+: current.reverse ++ text := by
  induction text generalizing current with
  | nil =>
    unfold linesFrom at h
    split at h
    · cases h
    · cases List.mem_singleton.1 h
      exact (List.append_nil _).symm ▸ List.infix_refl _
  | cons c text ih =>
    by_cases hend : c = '\n'
    · subst hend
      rcases List.mem_cons.1 h with rfl | h
      · have hstart : dropReturn current.reverse <+: current.reverse := by
          unfold dropReturn
          split
          · exact List.dropLast_prefix _
          · exact List.prefix_refl _
        exact (hstart.trans (List.prefix_append ..)).isInfix
      · have hline : line <:+: text := ih h
        exact hline.trans ((List.suffix_cons ..).trans (List.suffix_append ..)).isInfix
    · have hlines : linesFrom current (c :: text) = linesFrom (c :: current) text := by
        rw [linesFrom]
        exact fun e => hend e
      rw [hlines] at h
      have hline := ih h
      rwa [List.reverse_cons, List.append_assoc] at hline

end Text

namespace Software

/-- The directive on which the device refuses a stage. -/
def refusal : List Char := ['#', 'e', 'r', 'r', 'o', 'r']

/-- The directive that refuses a stage stands nowhere in a text. -/
def Clean (text : List Char) : Prop := hasInfix refusal text = false

instance (text : List Char) : Decidable (Clean text) := inferInstanceAs (Decidable (_ = _))

variable {text rest : List Char}

/-- A clean text compiles. -/
theorem State.compileError?_eq_none {source : String} (h : Clean source.toList) :
    State.compileError? source = none := by
  have hline : ∀ line ∈ lines source.toList, cutAt refusal line = none := by
    intro line hline
    refine cutAt_eq_none (hasInfix_eq_false_iff.2 fun hfound => ?_)
    exact hasInfix_eq_false_iff.1 h (hfound.trans (infix_of_mem_linesFrom hline))
  refine Option.map_eq_none_iff.2 (List.findSome?_eq_none_iff.2 fun marked hmem => ?_)
  exact Option.map_eq_none_iff.2 (hline marked.1 (List.fst_mem_of_mem_zipIdx hmem))

/-! ### Putting clean texts together -/

namespace Clean

theorem ofList (h : Clean text) : Clean (String.ofList text).toList := by
  rwa [String.toList_ofList]

/-- The directive does not reach over the end of a line. -/
theorem withRest (h : Clean text) (hrest : Clean rest) : Clean (text ++ '\n' :: rest) := by
  have hword : '\n' ∉ refusal := by decide
  induction text with
  | nil => exact Bool.or_eq_false_iff.2 ⟨rfl, hrest⟩
  | cons c text ih =>
    obtain ⟨hhead, htext⟩ := Bool.or_eq_false_iff.1 h
    exact Bool.or_eq_false_iff.2
      ⟨(isPrefixOf_line hword (c :: text) rest).trans hhead, ih htext⟩

/-- A text before the end of its last line. -/
theorem withoutEnd (h : Clean (text ++ ['\n'])) : Clean text :=
  hasInfix_eq_false_iff.2 fun hfound =>
    hasInfix_eq_false_iff.1 h (hfound.trans (List.prefix_append ..).isInfix)

/-- A text without a number sign is clean. -/
theorem plain (h : '#' ∉ text) : Clean text :=
  hasInfix_eq_false_iff.2 fun hfound => h (hfound.mem List.mem_cons_self)

/-- The directive that defines a macro is another one. -/
theorem define (h : '#' ∉ text) : Clean ("#define ".toList ++ text) := by
  have hrest : '#' ∉ ['d', 'e', 'f', 'i', 'n', 'e', ' '] ++ text := by simp [h]
  exact Bool.or_eq_false_iff.2 ⟨rfl, plain hrest⟩

theorem flatMap {lines : List (List Char)} (h : ∀ line ∈ lines, Clean line) :
    Clean (lines.flatMap (· ++ ['\n'])) := by
  induction lines with
  | nil => rfl
  | cons line lines ih =>
    obtain ⟨hline, hlines⟩ := List.forall_mem_cons.1 h
    rw [List.flatMap_cons, List.append_assoc]
    exact hline.withRest (ih hlines)

theorem ofLines {lines : List String} (h : ∀ line ∈ lines, Clean line.toList) :
    Clean (Shader.ofLines lines).toList := by
  induction lines with
  | nil => rfl
  | cons line lines ih =>
    obtain ⟨hline, hlines⟩ := List.forall_mem_cons.1 h
    rw [Uniform.toList_ofLines_cons, List.append_assoc]
    exact hline.withRest (ih hlines)

/-- Eight texts by lines, as a stage has them. -/
theorem parts {header front template inferred varyings includes body main : List Char}
    (hheader : Clean header) (hfront : Clean front) (htemplate : Clean template)
    (hinferred : Clean inferred) (hvaryings : Clean varyings) (hincludes : Clean includes)
    (hbody : Clean body) (hmain : Clean main) :
    Clean (header ++ ['\n'] ++ (front ++ ['\n']) ++
      (template ++ ['\n'] ++ (inferred ++ ['\n'])) ++
        (varyings ++ ['\n'] ++ (includes ++ ['\n']) ++ ['\n'] ++ (body ++ ['\n']) ++ main)) := by
  have hnil : Clean [] := rfl
  have hrest := hvaryings.withRest (hincludes.withRest (hnil.withRest (hbody.withRest hmain)))
  have hall := hheader.withRest (hfront.withRest (htemplate.withRest (hinferred.withRest hrest)))
  simpa only [List.append_assoc, List.cons_append, List.nil_append] using hall

end Clean

/-! ### The parts of a program -/

theorem clean_template : Clean Shader.template.toList := by
  refine .ofLines ?_
  repeat' refine List.forall_mem_cons.2 ⟨.ofList (by decide +kernel), ?_⟩
  exact List.forall_mem_nil _

theorem clean_front (stage : Gl.Stage) : Clean (Uniform.front stage).toList := by
  cases stage <;>
    refine .ofLines ?_ <;>
    repeat' refine List.forall_mem_cons.2 ⟨.ofList (by decide +kernel), ?_⟩
  all_goals exact List.forall_mem_nil _

theorem clean_main (stage : Gl.Stage) : Clean (Uniform.main stage).toList := by
  cases stage <;>
    refine .ofLines ?_ <;>
    repeat' refine List.forall_mem_cons.2 ⟨.ofList (by decide +kernel), ?_⟩
  all_goals exact List.forall_mem_nil _

/-- The helpers of a sampler: the one directive among them defines a macro. -/
theorem clean_samplerHelpers {name : List Char} (hname : '#' ∉ name) (layered : Bool) :
    ∀ line ∈ Uniform.samplerHelpers name layered, Clean line := by
  cases layered <;>
    refine List.forall_mem_cons.2 ⟨.define (by simp [hname]),
      List.forall_mem_cons.2 ⟨.plain (by simp [hname]),
        List.forall_mem_singleton.2 (.plain (by simp [hname]))⟩⟩

open Uniform in
/-- What is written for a value is clean. -/
theorem clean_written {code : List Char} {e : String × Value} (h : written? code e = some text) :
    Clean text := by
  obtain ⟨type, helpers, htype, hname, -, hhelpers, htext⟩ := written?_lines h
  have hname : '#' ∉ e.1.toList := hname.not_mem rfl
  have hword : '#' ∉ type := htype.not_mem rfl
  have hline : Clean (keyword ++ (' ' :: (type ++ ' ' :: e.1.toList) ++ [';'])) :=
    .plain (by simp [keyword, hword, hname])
  have hrest : Clean (helpers.flatMap (· ++ ['\n'])) := by
    refine .flatMap ?_
    rcases hhelpers with rfl | ⟨layered, rfl⟩
    · exact List.forall_mem_nil _
    · exact clean_samplerHelpers hname layered
  refine .withoutEnd ?_
  rw [htext]
  have happend := hline.withRest hrest
  simp only [List.append_assoc, List.cons_append, List.nil_append] at happend ⊢
  exact happend

open Uniform in
/-- What is written for the values of a draw is clean, whatever the values are called. -/
theorem clean_infer (values : Values) (code : List Char) : Clean (infer values code) := by
  have hwritten : ∀ line ∈ values.entries.filterMap (written? code), Clean line := by
    intro line hline
    obtain ⟨e, -, he⟩ := List.mem_filterMap.1 hline
    exact clean_written he
  rw [infer_eq]
  cases hlines : values.entries.filterMap (written? code) with
  | nil => rfl
  | cons line lines =>
    refine .withoutEnd ?_
    rw [joinWith_append, ← hlines]
    exact .flatMap hwritten

open Uniform Shader in
/-- A stage compiles if neither the header nor the snippets hold the directive. -/
theorem compileError?_stageSource {header : String} {includes : List String}
    {vertex fragment body : String} (hheader : Clean header.toList)
    (hvaryings : Clean (extractVaryings vertex.toList))
    (hincludes : Clean ("\n".intercalate includes).toList) (hbody : Clean body.toList)
    (stage : Gl.Stage) (uniforms : Values) :
    State.compileError? (Assembler.stageSource header stage
      (Assembler.sharedPart includes vertex fragment uniforms) body) = none := by
  refine State.compileError?_eq_none ?_
  rw [toList_stageSource]
  exact Clean.parts hheader (clean_front stage) clean_template (clean_infer uniforms _) hvaryings
    hincludes hbody (clean_main stage)

end Software

end DrawPass
