/-
DrawPass/Proofs/Inferred.lean

The declarations that are written for the values of a draw are read back as they were meant.

For each value that calls for one, the inferred text has a line that declares the name of the
value with the type of its shape; a sampler brings helpers after it, in which the name stands
again but declares nothing.  So every stage of an assembled program begins with the same
declarations: those of the template, then those of the values in their order
(`declares_stageSource`).
-/
import DrawPass.Proofs.FixedParts

namespace DrawPass

open Text

namespace Uniform

variable {name type text : List Char} {value : Value} {shape : Shape}

/-! ### One value -/

/-- The type that a shape is declared with. -/
def Shape.declaredType? : Shape → Option String
  | .sampler layered samplerPrefix =>
    some (samplerPrefix ++ if layered then "sampler2DArray" else "sampler2D")
  | shape => shape.typeName?

theorem Shape.isSome_declaration? (name : String) (shape : Shape) :
    (shape.declaration? name).isSome = shape.declaredType?.isSome := by
  cases shape <;>
    simp only [declaration?, declaredType?, Option.isSome_some, Option.isSome_map]

/-- The letter of a sampler type is that of the scalars it is read as; floats have none. -/
theorem samplerPrefix_cases (format : TextureFormat) :
    format.samplerPrefix = "" ∨ format.samplerPrefix = "i" ∨ format.samplerPrefix = "u" := by
  cases format with
  | color channels scalar =>
    cases scalar <;> simp [TextureFormat.samplerPrefix, Scalar.samplerPrefix]
  | depth => simp [TextureFormat.samplerPrefix]

/-- The types are words. -/
theorem word_declaredType {type : String} (h : value.shape.declaredType? = some type) :
    Word type.toList := by
  have plain (shape : Shape) (h : shape.typeName? = some type) : Word type.toList := by
    unfold Shape.typeName? at h
    split at h <;> cases h <;> decide
  cases value with
  | sampler s =>
    have hsampler (layered : Bool) {letter : String}
        (hletter : letter = "" ∨ letter = "i" ∨ letter = "u") :
        Word (letter ++ if layered then "sampler2DArray" else "sampler2D").toList := by
      rcases hletter with rfl | rfl | rfl <;> cases layered <;> decide
    cases h
    exact hsampler _ (samplerPrefix_cases _)
  | float => exact plain .number h
  | int => exact plain .integer h
  | bool => exact plain .boolean h
  | vector xs => exact plain (.fixedVector xs.length) h
  | intVector ns => exact plain (.intVector ns.length) h

/-! ### The helpers of a sampler -/

/-- A line in which a word stands twice. -/
theorem Declares.helper {before between after : List Char} (hname : Word name)
    (hlines : '\n' ∉ before ∧ '\n' ∉ between ∧ '\n' ∉ after)
    (hapart : before.IsChain Apart ∧ between.IsChain Apart ∧ (after ++ ['\n']).IsChain Apart)
    (haloof : between.head?.all isAloof = true ∧ (after ++ ['\n']).head?.all isAloof = true) :
    Declares (before ++ (name ++ (between ++ (name ++ after))) ++ ['\n']) [] := by
  obtain ⟨hbefore, hbetween, hafter⟩ := hlines
  have hword : '\n' ∉ name := hname.not_mem rfl
  refine .smooth (by simp [hbefore, hbetween, hafter, hword]) ?_
  simp only [List.append_assoc]
  refine isChain_word hapart.1 hname (isChain_word hapart.2.1 hname hapart.2.2 haloof.2) ?_
  cases between with
  | nil =>
    obtain ⟨d, name, rfl⟩ := List.exists_cons_of_ne_nil hname.ne_nil
    exact isAloof_of_isWord (hname.isWord d (List.mem_cons_self ..))
  | cons d between => exact haloof.1

/-- What a sampler brings with its declaration: reading under its own name, its size, and the step
between texels. -/
def samplerHelpers (name : List Char) : Bool → List (List Char)
  | true =>
    ["#define ".toList ++ (name ++ ("(p,l) (_sample(".toList ++ (name ++ ", (p),(l)))".toList))),
      "ivec3 ".toList ++ (name ++ ("_size() \x7b return textureSize(".toList ++
        (name ++ ", 0); \x7d".toList))),
      "vec3 ".toList ++ (name ++ ("_step() \x7b return 1.0/vec3(".toList ++
        (name ++ "_size()); \x7d".toList)))]
  | false =>
    ["#define ".toList ++ (name ++ ("(p) (_sample(".toList ++ (name ++ ", (p)))".toList))),
      "ivec2 ".toList ++ (name ++ ("_size() \x7b return textureSize(".toList ++
        (name ++ ", 0); \x7d".toList))),
      "vec2 ".toList ++ (name ++ ("_step() \x7b return 1.0/vec2(".toList ++
        (name ++ "_size()); \x7d".toList)))]

theorem declares_samplerHelpers (hname : Word name) (layered : Bool) :
    ∀ line ∈ samplerHelpers name layered, Declares (line ++ ['\n']) [] := by
  cases layered <;>
    exact List.forall_mem_cons.2 ⟨.helper hname (by decide) (by decide) (by decide),
      List.forall_mem_cons.2 ⟨.helper hname (by decide) (by decide) (by decide),
        List.forall_mem_singleton.2 (.helper hname (by decide) (by decide) (by decide))⟩⟩

/-- The declaration of a sampler by lines. -/
theorem toList_samplerDeclaration (name : String) (layered : Bool) (samplerPrefix : String) :
    (samplerDeclaration name layered samplerPrefix).toList ++ ['\n'] =
      keyword ++ (' ' :: ((samplerPrefix ++
        if layered then "sampler2DArray" else "sampler2D").toList ++ ' ' :: name.toList) ++
          [';', '\n']) ++ (samplerHelpers name.toList layered).flatMap (· ++ ['\n']) := by
  unfold samplerDeclaration
  dsimp only
  cases layered <;> simp [samplerHelpers, keyword, String.toList_append]

/-! ### The declarations of values -/

theorem word_of_isIdentifier {name : String} (h : isIdentifier name = true) : Word name.toList := by
  simp only [isIdentifier, Bool.and_eq_true, Bool.not_eq_true', List.all_eq_true] at h
  refine ⟨fun hnil => ?_, h.2⟩
  rw [String.toList_eq_nil_iff.1 hnil] at h
  cases h.1

theorem Declares.flatMap {lines : List (List Char)}
    (h : ∀ line ∈ lines, Declares (line ++ ['\n']) []) :
    Declares (lines.flatMap (· ++ ['\n'])) [] := by
  induction lines with
  | nil => exact .nil
  | cons line lines ih =>
    obtain ⟨hline, hlines⟩ := List.forall_mem_cons.1 h
    exact hline.silent (ih hlines)

/-- The declaration of a value by lines: the declaration proper, and the helpers of a sampler. -/
theorem Value.toList_declaration {name text : String}
    (h : value.shape.declaration? name = some text) :
    ∃ type helpers, value.shape.declaredType? = some type ∧
      (helpers = [] ∨ ∃ layered, helpers = samplerHelpers name.toList layered) ∧
      text.toList ++ ['\n'] =
        keyword ++ (' ' :: (type.toList ++ ' ' :: name.toList) ++ [';', '\n']) ++
          helpers.flatMap (· ++ ['\n']) := by
  obtain ⟨type, htype⟩ : ∃ type, value.shape.declaredType? = some type := by
    rw [← Option.isSome_iff_exists, ← Shape.isSome_declaration? name, h]
    rfl
  -- All kinds but samplers are declared on a single line.
  have plain (shape : Shape) (htype : shape.typeName? = some type)
      (h : shape.typeName?.map (fun type => "uniform " ++ type ++ " " ++ name ++ ";") = some text) :
      text.toList ++ ['\n'] =
        keyword ++ (' ' :: (type.toList ++ ' ' :: name.toList) ++ [';', '\n']) ++
          [].flatMap (· ++ ['\n']) := by
    rw [htype, Option.map_some, Option.some.injEq] at h
    rw [← h]
    simp [keyword, String.toList_append]
  cases value with
  | sampler s =>
    have htext := toList_samplerDeclaration name s.texture.layered
      s.texture.format.samplerPrefix
    rw [Option.some.inj h, Option.some.inj htype] at htext
    exact ⟨type, _, htype, .inr ⟨_, rfl⟩, htext⟩
  | float => exact ⟨type, [], htype, .inl rfl, plain .number htype h⟩
  | int => exact ⟨type, [], htype, .inl rfl, plain .integer htype h⟩
  | bool => exact ⟨type, [], htype, .inl rfl, plain .boolean htype h⟩
  | vector xs => exact ⟨type, [], htype, .inl rfl, plain (.fixedVector xs.length) htype h⟩
  | intVector ns => exact ⟨type, [], htype, .inl rfl, plain (.intVector ns.length) htype h⟩

/-- The declaration of a value is read back with its name and the type of its shape. -/
theorem Declares.ofValue {name text : String} (hname : Word name.toList)
    (h : value.shape.declaration? name = some text) :
    ∃ type, value.shape.declaredType? = some type ∧
      Declares (text.toList ++ ['\n']) [⟨type.toList, name.toList⟩] := by
  obtain ⟨type, helpers, htype, hhelpers, htext⟩ := Value.toList_declaration h
  refine ⟨type, htype, ?_⟩
  have hline := Declares.uniform (word_declaredType htype) hname
  rw [htext]
  rcases hhelpers with rfl | ⟨layered, rfl⟩
  · exact hline.append .nil
  · exact hline.append (.flatMap (declares_samplerHelpers hname layered))

/-- Texts on lines of their own. -/
theorem joinWith_append (text : List Char) (texts : List (List Char)) :
    joinWith ['\n'] (text :: texts) ++ ['\n'] = (text :: texts).flatMap (· ++ ['\n']) := by
  induction texts generalizing text with
  | nil => exact (List.append_nil _).symm
  | cons text' texts ih =>
    have hjoin : joinWith ['\n'] (text :: text' :: texts) =
        text ++ ['\n'] ++ joinWith ['\n'] (text' :: texts) := rfl
    rw [hjoin, List.append_assoc, ih]
    rfl

variable {code : List Char}

/-- What is written for a value of a draw. -/
def written? (code : List Char) (e : String × Value) : Option (List Char) :=
  if isIdentifier e.1 && !(declaredNames code).contains e.1.toList then
    (e.2.shape.declaration? e.1).map String.toList
  else none

/-- What is meant by it. -/
def inferred? (code : List Char) (e : String × Value) : Option Declaration :=
  if isIdentifier e.1 && !(declaredNames code).contains e.1.toList then
    e.2.shape.declaredType?.map fun type => ⟨type.toList, e.1.toList⟩
  else none

theorem written?_cases (code : List Char) (e : String × Value) :
    (written? code e = none ∧ inferred? code e = none) ∨
      ∃ text d, written? code e = some text ∧ inferred? code e = some d ∧
        Declares (text ++ ['\n']) [d] := by
  unfold written? inferred?
  split
  · rename_i hwanted
    cases hshape : e.2.shape.declaration? e.1 with
    | none =>
      have hnone := Shape.isSome_declaration? e.1 e.2.shape
      rw [hshape] at hnone
      rw [Option.not_isSome_iff_eq_none.1 (Bool.eq_false_iff.1 hnone.symm)]
      exact .inl ⟨rfl, rfl⟩
    | some text =>
      have hword := word_of_isIdentifier (Bool.and_eq_true_iff.1 hwanted).1
      obtain ⟨type, htype, hdeclares⟩ := Declares.ofValue hword hshape
      rw [htype]
      exact .inr ⟨_, _, rfl, rfl, hdeclares⟩
  · exact .inl ⟨rfl, rfl⟩

/-- What is written for a value by lines: the declaration that is meant, and the helpers of a
sampler. -/
theorem written?_lines {e : String × Value} (h : written? code e = some text) :
    ∃ type helpers, Word type ∧ Word e.1.toList ∧ inferred? code e = some ⟨type, e.1.toList⟩ ∧
      (helpers = [] ∨ ∃ layered, helpers = samplerHelpers e.1.toList layered) ∧
      text ++ ['\n'] = keyword ++ (' ' :: (type ++ ' ' :: e.1.toList) ++ [';', '\n']) ++
        helpers.flatMap (· ++ ['\n']) := by
  unfold written? at h
  split at h
  case isFalse => cases h
  case isTrue hwanted =>
  obtain ⟨declaration, hdeclaration, rfl⟩ := Option.map_eq_some_iff.1 h
  obtain ⟨type, helpers, htype, hhelpers, hlines⟩ := Value.toList_declaration hdeclaration
  refine ⟨type.toList, helpers, word_declaredType htype,
    word_of_isIdentifier (Bool.and_eq_true_iff.1 hwanted).1, ?_, hhelpers, hlines⟩
  rw [inferred?, if_pos hwanted, htype, Option.map_some]

theorem infer_eq (values : Values) (code : List Char) :
    infer values code = joinWith ['\n'] (values.entries.filterMap (written? code)) := rfl

/-- The declarations that are written for the values of a draw. -/
def inferred (values : Values) (code : List Char) : List Declaration :=
  values.entries.filterMap (inferred? code)

theorem declares_written (code : List Char) (entries : List (String × Value)) :
    Declares ((entries.filterMap (written? code)).flatMap (· ++ ['\n']))
      (entries.filterMap (inferred? code)) := by
  induction entries with
  | nil => exact .nil
  | cons e entries ih =>
    rcases written?_cases code e with ⟨hwritten, hinferred⟩ | ⟨text, d, hwritten, hinferred, hd⟩
    · rw [List.filterMap_cons_none hwritten, List.filterMap_cons_none hinferred]
      exact ih
    · rw [List.filterMap_cons_some hwritten, List.filterMap_cons_some hinferred]
      exact hd.append ih

/-- What is written for the values of a draw is read back. -/
theorem declares_infer (values : Values) (code : List Char) :
    Declares (infer values code ++ ['\n']) (inferred values code) := by
  have hwritten := declares_written code values.entries
  rw [infer_eq, inferred]
  cases hcases : values.entries.filterMap (written? code) with
  | nil =>
    rw [hcases] at hwritten
    exact hwritten.withBlank
  | cons text texts =>
    rw [joinWith_append, ← hcases]
    exact hwritten

/-! ### Assembled programs -/

open Shader

/-- The text in which the names that need no declaration are looked for. -/
def allCode (includes : List String) (vertex fragment : String) : List Char :=
  ("\n".intercalate [template, "\n".intercalate includes, vertex, fragment]).toList

/-- The beginning of a stage, up to what is written for the values of a draw. -/
def stageStart (header : String) (stage : Gl.Stage) (uniforms : Values) (code : List Char) :
    List Char :=
  header.toList ++ ['\n'] ++ ((front stage).toList ++ ['\n']) ++
    (template.toList ++ ['\n'] ++ (infer uniforms code ++ ['\n']))

theorem toList_stageSource (header : String) (stage : Gl.Stage) (includes : List String)
    (vertex fragment : String) (uniforms : Values) (body : String) :
    (Assembler.stageSource header stage
        (Assembler.sharedPart includes vertex fragment uniforms) body).toList =
      stageStart header stage uniforms (allCode includes vertex fragment) ++
        (extractVaryings vertex.toList ++ ['\n'] ++
          (("\n".intercalate includes).toList ++ ['\n']) ++ ['\n'] ++ (body.toList ++ ['\n']) ++
            (main stage).toList) := by
  have hline : "\n".toList = ['\n'] := rfl
  unfold Assembler.stageSource Assembler.sharedPart stageStart
  cases stage <;> dsimp only [front, main] <;>
    simp only [String.toList_append, hline, List.append_assoc, String.toList_ofList] <;> rfl

/-- A stage of an assembled program begins with the declarations of the template, and after them
come those of the values. -/
theorem declares_stageStart {header : String} (hheader : Declares (header.toList ++ ['\n']) [])
    (stage : Gl.Stage) (uniforms : Values) (code : List Char) :
    Declares (stageStart header stage uniforms code) (builtins ++ inferred uniforms code) :=
  (hheader.append (declares_front stage).withBlank).append
    (declares_template.withBlank.append (declares_infer uniforms code))

end Uniform

end DrawPass
