/-
DrawPass/Proofs/Applied.lean

Which uniforms change when values are applied to a program, and to what.

What a uniform takes is told from its declared type alone: the kind of its components and how
many of them one uniform has (`numericType?`).  A value that fills whole uniforms is converted
to components of that kind and written; a uniform without such a value keeps what it holds, be
it from an earlier draw; and nothing else of any program changes (`applyUniforms_matching`).

The device, the linker and the upload each have a table of types of their own.  That these agree
is settled type by type (`holds?_of_numericType?`).  Two uniforms get in each other's way only if
linking cuts a name short, which it does at the first character that is not of ASCII.
-/
import DrawPass.Proofs.Values

namespace DrawPass

open Gl Sampling Shader Software Text

/-! ### Declared types -/

/-- What the components of a uniform are. -/
inductive Component where
  | float
  | signed
  | unsigned
  deriving DecidableEq

/-- What the components of a uniform of a numeric type are, and how many it has. -/
def numericType? : String → Option (Component × Nat)
  | "float" => some (.float, 1)
  | "vec2" => some (.float, 2)
  | "vec3" => some (.float, 3)
  | "vec4" => some (.float, 4)
  | "int" | "bool" => some (.signed, 1)
  | "ivec2" | "bvec2" => some (.signed, 2)
  | "ivec3" | "bvec3" => some (.signed, 3)
  | "ivec4" | "bvec4" => some (.signed, 4)
  | "uint" => some (.unsigned, 1)
  | "uvec2" => some (.unsigned, 2)
  | "uvec3" => some (.unsigned, 3)
  | "uvec4" => some (.unsigned, 4)
  | "mat2" => some (.float, 4)
  | "mat3" => some (.float, 9)
  | "mat4" => some (.float, 16)
  | _ => none

/-- The types of samplers. -/
def samplerTypes : List String :=
  ["sampler2D", "sampler2DArray", "isampler2D", "usampler2D", "isampler2DArray", "usampler2DArray"]

/-- A uniform has a numeric type. -/
def IsNumeric (u : ActiveUniform) (component : Component) (count : Nat) : Prop :=
  ∃ type, typeConstant? type = some u.type ∧ numericType? type = some (component, count)

/-- A uniform has the type of a sampler. -/
def IsSampler (u : ActiveUniform) : Prop := ∃ type ∈ samplerTypes, typeConstant? type = some u.type

/-- What uniforms with components of some sort hold of a value; of a sampler they hold nothing. -/
def Component.contents? (value : Uniform.Value) : Component → Option UniformValue
  | float => value.floats?.map .floats
  | signed => value.ints?.map .ints
  | unsigned => value.ints?.map fun ns => .uints (ns.map fun n => UInt32.ofNat n.toInt.toNat)

/-- A value has components and fills whole uniforms with so many each. -/
def Uniform.Value.Fills (value : Value) (count : Nat) : Prop :=
  value.length ≠ 0 ∧ count ∣ value.length

theorem toUInt32_max_zero (n : Int32) : (max n 0).toUInt32 = UInt32.ofNat n.toInt.toNat := by
  have hmax : max n 0 = if n ≤ 0 then 0 else n := rfl
  rw [hmax]
  split
  · rename_i hle
    have hint : n.toInt ≤ 0 := Int32.le_iff_toInt_le.1 hle
    rw [Int.toNat_of_nonpos hint]
    rfl
  · rename_i hlt
    have hint : ¬n.toInt ≤ 0 := fun h => hlt (Int32.le_iff_toInt_le.2 h)
    have hpos : 0 ≤ n := Int32.le_iff_toInt_le.2 (by rw [Int32.toInt_zero]; omega)
    rw [← UInt32.toNat_inj, UInt32.toNat_ofNat', Int32.toNat_toInt,
      ← Int32.toNat_toUInt32_of_le hpos, Nat.mod_eq_of_lt n.toUInt32.toNat_lt]

/-- Every type has components or is one of a sampler. -/
theorem isNumeric_or_isSampler {u : ActiveUniform} {type : String}
    (h : typeConstant? type = some u.type) :
    (∃ component count, IsNumeric u component count) ∨ IsSampler u := by
  have hknown : (∃ component count, numericType? type = some (component, count)) ∨
      type ∈ samplerTypes := by
    unfold typeConstant? at h
    split at h
    case h_26 => cases h
    all_goals first | exact .inl ⟨_, _, rfl⟩ | exact .inr (by decide)
  exact hknown.imp (fun ⟨component, count, hnumeric⟩ => ⟨component, count, type, h, hnumeric⟩)
    fun hsampler => ⟨type, hsampler, h⟩

/-- The kind of a numeric type takes what the type says. -/
theorem holds?_of_numericType? {type : String} {component : Component} {count : Nat}
    (h : numericType? type = some (component, count)) :
    ∃ constant kind, typeConstant? type = some constant ∧
      UniformKind.ofType? constant = some kind ∧ (∀ unit, kind.slot unit = .value kind) ∧
      ∀ value, kind.holds? value =
        if value.length = 0 ∨ value.length % count ≠ 0 then none
        else component.contents? value := by
  have hunsigned (value : Uniform.Value) :
      value.ints?.map (fun ns => UniformValue.uints (ns.map fun m => (max m 0).toUInt32)) =
        Component.unsigned.contents? value := by
    simp only [toUInt32_max_zero]
    rfl
  unfold numericType? at h
  split at h <;> cases h
  all_goals first
    | exact ⟨_, _, rfl, rfl, fun _ => rfl, fun _ => rfl⟩
    | exact ⟨_, _, rfl, rfl, fun _ => rfl, fun value => by rw [← hunsigned]; rfl⟩

/-- A uniform of a numeric type takes the values that fill it, and no others. -/
theorem IsNumeric.exists_kind {u : ActiveUniform} {component : Component} {count : Nat}
    (h : IsNumeric u component count) :
    ∃ kind, UniformKind.ofType? u.type = some kind ∧ (∀ unit, kind.slot unit = .value kind) ∧
      ∀ value : Uniform.Value,
        (value.Fills count → kind.holds? value = component.contents? value) ∧
        (¬ value.Fills count → kind.holds? value = none) := by
  obtain ⟨type, htype, hcomponents⟩ := h
  obtain ⟨constant, kind, hconstant, hkind, hslot, hholds⟩ := holds?_of_numericType? hcomponents
  cases htype.symm.trans hconstant
  have hfills (value : Uniform.Value) :
      value.Fills count ↔ ¬(value.length = 0 ∨ value.length % count ≠ 0) := by
    rw [Uniform.Value.Fills, Nat.dvd_iff_mod_eq_zero, not_or, not_not]
  refine ⟨kind, hkind, hslot, fun value => ?_⟩
  rw [hholds, hfills]
  exact ⟨fun hfits => if_neg hfits, fun hunfit => if_pos (not_not.1 hunfit)⟩

/-- Samplers of every type have a texture unit. -/
theorem ofType?_of_isSampler {u : ActiveUniform} (h : IsSampler u) :
    ∃ target, UniformKind.ofType? u.type = some (.sampler target) := by
  obtain ⟨name, constant, size⟩ := u
  obtain ⟨type, hmem, htype⟩ := h
  simp only [samplerTypes, List.mem_cons, List.not_mem_nil, or_false] at hmem
  rcases hmem with rfl | rfl | rfl | rfl | rfl | rfl <;> cases htype <;> exact ⟨_, rfl⟩

/-- A value with components is no sampler, and can be converted. -/
theorem Component.exists_contents {value : Uniform.Value} (h : value.length ≠ 0)
    (component : Component) : ∃ new, component.contents? value = some new := by
  cases value with
  | sampler => exact absurd rfl h
  | _ => cases component <;> exact ⟨_, rfl⟩

/-! ### Setters and the uniforms they write -/

/-- The contents of uniforms have changed where values match them, and nowhere else. -/
structure Applied (uniforms : List ActiveUniform) (values : Uniform.Values)
    (held held' : Table String UniformValue) : Prop where
  /-- A uniform whose value fills it holds the components of the value. -/
  matching : ∀ u ∈ uniforms, ∀ component count, IsNumeric u component count → ∀ value,
    values.get? (baseName u.name) = some value → value.Fills count →
      ∃ new, component.contents? value = some new ∧ held'.get? (baseName u.name) = some new
  /-- A uniform without such a value keeps what it holds. -/
  skipped : ∀ u ∈ uniforms, ∀ component count, IsNumeric u component count →
    (∀ value, values.get? (baseName u.name) = some value → ¬ value.Fills count) →
      held'.get? (baseName u.name) = held.get? (baseName u.name)
  /-- There is nothing else that is written. -/
  rest : ∀ name, (∀ u ∈ uniforms, ∀ component count, IsNumeric u component count →
    baseName u.name ≠ name) → held'.get? name = held.get? name

section

variable {uniforms : List ActiveUniform} (hnamed : Named uniforms)
  (htyped : ∀ u ∈ uniforms, ∃ type, typeConstant? type = some u.type)
  (hascii : ∀ u ∈ uniforms, ∀ component count, IsNumeric u component count →
    ∀ c ∈ u.name.toList, c.toNat < 128)
include hnamed htyped hascii

/-- A setter writes nothing to uniforms, or what the kind of its own uniform takes. -/
theorem setter_cases {program : Name} {setter : Setter}
    (h : setter ∈ settersOf program uniforms) :
    (∀ value, setter.written? value = none) ∨
      ∃ u ∈ uniforms, ∃ component count kind, IsNumeric u component count ∧
        UniformKind.ofType? u.type = some kind ∧ setter.name = baseName u.name ∧
        ∀ value, setter.written? value = value.bind kind.holds? := by
  obtain ⟨u, hu, kind, unit, hkind, rfl⟩ := exists_of_mem_settersFrom h
  obtain ⟨type, htype⟩ := htyped u hu
  rcases isNumeric_or_isSampler htype with ⟨component, count, hnumeric⟩ | hsampler
  · obtain ⟨word, hword⟩ := hnamed.reported u hu
    have hname := hword.leadingIdentifier_eq (hascii u hu component count hnumeric)
    refine .inr ⟨u, hu, component, count, kind, hnumeric, hkind, hname, fun value => ?_⟩
    obtain ⟨kind', hkind', hslot, -⟩ := hnumeric.exists_kind
    cases hkind.symm.trans hkind'
    rw [Setter.written?, hslot]
  · obtain ⟨target, htarget⟩ := ofType?_of_isSampler hsampler
    cases hkind.symm.trans htarget
    exact .inl fun _ => rfl

/-- What is written under the name of a uniform, it is written for this uniform. -/
theorem setter_cases_of_name {program : Name} {setter : Setter}
    (h : setter ∈ settersOf program uniforms) {u : ActiveUniform} (hu : u ∈ uniforms)
    (hname : setter.name = baseName u.name) {kind : UniformKind}
    (hkind : UniformKind.ofType? u.type = some kind) :
    (∀ value, setter.written? value = none) ∨
      ∀ value, setter.written? value = value.bind kind.holds? := by
  rcases setter_cases hnamed htyped hascii h with
    hnone | ⟨u', hu', -, -, kind', -, hkind', hname', hwritten⟩
  · exact .inl hnone
  · obtain rfl : u' = u :=
      List.inj_on_of_nodup_map hnamed.distinct hu' hu (hname'.symm.trans hname)
    cases hkind.symm.trans hkind'
    exact .inr hwritten

/-- The setters of a program write what matches, and nothing else. -/
theorem applied_setters (program : Name) (values : Uniform.Values)
    (held : Table String UniformValue) :
    Applied uniforms values held
      ((settersOf program uniforms).foldl (Setter.store values) held) := by
  refine ⟨fun u hu component count hnumeric value hvalue hfills => ?_,
    fun u hu component count hnumeric hunfit => ?_, fun name hname => ?_⟩
  -- Where a value fits, some setter has its name, and all that have it write the same.
  · obtain ⟨kind, hkind, hslot, hholds⟩ := hnumeric.exists_kind
    obtain ⟨new, hnew⟩ := component.exists_contents hfills.1
    have hnew' : kind.holds? value = some new := ((hholds value).1 hfills).trans hnew
    refine ⟨new, hnew, Setter.get?_foldl_hold_of_some held (fun setter hsetter hname => ?_) ?_⟩
    · rw [hname, hvalue]
      have hcases := setter_cases_of_name hnamed htyped hascii hsetter hu hname hkind
      exact hcases.imp (· _) fun hwritten => (hwritten _).trans hnew'
    · obtain ⟨word, hword⟩ := hnamed.reported u hu
      have hname := hword.leadingIdentifier_eq (hascii u hu component count hnumeric)
      have hplace : hasPlace uniforms (leadingIdentifier u.name) = true :=
        List.any_eq_true.2 ⟨u, hu, beq_iff_eq.2 hname.symm⟩
      obtain ⟨unit, hsetter⟩ := exists_mem_settersFrom program 0 hu hkind hplace
      refine ⟨_, hsetter, hname, ?_⟩
      rw [hname, hvalue, Setter.written?, hslot]
      exact hnew'
  -- A value that does not fit is written by none of them.
  · obtain ⟨kind, hkind, -, hholds⟩ := hnumeric.exists_kind
    refine Setter.get?_foldl_hold_of_none held fun setter hsetter hname => ?_
    rw [hname]
    rcases setter_cases_of_name hnamed htyped hascii hsetter hu hname hkind with hnone | hwritten
    · exact hnone _
    · rw [hwritten, Option.bind_eq_none_iff]
      exact fun value hvalue => (hholds value).2 (hunfit value hvalue)
  -- The names of the setters are those of uniforms.
  · refine Setter.get?_foldl_hold_of_none held fun setter hsetter hname' => ?_
    rcases setter_cases hnamed htyped hascii hsetter with
      hnone | ⟨u, hu, component, count, -, hnumeric, -, hown', -⟩
    · exact hnone _
    · exact absurd (hown'.symm.trans hname') (hname u hu component count hnumeric)

end

/-! ### Applying values -/

/-- After values have been applied to a program that was linked from some sources, whatever its
uniforms held, each that is not a sampler and whose value fills it holds the components of the
value as its type takes them, and nothing else of any program has changed. -/
theorem applyUniforms_matching {sources : Sources} {program : Shader.Program}
    {r r₁ : Renderer State}
    (hlink : (Program.link sources : Attempt DrawError (Renderer State) Shader.Program).run r =
      (.ok program, r₁))
    (hascii : ∀ u ∈ scanUniforms [sources.vertex, sources.fragment], ∀ component count,
      IsNumeric u component count → ∀ c ∈ u.name.toList, c.toNat < 128) :
    ∃ p, r₁.store.device.programs.get? program.name = some p ∧
      p.uniforms = scanUniforms [sources.vertex, sources.fragment] ∧
      (∀ u ∈ p.uniforms, (∃ component count, IsNumeric u component count) ∨ IsSampler u) ∧
      ∀ (values : Uniform.Values) (cache : Cache) (s : Store State)
        (held : Table String UniformValue),
        s.device.programs.get? program.name = some { p with values := held } →
        ∃ held', ((program.applyUniforms values cache : StateM (Store State) _)
            s).2.device.programs.get? program.name = some { p with values := held' } ∧
          Applied p.uniforms values held held' ∧
          ∀ id, id ≠ program.name → ((program.applyUniforms values cache :
            StateM (Store State) _) s).2.device.programs.get? id = s.device.programs.get? id := by
  obtain ⟨d, rfl, hlinked⟩ := Renderer.run_link_ok hlink
  have htyped : ∀ u ∈ scanUniforms [sources.vertex, sources.fragment],
      ∃ type, typeConstant? type = some u.type := by
    intro u hu
    obtain ⟨source, -, declaration, -, hmade⟩ := exists_madeBy hu
    exact ⟨_, hmade.typeConstant?_eq⟩
  refine ⟨_, hlinked.linked, rfl, fun u hu => ?_, fun values cache s held hheld => ?_⟩
  · obtain ⟨type, htype⟩ := htyped u hu
    exact isNumeric_or_isSampler htype
  · have hlocations : ∀ setter ∈ program.setters,
        setter.location = .named program.name setter.name := by
      rw [hlinked.setters]
      exact fun setter hsetter => location_of_mem_settersFrom hsetter
    -- The setters write one after the other, each over what the one before has left.
    have huploaded := Store.applyAll_uploaded hlocations values cache s
    refine ⟨program.setters.foldl (Setter.store values) held, ?_, ?_, huploaded.others⟩
    · refine huploaded.program.trans ?_
      rw [hheld]
      rfl
    · rw [hlinked.setters]
      exact applied_setters (named_scanUniforms _) htyped hascii program.name values held

/-- Of two values for a program linked on a fresh device, the one of four integers fills an array of
pairs, the one of a single number fills no triple. -/
theorem applyUniforms_matching_of_pairs :
    let sources : Sources := ⟨"uniform uvec2 a[2]; uniform vec3 b;", "uniform sampler2D s;"⟩
    let values : Uniform.Values := (Table.empty.insert "a" (.intVector [-1, 2, 3, 4])).insert "b"
      (.float .one)
    ∃ (program : Shader.Program) (r : Renderer State) (p : Software.Program),
      (Program.link sources : Attempt DrawError (Renderer State) Shader.Program).run
        Renderer.onePixel = (.ok program, r) ∧
      r.store.device.programs.get? program.name = some p ∧
      ∃ held', ((program.applyUniforms values {} : StateM (Store State) _)
          r.store).2.device.programs.get? program.name = some { p with values := held' } ∧
        held'.get? "a" = some (.uints [0, 2, 3, 4]) ∧ held'.get? "b" = p.values.get? "b" := by
  intro sources values
  have hok : ((Program.link sources : Attempt DrawError (Renderer State) Shader.Program).run
      Renderer.onePixel).1.toOption.isSome := by
    decide +kernel
  obtain ⟨program, hprogram⟩ := Attempt.exists_answer hok
  have huniforms : scanUniforms [sources.vertex, sources.fragment] =
      [⟨"a[0]", Constant.unsignedIntVec2, 2⟩, ⟨"b", Constant.floatVec3, 1⟩,
        ⟨"s", Constant.sampler2D, 1⟩] := by
    decide +kernel
  have hnames : ∀ u ∈ scanUniforms [sources.vertex, sources.fragment],
      ∀ c ∈ u.name.toList, c.toNat < 128 := by
    simp [huniforms]
  obtain ⟨p, hp, hdeclared, -, happly⟩ :=
    applyUniforms_matching (Prod.ext hprogram rfl) fun u hu _ _ _ => hnames u hu
  obtain ⟨held', hheld', happlied, -⟩ := happly values {} _ p.values hp
  rw [hdeclared, huniforms] at happlied
  have ha : baseName "a[0]" = "a" := by decide
  have hb : baseName "b" = "b" := by decide
  obtain ⟨new, hnew, hpairs⟩ := happlied.matching _ List.mem_cons_self .unsigned 2
    ⟨"uvec2", rfl, rfl⟩ (.intVector [-1, 2, 3, 4]) (by rw [ha]; rfl) ⟨by decide, by decide⟩
  have htriple := happlied.skipped _ (List.mem_cons_of_mem _ List.mem_cons_self) .float 3
    ⟨"vec3", rfl, rfl⟩ fun value hvalue => by
      rw [hb] at hvalue
      cases hvalue
      exact fun h => absurd h.2 (by decide)
  rw [ha] at hpairs
  rw [hb] at htriple
  cases hnew
  exact ⟨program, _, p, Prod.ext hprogram rfl, hp, held', hheld', hpairs, htriple⟩

end DrawPass
