/-
DrawPass/Proofs/Values.lean

Values reach the uniforms that are declared for them.

For each value of a draw that its snippets do not declare, a declaration is written whose type
is chosen by the shape of the value.  The device finds the uniform with that type, linking
turns the type into a kind, and a value is written only if its length suits the kind.  These
choices agree: a value always suits the kind of the type that it was declared with
(`Value.suits`), so after the draw that links the program each uniform holds exactly the
components of its value, and a sampler uniform its unit (`values_reach_uniforms`).

There is one exception.  Linking cuts a name at the first character that is not of ASCII, so a
uniform whose name goes on in another script after the name of a value has its setter under
that name too, and writes the value once more with its own type.
-/
import DrawPass.Proofs.Samplers

namespace DrawPass

open Gl Shader Software Text

/-! ### Types -/

/-- Samplers hold no values. -/
theorem Shader.UniformKind.holds?_sampler (target : UInt32) (value : Uniform.Value) :
    (UniformKind.sampler target).holds? value = none := ite_self none

namespace Uniform.Value

/-- The components of a value as a uniform of its own type holds them; a sampler has none. -/
def components? : Value → Option UniformValue
  | float x => some (.floats [x])
  | int n => some (.ints [n])
  | bool b => some (.ints [if b then 1 else 0])
  | vector xs => some (.floats xs)
  | intVector ns => some (.ints ns)
  | sampler _ => none

/-- A kind takes a value as it is; a sampler is taken by a texture unit. -/
def Suits (value : Value) (kind : UniformKind) : Prop :=
  match value.components? with
  | some held => kind.holds? value = some held
  | none => ∃ target, kind = .sampler target

/-- A value of as many components as one uniform of a kind takes fits it. -/
theorem fits (value : Value) {components : Nat} (hlength : value.length = components)
    (hpos : 0 < components) : ¬(value.length = 0 ∨ value.length % components ≠ 0) := by
  rw [hlength, Nat.mod_self]
  omega

/-- A value suits the kind of the type that it is declared with. -/
theorem suits {value : Value} {type : String} (h : value.shape.declaredType? = some type) :
    ∃ constant kind, typeConstant? type = some constant ∧
      UniformKind.ofType? constant = some kind ∧ value.Suits kind := by
  cases value with
  | float x => cases h; exact ⟨_, .float 1, rfl, rfl, if_neg (fits (float x) rfl Nat.one_pos)⟩
  | int n => cases h; exact ⟨_, .int 1, rfl, rfl, if_neg (fits (int n) rfl Nat.one_pos)⟩
  | bool b => cases h; exact ⟨_, .bool 1, rfl, rfl, if_neg (fits (bool b) rfl Nat.one_pos)⟩
  | vector xs =>
    have hshape : (Shape.fixedVector xs.length).typeName? = some type := h
    -- The number of components tells vectors from matrices.
    have hvector (n : UInt32) (hlength : xs.length = n.toNat) (hpos : 0 < n.toNat) :
        (vector xs).Suits (.float n) := if_neg (fits (vector xs) hlength hpos)
    have hmatrix (n : UInt32) (hlength : xs.length = n.toNat * n.toNat)
        (hpos : 0 < n.toNat * n.toNat) : (vector xs).Suits (.matrix n) :=
      if_neg (fits (vector xs) hlength hpos)
    generalize hlength : xs.length = n at hshape
    unfold Shape.typeName? at hshape
    split at hshape <;> rename_i hn <;> cases hn <;> cases hshape
    · exact ⟨_, _, rfl, rfl, hvector 1 hlength (by decide)⟩
    · exact ⟨_, _, rfl, rfl, hvector 2 hlength (by decide)⟩
    · exact ⟨_, _, rfl, rfl, hvector 3 hlength (by decide)⟩
    · exact ⟨_, _, rfl, rfl, hvector 4 hlength (by decide)⟩
    · exact ⟨_, _, rfl, rfl, hmatrix 3 hlength (by decide)⟩
    · exact ⟨_, _, rfl, rfl, hmatrix 4 hlength (by decide)⟩
  | intVector ns =>
    have hshape : (Shape.intVector ns.length).typeName? = some type := h
    have hvector (n : UInt32) (hlength : ns.length = n.toNat) (hpos : 0 < n.toNat) :
        (intVector ns).Suits (.int n) := if_neg (fits (intVector ns) hlength hpos)
    generalize hlength : ns.length = n at hshape
    unfold Shape.typeName? at hshape
    split at hshape <;> rename_i hn <;> cases hn <;> cases hshape
    · exact ⟨_, _, rfl, rfl, hvector 1 hlength (by decide)⟩
    · exact ⟨_, _, rfl, rfl, hvector 2 hlength (by decide)⟩
    · exact ⟨_, _, rfl, rfl, hvector 3 hlength (by decide)⟩
    · exact ⟨_, _, rfl, rfl, hvector 4 hlength (by decide)⟩
  | sampler s =>
    have hsampler (layered : Bool) {letter : String}
        (hletter : letter = "" ∨ letter = "i" ∨ letter = "u") :
        ∃ constant kind, typeConstant?
            (letter ++ if layered then "sampler2DArray" else "sampler2D") = some constant ∧
          UniformKind.ofType? constant = some kind ∧ (sampler s).Suits kind := by
      rcases hletter with rfl | rfl | rfl <;> cases layered <;>
        exact ⟨_, _, rfl, rfl, _, rfl⟩
    cases h
    exact hsampler _ (samplerPrefix_cases _)

end Uniform.Value

/-! ### Names -/

namespace Uniform

/-- A name of ASCII letters, digits and underscores. -/
structure PlainName (name : String) : Prop where
  ne_empty : name ≠ ""
  plain : ∀ c ∈ name.toList, isPlainWord c = true

theorem isWord_of_isPlainWord {c : Char} (h : isPlainWord c = true) : isWord c = true := by
  have hascii : c.toNat < 0x80 := by
    have hbelow (low high : UInt32) (hhigh : high.toNat < 0x80)
        (h : (decide (c.val ≥ low) && decide (c.val ≤ high)) = true) : c.toNat < 0x80 :=
      Nat.lt_of_le_of_lt (of_decide_eq_true (Bool.and_eq_true_iff.1 h).2) hhigh
    rcases Bool.or_eq_true_iff.1 h with halphanum | hunderscore
    · rcases Bool.or_eq_true_iff.1 halphanum with halpha | hdigit
      · rcases Bool.or_eq_true_iff.1 halpha with hupper | hlower
        · exact Nat.lt_of_le_of_lt (of_decide_eq_true hupper).2 (by decide)
        · exact hbelow 97 122 (by decide) hlower
      · exact hbelow 48 57 (by decide) hdigit
    · cases beq_iff_eq.1 hunderscore
      decide
  unfold isWord
  rw [if_pos hascii, h]

theorem PlainName.isIdentifier {name : String} (h : PlainName name) : isIdentifier name = true := by
  unfold Uniform.isIdentifier
  rw [Bool.and_eq_true, Bool.not_eq_true', List.all_eq_true]
  refine ⟨Bool.eq_false_iff.2 fun e => h.ne_empty ?_, fun c hc => isWord_of_isPlainWord (h.plain c hc)⟩
  exact String.isEmpty_iff.1 e

/-- A plain name is not cut short. -/
theorem PlainName.leadingIdentifier_eq {name : String} (h : PlainName name) :
    leadingIdentifier name = name := by
  unfold leadingIdentifier
  rw [(List.takeWhile_eq_self_iff (p := isIdentifierChar)).2 h.plain]
  exact String.ofList_toList

end Uniform

/-! ### Setters by name -/

namespace Shader

variable {program : Name} {known : String → Bool} {uniforms : List ActiveUniform} {unit : UInt32}

/-- A uniform of a known type has a setter. -/
theorem exists_mem_settersFrom (program : Name) (unit : UInt32) {u : ActiveUniform}
    (hu : u ∈ uniforms) {kind : UniformKind} (hkind : UniformKind.ofType? u.type = some kind)
    (hknown : known (leadingIdentifier u.name) = true) :
    ∃ unit', ⟨leadingIdentifier u.name, .named program (leadingIdentifier u.name),
      kind.slot unit'⟩ ∈ settersFrom program known unit uniforms := by
  induction uniforms generalizing unit with
  | nil => cases hu
  | cons u' us ih =>
    unfold settersFrom
    rcases List.mem_cons.1 hu with rfl | hu
    · rw [hkind]
      dsimp only
      rw [if_pos hknown]
      exact ⟨unit, List.mem_cons_self⟩
    · split
      · exact ih _ hu
      · dsimp only
        split
        · obtain ⟨unit', hmem⟩ := ih _ hu
          exact ⟨unit', List.mem_cons_of_mem _ hmem⟩
        · exact ih _ hu

/-- Two setters of one name are the same if no two uniforms have a name that begins with it. -/
theorem eq_of_mem_settersFrom {name : String}
    (hcount : (uniforms.map fun u => leadingIdentifier u.name).count name ≤ 1) {s s' : Setter}
    (hs : s ∈ settersFrom program known unit uniforms) (hname : s.name = name)
    (hs' : s' ∈ settersFrom program known unit uniforms) (hname' : s'.name = name) : s' = s := by
  have hfew : ((settersFrom program known unit uniforms).filter (·.name == name)).length ≤ 1 := by
    rw [← List.countP_eq_length_filter]
    refine Nat.le_trans ?_ hcount
    have hle : ((settersFrom program known unit uniforms).map Setter.name).count name ≤ _ :=
      (sublist_map_name_settersFrom unit).count_le name
    rwa [List.count_eq_countP, List.countP_map] at hle
  have hmem : s ∈ (settersFrom program known unit uniforms).filter (·.name == name) :=
    List.mem_filter.2 ⟨hs, beq_iff_eq.2 hname⟩
  have hmem' : s' ∈ (settersFrom program known unit uniforms).filter (·.name == name) :=
    List.mem_filter.2 ⟨hs', beq_iff_eq.2 hname'⟩
  generalize (settersFrom program known unit uniforms).filter (·.name == name) = list at *
  match list, hfew with
  | [], _ => cases hmem
  | [only], _ =>
    cases List.mem_singleton.1 hmem
    exact List.mem_singleton.1 hmem'

end Shader

/-! ### The program of a draw -/

namespace Renderer

variable {header : String} {key : ProgramKey} {founder : Uniform.Values}
  {program : Shader.Program} {p : Software.Program} {name : String} {value : Uniform.Value}

open Uniform in
/-- The device finds a value under its name and with the type it was declared with. -/
theorem Compiled.mem_uniforms (h : Compiled header key founder program p)
    (hheader : Declares (header.toList ++ ['\n']) []) (hentry : (name, value) ∈ founder.entries)
    (hname : isIdentifier name = true)
    (hundeclared : name.toList ∉ declaredNames (allCode key.includes key.vertex key.fragment))
    {type : String} (htype : value.shape.declaredType? = some type) {constant : UInt32}
    (hconstant : typeConstant? type = some constant) : ⟨name, constant, 1⟩ ∈ p.uniforms := by
  let code := allCode key.includes key.vertex key.fragment
  obtain ⟨first, later, hsplit⟩ := List.append_of_mem hentry
  have hdeclared : inferred? code (name, value) = some ⟨type.toList, name.toList⟩ := by
    unfold inferred?
    rw [if_pos, htype]
    · rfl
    · rw [hname, Bool.true_and, Bool.not_eq_true', List.contains_eq_mem, decide_eq_false_iff_not]
      exact hundeclared
  have hinferred : inferred founder code = first.filterMap (inferred? code) ++
      ⟨type.toList, name.toList⟩ :: later.filterMap (inferred? code) := by
    unfold inferred
    rw [hsplit, List.filterMap_append, List.filterMap_cons_some hdeclared]
  -- Nothing that is declared before has the name: no built-in uniform, and no earlier value.
  have hfirst : ∀ d ∈ builtins ++ first.filterMap (inferred? code),
      Word d.names ∧ d.names ≠ name.toList := by
    intro d hd
    rcases List.mem_append.1 hd with hd | hd
    · have hwords : ∀ d ∈ builtins, Word d.names := by decide
      refine ⟨hwords d hd, fun e => hundeclared ?_⟩
      exact e ▸ mem_declaredNames_of_builtins key.includes key.vertex key.fragment d hd
    · obtain ⟨e, he, hd⟩ := List.mem_filterMap.1 hd
      unfold inferred? at hd
      split at hd
      · rename_i hwanted
        obtain ⟨_, -, rfl⟩ := Option.map_eq_some_iff.1 hd
        refine ⟨word_of_isIdentifier (Bool.and_eq_true_iff.1 hwanted).1, fun hsame => ?_⟩
        have hdistinct := founder.distinct
        rw [hsplit, List.map_append, List.nodup_append] at hdistinct
        exact hdistinct.2.2 _ (List.mem_map_of_mem he) _ List.mem_cons_self
          (String.toList_inj.1 hsame)
      · cases hd
  have hsources := congrArg Sources.vertex (h.sources.trans (Assembler.fresh_eq header key founder))
  have hfound := congrArg (fun s : String => (declaration true).findAll
    (Shader.stripComments s.toList)) hsources
  dsimp only at hfound
  rw [toList_stageSource, (declares_stageStart hheader ..).findAll, hinferred,
    ← List.append_assoc, List.append_assoc, List.cons_append] at hfound
  have hmem : ⟨String.ofList name.toList, constant, 1⟩ ∈
      scanUniforms [p.vertexSource, p.fragmentSource] :=
    mem_scanUniforms hfound hfirst (word_of_isIdentifier hname) (by rwa [String.ofList_toList])
  rw [String.ofList_toList] at hmem
  rwa [h.uniforms]

/-- The one setter of a name that no other uniform of a program begins with. -/
theorem Compiled.exists_setter_of_name (h : Compiled header key founder program p)
    (hplain : Uniform.PlainName name) {constant : UInt32} {kind : UniformKind}
    (hmem : ⟨name, constant, 1⟩ ∈ p.uniforms) (hkind : UniformKind.ofType? constant = some kind)
    (halone : ∀ u ∈ p.uniforms, leadingIdentifier u.name = name → baseName u.name = name) :
    ∃ setter ∈ program.setters, setter.name = name ∧ (∃ unit, setter.slot = kind.slot unit) ∧
      ∀ other ∈ program.setters, other.name = name → other = setter := by
  have hnamed := named_scanUniforms [p.vertexSource, p.fragmentSource]
  rw [← h.uniforms] at hnamed
  have hword : Word name.toList :=
    ⟨fun e => hplain.ne_empty (String.toList_eq_nil_iff.1 e),
      fun c hc => Uniform.isWord_of_isPlainWord (hplain.plain c hc)⟩
  have hbase : baseName name = name :=
    (IsReported.baseName_eq ⟨hword, .inl rfl⟩).trans String.ofList_toList
  have hknown : hasPlace p.uniforms (leadingIdentifier name) = true :=
    List.any_eq_true.2 ⟨_, hmem, beq_iff_eq.2 (hbase.trans hplain.leadingIdentifier_eq.symm)⟩
  have hcount : (p.uniforms.map fun u => leadingIdentifier u.name).count name ≤ 1 := by
    refine Nat.le_trans ?_ (List.nodup_iff_count_le_one.1 hnamed.distinct name)
    rw [List.count_eq_countP, List.count_eq_countP, List.countP_map, List.countP_map]
    exact List.countP_mono_left fun u hu hlead => beq_iff_eq.2 (halone u hu (beq_iff_eq.1 hlead))
  obtain ⟨unit, hsetter⟩ := exists_mem_settersFrom program.name 0 hmem hkind hknown
  rw [hplain.leadingIdentifier_eq] at hsetter
  rw [h.setters]
  exact ⟨_, hsetter, rfl, ⟨unit, rfl⟩, fun other hother hname =>
    eq_of_mem_settersFrom hcount hsetter rfl hother hname⟩

/-- What the program of a strip holds after the values of the strip have been written. -/
theorem Remembers.exists_stored {founders : ProgramKey → Option Uniform.Values}
    {bag : Params.Bag} {destination : Destination} {r moment : Renderer State}
    {resolved : Resolved} {strip : Strip} (h : r.Remembers header founders)
    (hrun : (reach bag destination).run r = (.ok (resolved, some strip), moment)) :
    ∃ p, moment.store.device.program? = some { p with
        values := strip.program.setters.foldl (Setter.store strip.values) p.values } ∧
      Compiled header strip.key ((founders strip.key).getD strip.uniforms) strip.program p := by
  obtain ⟨settled, bound, after, hreached, hload⟩ := exists_reached hrun
  obtain ⟨hfound, hkey⟩ := h.found_program hreached
  obtain ⟨founder, p, hfounder, hp, hcompiled⟩ := hfound.exists_founder hkey
  cases hfounder.symm.trans (found_self ..)
  obtain ⟨ready, hready, hupload⟩ := exists_readied strip after
  have huploaded := Store.applyAll_uploaded (hfound.locations hkey) strip.values ready.samplers
    ready.store
  have huse : moment.store.device.currentProgram = some strip.program.name := by
    rw [hload, hupload]
    exact huploaded.currentProgram.trans hready.use
  refine ⟨p, ?_, hcompiled⟩
  unfold State.program?
  rw [huse, hload, hupload]
  refine huploaded.program.trans ?_
  rw [hready.programs, hp]
  rfl

/-- Drawing a strip leaves its program as it is. -/
theorem program?_finish (strip : Strip) (r : Renderer State) :
    (strip.finish r).2.store.device.program? = r.store.device.program? := by
  have hidle := finish_idle strip r
  rw [State.program?, State.program?, hidle.store.programs, hidle.store.currentProgram]

end Renderer

/-- After a draw that has its program linked, the program has a setter for every value that its
snippets leave undeclared, and holds exactly the components of the value, or for a sampler the
texture unit, unless another uniform has a longer name that is cut to the same at a character
beyond ASCII. -/
theorem values_reach_uniforms {config : Config} {width height : UInt32} {r : Renderer State}
    (hr : Renderer.create config { device := State.new width height } = .ok r)
    (hheader : config.header = embeddedHeader ∨ config.header = desktopHeader) (acts : List Act)
    {bag : Params.Bag} {destination : Destination} {plan : Plan} {resolved : Resolved}
    {r' : Renderer State} (hplan : Plan.ofBag bag = .ok plan)
    (hstages : plan.options.hasStages = true)
    (hdraw : (Renderer.draw bag destination).run (Act.afterAll r acts) = (.ok resolved, r'))
    (hnew : (Act.afterAll r acts).programs.programs.get?
      ⟨plan.options.includes, plan.options.vertex, plan.options.fragment⟩ = none) :
    ∃ strip moment program, (Renderer.reach bag destination).run (Act.afterAll r acts) =
        (.ok (resolved, some strip), moment) ∧ strip.plan = plan ∧
      r'.store.device.program? = some program ∧
      ∀ name value, (name, value) ∈ strip.uniforms.entries → Uniform.PlainName name →
        name.toList ∉ Uniform.declaredNames (Uniform.allCode plan.options.includes
          plan.options.vertex plan.options.fragment) →
        (value.shape.declaration? name).isSome →
        (∀ u ∈ program.uniforms, leadingIdentifier u.name = name → baseName u.name = name) →
        ∃ setter ∈ strip.program.setters, setter.name = name ∧
          match value.components? with
          | some held => program.values.get? name = some held
          | none => ∃ unit, setter.unit? = some unit ∧
              program.values.get? name = some (.ints [unit.toInt32]) := by
  have hremembers := Act.afterAll_remembers acts (Renderer.remembers_create hr)
  obtain ⟨strip, moment, hrun, hstrip, hfinish⟩ :=
    Renderer.exists_strip_of_draw hplan hstages hdraw
  obtain ⟨p, hprogram, hcompiled⟩ := hremembers.exists_stored hrun
  have hkey : strip.key = ⟨plan.options.includes, plan.options.vertex, plan.options.fragment⟩ := by
    rw [← hstrip]
    rfl
  -- This draw links the program, so it is compiled for the values of this draw.
  have hunknown : Act.foundersAll (fun _ => none) r acts strip.key = none :=
    hremembers.unfounded (hkey ▸ hnew)
  rw [hunknown, Option.getD_none] at hcompiled
  have hafter : r'.store.device.program? = moment.store.device.program? :=
    hfinish ▸ Renderer.program?_finish strip moment
  refine ⟨strip, moment, _, hrun, hstrip, hafter.trans hprogram,
    fun name value hentry hname hundeclared hdeclaration halone => ?_⟩
  have hquiet : Uniform.Declares (config.header.toList ++ ['\n']) [] := by
    rcases hheader with hheader | hheader <;> rw [hheader]
    · exact Uniform.declares_embeddedHeader
    · exact Uniform.declares_desktopHeader
  rw [Uniform.Shape.isSome_declaration?, Option.isSome_iff_exists] at hdeclaration
  obtain ⟨type, htype⟩ := hdeclaration
  obtain ⟨constant, kind, hconstant, hkind, hsuits⟩ := Uniform.Value.suits htype
  have hundeclared' : name.toList ∉ Uniform.declaredNames (Uniform.allCode strip.key.includes
      strip.key.vertex strip.key.fragment) := by
    rwa [hkey]
  -- The value is declared, so the device reports its uniform, and one setter is for it.
  have hmem := hcompiled.mem_uniforms hquiet hentry hname.isIdentifier hundeclared' htype hconstant
  obtain ⟨setter, hsetter, hsame, ⟨unit, hslot⟩, honly⟩ :=
    hcompiled.exists_setter_of_name hname hmem hkind halone
  have hvalue := Strip.get?_values hentry hundeclared
  refine ⟨setter, hsetter, hsame, ?_⟩
  dsimp only
  unfold Uniform.Value.Suits at hsuits
  split at hsuits
  · rename_i held hheld
    have hplain : setter.slot = .value kind := by
      rw [hslot]
      cases kind with
      | sampler target => cases UniformKind.holds?_sampler target value ▸ hsuits
      | _ => rfl
    have hwritten : setter.written? (strip.values.get? setter.name) = some held := by
      rw [hsame, hvalue, Setter.written?, hplain]
      exact hsuits
    exact Setter.get?_foldl_hold_of_some p.values
      (fun other hother hother' => .inr (honly other hother hother' ▸ hwritten))
      ⟨setter, hsetter, hsame, hwritten⟩
  -- Nothing is written for a sampler: its uniform holds the unit it was given at the linking.
  · obtain ⟨target, rfl⟩ := hsuits
    have hunit : setter.unit? = some unit := by
      rw [Setter.unit?, hslot]
      rfl
    refine ⟨unit, hunit, ?_⟩
    refine (Setter.get?_foldl_hold_of_none p.values fun other hother hother' => ?_).trans ?_
    · rw [honly other hother hother', Setter.written?, hslot]
      rfl
    · rw [← hsame]
      refine hcompiled.units setter hsetter (fun other hother hother' => ?_) unit hunit
      exact honly other hother (hother'.trans hsame)

/-- The first draw of a renderer, with one number. -/
theorem values_reach_uniforms_of_number :
    ∃ (resolved : Resolved) (r' : Renderer State) (strip : Strip) (moment : Renderer State)
      (program : Software.Program),
      (Renderer.draw (.single (.float .one)) .screen).run Renderer.onePixel =
        (.ok resolved, r') ∧
      (Renderer.reach (.single (.float .one)) .screen).run Renderer.onePixel =
        (.ok (resolved, some strip), moment) ∧
      r'.store.device.program? = some program ∧
      ∃ setter ∈ strip.program.setters, setter.name = "a" ∧
        program.values.get? "a" = some (.floats [.one]) := by
  have hremembers := Renderer.remembers_create Renderer.create_onePixel
  obtain ⟨plan, hplan, hstages, hkey⟩ : ∃ plan, Plan.ofBag (.single (.float .one)) = .ok plan ∧
      plan.options.hasStages = true ∧ (⟨[], "", "1.0"⟩ : ProgramKey) =
        ⟨plan.options.includes, plan.options.vertex, plan.options.fragment⟩ := ⟨_, rfl, rfl, rfl⟩
  have htype : (Uniform.Value.float .one).shape.declaredType? = some "float" := rfl
  obtain ⟨strip, moment, p, hrun, hvalue, hp, huniforms⟩ :=
    hremembers.exists_single rfl rfl htype rfl
  have hdraw : (Renderer.draw (.single (.float .one)) .screen).run
      (Act.afterAll Renderer.onePixel []) = (.ok .screen, (strip.finish moment).2) := by
    rw [Renderer.draw_eq_reach]
    exact (Attempt.run_bind_ok hrun).trans rfl
  have hnew : (Act.afterAll Renderer.onePixel []).programs.programs.get?
      ⟨plan.options.includes, plan.options.vertex, plan.options.fragment⟩ = none := rfl
  obtain ⟨strip', moment', program, hrun', hplan', hprogram, hvalues⟩ :=
    values_reach_uniforms Renderer.create_onePixel (.inl rfl) [] hplan hstages hdraw hnew
  cases hrun.symm.trans hrun'
  cases hp.symm.trans ((Renderer.program?_finish strip moment).symm.trans hprogram)
  injection hkey with hincludes hvertex hfragment
  rw [← hincludes, ← hvertex, ← hfragment] at hvalues
  have hentry : ("a", Uniform.Value.float .one) ∈ strip.uniforms.entries :=
    hvalue ▸ List.mem_singleton_self _
  have halone : ∀ u ∈ p.uniforms, leadingIdentifier u.name = "a" → baseName u.name = "a" := by
    rw [huniforms]
    decide +kernel
  obtain ⟨setter, hsetter, hname, hheld⟩ := hvalues "a" _ hentry ⟨by decide, List.all_eq_true.1 (by decide)⟩
    undeclared_single rfl halone
  exact ⟨.screen, _, strip, moment, p, hdraw, hrun, hprogram, setter, hsetter, hname, hheld⟩

end DrawPass
