/-
DrawPass/Proofs/Samplers.lean

Samplers read the textures they were given.

A sampler uniform is given its texture unit when its program is linked, and the unit is kept
with the program, while what is bound to the unit changes with every draw, every mip chain
that is made and every texture that is deleted.  Before a draw is issued all setters of its
program are run, and the setter of a sampler binds its unit in every case: to the texture of
the draw's own value, or to nothing.  Since no two setters have the same unit, none undoes
what another has done (`samplers_read_own_textures`).

Linking goes by the part of a name that is in ASCII, so this takes names in ASCII; and units
are numbers of 32 bits, so it takes no more samplers than there are such numbers.
-/
import DrawPass.Proofs.Scanned
import DrawPass.Proofs.Sources

namespace DrawPass

open Gl Shader Software Text

namespace Software

/-- Whether a type is one of a sampler. -/
def isSamplerType (type : UInt32) : Bool :=
  match UniformKind.ofType? type with
  | some (.sampler _) => true
  | _ => false

/-- The sampler uniforms among some, in their order. -/
def samplerNames (uniforms : List ActiveUniform) : List String :=
  (uniforms.filter fun u => isSamplerType u.type).map fun u => baseName u.name

theorem samplerNames_cons (u : ActiveUniform) (us : List ActiveUniform) :
    samplerNames (u :: us) =
      if isSamplerType u.type then baseName u.name :: samplerNames us else samplerNames us := by
  unfold samplerNames
  rw [List.filter_cons]
  split <;> rfl

/-- The sampler uniforms of a program, in the order of their declarations. -/
def Program.samplers (p : Program) : List String := samplerNames p.uniforms

end Software

namespace Shader

variable {program : Name} {known : String → Bool} {uniforms : List ActiveUniform}

/-- A sampler setter with its unit. -/
def Setter.claim? (s : Setter) : Option (String × UInt32) := s.unit?.map fun unit => (s.name, unit)

/-- Where no name is cut short and every name has a place, every uniform of a known type has a
setter, and every sampler the next unit. -/
theorem filterMap_claim_settersFrom (hknown : ∀ u ∈ uniforms, known (baseName u.name) = true)
    (hwhole : ∀ u ∈ uniforms, leadingIdentifier u.name = baseName u.name) (unit : UInt32) :
    (settersFrom program known unit uniforms).filterMap Setter.claim? =
      (samplerNames uniforms).mapIdx fun i name => (name, unit + UInt32.ofNat i) := by
  induction uniforms generalizing unit with
  | nil => rfl
  | cons u us ih =>
    obtain ⟨hplace, hplaces⟩ := List.forall_mem_cons.1 hknown
    obtain ⟨hname, hnames⟩ := List.forall_mem_cons.1 hwhole
    have hrest := ih hplaces hnames
    rw [samplerNames_cons]
    unfold settersFrom isSamplerType
    cases hkind : UniformKind.ofType? u.type with
    | none => exact hrest unit
    | some kind =>
      dsimp only
      rw [hname, if_pos hplace]
      cases kind with
      | sampler target =>
        -- The units of the rest count on from the next one.
        have hnext : (fun i (name : String) => (name, unit + 1 + UInt32.ofNat i)) =
            fun i name => (name, unit + UInt32.ofNat (i + 1)) := by
          funext i name
          rw [UInt32.add_assoc, Nat.add_comm i 1, UInt32.ofNat_add]
          rfl
        have hfirst : unit + UInt32.ofNat 0 = unit := UInt32.add_zero unit
        rw [if_pos rfl, List.mapIdx_cons, ← hnext, ← hrest, hfirst]
        rfl
      | float | int | uint | bool | matrix => exact hrest unit

/-- The setters are named after uniforms, in their order. -/
theorem sublist_map_name_settersFrom (unit : UInt32) :
    ((settersFrom program known unit uniforms).map Setter.name).Sublist
      (uniforms.map fun u => leadingIdentifier u.name) := by
  induction uniforms generalizing unit with
  | nil => exact List.Sublist.refl _
  | cons u us ih =>
    unfold settersFrom
    split
    · exact (ih unit).cons _
    · dsimp only
      split
      · exact (ih _).cons_cons _
      · exact (ih unit).cons _

end Shader

namespace Renderer

variable {header : String} {key : ProgramKey} {founder : Uniform.Values}
  {program : Shader.Program} {p : Software.Program}

/-- The names of a program that is all in ASCII are not cut short. -/
theorem Compiled.whole (h : Compiled header key founder program p)
    (hascii : ∀ u ∈ p.uniforms, ∀ c ∈ u.name.toList, c.toNat < 128) :
    ∀ u ∈ p.uniforms, leadingIdentifier u.name = baseName u.name := by
  intro u hu
  have hnamed := named_scanUniforms [p.vertexSource, p.fragmentSource]
  rw [← h.uniforms] at hnamed
  obtain ⟨word, hword⟩ := hnamed.reported u hu
  exact hword.leadingIdentifier_eq (hascii u hu)

/-- Every uniform has a place under its own name. -/
theorem hasPlace_self {uniforms : List ActiveUniform} :
    ∀ u ∈ uniforms, hasPlace uniforms (baseName u.name) = true := fun u hu =>
  List.any_eq_true.2 ⟨u, hu, beq_self_eq_true _⟩

/-- The setters of a program that is all in ASCII have names of their own. -/
theorem Compiled.nodup_names (h : Compiled header key founder program p)
    (hascii : ∀ u ∈ p.uniforms, ∀ c ∈ u.name.toList, c.toNat < 128) :
    (program.setters.map Setter.name).Nodup := by
  have hnamed := named_scanUniforms [p.vertexSource, p.fragmentSource]
  rw [← h.uniforms] at hnamed
  have hdistinct := hnamed.distinct
  rw [List.map_congr_left fun u hu => (h.whole hascii u hu).symm] at hdistinct
  rw [h.setters]
  exact hdistinct.sublist (sublist_map_name_settersFrom 0)

/-- The samplers of a program have names of their own. -/
theorem Compiled.nodup_samplers (h : Compiled header key founder program p) : p.samplers.Nodup := by
  have hnamed := named_scanUniforms [p.vertexSource, p.fragmentSource]
  rw [← h.uniforms] at hnamed
  exact hnamed.distinct.sublist (List.filter_sublist.map _)

/-- The samplers of a program that is all in ASCII have the units from 0 on, in the order of their
declarations. -/
theorem Compiled.claims (h : Compiled header key founder program p)
    (hascii : ∀ u ∈ p.uniforms, ∀ c ∈ u.name.toList, c.toNat < 128) :
    program.setters.filterMap Setter.claim? =
      p.samplers.mapIdx fun i name => (name, UInt32.ofNat i) := by
  rw [h.setters]
  refine (filterMap_claim_settersFrom hasPlace_self (h.whole hascii) 0).trans ?_
  simp only [UInt32.zero_add]
  rfl

/-- The setter of the sampler at a place. -/
theorem Compiled.exists_setter (h : Compiled header key founder program p)
    (hascii : ∀ u ∈ p.uniforms, ∀ c ∈ u.name.toList, c.toNat < 128) {i : Nat} {name : String}
    (hname : p.samplers[i]? = some name) :
    ∃ setter ∈ program.setters, setter.name = name ∧ setter.unit? = some (UInt32.ofNat i) := by
  have hclaim : (p.samplers.mapIdx fun i name => (name, UInt32.ofNat i))[i]? =
      some (name, UInt32.ofNat i) := by
    rw [List.getElem?_mapIdx, hname]
    rfl
  rw [← h.claims hascii] at hclaim
  obtain ⟨setter, hsetter, hpair⟩ := List.mem_filterMap.1 (List.mem_of_getElem? hclaim)
  obtain ⟨unit, hunit, hsame⟩ := Option.map_eq_some_iff.1 hpair
  cases hsame
  exact ⟨setter, hsetter, rfl, hunit⟩

/-- The samplers of a program that is all in ASCII have units of their own, if there are enough. -/
theorem Compiled.nodup_units (h : Compiled header key founder program p)
    (hascii : ∀ u ∈ p.uniforms, ∀ c ∈ u.name.toList, c.toNat < 128)
    (hcount : p.samplers.length ≤ UInt32.size) : (program.setters.filterMap Setter.unit?).Nodup := by
  have hunits : program.setters.filterMap Setter.unit? =
      p.samplers.mapIdx fun i _ => UInt32.ofNat i := by
    have hclaims := congrArg (List.map Prod.snd) (h.claims hascii)
    rw [List.map_filterMap] at hclaims
    refine (List.filterMap_congr fun setter _ => ?_).trans (hclaims.trans ?_)
    · unfold Setter.claim?
      cases setter.unit? <;> rfl
    · rw [List.mapIdx_eq_zipIdx_map, List.mapIdx_eq_zipIdx_map, List.map_map]
      rfl
  rw [hunits, List.nodup_iff_injective_getElem]
  rintro ⟨i, hi⟩ ⟨j, hj⟩ hsame
  rw [List.length_mapIdx] at hi hj
  have hnat := congrArg UInt32.toNat hsame
  simp only [List.getElem_mapIdx] at hnat
  rw [UInt32.toNat_ofNat_of_lt' (Nat.lt_of_lt_of_le hi hcount),
    UInt32.toNat_ofNat_of_lt' (Nat.lt_of_lt_of_le hj hcount)] at hnat
  exact Fin.ext hnat

end Renderer

/-! ### What a strip supplies -/

namespace Uniform

/-- The built-in uniforms are declared in front of all snippets. -/
theorem mem_declaredNames_of_builtins (includes : List String) (vertex fragment : String) :
    ∀ d ∈ builtins, d.names ∈ declaredNames (allCode includes vertex fragment) := by
  intro d hd
  obtain ⟨rest, hcode⟩ : ∃ rest, allCode includes vertex fragment = template.toList ++ rest := by
    unfold allCode
    rw [String.toList_intercalate]
    exact ⟨_, rfl⟩
  have hwords : ∀ d ∈ builtins, d.names ∈ words d.names := by decide
  unfold declaredNames
  rw [hcode, declares_template.findAll, List.mem_eraseDups, List.mem_flatMap]
  exact ⟨d, List.mem_append_left _ hd, hwords d hd⟩

end Uniform

/-- What a strip supplies under a name that the built-in uniforms leave free. -/
theorem Strip.get?_values {strip : Strip} {name : String} {value : Uniform.Value}
    {includes : List String} {vertex fragment : String}
    (hentry : (name, value) ∈ strip.uniforms.entries)
    (hundeclared : name.toList ∉
      Uniform.declaredNames (Uniform.allCode includes vertex fragment)) :
    strip.values.get? name = some value := by
  have hbuiltins := Uniform.mem_declaredNames_of_builtins includes vertex fragment
  have hview : "View" ≠ name := fun e => hundeclared (e ▸ hbuiltins Uniform.builtins[2] (by decide))
  have haspect : "Aspect" ≠ name := fun e =>
    hundeclared (e ▸ hbuiltins Uniform.builtins[3] (by decide))
  have hgrid : "Grid" ≠ name := fun e => hundeclared (e ▸ hbuiltins Uniform.builtins[0] (by decide))
  have hmesh : "Mesh" ≠ name := fun e => hundeclared (e ▸ hbuiltins Uniform.builtins[1] (by decide))
  unfold Strip.values Plan.withBuiltins
  dsimp only
  rw [Table.get?_insert, if_neg hmesh, Table.get?_insert, if_neg hgrid, Table.get?_insert,
    if_neg haspect, Table.get?_insert, if_neg hview]
  exact Table.get?_eq_some_iff.2 hentry

/-! ### The program of one snippet and one value -/

namespace Uniform

/-- What stands between the declarations of the values and the main function of a stage. -/
def snippetPart (key : ProgramKey) (body : String) : List Char :=
  extractVaryings key.vertex.toList ++ ['\n'] ++
    (("\n".intercalate key.includes).toList ++ ['\n']) ++ ['\n'] ++ (body.toList ++ ['\n'])

/-- Lines that declare nothing. -/
theorem Declares.ofQuietLines {text : List Char} {lines : List (List Char)}
    (htext : text = lines.flatMap (· ++ ['\n'])) (h : ∀ line ∈ lines, Quiet line) :
    Declares text [] :=
  htext ▸ .flatMap fun line hline => .of_quiet (h line hline)

/-- A stage with one expression declares the built-in uniforms and the value. -/
theorem findAll_single {uniforms : Uniform.Values} {value : Uniform.Value} {type : String}
    (huniforms : uniforms.entries = [("a", value)])
    (htype : value.shape.declaredType? = some type) {stage : Gl.Stage} {body : String}
    (lines : List (List Char))
    (htext : snippetPart ⟨[], "", "1.0"⟩ body = lines.flatMap (· ++ ['\n']))
    (hlines : ∀ line ∈ lines, Quiet line) :
    (declaration true).findAll (stripComments (Assembler.stageSource embeddedHeader stage
      (Assembler.sharedPart [] "" "1.0" uniforms) body).toList) =
        builtins ++ [⟨type.toList, ['a']⟩] := by
  have hstart := declares_stageStart declares_embeddedHeader stage uniforms (allCode [] "" "1.0")
  rw [inferred_single huniforms htype] at hstart
  have hrest := (Declares.ofQuietLines htext hlines).silent (declares_main stage)
  rw [toList_stageSource]
  refine ((hstart.append hrest).findAll_self true).trans ?_
  exact List.append_nil _

end Uniform

/-- The built-in uniforms as the device reports them. -/
def builtinUniforms : List ActiveUniform :=
  [⟨"Grid", Constant.intVec3, 1⟩, ⟨"Mesh", Constant.intVec2, 1⟩, ⟨"View", Constant.intVec4, 1⟩,
    ⟨"Aspect", Constant.floatVec2, 1⟩]

open Uniform in
/-- The uniforms of a program of one expression and one value. -/
theorem Renderer.Compiled.uniforms_single {founder : Uniform.Values} {program : Shader.Program}
    {p : Software.Program} (h : Compiled embeddedHeader ⟨[], "", "1.0"⟩ founder program p)
    {value : Uniform.Value} {type : String} {constant : UInt32}
    (huniforms : founder.entries = [("a", value)])
    (htype : value.shape.declaredType? = some type)
    (hconstant : typeConstant? type = some constant) :
    p.uniforms = builtinUniforms ++ [⟨"a", constant, 1⟩] := by
  have hsources := h.sources.trans (Assembler.fresh_eq ..)
  injection hsources with hvertexSource hfragmentSource
  -- Both stages declare the same: the built-in uniforms and then the one value.
  have hvertex : (declaration true).findAll (stripComments p.vertexSource.toList) =
      builtins ++ [⟨type.toList, ['a']⟩] := by
    rw [hvertexSource]
    exact findAll_single huniforms htype [[], [], [], "void vertex() \x7b".toList,
      "  ;".toList, "\x7d".toList] (by decide +kernel) (by decide +kernel)
  have hfragment : (declaration true).findAll (stripComments p.fragmentSource.toList) =
      builtins ++ [⟨type.toList, ['a']⟩] := by
    rw [hfragmentSource]
    exact findAll_single huniforms htype [[], [], [], "void fragment() \x7b".toList,
      "  FOut = vec4(1.0);;".toList, "\x7d".toList] (by decide +kernel) (by decide +kernel)
  have hbuiltins : builtins.foldl addDeclaration [] = builtinUniforms := by decide +kernel
  have hnew : ∀ u ∈ builtinUniforms, baseName u.name ≠ String.ofList ['a'] := by decide +kernel
  have hname : String.ofList ['a'] = "a" := rfl
  have hfirst : (builtins ++ [(⟨type.toList, ['a']⟩ : Declaration)]).foldl addDeclaration [] =
      builtinUniforms ++ [⟨"a", constant, 1⟩] := by
    rw [List.foldl_append, hbuiltins, List.foldl_cons, List.foldl_nil,
      addDeclaration_word (by decide) (by rwa [String.ofList_toList]) hnew, hname]
  have hself : baseName "a" = String.ofList ['a'] := by decide +kernel
  -- The fragment stage declares nothing that the vertex stage has not.
  have hknown : ∀ d ∈ builtins ++ [(⟨type.toList, ['a']⟩ : Declaration)], Word d.names ∧
      ∃ u ∈ builtinUniforms ++ [⟨"a", constant, 1⟩], baseName u.name = String.ofList d.names := by
    have hbuiltin : ∀ d ∈ builtins, Word d.names ∧
        ∃ u ∈ builtinUniforms, baseName u.name = String.ofList d.names := by
      decide +kernel
    intro d hd
    rcases List.mem_append.1 hd with hd | hd
    · obtain ⟨hword, u, hu, hname⟩ := hbuiltin d hd
      exact ⟨hword, u, List.mem_append_left _ hu, hname⟩
    · cases List.mem_singleton.1 hd
      have hword : Word ['a'] := by decide
      exact ⟨hword, _, List.mem_append_right _ (List.mem_singleton_self _), hself⟩
  rw [h.uniforms]
  unfold scanUniforms
  rw [List.foldl_cons, List.foldl_cons, List.foldl_nil, hvertex, hfragment, hfirst]
  exact addDeclarations_known hknown

/-- A draw of one snippet and one value whose program is new runs a program with the built-in
uniforms and one for the value. -/
theorem Renderer.Remembers.exists_single {r : Renderer State}
    {founders : ProgramKey → Option Uniform.Values} (h : r.Remembers embeddedHeader founders)
    (hnew : founders ⟨[], "", "1.0"⟩ = none) (hlink : r.store.device.failNextLink = none)
    {value : Uniform.Value} {type : String} (htype : value.shape.declaredType? = some type)
    {constant : UInt32} (hconstant : typeConstant? type = some constant) :
    ∃ strip moment program, (reach (.single value) .screen).run r =
        (.ok (.screen, some strip), moment) ∧
      strip.uniforms.entries = [("a", value)] ∧ moment.store.device.program? = some program ∧
      program.uniforms = builtinUniforms ++ [⟨"a", constant, 1⟩] := by
  obtain ⟨strip, moment, hrun, hkey, hvalue⟩ := exists_reach_single h value (.inr hlink)
  obtain ⟨program, hprogram, hcompiled⟩ := h.exists_reached_program hrun
  rw [hkey, hnew] at hcompiled
  exact ⟨strip, moment, program, hrun, hvalue, hprogram,
    hcompiled.uniforms_single hvalue htype hconstant⟩

/-- The program of one sampler has one sampler uniform, and all its names are in ASCII. -/
theorem samplers_single {program : Software.Program}
    (h : program.uniforms = builtinUniforms ++ [⟨"a", Constant.sampler2D, 1⟩]) :
    program.samplers = ["a"] ∧ ∀ u ∈ program.uniforms, ∀ c ∈ u.name.toList, c.toNat < 128 := by
  unfold Program.samplers
  rw [h]
  refine ⟨by decide +kernel, fun u hu c hc => ?_⟩
  have hall : (builtinUniforms ++ [(⟨"a", Constant.sampler2D, 1⟩ : ActiveUniform)]).all
      (fun u => u.name.toList.all (·.toNat < 128)) = true := by
    decide +kernel
  exact of_decide_eq_true (List.all_eq_true.1 (List.all_eq_true.1 hall u hu) c hc)

/-! ### Runs -/

/-- At every instanced draw of a run whose program has all its names in ASCII, the sampler uniforms
of the program hold the units 0, 1, 2 and so on in the order of their declarations, and each unit
is bound to what this very draw supplies under the name of its uniform: the texture of a sampler
whose target has not been freed, and otherwise nothing. -/
theorem samplers_read_own_textures {config : Config} {width height : UInt32} {r : Renderer State}
    (hr : Renderer.create config { device := State.new width height } = .ok r) (acts : List Act)
    (act : Act) :
    ∃ calls, (act.after (Act.afterAll r acts)).store.device.calls =
        (Act.afterAll r acts).store.device.calls ++ calls ∧
      ∀ before mode count instances later,
        calls = before ++ .drawArraysInstanced mode count instances :: later →
        ∃ bag destination resolved strip moment program, act = .draw bag destination ∧
          (Renderer.reach bag destination).run (Act.afterAll r acts) =
            (.ok (resolved, some strip), moment) ∧
          Plan.ofBag bag = .ok strip.plan ∧
          moment.store.device.calls = (Act.afterAll r acts).store.device.calls ++ before ∧
          moment.store.device.program? = some program ∧
          program.samplers.Nodup ∧
          ((∀ u ∈ program.uniforms, ∀ c ∈ u.name.toList, c.toNat < 128) →
            program.samplers.length ≤ UInt32.size →
            ∀ (i : Nat) (name : String), program.samplers[i]? = some name →
              program.values.get? name = some (.ints [(UInt32.ofNat i).toInt32]) ∧
              moment.store.device.units.get? (UInt32.ofNat i) =
                moment.store.boundTexture? (strip.values.get? name)) := by
  have hremembers := Act.afterAll_remembers acts (Renderer.remembers_create hr)
  obtain ⟨calls, hcalls, hstrip⟩ := Act.strip_of_call (Reachable.afterAll (.start hr) acts) act
  refine ⟨calls, hcalls, fun before mode count instances later heq => ?_⟩
  obtain ⟨bag, destination, resolved, strip, moment, hact, hrun, hmoment⟩ :=
    hstrip before mode count instances later heq
  obtain ⟨program, hprogram, hcompiled⟩ := hremembers.exists_reached_program hrun
  obtain ⟨hfound, hkey, -⟩ := hremembers.reached hrun
  obtain ⟨settled, bound, found, hreached, hload⟩ := Renderer.exists_reached hrun
  obtain ⟨ready, hready, hupload⟩ := Renderer.exists_readied strip found
  refine ⟨bag, destination, resolved, strip, moment, program, hact, hrun,
    (Renderer.run_settle_eq_ok hreached.settle).1, hmoment, hprogram, hcompiled.nodup_samplers,
    fun hascii hcount i name hname => ?_⟩
  -- Samplers are given their units in the order of their declarations.
  obtain ⟨setter, hsetter, rfl, hunit⟩ := hcompiled.exists_setter hascii hname
  refine ⟨hcompiled.units setter hsetter (fun other hother => List.inj_on_of_nodup_map
    (hcompiled.nodup_names hascii) hother hsetter) _ hunit, ?_⟩
  -- The textures are bound as the values are uploaded, and the call comes right after.
  have hlocations := hfound.locations hkey
  rw [hload, hupload]
  have huploaded := Store.applyAll_uploaded hlocations strip.values ready.samplers ready.store
  exact (Store.applyUniforms_unit hlocations (hcompiled.nodup_units hascii hcount) strip.values
    ready.samplers ready.store hsetter hunit).trans
      (huploaded.boundTexture?_eq (strip.values.get? setter.name)).symm

/-- A draw on the screen that reads a target made just before: its one sampler has the first unit,
and the unit is bound to what the draw supplies. -/
theorem samplers_read_own_textures_of_target :
    ∃ (acts : List Act) (sampler : Sampler) (strip : Strip) (moment : Renderer State)
      (program : Software.Program) (later : List Software.Call),
      ((Act.afterAll Renderer.onePixel acts).store.target? ⟨0⟩).map Target.sampler = some sampler ∧
      ((Act.draw (.single (.sampler sampler)) .screen).after
          (Act.afterAll Renderer.onePixel acts)).store.device.calls =
        moment.store.device.calls ++ .drawArraysInstanced Constant.triangleStrip
          strip.plan.vertices.toInt32 strip.plan.instances.toInt32 :: later ∧
      moment.store.device.program? = some program ∧ program.samplers = ["a"] ∧
      program.values.get? "a" = some (.ints [0]) ∧
      moment.store.device.units.get? 0 = moment.store.boundTexture? (some (.sampler sampler)) := by
  let acts : List Act := [.draw .empty (.spec { tag := "s" })]
  have hlink : (Act.afterAll Renderer.onePixel acts).store.device.failNextLink = none := by
    decide +kernel
  have hempty : (Act.afterAll Renderer.onePixel acts).programs.programs.get? ⟨[], "", "1.0"⟩ =
      none := by
    decide +kernel
  have htarget : ((Act.afterAll Renderer.onePixel acts).store.target? ⟨0⟩).map (fun t =>
      (Uniform.Value.sampler t.sampler).shape.declaredType?) = some (some "sampler2D") := by
    decide +kernel
  have hremembers := Act.afterAll_remembers acts
    (Renderer.remembers_create Renderer.create_onePixel)
  have hread := samplers_read_own_textures Renderer.create_onePixel acts
  refine ⟨acts, ?_⟩
  generalize Act.afterAll Renderer.onePixel acts = r at *
  generalize Act.foundersAll (fun _ => none) Renderer.onePixel acts = founders at hremembers
  have hnew : founders ⟨[], "", "1.0"⟩ = none := hremembers.unfounded hempty
  obtain ⟨t, ht, htype⟩ := Option.map_eq_some_iff.1 htarget
  obtain ⟨strip, moment, program, hrun, hvalue, hprogram, huniforms⟩ :=
    hremembers.exists_single hnew hlink htype rfl
  obtain ⟨before, later, hmoment, hafter⟩ := Renderer.exists_call_of_reach hrun
  obtain ⟨calls, hcalls, hdraws⟩ := hread (.draw (.single (.sampler t.sampler)) .screen)
  rw [hcalls, hmoment, List.append_assoc] at hafter
  obtain ⟨_, _, _, strip', _, program', hact, hrun', -, -, hprogram', -, hsampled⟩ :=
    hdraws before _ _ _ later (List.append_cancel_left hafter)
  cases hact
  cases hrun.symm.trans hrun'
  cases hprogram.symm.trans hprogram'
  obtain ⟨hsamplers, hascii⟩ := samplers_single huniforms
  have hcount : program.samplers.length ≤ UInt32.size := by
    rw [hsamplers]
    decide
  have hfirst : program.samplers[0]? = some "a" := by
    rw [hsamplers]
    rfl
  obtain ⟨hheld, hbound⟩ := hsampled hascii hcount 0 "a" hfirst
  have hsupplied : strip.values.get? "a" = some (.sampler t.sampler) :=
    Strip.get?_values (hvalue ▸ List.mem_singleton_self _) undeclared_single
  rw [hsupplied] at hbound
  rw [← List.append_assoc, ← hmoment] at hafter
  exact ⟨t.sampler, strip, moment, program, later, congrArg (Option.map Target.sampler) ht,
    hcalls.trans hafter, hprogram, hsamplers, hheld, hbound⟩

end DrawPass
