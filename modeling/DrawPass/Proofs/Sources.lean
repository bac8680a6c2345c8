/-
DrawPass/Proofs/Sources.lean

Which sources the program of a draw has.

A program is kept under the snippets of the draw that had it linked, and found again by a
draw with the same snippets whatever its values are.  So the sources are those that an
assembler without a memory gives for the draw's own snippets, but with the values of the draw
that came first (`sources_of_draw`); after a reset the next draw comes first.  Since the
sources declare the values, a later draw whose values have other shapes runs a program that
does not declare them as it would have (`sources_differ_from_own`).
-/
import DrawPass.Proofs.Screen

namespace DrawPass

open Gl Shader Software

/-! ### Sources and values -/

namespace Shader.Assembler

/-- The sources that an assembler gives which remembers nothing. -/
theorem fresh_eq (header : String) (key : ProgramKey) (uniforms : Uniform.Values) :
    fresh header key uniforms =
      ⟨stageSource header .vertex (sharedPart key.includes key.vertex key.fragment uniforms)
          (String.ofList (Shader.expand (stripVaryings key.vertex.toList) .vertex)),
        stageSource header .fragment (sharedPart key.includes key.vertex key.fragment uniforms)
          (String.ofList (Shader.expand key.fragment.toList .fragment))⟩ := by
  have hvertex : (String.ofList (stripVaryings key.vertex.toList)).toList =
      stripVaryings key.vertex.toList := String.toList_ofList
  rw [← hvertex]
  rfl

/-- Sources that are the same declare the same values. -/
theorem inferred_eq_of_fresh_eq {header : String} {key : ProgramKey}
    {uniforms uniforms' : Uniform.Values}
    (hheader : Uniform.Declares (header.toList ++ ['\n']) [])
    (h : fresh header key uniforms = fresh header key uniforms') :
    Uniform.inferred uniforms (Uniform.allCode key.includes key.vertex key.fragment) =
      Uniform.inferred uniforms' (Uniform.allCode key.includes key.vertex key.fragment) := by
  have hvertex := congrArg (fun s => ((Uniform.declaration true).findAll
    (stripComments s.vertex.toList))) h
  rw [fresh_eq, fresh_eq] at hvertex
  dsimp only at hvertex
  rw [Uniform.toList_stageSource, Uniform.toList_stageSource,
    (Uniform.declares_stageStart hheader ..).findAll,
    (Uniform.declares_stageStart hheader ..).findAll] at hvertex
  -- What comes after the declarations of the values is the same text.
  exact List.append_cancel_left (List.append_cancel_right hvertex)

end Shader.Assembler

/-- A program of clean snippets can be linked. -/
theorem linkable_fresh {header : String} {key : ProgramKey} {d : State}
    (hheader : Clean header.toList) (hvaryings : Clean (extractVaryings key.vertex.toList))
    (hincludes : Clean ("\n".intercalate key.includes).toList)
    (hvertex : Clean (Shader.expand (stripVaryings key.vertex.toList) .vertex))
    (hfragment : Clean (Shader.expand key.fragment.toList .fragment))
    (hlink : d.failNextLink = none) (uniforms : Uniform.Values) :
    Renderer.Linkable (Assembler.fresh header key uniforms) d := by
  rw [Assembler.fresh_eq]
  exact ⟨compileError?_stageSource hheader hvaryings hincludes hvertex.ofList .vertex uniforms,
    compileError?_stageSource hheader hvaryings hincludes hfragment.ofList .fragment uniforms,
    hlink⟩

/-- A program whose fragment snippet is a number can be linked. -/
theorem linkable_number {d : State} (hlink : d.failNextLink = none) (uniforms : Uniform.Values) :
    Renderer.Linkable (Assembler.fresh embeddedHeader ⟨[], "", "1.0"⟩ uniforms) d :=
  linkable_fresh (by decide +kernel) (by decide +kernel) (by decide +kernel)
    (by decide +kernel) (by decide +kernel) hlink uniforms

/-! ### A draw whose values differ from those of the first -/

/-- A bag with one snippet and one value. -/
def Params.Bag.single (value : Uniform.Value) : Params.Bag :=
  .ofList [("FP", .text "1.0"), ("a", .uniform value)]

namespace Renderer

/-- A draw of one snippet and one value on the screen comes to its strip if its program is
remembered, or the next link is not to fail. -/
theorem exists_reach_single {r : Renderer State}
    {founders : ProgramKey → Option Uniform.Values} (h : r.Remembers embeddedHeader founders)
    (value : Uniform.Value)
    (hready : founders ⟨[], "", "1.0"⟩ ≠ none ∨ r.store.device.failNextLink = none) :
    ∃ strip moment, (reach (.single value) .screen).run r =
        (.ok (.screen, some strip), moment) ∧
      strip.key = ⟨[], "", "1.0"⟩ ∧ strip.uniforms.entries = [("a", value)] := by
  obtain ⟨plan, hplan, hstages, hblend, hclear, hkey, huniforms⟩ : ∃ plan,
      Plan.ofBag (.single value) = .ok plan ∧ plan.options.hasStages = true ∧
        plan.options.blend = none ∧ plan.options.clear = none ∧
        (⟨[], "", "1.0"⟩ : ProgramKey) =
          ⟨plan.options.includes, plan.options.vertex, plan.options.fragment⟩ ∧
        plan.uniforms.entries = [("a", value)] := ⟨_, rfl, rfl, rfl, rfl, rfl, rfl⟩
  obtain ⟨strip, moment, hrun, hstrip, hvalues⟩ := exists_reach_screen h hplan hstages hblend
    hclear hkey (hready.imp_right fun hlink => linkable_number hlink plan.uniforms)
  exact ⟨strip, moment, hrun, hstrip, hvalues ▸ huniforms⟩

end Renderer

open Uniform in
/-- Neither the template nor the snippet declares the value. -/
theorem undeclared_single : "a".toList ∉ declaredNames (allCode [] "" "1.0") := by
  have hcode : allCode [] "" "1.0" = template.toList ++ "\n\n\n1.0".toList := by
    unfold allCode
    rw [String.toList_intercalate]
    rfl
  have hrest : (declaration false).findAll (stripComments "\n\n\n1.0".toList) = [] := by
    decide +kernel
  unfold declaredNames
  rw [hcode, declares_template.findAll, hrest]
  decide +kernel

open Uniform in
/-- The value is declared in front of the snippet. -/
theorem inferred_single {uniforms : Uniform.Values} {value : Uniform.Value} {type : String}
    (huniforms : uniforms.entries = [("a", value)])
    (htype : value.shape.declaredType? = some type) :
    inferred uniforms (allCode [] "" "1.0") = [⟨type.toList, ['a']⟩] := by
  have hwanted : (isIdentifier "a" && !(declaredNames (allCode [] "" "1.0")).contains "a".toList) =
      true := by
    rw [List.contains_eq_mem, decide_eq_false undeclared_single]
    decide
  unfold inferred
  rw [huniforms]
  have hdeclared : inferred? (allCode [] "" "1.0") ("a", value) = some ⟨type.toList, ['a']⟩ := by
    have hname : "a".toList = ['a'] := by decide
    unfold inferred?
    rw [if_pos hwanted, htype, ← hname]
    rfl
  exact List.filterMap_cons_some hdeclared

/-- A draw of a value after a draw of another one under the same name and with the same snippet
runs a program that is not the one its own value calls for, if the two are declared with different
types. -/
theorem Renderer.Remembers.exists_second_draw {r : Renderer State}
    (h : r.Remembers embeddedHeader fun _ => none) (hlink : r.store.device.failNextLink = none)
    {value value' : Uniform.Value} {type type' : String}
    (htype : value.shape.declaredType? = some type)
    (htype' : value'.shape.declaredType? = some type') (hne : type ≠ type') :
    ∃ resolved strip moment program later,
      (Renderer.reach (.single value') .screen).run ((Act.draw (.single value) .screen).after r) =
        (.ok (resolved, some strip), moment) ∧
      ((Act.draw (.single value') .screen).after
          ((Act.draw (.single value) .screen).after r)).store.device.calls =
        moment.store.device.calls ++ .drawArraysInstanced Constant.triangleStrip
          strip.plan.vertices.toInt32 strip.plan.instances.toInt32 :: later ∧
      moment.store.device.program? = some program ∧
      ⟨program.vertexSource, program.fragmentSource⟩ ≠
        Assembler.fresh embeddedHeader strip.key strip.uniforms := by
  obtain ⟨first, _, hfirst, hkey, hvalue⟩ := Renderer.exists_reach_single h value (.inr hlink)
  have hfounders : (Act.draw (.single value) .screen).founders r (fun _ => none) ⟨[], "", "1.0"⟩ =
      some first.uniforms := by
    rw [Act.founders_draw hfirst, ← hkey]
    exact Renderer.found_self ..
  have h' := (Act.draw (.single value) .screen).after_remembers h
  obtain ⟨second, moment, hsecond, hkey', hvalue'⟩ :=
    Renderer.exists_reach_single h' value' (.inl (hfounders ▸ Option.some_ne_none _))
  obtain ⟨program, hprogram, hcompiled⟩ := h'.exists_reached_program hsecond
  obtain ⟨_, later, -, hlater⟩ := Renderer.exists_call_of_reach hsecond
  refine ⟨.screen, second, moment, program, later, hsecond, hlater, hprogram, ?_⟩
  -- The sources declare the first value, with the type of the first.
  rw [hcompiled.sources, hkey', hfounders]
  intro hsame
  have hinferred := Assembler.inferred_eq_of_fresh_eq Uniform.declares_embeddedHeader hsame
  have htypes := (inferred_single hvalue htype).symm.trans
    (hinferred.trans (inferred_single hvalue' htype'))
  injection htypes with hdeclaration
  injection hdeclaration with heq
  exact hne (String.toList_inj.1 heq)

/-! ### Runs -/

/-- Every instanced draw of a run uses a program whose sources are what an assembler that remembers
nothing gives for the draw's own snippets and the uniforms of the draw that had the program linked:
the first one since the last reset that came to its strip with these snippets, which may be the
draw itself. -/
theorem sources_of_draw {config : Config} {width height : UInt32} {r : Renderer State}
    (hr : Renderer.create config { device := State.new width height } = .ok r) (acts : List Act)
    (act : Act) :
    ∃ calls, (act.after (Act.afterAll r acts)).store.device.calls =
        (Act.afterAll r acts).store.device.calls ++ calls ∧
      ∀ before mode count instances later,
        calls = before ++ .drawArraysInstanced mode count instances :: later →
        ∃ bag destination resolved strip moment program, act = .draw bag destination ∧
          (Renderer.reach bag destination).run (Act.afterAll r acts) =
            (.ok (resolved, some strip), moment) ∧
          Plan.ofBag bag = .ok strip.plan ∧
          moment.store.device.calls = (Act.afterAll r acts).store.device.calls ++ before ∧
          moment.store.device.program? = some program ∧
          ⟨program.vertexSource, program.fragmentSource⟩ =
            Assembler.fresh config.header strip.key
              ((Act.foundersAll (fun _ => none) r acts strip.key).getD strip.uniforms) := by
  have hremembers := Act.afterAll_remembers acts (Renderer.remembers_create hr)
  obtain ⟨calls, hcalls, hstrip⟩ := Act.strip_of_call (Reachable.afterAll (.start hr) acts) act
  refine ⟨calls, hcalls, fun before mode count instances later heq => ?_⟩
  obtain ⟨bag, destination, resolved, strip, moment, hact, hrun, hmoment⟩ :=
    hstrip before mode count instances later heq
  obtain ⟨program, hprogram, hcompiled⟩ := hremembers.exists_reached_program hrun
  obtain ⟨settled, _, _, hreached, -⟩ := Renderer.exists_reached hrun
  exact ⟨bag, destination, resolved, strip, moment, program, hact, hrun,
    (Renderer.run_settle_eq_ok hreached.settle).1, hmoment, hprogram, hcompiled.sources⟩

/-- The first draw of a renderer runs the program of its own value. -/
theorem sources_of_draw_of_number :
    ∃ strip moment program before later,
      (Renderer.reach (.single (.float .one)) .screen).run Renderer.onePixel =
        (.ok (.screen, some strip), moment) ∧
      ((Act.draw (.single (.float .one)) .screen).after Renderer.onePixel).store.device.calls =
        Renderer.onePixel.store.device.calls ++ (before ++
          .drawArraysInstanced Constant.triangleStrip strip.plan.vertices.toInt32
            strip.plan.instances.toInt32 :: later) ∧
      moment.store.device.program? = some program ∧
      ⟨program.vertexSource, program.fragmentSource⟩ =
        Assembler.fresh embeddedHeader strip.key strip.uniforms := by
  obtain ⟨strip, moment, hrun, -⟩ := Renderer.exists_reach_single
    (Renderer.remembers_create Renderer.create_onePixel) (.float .one) (.inr rfl)
  obtain ⟨before, later, hmoment, hafter⟩ := Renderer.exists_call_of_reach hrun
  rw [hmoment, List.append_assoc] at hafter
  obtain ⟨calls, hcalls, hdraws⟩ := sources_of_draw Renderer.create_onePixel []
    (Act.draw (.single (.float .one)) .screen)
  have hnone : Act.afterAll Renderer.onePixel [] = Renderer.onePixel := rfl
  rw [hnone] at hcalls hdraws
  obtain ⟨bag, destination, resolved, strip', moment', program, hact, hrun', -, -, hprogram,
    hsources⟩ := hdraws before _ _ _ later (List.append_cancel_left (hcalls.symm.trans hafter))
  cases hact
  cases hrun.symm.trans hrun'
  exact ⟨strip, moment, program, before, later, hrun, hafter, hprogram, hsources⟩

/-- After a draw of a number, a draw of a vector under the same name and with the same snippet runs
a program that is not the one its own values call for. -/
theorem sources_differ_from_own :
    ∃ resolved strip moment program later,
      (Renderer.reach (.single (.vector [.one, .one])) .screen).run
          ((Act.draw (.single (.float .one)) .screen).after Renderer.onePixel) =
        (.ok (resolved, some strip), moment) ∧
      ((Act.draw (.single (.vector [.one, .one])) .screen).after
          ((Act.draw (.single (.float .one)) .screen).after Renderer.onePixel)).store.device.calls =
        moment.store.device.calls ++ .drawArraysInstanced Constant.triangleStrip
          strip.plan.vertices.toInt32 strip.plan.instances.toInt32 :: later ∧
      moment.store.device.program? = some program ∧
      ⟨program.vertexSource, program.fragmentSource⟩ ≠
        Assembler.fresh embeddedHeader strip.key strip.uniforms :=
  (Renderer.remembers_create Renderer.create_onePixel).exists_second_draw rfl rfl rfl (by decide)

end DrawPass
