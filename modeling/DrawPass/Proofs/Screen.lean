/-
DrawPass/Proofs/Screen.lean

Draws on the screen that are not refused.

The default framebuffer is always there, so a draw on it is refused only for what its bag
holds or for its program.  A program is refused only if a stage does not compile or the link
fails; one that is remembered is never refused.  So a draw on the screen whose bag can be read
comes to its strip (`Renderer.exists_reach_screen`), and the strip of a draw that comes to it
is drawn (`Renderer.exists_call_of_reach`).
-/
import DrawPass.Proofs.Compiles
import DrawPass.Proofs.Programs

namespace DrawPass

open Gl Shader Software

namespace Renderer

variable {r r' : Renderer State} {e : DrawError}

/-! ### What refuses a program -/

/-- A stage is refused only if it does not compile. -/
theorem run_compile_error {stage : Stage} {source : String}
    (h : (Program.compile stage source : Attempt DrawError (Renderer State) Name).run r =
      (.error e, r')) : State.compileError? source ≠ none := by
  intro hnone
  rw [run_compile, hnone] at h
  cases h

/-- Two stages that have been taken in are refused only if the link is to fail. -/
theorem run_linkProgram_error {vertex fragment : Name} {v f : Stage × String}
    (hvertex : r.store.device.shaders.get? vertex = some v)
    (hfragment : (r.store.device.shaders.erase vertex).get? fragment = some f)
    (h : (Attempt.create .programLink (.linkProgram vertex fragment) :
      Attempt DrawError (Renderer State) Name).run r = (.error e, r')) :
    r.store.device.failNextLink ≠ none := by
  intro hnone
  have hlinked : ((perform (.linkProgram vertex fragment) : StateM (Renderer State) _) r).1 =
      .ok (r.store.device.lastName + 1) := by
    show (r.store.device.linkProgram vertex fragment).1 = _
    simp only [State.linkProgram, hnone, hvertex, hfragment, State.fresh]
  rw [Attempt.run_create, hlinked] at h
  cases h

/-- What refuses a program. -/
theorem run_link_error {sources : Sources}
    (h : (Program.link sources : Attempt DrawError (Renderer State) Shader.Program).run r =
      (.error e, r')) :
    State.compileError? sources.vertex ≠ none ∨ State.compileError? sources.fragment ≠ none ∨
      r.store.device.failNextLink ≠ none := by
  unfold Program.link at h
  rcases Attempt.run_bind_eq_error.1 h with h | ⟨vertex, r₁, hvertex, h⟩
  · exact .inl (run_compile_error h)
  rcases Attempt.run_bind_eq_error.1 h with h | ⟨fragment, r₂, hfragment, h⟩
  · exact .inr (.inl (run_compile_error h))
  obtain ⟨-, log₁, hr₁⟩ := run_compile_ok hvertex
  obtain ⟨-, log₂, hr₂⟩ := run_compile_ok hfragment
  -- Both stages are there, so all that is left to fail is the link itself.
  obtain ⟨hhasVertex, hhasFragment⟩ := run_compile_both hvertex hfragment
  rcases Attempt.run_bind_eq_error.1 h with h | ⟨name, r₃, hname, h⟩
  · have hfails := run_linkProgram_error hhasVertex hhasFragment h
    rw [hr₂, hr₁] at hfails
    exact .inr (.inr hfails)
  · cases h

variable {header : String} {founders : ProgramKey → Option Uniform.Values}

/-- The sources of a program compile, and the next link is not to fail. -/
structure Linkable (sources : Sources) (d : State) : Prop where
  vertex : State.compileError? sources.vertex = none
  fragment : State.compileError? sources.fragment = none
  link : d.failNextLink = none

/-- A program that is remembered, or can be linked, is found. -/
theorem Remembers.exists_program (h : r.Remembers header founders) {options : Params.Options}
    {uniforms : Uniform.Values} {key : ProgramKey}
    (hkey : key = ⟨options.includes, options.vertex, options.fragment⟩)
    (hready : founders key ≠ none ∨
      Linkable (Assembler.fresh header key uniforms) r.store.device) :
    ∃ p r', (Renderer.program options uniforms).run r = (.ok p, r') := by
  rcases hrun : (Renderer.program options uniforms).run r with ⟨e | p, r'⟩
  swap
  · exact ⟨p, r', rfl⟩
  -- Of the stages of finding a program only the link can be refused.
  cases hcached : r.programs.programs.get? key with
  | some p =>
    rw [program_known (hkey ▸ hcached)] at hrun
    cases hrun
  | none =>
    have hlinkable : Linkable (Assembler.fresh header key uniforms) r.store.device := by
      refine hready.resolve_left fun hknown => ?_
      obtain ⟨founder, hfounder⟩ := Option.ne_none_iff_exists'.1 hknown
      obtain ⟨p, _, hp, -⟩ := h.known key founder hfounder
      rw [hcached] at hp
      cases hp
    obtain ⟨r₁, hassemble, -, hstore, -⟩ := h.run_assemble key uniforms
    rw [program_new hkey hcached hassemble] at hrun
    rcases hlink : (Program.link (Assembler.fresh header key uniforms) :
        Attempt DrawError (Renderer State) _).run r₁ with ⟨e' | p, r₂⟩ <;> rw [hlink] at hrun
    · rcases run_link_error hlink with hfails | hfails | hfails
      · exact absurd hlinkable.vertex hfails
      · exact absurd hlinkable.fragment hfails
      · exact absurd (hstore ▸ hlinkable.link) hfails
    · cases hrun

/-! ### Reaching the strip -/

/-- A draw on the screen that blends and clears nothing comes to its strip if its bag can be read
and its program can be found. -/
theorem exists_reach_screen (h : r.Remembers header founders) {bag : Params.Bag} {plan : Plan}
    (hplan : Plan.ofBag bag = .ok plan) (hstages : plan.options.hasStages = true)
    (hblend : plan.options.blend = none) (hclear : plan.options.clear = none) {key : ProgramKey}
    (hkey : key = ⟨plan.options.includes, plan.options.vertex, plan.options.fragment⟩)
    (hready : founders key ≠ none ∨
      Linkable (Assembler.fresh header key plan.uniforms) r.store.device) :
    ∃ strip moment, (reach bag .screen).run r = (.ok (.screen, some strip), moment) ∧
      strip.key = key ∧ strip.uniforms = plan.uniforms := by
  let bound := (perform (.bindFramebuffer none) r).2
  let size := (r.store.device.drawingBuffer.width, r.store.device.drawingBuffer.height)
  let view := plan.options.viewRect size.1 size.2
  let wiped := (perform (.depthMask plan.options.depthTest.writes) bound).2
  have hsettle : (settle bag .screen).run r = (.ok (plan, none, .screen), r) := by
    have hread : (liftM (Plan.ofBag bag) : Attempt DrawError (Renderer State) Plan).run r =
        (.ok plan, r) := by
      rw [Attempt.run_ofExcept, hplan]
    unfold settle
    rw [Attempt.run_bind_ok hread, hblend]
    rfl
  have hwipe : (wipe plan view : StateM (Renderer State) Unit) bound = ((), wiped) := by
    unfold wipe
    rw [hclear]
    rfl
  -- Nothing before the search touches a program, so what can be linked is the same.
  have hidle : Idle r wiped := IsTrans.trans (r := Idle) r bound wiped
    (perform_idle _ rfl r) (setting_idle _ rfl bound)
  have hready' : founders key ≠ none ∨
      Linkable (Assembler.fresh header key plan.uniforms) wiped.store.device :=
    hready.imp_right fun hl => ⟨hl.vertex, hl.fragment, hl.link⟩
  obtain ⟨p, found, hfound⟩ := (h.of_idle hidle).exists_program hkey hready'
  let strip : Strip := ⟨plan, none, plan.uniforms, view, p⟩
  refine ⟨strip, (strip.load found).2, ?_, hkey.symm, rfl⟩
  have hfind : (findProgram plan.options plan.uniforms).run wiped = (.ok p, found) := by
    unfold findProgram
    rw [Attempt.run_tryCatch, hfound]
  have harm : (arm plan none plan.uniforms view).run wiped =
      (.ok (some strip), (strip.load found).2) := by
    unfold arm
    rw [if_pos hstages, Attempt.run_bind_ok hfind]
    rfl
  have happroach : (approach plan none .screen).run r =
      (.ok (some strip), (strip.load found).2) := by
    have hsource : (withSource .screen plan.uniforms : StateM (Renderer State) _) r =
        (plan.uniforms, r) := rfl
    have hbind : (bind .screen : Attempt DrawError (Renderer State) _).run r =
        (.ok size, bound) := rfl
    unfold approach
    rw [Attempt.run_bind_ok (Attempt.run_lift_ok hsource), Attempt.run_bind_ok hbind,
      Attempt.run_bind_ok (Attempt.run_lift_ok hwipe)]
    exact harm
  unfold reach
  rw [Attempt.run_bind_ok hsettle]
  have hpaints : onlyPrepares plan .screen ≠ true := Bool.false_ne_true
  dsimp only
  rw [if_neg hpaints, Attempt.run_bind_ok happroach]
  rfl

/-- The strip of a draw that comes to it is drawn. -/
theorem exists_call_of_reach {bag : Params.Bag} {destination : Destination} {resolved : Resolved}
    {strip : Strip} {moment : Renderer State}
    (hrun : (reach bag destination).run r = (.ok (resolved, some strip), moment)) :
    ∃ before later, moment.store.device.calls = r.store.device.calls ++ before ∧
      ((Act.draw bag destination).after r).store.device.calls =
        moment.store.device.calls ++ .drawArraysInstanced Constant.triangleStrip
          strip.plan.vertices.toInt32 strip.plan.instances.toInt32 :: later := by
  obtain ⟨before, hbefore, -⟩ := (reach_undrawn bag destination r).exists_calls
  obtain ⟨later, hlater, -⟩ := exists_calls_finish strip moment
  rw [hrun] at hbefore
  refine ⟨before, later, hbefore, ?_⟩
  show ((draw bag destination).run r).2.store.device.calls = _
  rw [draw_eq_reach, Attempt.run_bind_ok hrun]
  exact hlater

end Renderer

end DrawPass
