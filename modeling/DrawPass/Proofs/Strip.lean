/-
DrawPass/Proofs/Strip.lean

The moment at which a draw issues its instanced draw.

A draw that runs snippets does all that can be refused first, writes its uniforms, and only
then has the device draw its strip.  `Renderer.reach` goes as far as that: what it answers is
the strip that is about to be drawn, if there is one, and the state it leaves is the one in
which the device draws it.  A draw is `reach` followed by `Strip.finish`
(`Renderer.draw_eq_reach`), and every instanced draw in the log of a run is the strip of the
act that made it, issued in the state that `reach` has left (`Act.strip_of_call`).
-/
import DrawPass.Proofs.FixedState
import DrawPass.Proofs.OrderlyDraws
import Mathlib.Data.List.Basic

namespace DrawPass

open Software
open Gl hiding Call

/-- A setting draws nothing. -/
theorem Gl.Command.isDraw_of_isSetting {α : Type} (command : Command α) (h : command.isSetting) :
    command.isDraw = false := by
  cases command <;> first | rfl | cases h

/-- A strip that is about to be drawn. -/
structure Strip where
  plan : Plan
  blend : Option Blend.State
  /-- The values of the draw, without those that every draw has. -/
  uniforms : Uniform.Values
  view : Rect
  program : Shader.Program

namespace Strip

/-- The snippets of a strip. -/
def key (s : Strip) : Shader.ProgramKey :=
  ⟨s.plan.options.includes, s.plan.options.vertex, s.plan.options.fragment⟩

/-- Every value that a draw supplies for a strip. -/
def values (s : Strip) : Uniform.Values := s.plan.withBuiltins s.uniforms s.view

variable {σ : Type} [Device σ]

/-- All that is left to do before the uniforms are written once the program is there. -/
def ready (s : Strip) : StateM (Renderer σ) Unit := do
  perform (.useProgram (some s.program.name))
  Renderer.setState s.plan s.blend
  perform (.viewport s.view)
  let geometry ← (← get).geometry.ensure (max s.plan.vertices s.plan.instances)
  modify fun r => { r with geometry }
  geometry.bind

/-- Make the index array long enough and write the uniforms. -/
def upload (s : Strip) : StateM (Renderer σ) Unit := do
  let geometry ← (← get).geometry.ensure (max s.plan.vertices s.plan.instances)
  modify fun r => { r with geometry }
  geometry.bind
  let samplers ← Renderer.onStore (s.program.applyUniforms s.values (← get).samplers)
  modify fun r => { r with samplers }

/-- All that is left to do before the strip is drawn once its program is there. -/
def load (s : Strip) : StateM (Renderer σ) Unit := do
  perform (.useProgram (some s.program.name))
  Renderer.setState s.plan s.blend
  perform (.viewport s.view)
  s.upload

/-- Draw the strip, and switch off what was switched on for it. -/
def finish (s : Strip) : StateM (Renderer σ) Unit := do
  perform (.drawArraysInstanced Constant.triangleStrip 0 s.plan.vertices.toInt32
    s.plan.instances.toInt32)
  Renderer.revertState s.plan s.blend

end Strip

namespace Renderer

section Stages

variable {σ : Type} [Device σ]

/-- Set the depth mask of a draw and clear its view, if it asks for that. -/
def wipe (plan : Plan) (view : Rect) : StateM (Renderer σ) Unit := do
  perform (.depthMask plan.options.depthTest.writes)
  if let some color := plan.options.clear then clearView view color

/-- The program of a draw, which puts the depth mask back if it is refused. -/
def findProgram (options : Params.Options) (uniforms : Uniform.Values) :
    Attempt DrawError (Renderer σ) Shader.Program :=
  tryCatch (program options uniforms) fun refusal => do
    Attempt.perform (.depthMask true)
    throw refusal

/-- Find the program of a draw that runs snippets, and load its strip. -/
def arm (plan : Plan) (blend : Option Blend.State) (uniforms : Uniform.Values) (view : Rect) :
    Attempt DrawError (Renderer σ) (Option Strip) := do
  if plan.options.hasStages then
    let program ← findProgram plan.options uniforms
    let strip : Strip := { plan, blend, uniforms, view, program }
    ExceptT.lift strip.load
    return some strip
  else
    Attempt.perform (.depthMask true)
    return none

/-- Everything that comes before the strip of a draw that has settled, if it has one. -/
def approach (plan : Plan) (blend : Option Blend.State) (resolved : Resolved) :
    Attempt DrawError (Renderer σ) (Option Strip) := do
  let uniforms ← ExceptT.lift (withSource resolved plan.uniforms)
  let size ← bind resolved
  let view := plan.options.viewRect size.1 size.2
  ExceptT.lift (wipe plan view)
  arm plan blend uniforms view

/-- Draw a strip, if there is one. -/
def finish (strip : Option Strip) : Attempt DrawError (Renderer σ) Unit := do
  if let some strip := strip then ExceptT.lift strip.finish

/-- Everything that comes before the strip of a draw. -/
def reach (bag : Params.Bag) (destination : Destination) :
    Attempt DrawError (Renderer σ) (Resolved × Option Strip) := do
  let (plan, blend, resolved) ← settle bag destination
  if onlyPrepares plan destination then return (resolved, none)
  return (resolved, ← approach plan blend resolved)

theorem drawStrip_eq (strip : Strip) :
    (drawStrip strip.plan strip.program strip.values : StateM (Renderer σ) Unit) = (do
      strip.upload
      perform (.drawArraysInstanced Constant.triangleStrip 0 strip.plan.vertices.toInt32
        strip.plan.instances.toInt32)) := by
  unfold drawStrip Strip.upload
  simp only [bind_assoc]

theorem runStages_eq (plan : Plan) (blend : Option Blend.State) (uniforms : Uniform.Values)
    (view : Rect) : (runStages plan blend uniforms view : Attempt DrawError (Renderer σ) Unit) = (do
      let program ← findProgram plan.options uniforms
      let strip : Strip := { plan, blend, uniforms, view, program }
      ExceptT.lift strip.load
      ExceptT.lift strip.finish) := by
  have hstrip (program : Shader.Program) : (do
      perform (.useProgram (some program.name))
      setState plan blend
      perform (.viewport view)
      drawStrip plan program (plan.withBuiltins uniforms view)
      revertState plan blend : StateM (Renderer σ) Unit) = (do
        let strip : Strip := { plan, blend, uniforms, view, program }
        strip.load
        strip.finish) := by
    have hdraw := drawStrip_eq (σ := σ) { plan, blend, uniforms, view, program }
    unfold Strip.load Strip.finish
    simp only [bind_assoc]
    refine bind_congr fun _ => bind_congr fun _ => bind_congr fun _ => ?_
    exact (congrArg (· >>= fun _ => revertState plan blend) hdraw).trans (bind_assoc ..)
  unfold runStages
  refine bind_congr fun program => ?_
  rw [hstrip]
  rfl

theorem render_eq (plan : Plan) (blend : Option Blend.State) (uniforms : Uniform.Values)
    (size : UInt32 × UInt32) :
    (render plan blend uniforms size : Attempt DrawError (Renderer σ) Unit) = (do
      let view := plan.options.viewRect size.1 size.2
      ExceptT.lift (wipe plan view)
      arm plan blend uniforms view >>= finish) := by
  have harm (view : Rect) : (if plan.options.hasStages then runStages plan blend uniforms view
      else Attempt.perform (.depthMask true) : Attempt DrawError (Renderer σ) Unit) =
        arm plan blend uniforms view >>= finish := by
    unfold arm
    rw [runStages_eq]
    split
    · simp only [bind_assoc, pure_bind]
      rfl
    · simp only [bind_assoc, pure_bind]
      rfl
  unfold render
  simp only [harm]
  unfold wipe
  cases plan.options.clear <;> rfl

/-- A draw reaches its strip and draws it. -/
theorem draw_eq_reach (bag : Params.Bag) (destination : Destination) :
    (draw bag destination : Attempt DrawError (Renderer σ) Resolved) = do
      let (resolved, strip) ← reach bag destination
      finish strip
      return resolved := by
  have hpaint (plan : Plan) (blend : Option Blend.State) (resolved : Resolved) :
      (paint plan blend resolved : Attempt DrawError (Renderer σ) Unit) =
        approach plan blend resolved >>= finish := by
    unfold paint approach
    simp only [bind_assoc, render_eq]
  rw [draw_eq]
  unfold reach
  simp only [bind_assoc, hpaint]
  refine bind_congr fun ⟨plan, blend, resolved⟩ => ?_
  dsimp only
  split
  · rfl
  · simp only [bind_assoc, pure_bind]

end Stages

/-! ### The way to the strip -/

section Settings

variable {Q : Renderer State → Renderer State → Prop} [IsPreorder (Renderer State) Q]
  (hset : ∀ command : Command Unit, command.isSetting →
    Moves Q (perform command : StateM (Renderer State) Unit))
include hset

theorem wipe_moves (plan : Plan) (view : Rect) :
    Moves Q (wipe plan view : StateM (Renderer State) Unit) := by
  unfold wipe
  refine .bind (hset _ rfl) fun _ => ?_
  split
  · exact clearView_moves hset _ _
  · exact .pure _

theorem finish_moves {strip : Strip} (hdraw : Moves Q (perform (.drawArraysInstanced
      Constant.triangleStrip 0 strip.plan.vertices.toInt32 strip.plan.instances.toInt32) :
        StateM (Renderer State) Unit)) :
    Moves Q (strip.finish : StateM (Renderer State) Unit) := by
  unfold Strip.finish
  refine .bind hdraw fun _ => ?_
  exact revertState_moves (fun command hcommand _ => hset command hcommand) _ _

end Settings

section Moves

variable {R : Store State → Store State → Prop} [IsPreorder (Store State) R] {buffer : Name}
  {G : TargetSpec → Prop} (h : Store.Permits R G)
  (hindex : ∀ target data usage, Moves R
    (perform (.bufferData target buffer data usage) : StateM (Store State) Unit))
  (hset : ∀ command : Command Unit, command.isSetting →
    Moves R (perform command : StateM (Store State) Unit))

omit [IsPreorder (Store State) R] in
include hset in
theorem set_moves (command : Command Unit) (hcommand : command.isSetting) :
    Moves (Over buffer R) (perform command : StateM (Renderer State) Unit) :=
  perform_moves (hset command hcommand)

include h hindex in
theorem upload_moves (strip : Strip) :
    Moves (Over buffer R) (strip.upload : StateM (Renderer State) Unit) := by
  unfold Strip.upload
  refine ensure_moves h.toBinding hindex _ fun geometry => ?_
  refine .bind (plain_moves h.toBinding _ rfl rfl rfl) fun _ => .bind .get fun r => ?_
  exact .bind (applyUniforms_moves h.toBinding.toUploads _ _ _) fun _ =>
    .modify fun r => along_of_eq rfl rfl id

include h hindex hset

theorem load_moves (strip : Strip) :
    Moves (Over buffer R) (strip.load : StateM (Renderer State) Unit) := by
  unfold Strip.load
  refine .bind (plain_moves h.toBinding _ rfl rfl rfl) fun _ => ?_
  refine .bind (setState_moves (fun command hcommand _ => set_moves hset command hcommand) _ _)
    fun _ => ?_
  exact .bind (plain_moves h.toBinding _ rfl rfl rfl) fun _ => upload_moves h hindex strip

/-- All that comes before the strip of a draw, if stories may turn. -/
theorem reach_moves (hrotate : ∀ (s : Store State) (key : StoryKey), R s (s.rotate key))
    (bag : Params.Bag) {destination : Destination}
    (hspec : ∀ spec, destination = .spec spec → G spec) :
    Attempt.Moves (Over buffer R)
      (reach bag destination : Attempt DrawError (Renderer State) _) := by
  -- Behind the clear there is the program, and then the strip, if the program is found.
  have arm (plan : Plan) (blend : Option Blend.State) (uniforms : Uniform.Values) (view : Rect) :
      Attempt.Moves (Over buffer R)
        (arm plan blend uniforms view : Attempt DrawError (Renderer State) _) := by
    unfold Renderer.arm findProgram
    split
    · refine .bind (.tryCatch (program_moves h.toBinding _ _) fun refusal => ?_) fun program => ?_
      · exact .bind (.lift (set_moves hset _ rfl)) fun _ => .throw _
      · exact .bind (.lift (load_moves h hindex hset _)) fun _ => .pure _
    · exact .bind (.lift (set_moves hset _ rfl)) fun _ => .pure _
  unfold reach
  refine .bind (settle_moves h bag hspec) fun ⟨plan, blend, resolved⟩ => ?_
  dsimp only
  split
  · exact .pure _
  · unfold approach
    simp only [bind_assoc]
    refine .bind (.lift (withSource_moves _ _)) fun uniforms => ?_
    refine .bind (bind_moves h.toBinding fun key _ s => hrotate s key) fun size => ?_
    exact .bind (.lift (wipe_moves (set_moves hset) _ _)) fun _ =>
      .bind (arm _ _ _ _) fun _ => .pure _

end Moves

/-- How a draw has reached its strip. -/
structure Reached (bag : Params.Bag) (destination : Destination) (r : Renderer State)
    (resolved : Resolved) (strip : Strip) (settled bound found : Renderer State) : Prop where
  settle : (settle bag destination).run r = (.ok (strip.plan, strip.blend, resolved), settled)
  uniforms : strip.uniforms = (withSource resolved strip.plan.uniforms settled).1
  bind : ∃ size, (bind resolved).run settled = (.ok size, bound) ∧
    strip.view = strip.plan.options.viewRect size.1 size.2
  program : (program strip.plan.options strip.uniforms).run (wipe strip.plan strip.view bound).2 =
    (.ok strip.program, found)

variable {bag : Params.Bag} {destination : Destination} {r moment : Renderer State}
  {resolved : Resolved} {strip : Strip}

/-- A draw that is not refused before its strip has settled, bound what it draws into, and found
its program. -/
theorem exists_reached (h : (reach bag destination).run r = (.ok (resolved, some strip), moment)) :
    ∃ settled bound found, Reached bag destination r resolved strip settled bound found ∧
      moment = (strip.load found).2 := by
  unfold reach at h
  obtain ⟨⟨plan, blend, resolved'⟩, settled, hsettle, h⟩ := Attempt.run_bind_eq_ok.1 h
  dsimp only at h
  split at h
  · cases h
  obtain ⟨strip', after, happroach, h⟩ := Attempt.run_bind_eq_ok.1 h
  cases h
  unfold approach at happroach
  obtain ⟨uniforms, settled', hsource, happroach⟩ := Attempt.run_bind_eq_ok.1 happroach
  obtain ⟨size, bound, hbind, happroach⟩ := Attempt.run_bind_eq_ok.1 happroach
  obtain ⟨⟨⟩, wiped, hwipe, happroach⟩ := Attempt.run_bind_eq_ok.1 happroach
  have huniforms : uniforms = (withSource resolved plan.uniforms settled).1 :=
    (Except.ok.inj (congrArg Prod.fst hsource)).symm
  -- The uniforms of the source are read off without a change.
  have hsame : settled' = settled :=
    (congrArg Prod.snd hsource).symm.trans (withSource_state resolved plan.uniforms settled)
  have hwiped : (wipe plan (plan.options.viewRect size.1 size.2) bound).2 = wiped :=
    congrArg Prod.snd hwipe
  rw [hsame] at hbind
  unfold arm at happroach
  split at happroach
  · obtain ⟨program, found, hfind, happroach⟩ := Attempt.run_bind_eq_ok.1 happroach
    cases happroach
    refine ⟨settled, bound, found, ⟨hsettle, huniforms, ⟨size, hbind, rfl⟩, ?_⟩, rfl⟩
    unfold findProgram at hfind
    rw [Attempt.run_tryCatch] at hfind
    rw [hwiped]
    rcases hprogram : (Renderer.program plan.options uniforms).run wiped with ⟨e | program', found'⟩
    · rw [hprogram] at hfind
      cases hfind
    · rw [hprogram] at hfind
      cases hfind
      rfl
  · cases happroach

/-- How a draw ends that does not come to a strip: what holds once it has settled and while it is
not bound, and what holds while it is bound, are followed to its end. -/
theorem unreached_rule {I J : Renderer State → Prop} {after : Renderer State}
    {result : Except DrawError (Resolved × Option Strip)}
    (hrun : (reach bag destination).run r = (result, after))
    (hresult : ∀ resolved strip, result ≠ .ok (resolved, some strip))
    (hsettle : I ((settle bag destination).run r).2)
    (hbind : ∀ resolved settled size bound, I settled →
      (bind resolved).run settled = (.ok size, bound) → J bound)
    (hunbound : ∀ resolved settled e after, I settled →
      (bind resolved).run settled = (.error e, after) → I after)
    (hwipe : ∀ plan view bound, J bound → J (wipe plan view bound).2)
    (hrefused : ∀ options uniforms wiped e after, J wiped →
      (program options uniforms).run wiped = (.error e, after) → J after)
    (hmask : ∀ wiped, J wiped → I (perform (.depthMask true) wiped).2) : I after := by
  -- The draw is followed step by step, and ends where the first step is refused.
  unfold reach at hrun
  rcases hsettled : (settle bag destination).run r with ⟨e | ⟨plan, blend, resolved⟩, settled⟩ <;>
    rw [hsettled] at hsettle
  · rw [Attempt.run_bind_error hsettled] at hrun
    cases hrun
    exact hsettle
  rw [Attempt.run_bind_ok hsettled] at hrun
  dsimp only at hrun
  split at hrun
  · cases hrun
    exact hsettle
  unfold approach at hrun
  rw [bind_assoc, Attempt.run_bind_ok (Attempt.run_lift ..), withSource_state, bind_assoc] at hrun
  generalize (withSource resolved plan.uniforms settled).1 = uniforms at hrun
  rcases hbound : (bind resolved).run settled with ⟨e | size, bound⟩
  · rw [Attempt.run_bind_error hbound] at hrun
    cases hrun
    exact hunbound resolved settled e _ hsettle hbound
  rw [Attempt.run_bind_ok hbound, bind_assoc, Attempt.run_bind_ok (Attempt.run_lift ..)] at hrun
  have hwiped := hwipe plan (plan.options.viewRect size.1 size.2) bound
    (hbind resolved settled size bound hsettle hbound)
  generalize (wipe plan (plan.options.viewRect size.1 size.2) bound).2 = wiped at hrun hwiped
  unfold arm findProgram at hrun
  split at hrun
  · rw [bind_assoc, Attempt.run_bind, Attempt.run_tryCatch] at hrun
    rcases hprogram : (program plan.options uniforms).run wiped with ⟨e | p, found⟩ <;>
      rw [hprogram] at hrun
    · cases hrun
      exact hmask found (hrefused _ _ wiped e found hwiped hprogram)
    · cases hrun
      exact absurd rfl (hresult _ _)
  · cases hrun
    exact hmask wiped hwiped

/-- A draw that has snippets and is not refused has come to its strip. -/
theorem exists_strip_of_draw {plan : Plan} {r' : Renderer State} (hplan : Plan.ofBag bag = .ok plan)
    (hstages : plan.options.hasStages = true)
    (hdraw : (draw bag destination).run r = (.ok resolved, r')) :
    ∃ strip moment, (reach bag destination).run r = (.ok (resolved, some strip), moment) ∧
      strip.plan = plan ∧ r' = (strip.finish moment).2 := by
  rw [draw_eq_reach] at hdraw
  obtain ⟨⟨resolved', strip⟩, moment, hreach, hdraw⟩ := Attempt.run_bind_eq_ok.1 hdraw
  cases strip with
  | some strip =>
    cases hdraw
    obtain ⟨settled, _, _, hreached, -⟩ := exists_reached hreach
    have hsame := (run_settle_eq_ok hreached.settle).1
    exact ⟨strip, moment, hreach, Except.ok.inj (hsame.symm.trans hplan), rfl⟩
  | none =>
    -- A draw without a strip only prepares its target, or has no snippets.
    unfold reach at hreach
    obtain ⟨⟨plan', blend, resolved'⟩, settled, hsettle, hreach⟩ :=
      Attempt.run_bind_eq_ok.1 hreach
    cases (run_settle_eq_ok hsettle).1.symm.trans hplan
    have hpaints : onlyPrepares plan destination ≠ true := by
      cases destination with
      | spec spec =>
        show (plan.options.clear.isNone && !plan.options.hasStages) ≠ true
        rw [hstages, Bool.not_true, Bool.and_false]
        exact Bool.false_ne_true
      | _ => exact Bool.false_ne_true
    dsimp only at hreach
    rw [if_neg hpaints] at hreach
    obtain ⟨strip', after, happroach, hreach⟩ := Attempt.run_bind_eq_ok.1 hreach
    cases hreach
    unfold approach at happroach
    obtain ⟨uniforms, _, -, happroach⟩ := Attempt.run_bind_eq_ok.1 happroach
    obtain ⟨size, _, -, happroach⟩ := Attempt.run_bind_eq_ok.1 happroach
    obtain ⟨_, _, -, happroach⟩ := Attempt.run_bind_eq_ok.1 happroach
    unfold arm at happroach
    rw [if_pos hstages] at happroach
    obtain ⟨program, _, -, happroach⟩ := Attempt.run_bind_eq_ok.1 happroach
    cases happroach

/-! ### What the log says -/

/-- Nothing is drawn. -/
def Undrawn (s s' : Store State) : Prop := s.device.Draws (fun _ => False) s'.device

instance : IsPreorder (Store State) Undrawn where
  refl s := refl s.device
  trans s s' s'' h h' := IsTrans.trans s.device s'.device s''.device h h'

theorem permits_undrawn : Store.Permits Undrawn fun _ => True := by
  have hparts : Store.PermitsParts Undrawn :=
    { command := fun command hfixed s =>
        (State.sameFixed_perform command hfixed s.device).draws
      modifyTarget := fun s _ _ _ => refl s.device
      addTarget := fun s _ _ => refl s.device
      reads := fun s s' h _ _ => by
        unfold Undrawn
        rw [h]
        exact refl s.device }
  exact hparts.permits fun _ _ _ _ _ => Store.make_moves hparts (fun s _ => refl s.device) _ _

theorem setting_undrawn (command : Command Unit) (hcommand : command.isSetting) :
    Moves Undrawn (perform command : StateM (Store State) Unit) := by
  intro s
  refine draws_perform command s.device fun hdraw => ?_
  rw [command.isDraw_of_isSetting hcommand] at hdraw
  cases hdraw

theorem reach_undrawn (bag : Params.Bag) (destination : Destination) (r : Renderer State) :
    Undrawn r.store ((reach bag destination).run r).2.store := by
  have hindex (target : UInt32) (data : Bytes) (usage : UInt32) : Moves Undrawn
      (perform (.bufferData target r.geometry.buffer data usage) :
        StateM (Store State) Unit) := fun s => draws_perform _ s.device nofun
  exact (reach_moves permits_undrawn hindex setting_undrawn (fun s _ => refl s.device) bag
    (fun _ _ => trivial) r rfl).2.1

/-- Where nothing is drawn, no call draws. -/
theorem Undrawn.exists_calls {s s' : Store State} (h : Undrawn s s') :
    ∃ calls, s'.device.calls = s.device.calls ++ calls ∧
      ∀ mode count instances, Call.drawArraysInstanced mode count instances ∉ calls := by
  obtain ⟨calls, hcalls, -, hdrawn⟩ := h
  refine ⟨calls, hcalls, fun mode count instances hmem => ?_⟩
  obtain ⟨before, later, hsplit⟩ := List.append_of_mem hmem
  exact hdrawn.at hsplit

/-- What the device is told when a strip is drawn: the draw, and nothing after it that draws. -/
theorem exists_calls_finish (strip : Strip) (r : Renderer State) :
    ∃ later, (strip.finish r).2.store.device.calls = r.store.device.calls ++
        .drawArraysInstanced Constant.triangleStrip strip.plan.vertices.toInt32
          strip.plan.instances.toInt32 :: later ∧
      ∀ mode count instances, Call.drawArraysInstanced mode count instances ∉ later := by
  let draw : Command Unit := .drawArraysInstanced Constant.triangleStrip 0
    strip.plan.vertices.toInt32 strip.plan.instances.toInt32
  let r₁ := (perform draw r).2
  have hset (command : Command Unit) (hcommand : command.isSetting) (_ : command.sparesTargets) :
      Moves (Over r₁.geometry.buffer Undrawn) (perform command : StateM (Renderer State) Unit) :=
    set_moves setting_undrawn command hcommand
  have hrevert : Undrawn r₁.store (revertState strip.plan strip.blend r₁).2.store :=
    (revertState_moves hset strip.plan strip.blend r₁ rfl).2.1
  obtain ⟨later, hlater, hnone⟩ := hrevert.exists_calls
  have hdrawn : r₁.store.device.calls = r.store.device.calls ++
      [.drawArraysInstanced Constant.triangleStrip strip.plan.vertices.toInt32
        strip.plan.instances.toInt32] := by
    have hlog : r.store.device.runEmulator.log = r.store.device.log :=
      (State.runEmulator_moves (fun s id f _ => State.sameHolds_modifyTexture s id f)
        r.store.device).log
    show (_ :: r.store.device.runEmulator.log).reverse = _
    rw [hlog, List.reverse_cons]
    rfl
  refine ⟨later, ?_, hnone⟩
  show (revertState strip.plan strip.blend r₁).2.store.device.calls = _
  rw [hlater, hdrawn, List.append_assoc, List.singleton_append]

end Renderer

/-- What comes about by acts goes on by acts. -/
theorem Reachable.afterAll {r : Renderer State} (hr : Reachable r) (acts : List Act) :
    Reachable (Act.afterAll r acts) :=
  ReachableBy.afterAll hr fun _ _ => trivial

/-- Every instanced draw among the calls of an act is the strip of the act, which is a draw, and
is issued in the state in which the act has reached it. -/
theorem Act.strip_of_call {r : Renderer State} (hr : Reachable r) (act : Act) :
    ∃ calls, (act.after r).store.device.calls = r.store.device.calls ++ calls ∧
      ∀ before mode count instances later,
        calls = before ++ .drawArraysInstanced mode count instances :: later →
        ∃ bag destination resolved strip moment, act = .draw bag destination ∧
          (Renderer.reach bag destination).run r = (.ok (resolved, some strip), moment) ∧
          moment.store.device.calls = r.store.device.calls ++ before := by
  -- Where nothing is drawn, no call is an instanced draw.
  have undrawn {s' : Store State} (h : Renderer.Undrawn r.store s') :
      ∃ calls, s'.device.calls = r.store.device.calls ++ calls ∧
        ∀ before mode count instances later,
          calls ≠ before ++ Call.drawArraysInstanced mode count instances :: later := by
    obtain ⟨calls, hcalls, hnone⟩ := h.exists_calls
    refine ⟨calls, hcalls, fun before mode count instances later heq => ?_⟩
    exact hnone mode count instances (heq ▸ List.mem_append_right _ List.mem_cons_self)
  by_cases hact : ∃ bag destination, act = .draw bag destination
  · obtain ⟨bag, destination, rfl⟩ := hact
    have hreach := Renderer.reach_undrawn bag destination r
    show ∃ calls, ((Renderer.draw bag destination).run r).2.store.device.calls = _ ∧ _
    rw [Renderer.draw_eq_reach]
    rcases hrun : (Renderer.reach bag destination).run r with ⟨e | ⟨resolved, _ | strip⟩, moment⟩ <;>
      rw [hrun] at hreach
    · rw [Attempt.run_bind_error hrun]
      obtain ⟨calls, hcalls, hnone⟩ := undrawn hreach
      exact ⟨calls, hcalls, fun _ _ _ _ _ heq => absurd heq (hnone _ _ _ _ _)⟩
    · rw [Attempt.run_bind_ok hrun]
      obtain ⟨calls, hcalls, hnone⟩ := undrawn hreach
      exact ⟨calls, hcalls, fun _ _ _ _ _ heq => absurd heq (hnone _ _ _ _ _)⟩
    · rw [Attempt.run_bind_ok hrun]
      obtain ⟨first, hfirst, hnone⟩ := hreach.exists_calls
      obtain ⟨last, hlast, hnone'⟩ := Renderer.exists_calls_finish strip moment
      refine ⟨_, hlast.trans (by rw [hfirst, List.append_assoc]), ?_⟩
      intro before mode count instances later heq
      obtain ⟨rfl, -, -⟩ := (List.append_cons_inj_of_notMem (hnone _ _ _) (hnone' _ _ _)).1 heq
      exact ⟨bag, destination, resolved, strip, moment, rfl, hrun, hfirst⟩
  · obtain ⟨hdrawn, -, -⟩ := act.after_draws hr.atRest.1 hr.atRest.2
    have hundrawn : Renderer.Undrawn r.store (act.after r).store := by
      cases act with
      | draw bag destination => exact absurd ⟨bag, destination, rfl⟩ hact
      | _ => exact hdrawn
    obtain ⟨calls, hcalls, hnone⟩ := undrawn hundrawn
    exact ⟨calls, hcalls, fun _ _ _ _ _ heq => absurd heq (hnone _ _ _ _ _)⟩

end DrawPass
