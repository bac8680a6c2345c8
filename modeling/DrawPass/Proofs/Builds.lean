/-
DrawPass/Proofs/Builds.lean

Programs are built once.

Building a program is compiling its two stages and linking them.  Only looking for the program of a
draw builds one: everything else that draws and the other acts do leaves the builds of the device
as they are (`State.SameBuilds`).  A draw that is not refused before goes as far as looking for its
program (`Renderer.seek`), and what it does there depends on its snippets: if they are known
nothing is built, and if they are not, the program is built from the start and remembered if the
build goes through (`draw_known`, `draw_unknown`).

So the programs of a renderer are those that have been linked since the last reset, in their order,
each under the snippets of the draw that linked it (`Act.linksAll`).
-/
import DrawPass.Proofs.Sources
import DrawPass.Proofs.Stages

namespace DrawPass

open Gl DrawPass.Geometry Shader Software

/-! ### Builds of the device -/

namespace Software

/-- Whether a call compiles a stage or links a program. -/
def Call.isBuild : Call → Bool
  | compileShader _ | linkProgram _ => true
  | _ => false

/-- The program that a call links. -/
def Call.linked? : Call → Option Name
  | linkProgram id => some id
  | _ => none

namespace State

/-- The stages compiled and the programs linked, as the log shows, newest first. -/
def builds (d : State) : List Call := d.log.filter Call.isBuild

/-- Nothing has been built, and the next link goes as it would have gone. -/
structure SameBuilds (d d' : State) : Prop where
  builds : d'.builds = d.builds
  armed : d'.failNextLink = d.failNextLink

instance : IsPreorder State SameBuilds where
  refl _ := ⟨rfl, rfl⟩
  trans _ _ _ h h' := ⟨h'.builds.trans h.builds, h'.armed.trans h.armed⟩

theorem sameBuilds_modifyTexture (d : State) (id : Option Name) (f : Texture → Texture) :
    SameBuilds d (d.modifyTexture id f) := by
  cases id <;> exact ⟨rfl, rfl⟩

/-- Only compiling and linking build. -/
theorem sameBuilds_perform {α : Type} (command : Command α) (h : command.keepsShaders)
    (d : State) : SameBuilds d (d.perform command).2 := by
  cases command with
  | compileShader | linkProgram => cases h
  | createTexture =>
    simp only [perform, createTexture]
    split <;> exact ⟨rfl, rfl⟩
  | createFramebuffer =>
    simp only [perform, createFramebuffer]
    split <;> exact ⟨rfl, rfl⟩
  | clientWaitSync fence =>
    obtain ⟨fences, hwait, -⟩ := d.waitFence_spec fence
    rw [perform, hwait]
    exact ⟨rfl, rfl⟩
  | framebufferTexture =>
    simp only [perform, attach]
    split <;> exact ⟨rfl, rfl⟩
  | clear =>
    exact IsTrans.trans d _ _ (clear_moves (fun d id f _ => sameBuilds_modifyTexture d id f) ..)
      ⟨rfl, rfl⟩
  | drawArraysInstanced =>
    exact IsTrans.trans d _ _
      (runEmulator_moves (fun d id f _ => sameBuilds_modifyTexture d id f) d) ⟨rfl, rfl⟩
  | uniformFloats location | uniformInts location | uniformUInts location
  | uniformMatrix location => cases location <;> exact ⟨rfl, rfl⟩
  | _ => exact ⟨rfl, rfl⟩

/-- A link that is refused is not written down; one that goes through was not to fail. -/
theorem linkProgram_builds {d d' : State} {vertex fragment : Name} {reply : Except String Name}
    (h : d.linkProgram vertex fragment = (reply, d')) :
    match reply with
    | .ok name => d.failNextLink = none ∧ d'.builds = .linkProgram name :: d.builds
    | .error _ => d'.builds = d.builds := by
  unfold linkProgram at h
  dsimp only at h
  split at h
  · cases h
    rfl
  · rename_i hnone
    split at h
    · cases h
      exact ⟨hnone, rfl⟩
    · cases h
      rfl

end State

end Software

namespace Store

/-- Nothing has been built on the device. -/
abbrev SameBuilds : Store State → Store State → Prop := OnDevice State.SameBuilds

theorem command_sameBuilds {α : Type} (command : Command α) (h : command.keepsShaders) :
    Moves SameBuilds (perform command : StateM (Store State) α) :=
  fun s => State.sameBuilds_perform command h s.device

theorem permitsUploads_sameBuilds : PermitsUploads SameBuilds where
  plain command _ _ _ h := command_sameBuilds command h
  mark s _ _ _ _ := refl s.device

theorem permitsTargets_sameBuilds : PermitsTargets SameBuilds where
  command command h := command_sameBuilds command (by cases command <;> first | rfl | cases h)
  same s s' h _ := by
    unfold SameBuilds OnDevice
    rw [h]
    exact refl s.device

end Store

namespace Renderer

variable {r r' before : Renderer State}

/-- A renderer has built nothing. -/
def SameBuilds (r r' : Renderer State) : Prop := r.store.SameBuilds r'.store

instance : IsPreorder (Renderer State) SameBuilds where
  refl r := refl r.store
  trans r r' r'' h h' := IsTrans.trans (r := Store.SameBuilds) r.store r'.store r''.store h h'

theorem sameBuilds_of_over {ε α : Type} {act : Attempt ε (Renderer State) α}
    (h : ∀ buffer, Attempt.Moves (Over buffer Store.SameBuilds) act) :
    Attempt.Moves SameBuilds act := fun r => (h r.geometry.buffer r rfl).2.1

/-! ### Building a program -/

/-- The stages of a program have been compiled from the start, the first one first, and then nothing
was linked. -/
def BuiltInVain (r r' : Renderer State) : Prop :=
  ∃ stages, (stages = [Stage.vertex] ∨ stages = [.fragment, .vertex]) ∧
    r'.store.device.builds = stages.map .compileShader ++ r.store.device.builds

/-- Both stages of a program have been compiled, and then it was linked. -/
def Built (program : Shader.Program) (r r' : Renderer State) : Prop :=
  r'.store.device.builds = .linkProgram program.name :: .compileShader .fragment ::
    .compileShader .vertex :: r.store.device.builds

theorem run_compile_builds {stage : Stage} {source : String} {result : Except DrawError Name}
    (h : (Program.compile stage source : Attempt DrawError (Renderer State) Name).run r =
      (result, r')) :
    r'.store.device.builds = .compileShader stage :: r.store.device.builds ∧
      r'.store.device.failNextLink = r.store.device.failNextLink := by
  rw [run_compile] at h
  cases herror : State.compileError? source <;> rw [herror] at h <;> cases h <;> exact ⟨rfl, rfl⟩

theorem compiles_of_run_compile {stage : Stage} {source : String} {name : Name}
    (h : (Program.compile stage source : Attempt DrawError (Renderer State) Name).run r =
      (.ok name, r')) : State.compileError? source = none := by
  rcases run_compile_stages h with ⟨_, -, -, hnone, -⟩ | ⟨_, herror, -⟩
  · exact hnone
  · cases herror

theorem run_linkProgram_builds {vertex fragment : Name} {result : Except DrawError Name}
    (h : (Attempt.create .programLink (.linkProgram vertex fragment) :
      Attempt DrawError (Renderer State) Name).run r = (result, r')) :
    match result with
    | .ok name => r.store.device.failNextLink = none ∧
        r'.store.device.builds = .linkProgram name :: r.store.device.builds
    | .error _ => r'.store.device.builds = r.store.device.builds := by
  have hperform : (perform (.linkProgram vertex fragment) : StateM (Renderer State) _) r =
      ((r.store.device.linkProgram vertex fragment).1,
        r.withDevice (r.store.device.linkProgram vertex fragment).2) := rfl
  rcases hlink : r.store.device.linkProgram vertex fragment with ⟨reply, d'⟩
  have hbuilds := State.linkProgram_builds hlink
  rw [Attempt.run_create, hperform, hlink] at h
  cases reply <;> cases h <;> exact hbuilds

/-- A program is linked if and only if its stages compile and the link is not to fail. -/
theorem run_link_builds {sources : Sources} {result : Except DrawError Shader.Program}
    (h : (Program.link sources : Attempt DrawError (Renderer State) Shader.Program).run r =
      (result, r')) :
    match result with
    | .ok program => Linkable sources r.store.device ∧ Built program r r'
    | .error _ => ¬ Linkable sources r.store.device ∧ BuiltInVain r r' := by
  -- All that can refuse a link is on the list, so one that is refused cannot go through.
  have hrefused {e : DrawError} {r' : Renderer State}
      (h : (Program.link sources : Attempt DrawError (Renderer State) Shader.Program).run r =
        (.error e, r')) : ¬ Linkable sources r.store.device := fun hlinkable => by
    rcases run_link_error h with hfails | hfails | hfails
    · exact hfails hlinkable.vertex
    · exact hfails hlinkable.fragment
    · exact hfails hlinkable.link
  have hlink := h
  unfold Program.link at h
  rcases hvertex : (Program.compile .vertex sources.vertex :
    Attempt DrawError (Renderer State) Name).run r with ⟨e | vertex, r₁⟩
  · rw [Attempt.run_bind_error hvertex] at h
    cases h
    exact ⟨hrefused hlink, [.vertex], .inl rfl, (run_compile_builds hvertex).1⟩
  rw [Attempt.run_bind_ok hvertex] at h
  rcases hfragment : (Program.compile .fragment sources.fragment :
    Attempt DrawError (Renderer State) Name).run r₁ with ⟨e | fragment, r₂⟩
  · rw [Attempt.run_bind_error hfragment] at h
    cases h
    refine ⟨hrefused hlink, [.fragment, .vertex], .inr rfl, ?_⟩
    rw [(run_compile_builds hfragment).1, (run_compile_builds hvertex).1]
    rfl
  rw [Attempt.run_bind_ok hfragment] at h
  obtain ⟨hbuilds₁, harmed₁⟩ := run_compile_builds hvertex
  obtain ⟨hbuilds₂, harmed₂⟩ := run_compile_builds hfragment
  rcases hname : (Attempt.create .programLink (.linkProgram vertex fragment) :
    Attempt DrawError (Renderer State) Name).run r₂ with ⟨e | name, r₃⟩ <;>
    have hlinked := run_linkProgram_builds hname
  · rw [Attempt.run_bind_error hname] at h
    cases h
    refine ⟨hrefused hlink, [.fragment, .vertex], .inr rfl, ?_⟩
    rw [hlinked, hbuilds₂, hbuilds₁]
    rfl
  · obtain ⟨hnone, hbuilds₃⟩ := hlinked
    rw [Attempt.run_bind_ok hname] at h
    cases h
    refine ⟨⟨compiles_of_run_compile hvertex, compiles_of_run_compile hfragment,
      harmed₁ ▸ harmed₂ ▸ hnone⟩, ?_⟩
    -- Looking at the new program builds nothing more.
    have hlooked : SameBuilds r₃
        ((Program.introspect name : StateM (Renderer State) (List Shader.Setter)) r₃).2 :=
      (introspect_moves_by (I := fun _ => True)
        (fun command _ _ _ h => Store.command_sameBuilds command h) name r₃ trivial).2.1
    unfold Built
    rw [← hbuilds₁, ← hbuilds₂, ← hbuilds₃]
    exact hlooked.builds

variable {header : String} {founders : ProgramKey → Option Uniform.Values}

/-- The program of snippets that are not known is built, and remembered if the build goes
through. -/
theorem program_unknown (h : r.Remembers header founders) {options : Params.Options}
    {uniforms : Uniform.Values} {key : ProgramKey}
    (heq : key = ⟨options.includes, options.vertex, options.fragment⟩)
    (hkey : r.programs.programs.get? key = none) {result : Except DrawError Shader.Program}
    (hrun : (Renderer.program options uniforms).run r = (result, r')) :
    match result with
    | .ok program => Linkable (Assembler.fresh header key uniforms) r.store.device ∧
        Built program r r' ∧ r'.programs = ⟨r.programs.programs.insert key program⟩
    | .error _ => ¬ Linkable (Assembler.fresh header key uniforms) r.store.device ∧
        BuiltInVain r r' ∧ r'.programs = r.programs := by
  obtain ⟨r₁, hassemble, -, hstore, hprograms⟩ := h.run_assemble key uniforms
  rw [program_new heq hkey hassemble] at hrun
  rcases hlink : (Program.link (Assembler.fresh header key uniforms) :
      Attempt DrawError (Renderer State) _).run r₁ with ⟨e | program, r₂⟩ <;>
    have hbuilds := run_link_builds hlink
  · rw [hlink] at hrun
    cases hrun
    unfold BuiltInVain at hbuilds ⊢
    rw [hstore] at hbuilds
    exact ⟨hbuilds.1, hbuilds.2, (link_error_idle hlink).programs.trans hprograms⟩
  · rw [hlink] at hrun
    cases hrun
    unfold Built at hbuilds ⊢
    rw [hstore] at hbuilds
    exact ⟨hbuilds.1, hbuilds.2, rfl⟩

/-! ### Looking for a program -/

/-- A draw that is about to look for its program. -/
structure Search where
  plan : Plan
  blend : Option Blend.State
  /-- The values of the draw, without those that every draw has. -/
  uniforms : Uniform.Values
  view : Rect

namespace Search

/-- The snippets whose program is looked for. -/
def key (s : Search) : ProgramKey :=
  ⟨s.plan.options.includes, s.plan.options.vertex, s.plan.options.fragment⟩

variable {σ : Type} [Device σ]

/-- What a draw does with its program once it has been found. -/
def run (s : Search) (program : Shader.Program) : StateM (Renderer σ) Unit := do
  perform (.useProgram (some program.name))
  setState s.plan s.blend
  perform (.viewport s.view)
  drawStrip s.plan program (s.plan.withBuiltins s.uniforms s.view)
  revertState s.plan s.blend

/-- What a draw does after it has begun to look for its program. -/
def rest (s : Search) (resolved : Resolved) : Attempt DrawError (Renderer σ) Resolved := do
  let program ← findProgram s.plan.options s.uniforms
  ExceptT.lift (s.run program)
  return resolved

end Search

section Stages

variable {σ : Type} [Device σ]

/-- Everything that a draw does before it looks for its program, if it has snippets. -/
def seek (bag : Params.Bag) (destination : Destination) :
    Attempt DrawError (Renderer σ) (Resolved × Option Search) := do
  let (plan, blend, resolved) ← settle bag destination
  if onlyPrepares plan destination then return (resolved, none)
  let uniforms ← ExceptT.lift (withSource resolved plan.uniforms)
  let size ← bind resolved
  let view := plan.options.viewRect size.1 size.2
  ExceptT.lift (wipe plan view)
  if plan.options.hasStages then return (resolved, some ⟨plan, blend, uniforms, view⟩)
  Attempt.perform (.depthMask true)
  return (resolved, none)

/-- A draw looks for its program, if it has snippets, and runs it. -/
theorem draw_eq_seek (bag : Params.Bag) (destination : Destination) :
    (draw bag destination : Attempt DrawError (Renderer σ) Resolved) = (do
      let (resolved, search) ← seek bag destination
      match search with
      | none => return resolved
      | some search => search.rest resolved) := by
  -- The view is wiped in the same way with stages and without them.
  have hrender (plan : Plan) (blend : Option Blend.State) (uniforms : Uniform.Values)
      (size : UInt32 × UInt32) :
      (render plan blend uniforms size : Attempt DrawError (Renderer σ) Unit) = (do
        let view := plan.options.viewRect size.1 size.2
        ExceptT.lift (wipe plan view)
        if plan.options.hasStages then runStages plan blend uniforms view
        else Attempt.perform (.depthMask true)) := by
    unfold render wipe
    cases plan.options.clear <;> rfl
  rw [draw_eq]
  unfold seek paint
  simp only [bind_assoc, hrender]
  refine bind_congr fun ⟨plan, blend, resolved⟩ => ?_
  dsimp only
  split
  · rfl
  · simp only [bind_assoc]
    refine bind_congr fun uniforms => bind_congr fun size => bind_congr fun _ => ?_
    split
    · rw [pure_bind]
      unfold runStages Search.rest
      rw [bind_assoc]
      rfl
    · simp only [bind_assoc, pure_bind]

end Stages

variable {bag : Params.Bag} {destination : Destination} {resolved : Resolved} {search : Search}

/-- What a draw does before it looks for its program is made of settling, binding and settings. -/
theorem seek_moves {Q : Renderer State → Renderer State → Prop} [IsPreorder (Renderer State) Q]
    (hsettle : Attempt.Moves Q (settle bag destination : Attempt DrawError (Renderer State) _))
    (hbind : ∀ resolved, Attempt.Moves Q (bind resolved : Attempt DrawError (Renderer State) _))
    (hset : ∀ command : Command Unit, command.isSetting →
      Moves Q (perform command : StateM (Renderer State) Unit)) :
    Attempt.Moves Q (seek bag destination : Attempt DrawError (Renderer State) _) := by
  have hsource (resolved : Resolved) (values : Uniform.Values) :
      Moves Q (withSource resolved values : StateM (Renderer State) Uniform.Values) := fun r => by
    rw [withSource_state]
    exact refl r
  unfold seek
  refine .bind hsettle fun ⟨plan, blend, resolved⟩ => ?_
  dsimp only
  split
  · exact .pure _
  · refine .bind (.lift (hsource _ _)) fun uniforms => .bind (hbind resolved) fun size => ?_
    refine .bind (.lift (wipe_moves hset _ _)) fun _ => ?_
    split
    · exact .pure _
    · exact .bind (.lift (hset _ rfl)) fun _ => .pure _

theorem seek_idle (bag : Params.Bag) (destination : Destination) :
    Attempt.Moves Idle (seek bag destination : Attempt DrawError (Renderer State) _) :=
  seek_moves (settle_idle bag destination) bind_idle setting_idle

theorem seek_builds (bag : Params.Bag) (destination : Destination) :
    Attempt.Moves SameBuilds (seek bag destination : Attempt DrawError (Renderer State) _) := by
  refine seek_moves (sameBuilds_of_over fun _ => ?_)
    (fun resolved => sameBuilds_of_over fun _ => ?_) fun command h r =>
      Store.command_sameBuilds command (command.keepsShaders_of_isSetting h) r.store
  · exact settle_moves_by bag (resolve_moves_by fun spec _ registry =>
      Store.permitsTargets_sameBuilds.prepare
        (fun _ _ _ _ _ _ => Store.command_sameBuilds _ rfl) registry spec)
  · exact bind_moves_by (Store.command_sameBuilds _ rfl) (Store.command_sameBuilds _ rfl)
      (fun key => Store.permitsTargets_sameBuilds.bindTarget key false) fun _ _ s => refl s.device

/-! ### Running a program -/

/-- The same programs are remembered. -/
def SameCache (r r' : Renderer State) : Prop := r'.programs = r.programs

instance : IsPreorder (Renderer State) SameCache where
  refl _ := rfl
  trans _ _ _ h h' := h'.trans h

theorem run_builds (search : Search) (program : Shader.Program) :
    Moves SameBuilds (search.run program : StateM (Renderer State) Unit) := fun r =>
  (runProgram_moves Store.permitsUploads_sameBuilds
    (fun _ _ _ => Store.command_sameBuilds _ rfl)
    (fun command _ _ h => Store.command_sameBuilds command h)
    search.plan search.blend program (search.plan.withBuiltins search.uniforms search.view)
    search.view r rfl).2.1

theorem run_sameCache (search : Search) (program : Shader.Program) :
    Moves SameCache (search.run program : StateM (Renderer State) Unit) := by
  have hperform {α : Type} (command : Command α) :
      Moves SameCache (perform command : StateM (Renderer State) α) := fun _ => rfl
  have hensure (a : IndexArray) (needed : UInt32) :
      Moves SameCache (a.ensure needed : StateM (Renderer State) IndexArray) := fun r =>
    (ensure_idle a needed r).programs
  unfold Search.run drawStrip
  refine .bind (hperform _) fun _ =>
    .bind (setState_moves (fun _ _ _ => hperform _) _ _) fun _ => ?_
  refine .bind (hperform _) fun _ => .bind ?_ fun _ =>
    revertState_moves (fun _ _ _ => hperform _) _ _
  refine .bind .get fun r => .bind (hensure _ _) fun _ => .bind (.modify fun _ => rfl) fun _ => ?_
  refine .bind (hperform _) fun _ => .bind .get fun r => .bind (fun _ => rfl) fun _ => ?_
  exact .bind (.modify fun _ => rfl) fun _ => hperform _

/-! ### Draws -/

variable {header : String} {founders : ProgramKey → Option Uniform.Values}
  {result : Except DrawError Resolved}

/-- A draw that does not look for a program builds none. -/
theorem draw_unsought (hseek : ∀ resolved search before,
      (seek bag destination).run r ≠ (.ok (resolved, some search), before))
    (hdraw : (draw bag destination).run r = (result, r')) : SameCache r r' ∧ SameBuilds r r' := by
  rcases hrun : (seek bag destination).run r with ⟨found, before⟩
  have hidle := (seek_idle bag destination).of_run hrun
  have hbuilds := (seek_builds bag destination).of_run hrun
  rw [draw_eq_seek] at hdraw
  cases found with
  | error e =>
    rw [Attempt.run_bind_error hrun] at hdraw
    cases hdraw
    exact ⟨hidle.programs, hbuilds⟩
  | ok found =>
    obtain ⟨resolved, _ | search⟩ := found
    · rw [Attempt.run_bind_ok hrun] at hdraw
      cases hdraw
      exact ⟨hidle.programs, hbuilds⟩
    · exact absurd hrun (hseek resolved search before)

/-- A draw whose snippets are known builds nothing, and is not refused any more. -/
theorem draw_known (hseek : (seek bag destination).run r = (.ok (resolved, some search), before))
    {program : Shader.Program} (hkey : r.programs.programs.get? search.key = some program)
    (hdraw : (draw bag destination).run r = (result, r')) :
    result = .ok resolved ∧ SameCache r r' ∧ SameBuilds r r' := by
  have hidle := (seek_idle bag destination).of_run hseek
  have hbuilds := (seek_builds bag destination).of_run hseek
  rw [draw_eq_seek, Attempt.run_bind_ok hseek] at hdraw
  rw [← hidle.programs] at hkey
  have hfind : (findProgram search.plan.options search.uniforms).run before =
      (.ok program, before) := by
    unfold findProgram
    exact Attempt.run_tryCatch_ok (program_known hkey)
  unfold Search.rest at hdraw
  rw [Attempt.run_bind_ok hfind, Attempt.run_bind_ok (Attempt.run_lift ..)] at hdraw
  cases hdraw
  exact ⟨rfl, (run_sameCache search program before).trans hidle.programs,
    IsTrans.trans r before _ hbuilds (run_builds search program before)⟩

/-- A draw whose snippets are not known builds its program from the start. If the build goes through
the program is remembered and run, and if not, all that was remembered stays. -/
theorem draw_unknown (h : r.Remembers header founders)
    (hseek : (seek bag destination).run r = (.ok (resolved, some search), before))
    (hkey : r.programs.programs.get? search.key = none)
    (hdraw : (draw bag destination).run r = (result, r')) :
    match result with
    | .ok answer => answer = resolved ∧
        Linkable (Assembler.fresh header search.key search.uniforms) r.store.device ∧
        ∃ program, Built program r r' ∧
          r'.programs = ⟨r.programs.programs.insert search.key program⟩
    | .error _ => ¬ Linkable (Assembler.fresh header search.key search.uniforms) r.store.device ∧
        BuiltInVain r r' ∧ r'.programs = r.programs := by
  have hidle := (seek_idle bag destination).of_run hseek
  have hbuilds := (seek_builds bag destination).of_run hseek
  -- The search builds nothing and arms no failure, so what can be linked is the same after it.
  have hlinkable {sources : Sources} :
      Linkable sources before.store.device ↔ Linkable sources r.store.device := by
    constructor
    · exact fun h => ⟨h.vertex, h.fragment, hbuilds.armed ▸ h.link⟩
    · exact fun h => ⟨h.vertex, h.fragment, hbuilds.armed.trans h.link⟩
  rw [draw_eq_seek, Attempt.run_bind_ok hseek] at hdraw
  unfold Search.rest findProgram at hdraw
  rcases hprogram : (Renderer.program search.plan.options search.uniforms).run before with
    ⟨e | program, found⟩ <;>
    have hfound := program_unknown (h.of_idle hidle) (show search.key = _ from rfl)
      (hidle.programs ▸ hkey) hprogram
  · obtain ⟨hnot, ⟨stages, hstages, hvain⟩, hcache⟩ := hfound
    rw [Attempt.run_bind, Attempt.run_tryCatch, hprogram] at hdraw
    cases hdraw
    refine ⟨hlinkable.not.1 hnot, ⟨stages, hstages, ?_⟩, hcache.trans hidle.programs⟩
    rw [← hbuilds.builds, ← hvain]
    rfl
  · obtain ⟨hlinks, hbuilt, hcache⟩ := hfound
    rw [Attempt.run_bind_ok (Attempt.run_tryCatch_ok hprogram),
      Attempt.run_bind_ok (Attempt.run_lift ..)] at hdraw
    cases hdraw
    refine ⟨rfl, hlinkable.1 hlinks, program, ?_, ?_⟩
    · unfold Built
      rw [← hbuilds.builds, ← hbuilt]
      exact (run_builds search program found).builds
    · rw [← hidle.programs, ← hcache]
      exact run_sameCache search program found

/-- The plan of a search is what the bag says. -/
theorem seek_plan (hseek : (seek bag destination).run r = (.ok (resolved, some search), before)) :
    Plan.ofBag bag = .ok search.plan := by
  unfold seek at hseek
  obtain ⟨⟨plan, blend, resolved'⟩, settled, hsettle, hseek⟩ := Attempt.run_bind_eq_ok.1 hseek
  have hplan := (run_settle_eq_ok hsettle).1
  dsimp only at hseek
  split at hseek
  · cases hseek
  obtain ⟨uniforms, _, -, hseek⟩ := Attempt.run_bind_eq_ok.1 hseek
  obtain ⟨size, _, -, hseek⟩ := Attempt.run_bind_eq_ok.1 hseek
  obtain ⟨⟨⟩, _, -, hseek⟩ := Attempt.run_bind_eq_ok.1 hseek
  split at hseek
  · cases hseek
    exact hplan
  · cases hseek

end Renderer

/-! ### Runs -/

/-- What an act builds, newest first. -/
def Act.builds (r : Renderer State) (act : Act) : List Software.Call :=
  let builds := (act.after r).store.device.builds
  builds.take (builds.length - r.store.device.builds.length)

/-- The snippets that an act comes with. -/
def Act.key? : Act → Option ProgramKey
  | draw bag _ => (Plan.ofBag bag).toOption.map fun plan =>
      ⟨plan.options.includes, plan.options.vertex, plan.options.fragment⟩
  | _ => none

/-- The programs that an act links, each with the snippets of the act. -/
def Act.links (r : Renderer State) (act : Act) : List (Option ProgramKey × Name) :=
  ((act.builds r).filterMap Software.Call.linked?).map fun id => (act.key?, id)

/-- The programs that have been linked since the last reset, after an act. -/
def Act.linksSince (known : List (Option ProgramKey × Name)) (r : Renderer State) :
    Act → List (Option ProgramKey × Name)
  | reset => reset.links r
  | act => known ++ act.links r

/-- The programs that have been linked since the last reset, after several acts, oldest first. -/
def Act.linksAll (known : List (Option ProgramKey × Name)) :
    Renderer State → List Act → List (Option ProgramKey × Name)
  | _, [] => known
  | r, act :: acts => linksAll (act.linksSince known r) (act.after r) acts

/-- What an act looks for, if it goes as far as looking for a program. -/
def Act.search? (r : Renderer State) : Act → Option Renderer.Search
  | draw bag destination => ((Renderer.seek bag destination).run r).1.toOption.bind Prod.snd
  | _ => none

/-- None of the acts looks for the program of these snippets. -/
def Act.Unsought (key : ProgramKey) : Renderer State → List Act → Prop
  | _, [] => True
  | r, act :: acts => (∀ search, act.search? r = some search → search.key ≠ key) ∧
      Unsought key (act.after r) acts

/-- The programs that a renderer remembers, oldest first. -/
def Renderer.links (r : Renderer State) : List (Option ProgramKey × Name) :=
  r.programs.programs.entries.map fun entry => (some entry.1, entry.2.name)

variable {r r' : Renderer State} {act : Act} {header : String}
  {founders : ProgramKey → Option Uniform.Values} {key : ProgramKey}

theorem Act.builds_eq (new : List Software.Call)
    (h : (act.after r).store.device.builds = new ++ r.store.device.builds) :
    act.builds r = new := by
  unfold Act.builds
  rw [h]
  simp

/-- The device has built nothing. -/
def Software.State.Unbuilt (d d' : State) : Prop := d'.builds = d.builds

instance : IsPreorder State State.Unbuilt where
  refl _ := rfl
  trans _ _ _ h h' := h'.trans h

/-- Acts that neither draw nor reset build nothing. -/
theorem Act.aside_builds (hact : act.isAside) (r : Renderer State) :
    (act.after r).store.device.builds = r.store.device.builds := by
  have hcommand {α : Type} (command : Command α) (h : command.keepsShaders) :
      Moves (Store.OnDevice State.Unbuilt) (perform command : StateM (Store State) α) :=
    fun s => (State.sameBuilds_perform command h s.device).builds
  have hpermits : Store.PermitsTargets (Store.OnDevice State.Unbuilt) := {
    command := fun command h => hcommand command (by cases command <;> first | rfl | cases h)
    same := fun s s' hdevice _ => congrArg State.builds hdevice }
  exact Act.aside_moves hpermits (fun _ _ _ _ _ _ => hcommand _ rfl)
    (fun s change => by cases change <;> rfl) hact r

/-- A reset builds nothing. -/
theorem Renderer.reset_builds (r : Renderer State) :
    (Act.reset.after r).store.device.builds = r.store.device.builds := by
  have hcleared : r.store.SameBuilds r.cleared := by
    refine Store.after_moves (fun command hcommand => ?_) r.store
    obtain ⟨id, -, rfl⟩ := List.mem_map.1 hcommand
    exact Store.command_sameBuilds _ rfl
  show (reset r).2.store.device.builds = _
  rw [run_reset]
  exact (IsTrans.trans r.store _ _ hcleared (Store.freeAll_moves
    Store.permitsTargets_sameBuilds.free r.registry r.cleared)).builds

theorem Act.search?_draw (bag : Params.Bag) (destination : Destination) (r : Renderer State) :
    (draw bag destination).search? r =
      ((Renderer.seek bag destination).run r).1.toOption.bind Prod.snd := rfl

/-- An act that looks for a program is a draw that has come as far as that. -/
theorem Act.exists_seek {search : Renderer.Search} (h : act.search? r = some search) :
    ∃ bag destination resolved before, act = .draw bag destination ∧
      (Renderer.seek bag destination).run r = (.ok (resolved, some search), before) := by
  cases act with
  | draw bag destination =>
    rw [Act.search?_draw] at h
    rcases hrun : (Renderer.seek bag destination).run r with ⟨e | ⟨resolved, sought⟩, before⟩ <;>
      rw [hrun] at h
    · cases h
    · have hsought : sought = some search := h
      exact ⟨bag, destination, resolved, before, rfl, hsought ▸ hrun⟩
  | _ => cases h

/-- An act looks for the program of its snippets. -/
theorem Act.key?_eq {search : Renderer.Search} (h : act.search? r = some search) :
    act.key? = some search.key := by
  obtain ⟨bag, destination, resolved, before, rfl, hseek⟩ := Act.exists_seek h
  show (Plan.ofBag bag).toOption.map _ = _
  rw [Renderer.seek_plan hseek]
  rfl

/-! ### What an act builds -/

/-- An act that does not look for a program builds none, and remembers the same programs unless it
is a reset. -/
theorem Act.after_unsought (hnone : act.search? r = none) :
    act.builds r = [] ∧
      (act.after r).programs = if act matches .reset then {} else r.programs := by
  by_cases hact : act.isAside
  · have hprograms := (Act.aside_idle hact r).programs
    refine ⟨Act.builds_eq [] (Act.aside_builds hact r), ?_⟩
    cases act <;> first | exact hprograms | cases hact
  · cases act with
    | reset =>
      refine ⟨Act.builds_eq [] (Renderer.reset_builds r), ?_⟩
      show (Renderer.reset r).2.programs = _
      rw [Renderer.run_reset]
      rfl
    | draw bag destination =>
      rcases hdraw : (Renderer.draw bag destination).run r with ⟨result, r'⟩
      have hafter : (Act.draw bag destination).after r = r' := congrArg Prod.snd hdraw
      obtain ⟨hcache, hbuilds⟩ := Renderer.draw_unsought (fun resolved search before hseek => by
        rw [Act.search?_draw, hseek] at hnone
        cases hnone) hdraw
      exact ⟨Act.builds_eq [] (hafter ▸ hbuilds.builds), hafter ▸ hcache⟩
    | _ => exact absurd rfl hact

/-- An act that looks for a program that is remembered builds none. -/
theorem Act.after_known {search : Renderer.Search} (hsearch : act.search? r = some search)
    {program : Shader.Program} (hkey : r.programs.programs.get? search.key = some program) :
    act.builds r = [] ∧ (act.after r).programs = r.programs := by
  obtain ⟨bag, destination, resolved, before, rfl, hseek⟩ := Act.exists_seek hsearch
  rcases hdraw : (Renderer.draw bag destination).run r with ⟨result, r'⟩
  have hafter : (Act.draw bag destination).after r = r' := congrArg Prod.snd hdraw
  obtain ⟨-, hcache, hbuilds⟩ := Renderer.draw_known hseek hkey hdraw
  exact ⟨Act.builds_eq [] (hafter ▸ hbuilds.builds), hafter ▸ hcache⟩

/-- An act that looks for a program that is not remembered builds it. -/
theorem Act.after_unknown (h : r.Remembers header founders) {search : Renderer.Search}
    (hsearch : act.search? r = some search) (hkey : r.programs.programs.get? search.key = none) :
    (Renderer.Linkable (Assembler.fresh header search.key search.uniforms) r.store.device ∧
      ∃ program, (act.after r).programs = ⟨r.programs.programs.insert search.key program⟩ ∧
        act.builds r = [.linkProgram program.name, .compileShader .fragment,
          .compileShader .vertex]) ∨
    (¬ Renderer.Linkable (Assembler.fresh header search.key search.uniforms) r.store.device ∧
      (act.after r).programs = r.programs ∧
      ∃ stages, (stages = [Stage.vertex] ∨ stages = [.fragment, .vertex]) ∧
        act.builds r = stages.map .compileShader) := by
  obtain ⟨bag, destination, resolved, before, rfl, hseek⟩ := Act.exists_seek hsearch
  rcases hdraw : (Renderer.draw bag destination).run r with ⟨result, r'⟩
  have hafter : (Act.draw bag destination).after r = r' := congrArg Prod.snd hdraw
  have hunknown := Renderer.draw_unknown h hseek hkey hdraw
  cases result with
  | ok answer =>
    obtain ⟨-, hlinkable, program, hbuilt, hcache⟩ := hunknown
    exact .inl ⟨hlinkable, program, hafter ▸ hcache, Act.builds_eq _ (hafter ▸ hbuilt)⟩
  | error e =>
    obtain ⟨hnot, ⟨stages, hstages, hvain⟩, hcache⟩ := hunknown
    exact .inr ⟨hnot, hafter ▸ hcache, stages, hstages, Act.builds_eq _ (hafter ▸ hvain)⟩

/-- An act that links nothing and remembers the same programs adds nothing to the links. -/
theorem Act.links_kept (hne : act ≠ .reset) (hcache : (act.after r).programs = r.programs)
    (hbuilds : ∀ call ∈ act.builds r, call.linked? = none) :
    (act.after r).links = act.linksSince r.links r := by
  have hnone : act.links r = [] := by
    unfold Act.links
    rw [List.filterMap_eq_nil_iff.2 hbuilds]
    rfl
  have hsince : act.linksSince r.links r = r.links ++ act.links r := by
    cases act <;> first | rfl | exact absurd rfl hne
  rw [hsince, hnone, List.append_nil, Renderer.links, hcache]
  rfl

/-- What is remembered after an act is what has been linked since the last reset. -/
theorem Act.links_after (h : r.Remembers header founders) (act : Act) :
    (act.after r).links = act.linksSince r.links r := by
  cases hsearch : act.search? r with
  | none =>
    obtain ⟨hbuilds, hcache⟩ := Act.after_unsought hsearch
    -- Nothing is built without a search, and only a reset forgets what had been linked.
    by_cases hreset : act = .reset
    · subst hreset
      unfold Renderer.links Act.linksSince Act.links
      rw [hbuilds, hcache]
      rfl
    · refine Act.links_kept hreset ?_ fun call hcall => ?_
      · rw [hcache]
        cases act <;> first | rfl | exact absurd rfl hreset
      · rw [hbuilds] at hcall
        cases hcall
  | some search =>
    obtain ⟨bag, destination, -, -, rfl, -⟩ := Act.exists_seek hsearch
    cases hkey : r.programs.programs.get? search.key with
    | some program =>
      obtain ⟨hbuilds, hcache⟩ := Act.after_known hsearch hkey
      refine Act.links_kept nofun hcache fun call hcall => ?_
      rw [hbuilds] at hcall
      cases hcall
    | none =>
      rcases Act.after_unknown h hsearch hkey with
        ⟨-, program, hcache, hbuilds⟩ | ⟨-, hcache, stages, -, hbuilds⟩
      · -- A new entry of the table comes last, as the new link does.
        have hnew : search.key ∉ r.programs.programs.keys := fun hmem => by
          rw [Table.mem_keys_iff, hkey] at hmem
          cases hmem
        have hlinks : (draw bag destination).links r = [(some search.key, program.name)] := by
          unfold Act.links
          rw [hbuilds, Act.key?_eq hsearch]
          rfl
        show _ = r.links ++ (draw bag destination).links r
        rw [hlinks, Renderer.links, hcache, Renderer.links, Table.entries_insert hnew,
          List.map_append]
        rfl
      -- Stages that were compiled in vain are no link.
      · refine Act.links_kept nofun hcache fun call hcall => ?_
        rw [hbuilds] at hcall
        obtain ⟨stage, -, rfl⟩ := List.mem_map.1 hcall
        rfl

theorem Act.links_afterAll (h : r.Remembers header founders) (acts : List Act) :
    (Act.afterAll r acts).links = Act.linksAll r.links r acts := by
  -- The acts may begin anywhere, since what was linked before can be read off the cache.
  induction acts generalizing r founders with
  | nil => rfl
  | cons act acts ih =>
    have hlinks := ih (act.after_remembers h)
    rw [Act.links_after h act] at hlinks
    exact hlinks

/-- Snippets that are not known stay so while no act looks for their program. -/
theorem Act.get?_afterAll (h : r.Remembers header founders) {acts : List Act}
    (hkey : r.programs.programs.get? key = none) (hacts : Act.Unsought key r acts) :
    (Act.afterAll r acts).programs.programs.get? key = none := by
  induction acts generalizing r founders with
  | nil => exact hkey
  | cons act acts ih =>
    obtain ⟨hact, hacts⟩ := hacts
    refine ih (act.after_remembers h) ?_ hacts
    cases hsearch : act.search? r with
    | none =>
      rw [(Act.after_unsought hsearch).2]
      split
      · rfl
      · exact hkey
    | some search =>
      cases hknown : r.programs.programs.get? search.key with
      | some program =>
        rw [(Act.after_known hsearch hknown).2]
        exact hkey
      | none =>
        rcases Act.after_unknown h hsearch hknown with ⟨-, program, hcache, -⟩ | ⟨-, hcache, -⟩
        · rw [hcache]
          exact (Table.get?_insert ..).trans ((if_neg (hact search hsearch)).trans hkey)
        · rw [hcache]
          exact hkey

/-! ### Whole runs -/

/-- An act builds the program that it looks for from the start, and remembers it if both stages
compile and the link is not to fail; otherwise it remembers what it did before. -/
structure Act.Rebuilds (header : String) (search : Renderer.Search) (r : Renderer State)
    (act : Act) : Prop where
  compiles : Software.Call.compileShader .vertex ∈ act.builds r
  linked : Renderer.Linkable (Assembler.fresh header search.key search.uniforms) r.store.device →
    ∃ program : Shader.Program, Software.Call.linkProgram program.name ∈ act.builds r ∧
      (act.after r).programs.programs.get? search.key = some program ∧
      program.name ∈ (act.after r).store.device.programs.keys
  refused : ¬ Renderer.Linkable (Assembler.fresh header search.key search.uniforms)
    r.store.device → (act.after r).programs = r.programs

/-- A program that is remembered is alive. -/
theorem Renderer.Remembers.alive (h : r.Remembers header founders) {program : Shader.Program}
    (hkey : r.programs.programs.get? key = some program) :
    program.name ∈ r.store.device.programs.keys := by
  obtain ⟨_, p, -, hp, -⟩ := h.exists_founder hkey
  rw [Table.mem_keys_iff, hp]
  rfl

theorem Act.rebuilds (h : r.Remembers header founders) {search : Renderer.Search}
    (hsearch : act.search? r = some search) (hkey : r.programs.programs.get? search.key = none) :
    act.Rebuilds header search r := by
  -- The vertex stage is compiled first, whether or not the build goes through.
  rcases Act.after_unknown h hsearch hkey with
    ⟨hlinkable, program, hcache, hbuilds⟩ | ⟨hnot, hcache, stages, hstages, hbuilds⟩
  · have hcompiles : Software.Call.compileShader .vertex ∈ act.builds r := by
      rw [hbuilds]
      exact .tail _ (.tail _ (.head _))
    have hlinked : Software.Call.linkProgram program.name ∈ act.builds r := by
      rw [hbuilds]
      exact .head _
    have hfound : (act.after r).programs.programs.get? search.key = some program := by
      rw [hcache]
      exact (Table.get?_insert ..).trans (if_pos rfl)
    exact {
      compiles := hcompiles
      linked := fun _ => ⟨program, hlinked, hfound, (act.after_remembers h).alive hfound⟩
      refused := fun hnot => absurd hlinkable hnot }
  · have hcompiles : Software.Call.compileShader .vertex ∈ act.builds r := by
      rw [hbuilds]
      refine List.mem_map_of_mem ?_
      rcases hstages with rfl | rfl
      · exact .head _
      · exact .tail _ (.head _)
    exact {
      compiles := hcompiles
      linked := fun hlinkable => absurd hlinkable hnot
      refused := fun _ => hcache }

/-- A draw that is refused remembers the programs that it remembered before. If it was looking for a
program, this was not one of them. -/
theorem Act.after_refused (h : r.Remembers header founders) {bag : Params.Bag}
    {destination : Destination} {e : DrawError}
    (hrefused : ((Renderer.draw bag destination).run r).1 = .error e) :
    ((Act.draw bag destination).after r).programs = r.programs ∧
      ∀ search, (Act.draw bag destination).search? r = some search →
        r.programs.programs.get? search.key = none := by
  rcases hdraw : (Renderer.draw bag destination).run r with ⟨result, r'⟩
  have hafter : (Act.draw bag destination).after r = r' := congrArg Prod.snd hdraw
  obtain rfl : result = .error e := by
    rw [hdraw] at hrefused
    exact hrefused
  cases hsearch : (Act.draw bag destination).search? r with
  | none =>
    have hcache := (Act.after_unsought hsearch).2
    exact ⟨hcache, fun _ hfound => absurd hfound.symm (Option.some_ne_none _)⟩
  | some search =>
    obtain ⟨_, _, resolved, before, heq, hseek⟩ := Act.exists_seek hsearch
    cases heq
    cases hkey : r.programs.programs.get? search.key with
    | some program => cases (Renderer.draw_known hseek hkey hdraw).1
    | none =>
      obtain ⟨-, -, hcache⟩ := Renderer.draw_unknown h hseek hkey hdraw
      refine ⟨hafter ▸ hcache, fun search' hsearch' => ?_⟩
      cases hsearch'
      exact hkey

/-- After every run the programs that have been linked since the last reset have different
snippets, and are those that are remembered; each of them is alive.  A draw that is refused leaves
what is remembered as it was, and the next draw that looks for the program of its snippets builds
it again, from the start. -/
theorem programs_are_built_once {config : Config} {width height : UInt32} {r : Renderer State}
    (hr : Renderer.create config { device := State.new width height } = .ok r) (acts : List Act) :
    ((Act.linksAll [] r acts).map Prod.fst).Nodup ∧
    (Act.afterAll r acts).programs.size = (Act.linksAll [] r acts).length ∧
    (∀ link ∈ Act.linksAll [] r acts, ∃ key program, link = (some key, program.name) ∧
      (Act.afterAll r acts).programs.programs.get? key = some program ∧
      program.name ∈ (Act.afterAll r acts).store.device.programs.keys) ∧
    (∀ (act : Act) (search : Renderer.Search), act.search? (Act.afterAll r acts) = some search →
      some search.key ∉ (Act.linksAll [] r acts).map Prod.fst →
      act.Rebuilds config.header search (Act.afterAll r acts)) ∧
    ∀ (bag : Params.Bag) (destination : Destination) (e : DrawError),
      ((Renderer.draw bag destination).run (Act.afterAll r acts)).1 = .error e →
      let refused := (Act.draw bag destination).after (Act.afterAll r acts)
      refused.programs = (Act.afterAll r acts).programs ∧
      ∀ search, (Act.draw bag destination).search? (Act.afterAll r acts) = some search →
        ∀ between : List Act, Act.Unsought search.key refused between →
        ∀ (act : Act) (search' : Renderer.Search),
          act.search? (Act.afterAll refused between) = some search' →
          search'.key = search.key →
          act.Rebuilds config.header search' (Act.afterAll refused between) := by
  have hremembers := Act.afterAll_remembers acts (Renderer.remembers_create hr)
  have hnone : r.links = [] := by
    obtain ⟨capacity, buffers, log, -, rfl⟩ := Renderer.create_eq hr
    rfl
  -- What has been linked is what the cache holds in the end, in the same order.
  have hlinks : Act.linksAll [] r acts = (Act.afterAll r acts).links := by
    rw [Act.links_afterAll (Renderer.remembers_create hr), hnone]
  rw [hlinks]
  generalize Act.foundersAll (fun _ => none) r acts = founders at hremembers
  generalize Act.afterAll r acts = r' at hremembers ⊢
  have hkeys : r'.links.map Prod.fst = r'.programs.programs.keys.map some := by
    unfold Renderer.links Table.keys
    rw [List.map_map, List.map_map]
    rfl
  refine ⟨?_, (List.length_map ..).symm, fun link hlink => ?_, fun act search hsearch hkey => ?_,
    fun bag destination e hrefused => ?_⟩
  · rw [hkeys]
    exact r'.programs.programs.distinct.map fun _ _ => Option.some.inj
  · obtain ⟨⟨key, program⟩, hentry, rfl⟩ := List.mem_map.1 hlink
    have hkey : r'.programs.programs.get? key = some program := Table.get?_eq_some_iff.2 hentry
    exact ⟨key, program, rfl, hkey, hremembers.alive hkey⟩
  · refine Act.rebuilds hremembers hsearch ?_
    rw [hkeys] at hkey
    cases hknown : r'.programs.programs.get? search.key with
    | none => rfl
    | some program =>
      refine absurd (List.mem_map_of_mem ?_) hkey
      rw [Table.mem_keys_iff, hknown]
      rfl
  -- A refused draw has remembered nothing, so its program stays unknown until a draw seeks it
  -- again.
  · obtain ⟨hcache, hunknown⟩ := Act.after_refused hremembers hrefused
    refine ⟨hcache, fun search hsearch between hbetween act search' hsearch' hsame => ?_⟩
    have hrefusedRemembers := (Act.draw bag destination).after_remembers hremembers
    have hkey := Act.get?_afterAll hrefusedRemembers (hcache ▸ hunknown search hsearch) hbetween
    exact Act.rebuilds (Act.afterAll_remembers between hrefusedRemembers) hsearch'
      (hsame ▸ hkey)

/-- The first draw of a number builds its program, which is then remembered. -/
theorem programs_are_built_once_of_number :
    ∃ program : Shader.Program,
      Software.Call.linkProgram program.name ∈
        (Act.draw (.single (.float .one)) .screen).builds Renderer.onePixel ∧
      ((Act.draw (.single (.float .one)) .screen).after
        Renderer.onePixel).programs.programs.get? ⟨[], "", "1.0"⟩ = some program := by
  obtain ⟨-, -, -, hrebuilds, -⟩ := programs_are_built_once Renderer.create_onePixel []
  have hnone : Act.afterAll Renderer.onePixel [] = Renderer.onePixel := rfl
  rw [hnone] at hrebuilds
  obtain ⟨search, hsearch, hkey⟩ : ∃ search,
      (Act.draw (.single (.float .one)) .screen).search? Renderer.onePixel = some search ∧
        search.key = ⟨[], "", "1.0"⟩ := ⟨_, rfl, rfl⟩
  have hlinkable : Renderer.Linkable (Assembler.fresh embeddedHeader search.key search.uniforms)
      Renderer.onePixel.store.device := by
    rw [hkey]
    exact linkable_number rfl search.uniforms
  obtain ⟨program, hlinked, hfound, -⟩ :=
    (hrebuilds _ search hsearch List.not_mem_nil).linked hlinkable
  rw [hkey] at hfound
  exact ⟨program, hlinked, hfound⟩

end DrawPass
