/-
DrawPass/Proofs/FixedState.lean

The fixed state does not leak from one draw into the next.

The device writes down every call, so the capabilities and the depth mask at any moment
can be told from the calls made up to it (`FixedState.replay`).  A host that draws and
resets in any order finds nothing enabled and depth written after each call, whether or
not it went through; and every instanced draw among the calls is made with exactly the
capabilities that its bag asks for.

Design.  `Passes want f g act` follows one action from fixed state `f` to fixed state
`g` and says of every draw on the way that it is made in a state as wanted.  The stages
of a draw that switch nothing pass from any `f` to itself, by the walk of
`DrawPass.Proofs.RendererMoves`; only the few that switch are gone through by hand.
-/
import DrawPass.Proofs.Run

namespace DrawPass

open Software
open Gl hiding Call

/-- The part of the device's state that a draw switches. -/
structure FixedState where
  enabled : List UInt32
  depthMask : Bool
  deriving DecidableEq

/-- The fixed state of a device. -/
def Software.State.fixed (s : State) : FixedState := ⟨s.enabled, s.depthMask⟩

namespace FixedState

/-- Nothing is enabled and depth is written. -/
def atRest : FixedState := ⟨[], true⟩

/-- The fixed state after a call. -/
def after (f : FixedState) : Call → FixedState
  | .enable capability => { f with enabled := capability :: f.enabled.filter (· != capability) }
  | .disable capability => { f with enabled := f.enabled.filter (· != capability) }
  | .depthMask write => { f with depthMask := write }
  | _ => f

/-- The fixed state after several calls, the first one first. -/
def replay (f : FixedState) (calls : List Call) : FixedState := calls.foldl after f

/-- The capabilities and the depth mask are those that the options of a draw ask for. -/
def Serves (f : FixedState) (options : Params.Options) : Prop :=
  (∀ capability, capability ∈ f.enabled ↔
    (capability = Constant.blend ∧
      ∃ spec state, options.blend = some spec ∧ Blend.parse spec = .ok (some state)) ∨
    (capability = Constant.depthTest ∧ options.depthTest ≠ .off) ∨
    (capability = Constant.cullFace ∧ options.face ≠ none) ∨
    (capability = Constant.sampleAlphaToCoverage ∧ options.alphaCoverage)) ∧
  (f.depthMask ↔ options.depthTest ≠ .keep)

/-- Every draw among the calls is made in a fixed state as wanted. -/
def Drawn (want : FixedState → Prop) : FixedState → List Call → Prop
  | _, [] => True
  | f, .drawArraysInstanced .. :: calls => want f ∧ Drawn want f calls
  | f, call :: calls => Drawn want (f.after call) calls

variable {want : FixedState → Prop} {f : FixedState}

/-- The fixed state with capabilities enabled one after the other. -/
def enableAll (f : FixedState) (capabilities : List UInt32) : FixedState :=
  capabilities.foldl (fun f capability => f.after (.enable capability)) f

/-- The fixed state with capabilities disabled one after the other. -/
def disableAll (f : FixedState) (capabilities : List UInt32) : FixedState :=
  capabilities.foldl (fun f capability => f.after (.disable capability)) f

theorem mem_enableAll {capabilities : List UInt32} {c : UInt32} :
    c ∈ (f.enableAll capabilities).enabled ↔ c ∈ capabilities ∨ c ∈ f.enabled := by
  induction capabilities generalizing f with
  | nil => simp [enableAll]
  | cons capability capabilities ih =>
    refine ih.trans ?_
    simp only [after, List.mem_cons, List.mem_filter, bne_iff_ne, ne_eq]
    grind

theorem mem_disableAll {capabilities : List UInt32} {c : UInt32} :
    c ∈ (f.disableAll capabilities).enabled ↔ c ∉ capabilities ∧ c ∈ f.enabled := by
  induction capabilities generalizing f with
  | nil => simp [disableAll]
  | cons capability capabilities ih =>
    refine ih.trans ?_
    simp only [after, List.mem_cons, List.mem_filter, bne_iff_ne, ne_eq]
    grind

theorem depthMask_enableAll (capabilities : List UInt32) :
    (f.enableAll capabilities).depthMask = f.depthMask := by
  induction capabilities generalizing f with
  | nil => rfl
  | cons capability capabilities ih => exact ih

theorem depthMask_disableAll (capabilities : List UInt32) :
    (f.disableAll capabilities).depthMask = f.depthMask := by
  induction capabilities generalizing f with
  | nil => rfl
  | cons capability capabilities ih => exact ih

/-- Disabling what was enabled leaves what was there before, if that was nothing. -/
theorem disableAll_enableAll (capabilities : List UInt32) (write : Bool) :
    ((FixedState.mk [] write).enableAll capabilities).disableAll capabilities = ⟨[], write⟩ := by
  have henabled : (((FixedState.mk [] write).enableAll capabilities).disableAll
      capabilities).enabled = [] := by
    refine List.eq_nil_iff_forall_not_mem.2 fun c hc => ?_
    obtain ⟨hnot, hc⟩ := mem_disableAll.1 hc
    rcases mem_enableAll.1 hc with hc | hc
    · exact hnot hc
    · cases hc
  have hmask : (((FixedState.mk [] write).enableAll capabilities).disableAll
      capabilities).depthMask = write := by
    rw [depthMask_disableAll, depthMask_enableAll]
  exact FixedState.mk.injEq .. ▸ ⟨henabled, hmask⟩

theorem replay_append (calls calls' : List Call) :
    f.replay (calls ++ calls') = (f.replay calls).replay calls' := List.foldl_append

theorem after_eq_self {call : Call} (h : call.isFixed = false) : f.after call = f := by
  cases call <;> first | rfl | cases h

theorem replay_eq_self {calls : List Call} (h : ∀ call ∈ calls, call.isFixed = false) :
    f.replay calls = f := by
  induction calls with
  | nil => rfl
  | cons call calls ih =>
    rw [List.forall_mem_cons] at h
    change (f.after call).replay calls = f
    rw [after_eq_self h.1, ih h.2]

theorem drawn_cons {call : Call} {calls : List Call} (h : call.isFixed = false) :
    Drawn want f (call :: calls) ↔ Drawn want f calls := by
  cases call <;> first | rfl | cases h

theorem drawn_of_not_isFixed {calls : List Call} (h : ∀ call ∈ calls, call.isFixed = false) :
    Drawn want f calls := by
  induction calls with
  | nil => trivial
  | cons call calls ih =>
    rw [List.forall_mem_cons] at h
    exact (drawn_cons h.1).2 (ih h.2)

theorem drawn_append {calls calls' : List Call} :
    Drawn want f (calls ++ calls') ↔ Drawn want f calls ∧ Drawn want (f.replay calls) calls' := by
  induction calls generalizing f with
  | nil => exact (and_iff_right trivial).symm
  | cons call calls ih =>
    cases call with
    | drawArraysInstanced => exact (and_congr_right fun _ => ih).trans and_assoc.symm
    | _ => exact ih

/-- The state of a draw among the calls is told by the calls before it. -/
theorem Drawn.at {calls before later : List Call} {mode : UInt32} {count instances : Int32}
    (h : Drawn want f calls)
    (hcalls : calls = before ++ .drawArraysInstanced mode count instances :: later) :
    want (f.replay before) := by
  rw [hcalls, drawn_append] at h
  exact h.2.1

end FixedState

theorem Toggles.mem_capabilities {t : Toggles} {c : UInt32} :
    c ∈ t.capabilities ↔
      (c = Constant.blend ∧ t.blend) ∨ (c = Constant.depthTest ∧ t.depthTest) ∨
        (c = Constant.cullFace ∧ t.cullFace) ∨
        (c = Constant.sampleAlphaToCoverage ∧ t.alphaCoverage) := by
  have hmem (b : Bool) (c' : UInt32) : c ∈ (if b then [c'] else []) ↔ c = c' ∧ b := by
    cases b <;> simp
  simp only [capabilities, List.mem_append, hmem, or_assoc]

/-! ### What the log says -/

/-- Whether a command is an instanced draw. -/
def Gl.Command.isDraw {α : Type} : Command α → Bool
  | drawArraysInstanced .. => true
  | _ => false

/-- The fixed state has followed the calls made meanwhile, and every draw among them was made in a
state as wanted. -/
def Software.State.Draws (want : FixedState → Prop) (s s' : State) : Prop :=
  ∃ calls, s'.calls = s.calls ++ calls ∧ s'.fixed = s.fixed.replay calls ∧
    FixedState.Drawn want s.fixed calls

section

variable {want : FixedState → Prop} {s s' : State}

instance : IsPreorder State (State.Draws want) where
  refl s := ⟨[], (List.append_nil _).symm, rfl, trivial⟩
  trans s s' s'' := by
    rintro ⟨calls, hcalls, hfixed, hdrawn⟩ ⟨calls', hcalls', hfixed', hdrawn'⟩
    refine ⟨calls ++ calls', ?_, ?_, ?_⟩
    · rw [hcalls', hcalls, List.append_assoc]
    · rw [hfixed', hfixed, FixedState.replay_append]
    · rw [FixedState.drawn_append, ← hfixed]
      exact ⟨hdrawn, hdrawn'⟩

theorem Software.State.SameFixed.fixed (h : s.SameFixed s') : s'.fixed = s.fixed := by
  unfold State.fixed
  rw [h.enabled, h.depthMask]

theorem Software.State.SameFixed.draws (h : s.SameFixed s') : s.Draws want s' := by
  obtain ⟨new, hlog, hnew⟩ := h.log
  have hnew' : ∀ call ∈ new.reverse, call.isFixed = false := fun call hcall =>
    hnew call (List.mem_reverse.1 hcall)
  refine ⟨new.reverse, ?_, ?_, FixedState.drawn_of_not_isFixed hnew'⟩
  · unfold State.calls
    rw [hlog, List.reverse_append]
  · rw [h.fixed, FixedState.replay_eq_self hnew']

theorem draws_record {call : Call} (hlog : s'.log = call :: s.log)
    (hfixed : s'.fixed = s.fixed.after call) (hwant : FixedState.Drawn want s.fixed [call]) :
    s.Draws want s' := by
  refine ⟨[call], ?_, hfixed, hwant⟩
  unfold State.calls
  rw [hlog, List.reverse_cons]

/-- The fixed state of the device is the one that its calls tell, whatever the command. -/
theorem draws_perform {α : Type} (command : Command α) (s : State)
    (hwant : command.isDraw → want s.fixed) :
    s.Draws want (s.perform command).2 := by
  by_cases h : command.keepsFixed
  · exact (State.sameFixed_perform command h s).draws
  cases command with
  | enable | disable | depthMask => exact draws_record rfl rfl trivial
  | drawArraysInstanced mode first count instances =>
    have hemulated : s.SameFixed s.runEmulator :=
      State.runEmulator_moves (fun s id f _ => State.sameFixed_modifyTexture s id f) s
    refine IsTrans.trans s _ _ hemulated.draws (draws_record rfl rfl ⟨?_, trivial⟩)
    rw [hemulated.fixed]
    exact hwant rfl
  | _ => exact absurd rfl h

end

/-! ### Passing from one fixed state to another -/

namespace Renderer

/-- Started in one fixed state, the action ends in another, and every draw on the way is made in a
state as wanted. -/
def Passes (want : FixedState → Prop) (f g : FixedState) {α : Type}
    (act : StateM (Renderer State) α) : Prop :=
  ∀ r, r.store.device.fixed = f →
    r.store.device.Draws want (act r).2.store.device ∧ (act r).2.store.device.fixed = g

/-- The device keeps its fixed state and is not drawn with. -/
def Still (s s' : Store State) : Prop := s.device.SameFixed s'.device

instance : IsPreorder (Store State) Still where
  refl s := refl s.device
  trans s s' s'' h h' := IsTrans.trans s.device s'.device s''.device h h'

theorem permitsParts_still : Store.PermitsParts Still where
  command command h s := State.sameFixed_perform command h s.device
  modifyTarget s _ _ _ := refl s.device
  addTarget s _ _ := refl s.device
  reads s s' h _ _ := by
    unfold Still
    rw [h]
    exact refl s.device

theorem permits_still : Store.Permits Still fun _ => True :=
  Store.PermitsParts.permits permitsParts_still fun _ _ _ _ _ =>
    Store.make_moves permitsParts_still (fun s _ => refl s.device) _ _

variable {want : FixedState → Prop} {f g k : FixedState} {ε α β : Type}

namespace Passes

theorem bind {act : StateM (Renderer State) α} {next : α → StateM (Renderer State) β}
    (h : Passes want f g act) (h' : ∀ a, Passes want g k (next a)) :
    Passes want f k (act >>= next) := by
  intro r hr
  obtain ⟨hdraws, hg⟩ := h r hr
  obtain ⟨hdraws', hk⟩ := h' (act r).1 (act r).2 hg
  exact ⟨IsTrans.trans r.store.device _ _ hdraws hdraws', hk⟩

theorem bind_lift {act : StateM (Renderer State) α} {next : α → Attempt ε (Renderer State) β}
    (h : Passes want f g act) (h' : ∀ a, Passes want g k (next a).run) :
    Passes want f k (ExceptT.lift act >>= next).run := by
  intro r hr
  rw [Attempt.run_bind_ok (Attempt.run_lift act r)]
  exact bind h h' r hr

/-- An action that may be refused at its first step has to come back to where it started. -/
theorem bind_try {act : Attempt ε (Renderer State) α} {next : α → Attempt ε (Renderer State) β}
    (h : Passes want f f act.run) (h' : ∀ a, Passes want f f (next a).run) :
    Passes want f f (act >>= next).run := by
  intro r hr
  obtain ⟨hdraws, hf⟩ := h r hr
  rcases hact : act.run r with ⟨e | a, r'⟩ <;> rw [hact] at hdraws hf
  · rw [Attempt.run_bind_error hact]
    exact ⟨hdraws, hf⟩
  · rw [Attempt.run_bind_ok hact]
    obtain ⟨hdraws', hf'⟩ := h' a r' hf
    exact ⟨IsTrans.trans r.store.device _ _ hdraws hdraws', hf'⟩

theorem pure (a : α) : Passes want f f (Pure.pure a) := fun r hr => ⟨refl r.store.device, hr⟩

/-- What switches nothing passes from every state to itself. -/
theorem of_over {act : StateM (Renderer State) α}
    (h : ∀ buffer, Moves (Over buffer Still) act) : Passes want f f act := by
  intro r hr
  have hstill : Still r.store (act r).2.store := (h r.geometry.buffer r rfl).2.1
  exact ⟨hstill.draws, hstill.fixed.trans hr⟩

theorem perform (command : Command α) (hg : ∀ s : State, s.fixed = f → (s.perform command).2.fixed = g)
    (hwant : command.isDraw → want f) :
    Passes want f g (Gl.perform command) := by
  intro r hr
  exact ⟨draws_perform command r.store.device fun h => hr ▸ hwant h, hg _ hr⟩

theorem still (command : Command α) (hfixed : command.keepsFixed) :
    Passes want f f (Gl.perform command) := by
  intro r hr
  have h := State.sameFixed_perform command hfixed r.store.device
  exact ⟨h.draws, h.fixed.trans hr⟩

theorem depthMask (write : Bool) :
    Passes want f ⟨f.enabled, write⟩ (Gl.perform (.depthMask write)) :=
  perform _ (fun _ hs => by rw [← hs]; rfl) nofun

theorem enable (capability : UInt32) :
    Passes want f (f.after (.enable capability)) (Gl.perform (.enable capability)) :=
  perform _ (fun _ hs => by rw [← hs]; rfl) nofun

theorem disable (capability : UInt32) :
    Passes want f (f.after (.disable capability)) (Gl.perform (.disable capability)) :=
  perform _ (fun _ hs => by rw [← hs]; rfl) nofun

theorem switches {command : UInt32 → Command Unit} {step : FixedState → UInt32 → FixedState}
    (h : ∀ f capability, Passes want f (step f capability) (Gl.perform (command capability)))
    (capabilities : List UInt32) :
    Passes want f (capabilities.foldl step f)
      (forIn capabilities PUnit.unit fun capability _ => do
        Gl.perform (command capability)
        Pure.pure (.yield PUnit.unit)) := by
  induction capabilities generalizing f with
  | nil => exact pure _
  | cons capability capabilities ih =>
    simp only [List.forIn_cons, bind_assoc, pure_bind]
    exact bind (h f capability) fun _ => ih

end Passes

/-! ### The stages that switch -/

/-- The fixed state that a draw sets up. -/
def drawState (plan : Plan) (blend : Option Blend.State) : FixedState :=
  FixedState.enableAll ⟨[], plan.options.depthTest.writes⟩ (plan.toggles blend).capabilities

/-- That state serves the draw, if the blend equation is the one of its spec. -/
theorem drawState_serves {plan : Plan} {blend : Option Blend.State}
    (hblend : blend.isSome ↔
      ∃ spec state, plan.options.blend = some spec ∧ Blend.parse spec = .ok (some state)) :
    (drawState plan blend).Serves plan.options := by
  have hdepth (d : Params.DepthTest) : d.enabled ↔ d ≠ .off := bne_iff_ne
  have hwrites (d : Params.DepthTest) : d.writes ↔ d ≠ .keep := bne_iff_ne
  constructor
  · intro capability
    unfold drawState
    rw [FixedState.mem_enableAll, Toggles.mem_capabilities]
    simp only [Plan.toggles, hblend, hdepth, Option.isSome_iff_ne_none, List.not_mem_nil, or_false]
  · unfold drawState
    rw [FixedState.depthMask_enableAll]
    exact hwrites _

theorem clearView_passes (view : Rect) (color : Color) (write : Bool) :
    Passes want ⟨[], write⟩ ⟨[], write⟩ (clearView view color) := by
  unfold clearView
  refine .bind (.enable _) fun _ => .bind (.still _ rfl) fun _ => .bind (.still _ rfl) fun _ => ?_
  rw [← FixedState.disableAll_enableAll [Constant.scissorTest] write]
  exact .disable _

theorem setState_passes (plan : Plan) (blend : Option Blend.State) :
    Passes want ⟨[], plan.options.depthTest.writes⟩ (drawState plan blend)
      (setState plan blend) := by
  have enable : Passes want ⟨[], plan.options.depthTest.writes⟩ (drawState plan blend) (do
      for capability in (plan.toggles blend).capabilities do
        Gl.perform (.enable capability)) :=
    .bind (.switches (fun _ => .enable) _) fun _ => .pure _
  unfold setState
  dsimp only
  split
  case' h_1 =>
    unfold Blend.State.apply
    refine .bind (.bind (.still _ rfl) fun _ => .still _ rfl) fun _ => ?_
  -- Whether there is blending or not, the culled face comes next.
  all_goals
    split
    · exact .bind (.still _ rfl) fun _ => enable
    · exact enable

theorem revertState_passes (plan : Plan) (blend : Option Blend.State) :
    Passes want (drawState plan blend) .atRest (revertState plan blend) := by
  have hoff : (drawState plan blend).disableAll (plan.toggles blend).capabilities =
      ⟨[], plan.options.depthTest.writes⟩ := FixedState.disableAll_enableAll _ _
  unfold revertState
  refine .bind (.switches (fun _ => .disable) _) fun _ => ?_
  change Passes want ((drawState plan blend).disableAll _) _ _
  rw [hoff]
  exact .bind (.depthMask true) fun _ => .still _ rfl

/-- The strip is drawn in the fixed state that the draw has set up. -/
theorem drawStrip_passes {plan : Plan} {blend : Option Blend.State}
    (hwant : want (drawState plan blend)) (program : Shader.Program) (uniforms : Uniform.Values) :
    Passes want (drawState plan blend) (drawState plan blend)
      (drawStrip plan program uniforms) := by
  have hdraw : Passes want (drawState plan blend) (drawState plan blend)
      (perform (.drawArraysInstanced Constant.triangleStrip 0 plan.vertices.toInt32
        plan.instances.toInt32)) := by
    refine .perform _ (fun s hs => ?_) fun _ => hwant
    have hemulated : s.SameFixed s.runEmulator :=
      State.runEmulator_moves (fun s id f _ => State.sameFixed_modifyTexture s id f) s
    exact hemulated.fixed.trans hs
  -- The draw call is the last step, and those before it leave the fixed state alone.
  have hprepare (buffer : Name) : Moves (Over buffer Still) (do
      let geometry ← (← get).geometry.ensure (max plan.vertices plan.instances)
      modify fun r => { r with geometry }
      geometry.bind
      let samplers ← onStore (program.applyUniforms uniforms (← get).samplers)
      modify fun r => { r with samplers } : StateM (Renderer State) Unit) := by
    refine ensure_moves permits_still.toBinding ?_ _ fun geometry => ?_
    · exact fun _ _ _ s => permitsParts_still.command _ rfl s
    · refine .bind (plain_moves permits_still.toBinding _ rfl rfl rfl) fun _ => .bind .get fun r => ?_
      refine .bind (applyUniforms_moves permits_still.toBinding.toUploads _ _ _) fun _ => ?_
      exact .modify fun r => along_of_eq rfl rfl id
  have hstrip : drawStrip plan program uniforms = (do
      let geometry ← (← get).geometry.ensure (max plan.vertices plan.instances)
      modify fun r => { r with geometry }
      geometry.bind
      let samplers ← onStore (program.applyUniforms uniforms (← get).samplers)
      modify fun r => { r with samplers } : StateM (Renderer State) Unit) >>= fun _ =>
      perform (.drawArraysInstanced Constant.triangleStrip 0 plan.vertices.toInt32
        plan.instances.toInt32) := by
    unfold drawStrip
    simp only [bind_assoc]
  rw [hstrip]
  exact .bind (.of_over hprepare) fun _ => hdraw

/-- A refused program has its depth mask put back; one that is found is run and cleaned up after. -/
theorem runStages_passes {plan : Plan} {blend : Option Blend.State}
    (hwant : want (drawState plan blend)) (uniforms : Uniform.Values) (view : Rect) :
    Passes want ⟨[], plan.options.depthTest.writes⟩ .atRest
      (runStages plan blend uniforms view).run := by
  have rest (program : Shader.Program) : Passes want ⟨[], plan.options.depthTest.writes⟩ .atRest
      (do
        perform (.useProgram (some program.name))
        setState plan blend
        perform (.viewport view)
        drawStrip plan program (plan.withBuiltins uniforms view)
        revertState plan blend) :=
    .bind (.still _ rfl) fun _ => .bind (setState_passes plan blend) fun _ =>
      .bind (.still _ rfl) fun _ => .bind (drawStrip_passes hwant _ _) fun _ =>
        revertState_passes plan blend
  intro r hr
  have hprogram : Still r.store ((program plan.options uniforms).run r).2.store :=
    (program_moves permits_still.toBinding _ _ r rfl).2.1
  unfold runStages
  rcases hp : (program plan.options uniforms).run r with ⟨e | p, r'⟩ <;> rw [hp] at hprogram
  -- The refusal is caught to put the depth mask back, and then thrown again.
  · have hcatch : (tryCatch (program plan.options uniforms) fun refusal => do
        Attempt.perform (.depthMask true)
        throw refusal).run r = (.error e, (perform (.depthMask true) r').2) := by
      rw [Attempt.run_tryCatch, hp]
      rfl
    rw [Attempt.run_bind_error hcatch]
    have hmask : Passes want ⟨[], plan.options.depthTest.writes⟩ .atRest
      (perform (.depthMask true)) := .depthMask true
    obtain ⟨hdraws, hrest⟩ := hmask r' (hprogram.fixed.trans hr)
    exact ⟨IsTrans.trans r.store.device _ _ hprogram.draws hdraws, hrest⟩
  · have hcatch : (tryCatch (program plan.options uniforms) fun refusal => do
        Attempt.perform (.depthMask true)
        throw refusal).run r = (.ok p, r') := by
      rw [Attempt.run_tryCatch, hp]
    rw [Attempt.run_bind_ok hcatch]
    obtain ⟨hdraws, hrest⟩ := rest p r' (hprogram.fixed.trans hr)
    exact ⟨IsTrans.trans r.store.device _ _ hprogram.draws hdraws, hrest⟩

/-- Rendering starts at rest and ends at rest. -/
theorem render_passes {plan : Plan} {blend : Option Blend.State}
    (hwant : want (drawState plan blend)) (uniforms : Uniform.Values) (size : UInt32 × UInt32) :
    Passes want .atRest .atRest (render plan blend uniforms size).run := by
  have stages (view : Rect) : Passes want ⟨[], plan.options.depthTest.writes⟩ .atRest
      (if plan.options.hasStages then runStages plan blend uniforms view
        else Attempt.perform (.depthMask true)).run := by
    split
    · exact runStages_passes hwant _ _
    · exact .bind (.depthMask true) fun _ => .pure _
  unfold render
  refine .bind_lift (.depthMask _) fun _ => ?_
  dsimp only
  split
  · exact .bind_lift (clearView_passes _ _ _) fun _ => stages _
  · exact stages _

/-- The blend equation that a draw goes on with is the one that its spec means. -/
theorem blendState_isSome {spec : Option String} {r r' : Renderer State}
    {blend : Option Blend.State} (hsound : r.blends.Sound)
    (h : (blendState spec).run r = (.ok blend, r')) :
    blend.isSome ↔ ∃ s state, spec = some s ∧ Blend.parse s = .ok (some state) := by
  unfold blendState at h
  cases spec with
  | none =>
    cases h
    exact ⟨nofun, fun ⟨_, _, hs, _⟩ => nomatch hs⟩
  | some spec =>
    rw [Attempt.run_bind_ok (Attempt.run_get r), Attempt.run_bind_ok (Attempt.run_modify _ r),
      Blend.Memo.parse_eq hsound] at h
    rcases hparse : Blend.parse spec with cause | state <;> rw [hparse] at h <;> cases h
    constructor
    · intro hsome
      obtain ⟨state, rfl⟩ := Option.isSome_iff_exists.1 hsome
      exact ⟨spec, state, rfl, hparse⟩
    · rintro ⟨s, state, hs, hstate⟩
      cases hs
      rw [hparse] at hstate
      cases hstate
      rfl

/-- What a draw settles on is what its bag says. -/
theorem settle_eq_ok {bag : Params.Bag} {destination : Destination} {r r' : Renderer State}
    {plan : Plan} {blend : Option Blend.State} {resolved : Resolved} (hsound : r.blends.Sound)
    (h : (settle bag destination).run r = (.ok (plan, blend, resolved), r')) :
    Plan.ofBag bag = .ok plan ∧ (drawState plan blend).Serves plan.options := by
  unfold settle at h
  obtain ⟨plan', r₁, hplan, h⟩ := Attempt.run_bind_eq_ok.1 h
  obtain ⟨blend', r₂, hblend, h⟩ := Attempt.run_bind_eq_ok.1 h
  obtain ⟨resolved', r₃, -, h⟩ := Attempt.run_bind_eq_ok.1 h
  cases h
  rw [Attempt.run_ofExcept] at hplan
  injection hplan with hplan hr
  subst hr
  exact ⟨hplan, drawState_serves (blendState_isSome hsound hblend)⟩

/-- A draw starts at rest and ends at rest, wherever it is refused. -/
theorem draw_passes (bag : Params.Bag) (destination : Destination) {r : Renderer State}
    (hrest : r.store.device.fixed = .atRest) (hblends : r.blends.Sound) :
    r.store.device.Draws (fun f => ∃ plan, Plan.ofBag bag = .ok plan ∧ f.Serves plan.options)
        ((draw bag destination).run r).2.store.device ∧
      ((draw bag destination).run r).2.store.device.fixed = .atRest := by
  -- The fixed state is not touched before the target has been settled.
  have hsettle : Still r.store ((settle bag destination).run r).2.store :=
    (settle_moves permits_still bag (fun _ _ => trivial) r rfl).2.1
  rw [draw_eq]
  rcases hs : (settle bag destination).run r with ⟨e | ⟨plan, blend, resolved⟩, r'⟩ <;>
    rw [hs] at hsettle
  · rw [Attempt.run_bind_error hs]
    exact ⟨hsettle.draws, hsettle.fixed.trans hrest⟩
  rw [Attempt.run_bind_ok hs]
  obtain ⟨hplan, hserves⟩ := settle_eq_ok hblends hs
  have hpaint : Passes (fun f => ∃ plan, Plan.ofBag bag = .ok plan ∧ f.Serves plan.options)
      .atRest .atRest (paint plan blend resolved).run := by
    unfold paint
    refine .bind_lift (.of_over fun buffer => withSource_moves _ _) fun uniforms => ?_
    refine .bind_try (.of_over fun buffer => ?_) fun size => ?_
    · exact bind_moves permits_still.toBinding fun _ _ s => refl s.device
    · exact render_passes ⟨plan, hplan, hserves⟩ uniforms size
  have hrest' : Passes (fun f => ∃ plan, Plan.ofBag bag = .ok plan ∧ f.Serves plan.options)
      .atRest .atRest (do
        unless onlyPrepares plan destination do paint plan blend resolved
        return resolved : Attempt DrawError (Renderer State) Resolved).run := by
    dsimp only
    split
    · exact .pure _
    · exact .bind_try hpaint fun _ => .pure _
  obtain ⟨hdraws, hend⟩ := hrest' r' (hsettle.fixed.trans hrest)
  exact ⟨IsTrans.trans r.store.device _ _ hsettle.draws hdraws, hend⟩

end Renderer

/-! ### Runs -/

/-- What an act wants of the fixed state in which it draws. -/
def Act.Wants : Act → FixedState → Prop
  | draw bag _, f => ∃ plan, Plan.ofBag bag = .ok plan ∧ f.Serves plan.options
  | _, _ => False

/-- A draw reads its blend spec from memory only if it has been read before. -/
theorem Renderer.sound_draw (bag : Params.Bag) (destination : Destination) {r : Renderer State}
    (h : r.blends.Sound) : ((draw bag destination).run r).2.blends.Sound := by
  have : IsPreorder (Store State) fun _ _ => True :=
    { refl := fun _ => trivial, trans := fun _ _ _ _ _ => trivial }
  have hpermits : Store.Permits (fun (_ _ : Store State) => True) fun _ => True :=
    ⟨⟨fun _ _ _ _ => trivial, fun _ _ _ _ => trivial⟩, fun _ _ _ _ _ _ => trivial,
      fun _ _ => trivial, fun _ _ _ _ _ _ => trivial⟩
  exact (draw_moves hpermits (fun _ _ _ _ => trivial) (fun _ _ _ => trivial)
    (fun _ _ => trivial) bag (fun _ _ => trivial) r rfl).2.2 h

/-- An act that starts at rest ends at rest, and draws as it wants to. -/
theorem Act.after_draws (act : Act) {r : Renderer State}
    (hrest : r.store.device.fixed = .atRest) (hblends : r.blends.Sound) :
    r.store.device.Draws act.Wants (act.after r).store.device ∧
      (act.after r).store.device.fixed = .atRest ∧ (act.after r).blends.Sound := by
  by_cases hact : ∃ bag destination, act = .draw bag destination
  · obtain ⟨bag, destination, rfl⟩ := hact
    obtain ⟨hdraws, hrest'⟩ := Renderer.draw_passes bag destination hrest hblends
    exact ⟨hdraws, hrest', Renderer.sound_draw bag destination hblends⟩
  · obtain ⟨-, hstill, hblends'⟩ := Act.after_moves Renderer.permits_still
      (fun _ _ s => refl s.device) (fun change _ s => change.sameFixed s.device)
      Renderer.permitsParts_still.toReads (fun bag destination h => hact ⟨bag, destination, h⟩)
      r rfl
    exact ⟨State.SameFixed.draws hstill, (State.SameFixed.fixed hstill).trans hrest,
      hblends' hblends⟩

/-- What holds of the fixed state between the calls of the host. -/
theorem ReachableBy.atRest {P : Act → Prop} {r : Renderer State} (hr : ReachableBy P r) :
    r.store.device.fixed = .atRest ∧ r.blends.Sound := by
  refine ReachableBy.invariant (I := fun r => r.store.device.fixed = .atRest ∧ r.blends.Sound)
    (fun config width height r hr => ?_) (fun act r _ h => (act.after_draws h.1 h.2).2) hr
  have hstill := Renderer.create_moves Renderer.permitsParts_still hr
  exact ⟨State.SameFixed.fixed hstill, Renderer.sound_create hr⟩

/-- Between any two calls nothing is enabled and depth is written, and every instanced draw that a
call makes is made with exactly the capabilities and the depth mask that its bag asks for. -/
theorem fixed_state_does_not_leak {r : Renderer State} (hr : Reachable r) (act : Act) :
    (act.after r).store.device.enabled = [] ∧ (act.after r).store.device.depthMask = true ∧
    ∃ calls, (act.after r).store.device.calls = r.store.device.calls ++ calls ∧
      (act.after r).store.device.fixed = r.store.device.fixed.replay calls ∧
      ∀ before mode count instances later,
        calls = before ++ .drawArraysInstanced mode count instances :: later →
        ∃ bag destination plan, act = .draw bag destination ∧ Plan.ofBag bag = .ok plan ∧
          (r.store.device.fixed.replay before).Serves plan.options := by
  obtain ⟨hrest, hblends⟩ := hr.atRest
  obtain ⟨⟨calls, hcalls, hfixed, hdrawn⟩, hrest', -⟩ := act.after_draws hrest hblends
  refine ⟨congrArg FixedState.enabled hrest', congrArg FixedState.depthMask hrest', calls, hcalls,
    hfixed, fun before mode count instances later heq => ?_⟩
  have hwants := hdrawn.at heq
  cases act with
  | draw bag destination =>
    obtain ⟨plan, hplan, hserves⟩ := hwants
    exact ⟨bag, destination, plan, rfl, hplan, hserves⟩
  | _ => exact hwants.elim

/-- The first draw of a renderer, blended and with depth tested. -/
theorem fixed_state_does_not_leak_from_first_draw :
    ∃ r : Renderer State, Reachable r ∧
      ((Act.draw (.ofList [("FP", .text "1.0"), ("Blend", .text "s+d"), ("DepthTest", .text "keep")])
        .screen).after r).store.device.enabled = [] := by
  obtain ⟨r, hr⟩ := Renderer.exists_create {} { device := State.new 1 1 }
  exact ⟨r, .start hr, (fixed_state_does_not_leak (.start hr) _).1⟩

end DrawPass
