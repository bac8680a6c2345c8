/-
DrawPass/Proofs/RendererMoves.lean

The stages of a draw move along every preorder of stores that permits what they are made of.

A renderer acts on its store, and beside it changes only what it remembers: programs,
blend specs, sampler objects, expansions, and the capacity of its index array.  The
relation `Along` says so; what it keeps true of the index array is left open, because only
the drawing of a strip changes the array at all.  `Over` is the case that the buffer of the
array stays the same one, which is the only buffer a renderer writes without a pool.

The stages that switch no capability are walked through first, for any relation that
permits plain commands; whole draws and resets follow for a relation that permits the
switches and the draw itself as well.
-/
import DrawPass.Proofs.StoreMoves
import DrawPass.Renderer.Draw

namespace DrawPass

open Gl DrawPass.Geometry Shader Software

/-! ### Remembered blend specs -/

/-- What is remembered of blend specs is what reading them gives. -/
def Blend.Memo.Sound (m : Memo) : Prop :=
  ∀ spec state, m.parsed.get? spec = some state → Blend.parse spec = .ok state

/-- A spec means the same from memory as when it is read. -/
theorem Blend.Memo.parse_eq {m : Memo} (h : m.Sound) (spec : String) :
    (m.parse spec).1 = Blend.parse spec := by
  unfold parse
  split
  · rename_i state hstate
    exact (h spec state hstate).symm
  · split <;> rename_i hparse <;> exact hparse.symm

theorem Blend.Memo.sound_parse {m : Memo} (h : m.Sound) (spec : String) :
    (m.parse spec).2.Sound := by
  unfold parse
  split
  · exact h
  · split
    · rename_i state hparse
      intro spec' state' hstate
      rw [Table.get?_insert] at hstate
      split at hstate
      · cases hstate
        subst_vars
        exact hparse
      · exact h spec' state' hstate
    · exact h

namespace Renderer

theorem run_tryOnStore {ε α : Type} (act : Attempt ε (Store State) α) (r : Renderer State) :
    (tryOnStore act).run r = ((act.run r.store).1, { r with store := (act.run r.store).2 }) := rfl

/-! ### The stages of a draw -/

section Stages

variable {σ : Type} [Device σ]

/-- What comes first in a draw and may be refused before anything has been bound: the bag is
read, the blend spec is read, and the target is found or made. -/
def settle (bag : Params.Bag) (destination : Destination) :
    Attempt DrawError (Renderer σ) (Plan × Option Blend.State × Resolved) := do
  let plan ← Plan.ofBag bag
  let blend ← blendState plan.options.blend
  let resolved ← resolve destination
  return (plan, blend, resolved)

/-- Clear the bound target and run the snippets on it. -/
def render (plan : Plan) (blend : Option Blend.State) (uniforms : Uniform.Values)
    (size : UInt32 × UInt32) : Attempt DrawError (Renderer σ) Unit := do
  let view := plan.options.viewRect size.1 size.2
  Attempt.perform (.depthMask plan.options.depthTest.writes)
  if let some color := plan.options.clear then ExceptT.lift (clearView view color)
  if plan.options.hasStages then runStages plan blend uniforms view
  else Attempt.perform (.depthMask true)

/-- Bind a target that has been settled on, and draw into it. -/
def paint (plan : Plan) (blend : Option Blend.State) (resolved : Resolved) :
    Attempt DrawError (Renderer σ) Unit := do
  let uniforms ← ExceptT.lift (withSource resolved plan.uniforms)
  let size ← bind resolved
  render plan blend uniforms size

/-- A draw settles on its target and, unless that is all, paints it. -/
theorem draw_eq (bag : Params.Bag) (destination : Destination) :
    (draw bag destination : Attempt DrawError (Renderer σ) Resolved) = do
      let (plan, blend, resolved) ← settle bag destination
      unless onlyPrepares plan destination do paint plan blend resolved
      return resolved := by
  unfold draw settle paint render
  simp only [bind_assoc, pure_bind]
  refine bind_congr fun plan => bind_congr fun blend => bind_congr fun resolved => ?_
  split
  · rfl
  · refine bind_congr fun uniforms => bind_congr fun size => bind_congr fun _ => ?_
    have hrun : ∀ stages : Bool, ∀ run mask : Attempt DrawError (Renderer σ) Unit,
        (if stages then run >>= fun _ => pure resolved else mask >>= fun _ => pure resolved) =
          (if stages then run else mask) >>= fun _ => pure resolved := by
      intro stages run mask
      cases stages <;> rfl
    cases plan.options.clear with
    | none => exact hrun _ _ _
    | some color => simp only [hrun, bind_assoc]

end Stages

/-! ### Settling on a target -/

section Settling

variable {Q : Renderer State → Renderer State → Prop} [IsPreorder (Renderer State) Q]

/-- What is remembered of blend specs is all that reading one can change. -/
theorem blendState_moves_of
    (hblends : ∀ (r : Renderer State) (spec : String),
      Q r { r with blends := (r.blends.parse spec).2 })
    (spec : Option String) :
    Attempt.Moves Q (blendState spec : Attempt DrawError (Renderer State) (Option Blend.State)) := by
  unfold blendState
  split
  · exact .pure _
  · refine .bind_get fun r => Attempt.Moves.bind_at (hblends r _) fun _ => ?_
    split
    · exact .pure _
    · exact .throw _

theorem resolve_moves_of (hregistry : ∀ (r : Renderer State) registry, Q r { r with registry })
    {destination : Destination}
    (hprepare : ∀ spec, destination = .spec spec → ∀ registry : Registry, Attempt.Moves Q
      (tryOnStore (registry.prepare spec) : Attempt DrawError (Renderer State) _)) :
    Attempt.Moves Q
      (resolve destination : Attempt DrawError (Renderer State) Resolved) := by
  unfold resolve
  split
  · exact .pure _
  · exact .pure _
  · exact .pure _
  · rename_i spec
    refine .bind .get fun r => .bind (hprepare spec rfl r.registry) fun _ => ?_
    exact .bind (.modify fun r => hregistry r _) fun _ => .pure _

theorem settle_moves_of
    (hblends : ∀ (r : Renderer State) (spec : String),
      Q r { r with blends := (r.blends.parse spec).2 })
    (bag : Params.Bag) {destination : Destination}
    (hresolve : Attempt.Moves Q
      (resolve destination : Attempt DrawError (Renderer State) Resolved)) :
    Attempt.Moves Q (settle bag destination : Attempt DrawError (Renderer State) _) := by
  unfold settle
  refine .bind (.ofExcept _) fun plan => .bind (blendState_moves_of hblends _) fun blend => ?_
  exact .bind hresolve fun resolved => .pure _

end Settling

/-! ### Acting on the store -/

/-- The stores are related, what is known of the index array stays true, and so does what is
remembered of blend specs. -/
def Along (I : IndexArray → Prop) (R : Store State → Store State → Prop)
    (r r' : Renderer State) : Prop :=
  I r.geometry → I r'.geometry ∧ R r.store r'.store ∧ (r.blends.Sound → r'.blends.Sound)

/-- The stores are related, and the index array keeps its buffer. -/
abbrev Over (buffer : Name) (R : Store State → Store State → Prop) :
    Renderer State → Renderer State → Prop := Along (fun a => a.buffer = buffer) R

variable {ε α : Type} {I : IndexArray → Prop} {buffer : Name}
  {R : Store State → Store State → Prop} {G : TargetSpec → Prop}

instance [IsPreorder (Store State) R] : IsPreorder (Renderer State) (Along I R) where
  refl r hr := ⟨hr, refl r.store, id⟩
  trans r r' r'' h h' hr := by
    obtain ⟨hr', hR, hblends⟩ := h hr
    obtain ⟨hr'', hR', hblends'⟩ := h' hr'
    exact ⟨hr'', IsTrans.trans r.store r'.store r''.store hR hR', hblends' ∘ hblends⟩

theorem onStore_moves {act : StateM (Store State) α} (h : Moves R act) :
    Moves (Along I R) (onStore act) :=
  fun r hr => ⟨hr, h r.store, id⟩

theorem tryOnStore_moves {act : Attempt ε (Store State) α} (h : Attempt.Moves R act) :
    Attempt.Moves (Along I R) (tryOnStore act) :=
  fun r hr => ⟨hr, h r.store, id⟩

theorem perform_moves {command : Command α}
    (h : Moves R (perform command : StateM (Store State) α)) :
    Moves (Along I R) (perform command : StateM (Renderer State) α) :=
  onStore_moves h

variable [IsPreorder (Store State) R]

/-- What a renderer remembers may change. -/
theorem along_of_eq {r r' : Renderer State} (hstore : r'.store = r.store)
    (hgeometry : r'.geometry = r.geometry)
    (hblends : r.blends.Sound → r'.blends.Sound) : Along I R r r' := by
  refine fun hr => ⟨by rwa [hgeometry], ?_, hblends⟩
  rw [hstore]
  exact refl r.store

/-! ### Stages that switch nothing -/

theorem withSource_moves (resolved : Resolved) (uniforms : Uniform.Values) :
    Moves (Along I R)
      (withSource resolved uniforms : StateM (Renderer State) Uniform.Values) := by
  unfold withSource
  refine .bind .get fun r => ?_
  dsimp only
  split
  · split <;> exact .pure _
  · exact .pure _

/-- Finding the target of a draw, if the target of a spec can be prepared. -/
theorem resolve_moves_by {destination : Destination}
    (hprepare : ∀ spec, destination = .spec spec → ∀ registry : Registry, Attempt.Moves R
      (registry.prepare spec : Attempt DrawError (Store State) _)) :
    Attempt.Moves (Along I R)
      (resolve destination : Attempt DrawError (Renderer State) Resolved) :=
  resolve_moves_of (fun _ _ => along_of_eq rfl rfl id) fun spec hspec registry =>
    tryOnStore_moves (hprepare spec hspec registry)

theorem settle_moves_by (bag : Params.Bag) {destination : Destination}
    (hresolve : Attempt.Moves (Along I R)
      (resolve destination : Attempt DrawError (Renderer State) Resolved)) :
    Attempt.Moves (Along I R)
      (settle bag destination : Attempt DrawError (Renderer State) _) :=
  settle_moves_of (fun _ _ => along_of_eq rfl rfl fun h => Blend.Memo.sound_parse h _) bag hresolve

section Linking

/-- A program is looked at without stages being compiled or linked. -/
theorem introspect_moves_by (hplain : ∀ {α : Type} (command : Command α), command.keepsFixed →
      command.keepsObjects → command.sparesTargets → command.keepsShaders →
      Moves R (perform command : StateM (Store State) α)) (name : Name) :
    Moves (Along I R) (Program.introspect name : StateM (Renderer State) (List Setter)) := by
  have plain {α : Type} (command : Command α) (hfixed : command.keepsFixed)
      (hobjects : command.keepsObjects) (hspares : command.sparesTargets)
      (hshaders : command.keepsShaders) :
      Moves (Along I R) (perform command : StateM (Renderer State) α) :=
    perform_moves (hplain command hfixed hobjects hspares hshaders)
  exact Program.introspect_moves (plain _ rfl rfl rfl rfl) (plain _ rfl rfl rfl rfl)
    (plain _ rfl rfl rfl rfl) (fun _ => plain _ rfl rfl rfl rfl) fun _ _ => plain _ rfl rfl rfl rfl

/-- The program of snippets that are known is the one that is remembered. -/
theorem program_known {r : Renderer State} {options : Params.Options} {uniforms : Uniform.Values}
    {p : Shader.Program}
    (hkey : r.programs.programs.get? ⟨options.includes, options.vertex, options.fragment⟩ =
      some p) : (program options uniforms).run r = (.ok p, r) := by
  unfold program
  dsimp only
  rw [Attempt.run_bind_ok (Attempt.run_get r)]
  unfold ProgramCache.resolve
  rw [hkey]
  rfl

/-- The program of snippets that are not known is linked, and remembered. -/
theorem program_new {r r₁ : Renderer State} {options : Params.Options} {uniforms : Uniform.Values}
    {key : ProgramKey} (heq : key = ⟨options.includes, options.vertex, options.fragment⟩)
    (hkey : r.programs.programs.get? key = none) {sources : Sources}
    (hassemble : (assemble key uniforms : StateM (Renderer State) Sources) r = (sources, r₁)) :
    (program options uniforms).run r =
      match (Program.link sources : Attempt DrawError (Renderer State) _).run r₁ with
      | (.ok p, r₂) => (.ok p, { r₂ with programs := ⟨r.programs.programs.insert key p⟩ })
      | (.error e, r₂) => (.error e, r₂) := by
  unfold program
  dsimp only
  rw [Attempt.run_bind_ok (Attempt.run_get r), ← heq]
  unfold ProgramCache.resolve
  rw [hkey]
  dsimp only
  rw [bind_assoc, Attempt.run_bind_ok (Attempt.run_lift_ok hassemble), bind_assoc]
  rcases hlink : (Program.link sources : Attempt DrawError (Renderer State) _).run r₁ with
    ⟨e | p, r₂⟩
  · exact Attempt.run_bind_error hlink
  · exact Attempt.run_bind_ok hlink

variable (hplain : ∀ {α : Type} (command : Command α), command.keepsFixed → command.keepsObjects →
  command.sparesTargets → Moves R (perform command : StateM (Store State) α))
include hplain

/-- Finding the program of a draw, if the commands with which programs are made are permitted. -/
theorem program_moves_by (options : Params.Options) (uniforms : Uniform.Values) :
    Attempt.Moves (Along I R)
      (program options uniforms : Attempt DrawError (Renderer State) Shader.Program) := by
  have assemble (key : ProgramKey) : Moves (Along I R)
      (assemble key uniforms : StateM (Renderer State) Sources) :=
    .modifyGet fun r => along_of_eq rfl rfl id
  have compile (stage : Stage) (source : String) : Attempt.Moves (Along I R)
      (Program.compile stage source : Attempt DrawError (Renderer State) Name) :=
    .create (perform_moves (hplain _ rfl rfl rfl))
  have link (sources : Sources) : Attempt.Moves (Along I R)
      (Program.link sources : Attempt DrawError (Renderer State) Shader.Program) := by
    unfold Program.link
    refine .bind (compile _ _) fun vertex => .bind (compile _ _) fun fragment => ?_
    refine .bind (.create (perform_moves (hplain _ rfl rfl rfl))) fun name => ?_
    have introspect (name : Name) : Moves (Along I R)
        (Program.introspect name : StateM (Renderer State) (List Setter)) :=
      introspect_moves_by (fun command hfixed hobjects hspares _ =>
        hplain command hfixed hobjects hspares) name
    exact .bind (.lift (introspect name)) fun _ => .pure _
  unfold program
  dsimp only
  refine .bind .get fun r => .bind ?_ fun _ => ?_
  · unfold ProgramCache.resolve
    split
    · exact .pure _
    · exact .bind (.lift (assemble _)) fun _ => .bind (link _) fun _ => .pure _
  · exact .bind (.modify fun r => along_of_eq rfl rfl id) fun _ => .pure _

end Linking

/-- The index array may be made longer, if its buffer may be written; it stays the same buffer. -/
theorem ensure_moves_by (hindex : ∀ target data usage, Moves R
      (perform (.bufferData target buffer data usage) : StateM (Store State) Unit))
    (hattribute : ∀ vertexArray buffer location divisor, Moves R
      (perform (.intAttribute vertexArray buffer location divisor) : StateM (Store State) Unit))
    (needed : UInt32) {next : IndexArray → StateM (Renderer State) α}
    (hnext : ∀ a, Moves (Over buffer R) (next a)) :
    Moves (Over buffer R) (do
      let geometry ← (← get).geometry.ensure needed
      modify fun r => { r with geometry }
      next geometry) := by
  refine .bind_get fun r hr => ?_
  -- The two halves are taken together: that the new array has the old buffer is known only here.
  suffices hs : Over buffer R r (((do
      let geometry ← r.geometry.ensure needed
      modify fun r => { r with geometry }
      return geometry) : StateM (Renderer State) IndexArray) r).2 from
    IsTrans.trans (r := Over buffer R) r _ _ hs (hnext _ _) hr
  unfold IndexArray.ensure
  split
  · exact along_of_eq rfl rfl id
  · intro _
    have hdata : Moves (Over buffer R) (do
        perform (.bufferData Constant.arrayBuffer r.geometry.buffer
          (indexBytes (IndexArray.capacityFor needed)) Constant.staticDraw)
        perform (.intAttribute r.geometry.vertexArray r.geometry.buffer 0 0)
        perform (.intAttribute r.geometry.vertexArray r.geometry.buffer 1 1) :
        StateM (Renderer State) Unit) := by
      rw [hr]
      exact .bind (perform_moves (hindex _ _ _)) fun _ =>
        .bind (perform_moves (hattribute _ _ _ _)) fun _ => perform_moves (hattribute _ _ _ _)
    exact ⟨hr, (hdata r hr).2⟩

/-- Binding what is drawn into, if targets and the screen may be bound and a story that is drawn
into may turn. -/
theorem bind_moves_by {resolved : Resolved}
    (hscreen : Moves R (perform (.bindFramebuffer none) : StateM (Store State) Unit))
    (hsize : Moves R (perform .drawingBufferSize : StateM (Store State) (UInt32 × UInt32)))
    (hslot : ∀ key, Attempt.Moves R
      (Store.bindTarget key false : Attempt DrawError (Store State) (UInt32 × UInt32)))
    (hrotate : ∀ key, resolved = .story key → ∀ s : Store State, R s (s.rotate key)) :
    Attempt.Moves (Along I R)
      (bind resolved : Attempt DrawError (Renderer State) (UInt32 × UInt32)) := by
  unfold bind
  split
  · exact .bind (.lift (perform_moves hscreen)) fun _ => .lift (perform_moves hsize)
  · exact tryOnStore_moves (hslot _)
  · refine .bind (.modify fun r hr => ⟨hr, hrotate _ rfl r.store, id⟩) fun _ => .bind .get fun r => ?_
    split
    · exact tryOnStore_moves (hslot _)
    · exact .throw _

theorem applyUniforms_moves (h : Store.PermitsUploads R) (program : Shader.Program)
    (uniforms : Uniform.Values) (cache : Sampling.Cache) : Moves (Along I R)
      (onStore (program.applyUniforms uniforms cache) :
        StateM (Renderer State) Sampling.Cache) :=
  onStore_moves (Store.applyUniforms_moves h program uniforms cache)

section

variable (h : Store.Permits R G)
include h

theorem resolve_moves {destination : Destination}
    (hspec : ∀ spec, destination = .spec spec → G spec) :
    Attempt.Moves (Along I R)
      (resolve destination : Attempt DrawError (Renderer State) Resolved) :=
  resolve_moves_by fun spec hdestination registry =>
    Store.prepare_moves (Store.update_moves h.toPermitsContents) (h.plain _ rfl rfl) registry
      fun format size => h.make registry spec format size (hspec spec hdestination)

theorem settle_moves (bag : Params.Bag) {destination : Destination}
    (hspec : ∀ spec, destination = .spec spec → G spec) :
    Attempt.Moves (Along I R)
      (settle bag destination : Attempt DrawError (Renderer State) _) :=
  settle_moves_by bag (resolve_moves h hspec)

end

section

variable (h : Store.PermitsBinding R)
include h

omit [IsPreorder (Store State) R] in
theorem plain_moves (command : Command α) (hfixed : command.keepsFixed)
    (hobjects : command.keepsObjects) (hspecifies : command.specifies = false) :
    Moves (Along I R) (perform command : StateM (Renderer State) α) :=
  perform_moves (h.plain command hfixed hobjects hspecifies)

theorem program_moves (options : Params.Options) (uniforms : Uniform.Values) :
    Attempt.Moves (Along I R)
      (program options uniforms : Attempt DrawError (Renderer State) Shader.Program) :=
  program_moves_by (fun command hfixed hobjects hspares =>
    h.plain command hfixed hobjects (command.specifies_of_sparesTargets hspares)) _ _

theorem bindSlot_moves (key : TargetKey) : Attempt.Moves (Along I R)
    (tryOnStore (Store.bindTarget key false) :
      Attempt DrawError (Renderer State) (UInt32 × UInt32)) :=
  tryOnStore_moves (Store.bindTarget_moves h key false)

/-- Binding what is drawn into, if a story that is drawn into may turn. -/
theorem bind_moves {resolved : Resolved}
    (hrotate : ∀ key, resolved = .story key → ∀ s : Store State, R s (s.rotate key)) :
    Attempt.Moves (Along I R)
      (bind resolved : Attempt DrawError (Renderer State) (UInt32 × UInt32)) :=
  bind_moves_by (h.plain _ rfl rfl rfl) (h.plain _ rfl rfl rfl)
    (fun key => Store.bindTarget_moves h key false) hrotate

theorem ensure_moves (hindex : ∀ target data usage, Moves R
      (perform (.bufferData target buffer data usage) : StateM (Store State) Unit))
    (needed : UInt32) {next : IndexArray → StateM (Renderer State) α}
    (hnext : ∀ a, Moves (Over buffer R) (next a)) :
    Moves (Over buffer R) (do
      let geometry ← (← get).geometry.ensure needed
      modify fun r => { r with geometry }
      next geometry) :=
  ensure_moves_by hindex (fun _ _ _ _ => h.plain _ rfl rfl rfl) needed hnext

end

/-! ### Settings -/

section Settings

variable {Q : Renderer State → Renderer State → Prop} [IsPreorder (Renderer State) Q]
  (hset : ∀ command : Command Unit, command.isSetting →
    Moves Q (perform command : StateM (Renderer State) Unit))
include hset

theorem clearView_moves (view : Rect) (color : Color) :
    Moves Q (clearView view color : StateM (Renderer State) Unit) := by
  unfold clearView
  exact .bind (hset _ rfl) fun _ => .bind (hset _ rfl) fun _ => .bind (hset _ rfl) fun _ => hset _ rfl

/-- The stages of a draw, if its program can be found and run. -/
theorem runStages_moves_of {plan : Plan} {blend : Option Blend.State} {uniforms : Uniform.Values}
    {view : Rect} (hprogram : Attempt.Moves Q
      (program plan.options uniforms : Attempt DrawError (Renderer State) Shader.Program))
    (hrun : ∀ program : Shader.Program, Moves Q (do
      perform (.useProgram (some program.name))
      setState plan blend
      perform (.viewport view)
      drawStrip plan program (plan.withBuiltins uniforms view)
      revertState plan blend : StateM (Renderer State) Unit)) :
    Attempt.Moves Q
      (runStages plan blend uniforms view : Attempt DrawError (Renderer State) Unit) := by
  unfold runStages
  refine .bind (.tryCatch hprogram fun refusal => ?_) fun program => .lift (hrun program)
  exact .bind (.lift (hset _ rfl)) fun _ => .throw _

/-- All that a draw does once it has bound what it draws into, if its stages may be run. -/
theorem render_moves_of {plan : Plan} {blend : Option Blend.State} {uniforms : Uniform.Values}
    (hstages : ∀ view, Attempt.Moves Q
      (runStages plan blend uniforms view : Attempt DrawError (Renderer State) Unit))
    (size : UInt32 × UInt32) : Attempt.Moves Q
      (render plan blend uniforms size : Attempt DrawError (Renderer State) Unit) := by
  have stages (view : Rect) : Attempt.Moves Q
      (if plan.options.hasStages then runStages plan blend uniforms view
        else Attempt.perform (.depthMask true) : Attempt DrawError (Renderer State) Unit) := by
    split
    · exact hstages view
    · exact .lift (hset _ rfl)
  unfold render
  refine .bind (.lift (hset _ rfl)) fun _ => ?_
  dsimp only
  split
  · exact .bind (.lift (clearView_moves hset _ _)) fun _ => stages _
  · exact stages _

end Settings

/-! Settings that clear nothing. -/

section Switches

variable {Q : Renderer State → Renderer State → Prop} [IsPreorder (Renderer State) Q]
  (hset : ∀ command : Command Unit, command.isSetting → command.sparesTargets →
    Moves Q (perform command : StateM (Renderer State) Unit))
include hset

theorem setState_moves (plan : Plan) (blend : Option Blend.State) :
    Moves Q (setState plan blend : StateM (Renderer State) Unit) := by
  have apply (state : Blend.State) :
      Moves Q (state.apply : StateM (Renderer State) Unit) := by
    unfold Blend.State.apply
    exact .bind (hset _ rfl rfl) fun _ => hset _ rfl rfl
  have enable : Moves Q (do
      for capability in (plan.toggles blend).capabilities do
        perform (.enable capability) : StateM (Renderer State) Unit) := by
    refine .bind (.forIn (fun capability _ => ?_) _ _) fun _ => .pure _
    exact .bind (hset _ rfl rfl) fun _ => .pure _
  unfold setState
  dsimp only
  split
  case' h_1 => refine .bind (apply _) fun _ => ?_
  -- Whether there is blending or not, the culled face comes next.
  all_goals
    split
    · exact .bind (hset _ rfl rfl) fun _ => enable
    · exact enable

theorem revertState_moves (plan : Plan) (blend : Option Blend.State) :
    Moves Q (revertState plan blend : StateM (Renderer State) Unit) := by
  unfold revertState
  refine .bind (.forIn (fun capability _ => ?_) _ _) fun _ => ?_
  · exact .bind (hset _ rfl rfl) fun _ => .pure _
  · exact .bind (hset _ rfl rfl) fun _ => hset _ rfl rfl

end Switches

/-! ### Running a program -/

section Running

variable (h : Store.PermitsUploads R)
  (hindex : ∀ target data usage, Moves R
    (perform (.bufferData target buffer data usage) : StateM (Store State) Unit))
  (hobjects : ∀ {α : Type} (command : Command α), command.keepsObjects →
    command.specifies = false → command.keepsShaders →
    Moves R (perform command : StateM (Store State) α))
include h hindex hobjects

theorem drawStrip_moves (plan : Plan) (program : Shader.Program) (uniforms : Uniform.Values) :
    Moves (Over buffer R)
      (drawStrip plan program uniforms : StateM (Renderer State) Unit) := by
  unfold drawStrip
  refine ensure_moves_by hindex (fun _ _ _ _ => h.plain _ rfl rfl rfl rfl) _ fun geometry => ?_
  refine .bind (perform_moves (hobjects _ rfl rfl rfl)) fun _ => .bind .get fun r => ?_
  refine .bind (applyUniforms_moves h _ _ _) fun _ => ?_
  exact .bind (.modify fun r => along_of_eq rfl rfl id) fun _ =>
    perform_moves (hobjects _ rfl rfl rfl)

/-- All that a draw does with its program once it has been found. -/
theorem runProgram_moves (plan : Plan) (blend : Option Blend.State) (program : Shader.Program)
    (uniforms : Uniform.Values) (view : Rect) : Moves (Over buffer R) (do
      perform (.useProgram (some program.name))
      setState plan blend
      perform (.viewport view)
      drawStrip plan program uniforms
      revertState plan blend : StateM (Renderer State) Unit) := by
  have setting (command : Command Unit) (hcommand : command.isSetting)
      (_ : command.sparesTargets) :
      Moves (Over buffer R) (perform command : StateM (Renderer State) Unit) :=
    perform_moves (hobjects command (command.keepsObjects_of_isSetting hcommand)
      (command.specifies_of_isSetting hcommand) (command.keepsShaders_of_isSetting hcommand))
  refine .bind (perform_moves (hobjects _ rfl rfl rfl)) fun _ => ?_
  refine .bind (setState_moves setting _ _) fun _ => ?_
  refine .bind (perform_moves (hobjects _ rfl rfl rfl)) fun _ => ?_
  exact .bind (drawStrip_moves h hindex hobjects _ _ _) fun _ => revertState_moves setting _ _

end Running

/-! ### Painting -/

section Painting

variable (h : Store.PermitsBinding R)
  (hindex : ∀ target data usage, Moves R
    (perform (.bufferData target buffer data usage) : StateM (Store State) Unit))
  (hobjects : ∀ {α : Type} (command : Command α), command.keepsObjects →
    command.specifies = false → Moves R (perform command : StateM (Store State) α))

omit [IsPreorder (Store State) R] in
include hobjects in
theorem setting_moves (command : Command Unit) (hcommand : command.isSetting) :
    Moves (Along I R) (perform command : StateM (Renderer State) Unit) :=
  perform_moves (hobjects command (command.keepsObjects_of_isSetting hcommand)
    (command.specifies_of_isSetting hcommand))

include h hindex hobjects

theorem runStages_moves (plan : Plan) (blend : Option Blend.State) (uniforms : Uniform.Values)
    (view : Rect) : Attempt.Moves (Over buffer R)
      (runStages plan blend uniforms view : Attempt DrawError (Renderer State) Unit) :=
  runStages_moves_of (setting_moves hobjects) (program_moves h _ _) fun _ =>
    runProgram_moves h.toUploads hindex
      (fun command hcommand hspecifies _ => hobjects command hcommand hspecifies) _ _ _ _ _

theorem render_moves (plan : Plan) (blend : Option Blend.State) (uniforms : Uniform.Values)
    (size : UInt32 × UInt32) : Attempt.Moves (Over buffer R)
      (render plan blend uniforms size : Attempt DrawError (Renderer State) Unit) :=
  render_moves_of (setting_moves hobjects) (runStages_moves h hindex hobjects plan blend uniforms)
    size

/-- All that comes after a draw has settled, if a story that is drawn into may turn. -/
theorem paint_moves {resolved : Resolved}
    (hrotate : ∀ key, resolved = .story key → ∀ s : Store State, R s (s.rotate key)) (plan : Plan)
    (blend : Option Blend.State) : Attempt.Moves (Over buffer R)
      (paint plan blend resolved : Attempt DrawError (Renderer State) Unit) := by
  unfold paint
  refine .bind (.lift (withSource_moves _ _)) fun uniforms => ?_
  exact .bind (bind_moves h hrotate) fun size => render_moves h hindex hobjects _ _ _ _

end Painting

/-! ### Whole draws -/

section

variable (h : Store.Permits R G)
include h

/-- A whole draw, if stories may turn. -/
theorem draw_moves (hindex : ∀ target data usage, Moves R
      (perform (.bufferData target buffer data usage) : StateM (Store State) Unit))
    (hobjects : ∀ {α : Type} (command : Command α), command.keepsObjects →
      Moves R (perform command : StateM (Store State) α))
    (hrotate : ∀ (s : Store State) (key : StoryKey), R s (s.rotate key))
    (bag : Params.Bag) {destination : Destination}
    (hspec : ∀ spec, destination = .spec spec → G spec) :
    Attempt.Moves (Over buffer R)
      (draw bag destination : Attempt DrawError (Renderer State) Resolved) := by
  rw [draw_eq]
  refine .bind (settle_moves h bag hspec) fun ⟨plan, blend, resolved⟩ => ?_
  dsimp only
  split
  · exact .pure _
  · refine .bind (paint_moves h.toBinding hindex (fun command hcommand _ => hobjects command hcommand)
      ?_ plan blend) fun _ => .pure _
    exact fun key _ s => hrotate s key

/-- A reset. -/
theorem reset_moves : Moves (Along I R) (reset : StateM (Renderer State) Unit) := by
  unfold reset
  refine .bind .get fun r => .bind ?_ fun _ =>
    .bind (.modify fun r => along_of_eq rfl rfl id) fun _ => ?_
  · unfold ProgramCache.clear
    refine .bind (.forIn (fun program _ => ?_) _ _) fun _ => .pure _
    exact .bind (plain_moves h.toBinding _ rfl rfl rfl) fun _ => .pure _
  · refine .bind .get fun r =>
      .bind (onStore_moves (Store.freeAll_moves h.free r.registry)) fun _ => ?_
    exact .modify fun r => along_of_eq rfl rfl id

end

/-! ### New renderers -/

/-- The device in memory never refuses a renderer. -/
theorem exists_create (config : Config) (s : Store State) :
    ∃ r : Renderer State, create config s = .ok r := ⟨_, rfl⟩

/-- Making a renderer, if the commands that it takes are permitted. -/
theorem create_moves_by (hcommand : ∀ {α : Type} (command : Command α), command.keepsFixed →
      command.sparesTargets → Moves R (perform command : StateM (Store State) α))
    (hreads : ∀ s s' : Store State, s'.device = s.device → s'.targets = s.targets →
      s'.stories = s.stories → R s s') {config : Config} {s : Store State} {r : Renderer State}
    (hr : create config s = .ok r) : R s r.store := by
  have ensure (a : IndexArray) (needed : UInt32) :
      Moves R (a.ensure needed : StateM (Store State) IndexArray) := by
    unfold IndexArray.ensure
    split
    · exact .pure _
    · refine .bind (hcommand _ rfl rfl) fun _ => .bind (hcommand _ rfl rfl) fun _ => ?_
      exact .bind (hcommand _ rfl rfl) fun _ => .pure _
  have setUp : Attempt.Moves R (setUp config : Attempt DrawError (Store State) IndexArray) := by
    unfold setUp IndexArray.create
    refine .bind (.lift (hcommand _ rfl rfl)) fun _ => .bind (.lift (hcommand _ rfl rfl)) fun _ => ?_
    refine .bind (.modify fun s => hreads s _ rfl rfl rfl) fun _ => ?_
    refine .bind (.create (hcommand _ rfl rfl)) fun _ => ?_
    exact .bind (.create (hcommand _ rfl rfl)) fun _ => .lift (ensure _ _)
  have hs := setUp s
  unfold create at hr
  split at hr
  · cases hr
  · rename_i geometry store hset
    cases hr
    rwa [hset] at hs

theorem create_moves (h : Store.PermitsParts R) {config : Config} {s : Store State}
    {r : Renderer State} (hr : create config s = .ok r) : R s r.store :=
  create_moves_by (fun command hfixed _ => h.command command hfixed) h.reads hr

/-- A new renderer remembers no blend specs. -/
theorem sound_create {config : Config} {s : Store State} {r : Renderer State}
    (hr : create config s = .ok r) : r.blends.Sound := by
  unfold create at hr
  split at hr
  · cases hr
  · cases hr
    exact fun _ _ h => nomatch h

/-- Making an index array longer writes its buffer and nothing else. -/
theorem run_ensure (a : IndexArray) (needed : UInt32) (s : Store State) :
    ∃ capacity buffers log, a.ensure needed s =
      ({ a with capacity }, { s with device := { s.device with buffers, log } }) := by
  unfold IndexArray.ensure
  split <;> exact ⟨_, _, _, rfl⟩

/-- Making the index array of a renderer longer acts on its store. -/
theorem ensure_eq_onStore (a : IndexArray) (needed : UInt32) :
    (a.ensure needed : StateM (Renderer State) IndexArray) = onStore (a.ensure needed) := by
  unfold IndexArray.ensure
  split <;> rfl

/-- A new device on which a vertex array and a buffer have been made. -/
def newDevice (width height : UInt32) : State :=
  { State.new width height with
    lastName := 2
    vertexArrays := [1]
    buffers := .insert .empty 2 []
    log := [.createBuffer 2, .createVertexArray 1, .pixelStore Constant.unpackAlignment 1,
      .pixelStore Constant.packAlignment 1] }

/-- The store of a renderer whose index array is still empty. -/
def newStore (config : Config) (width height : UInt32) : Store State :=
  { device := newDevice width height
    pollInterval := config.pollInterval
    profiling := config.profiling }

/-- A new renderer has made a vertex array and a buffer, and then written the buffer. -/
theorem create_eq {config : Config} {width height : UInt32} {r : Renderer State}
    (hr : create config { device := State.new width height } = .ok r) :
    ∃ capacity buffers log,
      (⟨1, 2, 0⟩ : IndexArray).ensure (max config.indexCapacity 1) (newStore config width height) =
        (⟨1, 2, capacity⟩, { newStore config width height with
          device := { newDevice width height with buffers, log } }) ∧
      r = { store := { newStore config width height with
              device := { newDevice width height with buffers, log } }
            config
            geometry := ⟨1, 2, capacity⟩
            assembler := { header := config.header }
            registry := { config } } := by
  obtain ⟨capacity, buffers, log, hensure⟩ :=
    run_ensure ⟨1, 2, 0⟩ (max config.indexCapacity 1) (newStore config width height)
  have hset : (setUp config).run { device := State.new width height } = (.ok ⟨1, 2, capacity⟩, _) :=
    congrArg (fun p : IndexArray × Store State => (Except.ok p.1, p.2)) hensure
  unfold create at hr
  rw [hset] at hr
  cases hr
  exact ⟨capacity, buffers, log, hensure, rfl⟩

theorem create_new {config : Config} {width height : UInt32} {r : Renderer State}
    (hr : create config { device := State.new width height } = .ok r) :
    ∃ device : State, device.lastName = 2 ∧ device.textures = .empty ∧
      device.framebuffers = .empty ∧ r.geometry.buffer = 2 ∧
      r.store = { device, pollInterval := config.pollInterval, profiling := config.profiling } := by
  obtain ⟨capacity, buffers, log, -, rfl⟩ := create_eq hr
  exact ⟨_, rfl, rfl, rfl, rfl, rfl⟩

end Renderer

end DrawPass
