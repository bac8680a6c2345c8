/-
DrawPass/Proofs/Stages.lean

What becomes of compiled stages.

A program is made in three steps: the vertex stage is compiled, then the fragment stage, and then
the device links the two, which uses both up whether or not the link succeeds.  A stage that does
not compile is not taken in.  So nothing is left of the stages, with one exception: if the fragment
stage does not compile there is no link, and the vertex stage stays where it is (`run_link_stages`).

Nothing else compiles or links.  An action that may be refused is followed by what it leaves
(`Attempt.Leaving`), and this adds up over the steps of a draw and over the acts of a run: the
stages on the device are one vertex stage for each draw that has been refused for its fragment
stage (`compiled_stages_left`).
-/
import DrawPass.Proofs.Refusals
import DrawPass.Proofs.Screen

namespace DrawPass

open Gl DrawPass.Geometry Shader Software

/-! ### Stages on the device -/

namespace Software.State

variable {d d' d'' : State}

/-- The stages are the same ones. -/
structure SameShaders (d d' : State) : Prop where
  shaders : d'.shaders = d.shaders
  lastName : d.lastName ≤ d'.lastName

instance : IsPreorder State SameShaders where
  refl _ := ⟨rfl, Nat.le_refl _⟩
  trans _ _ _ h h' := ⟨h'.shaders.trans h.shaders, Nat.le_trans h.lastName h'.lastName⟩

theorem sameShaders_modifyTexture (d : State) (id : Option Name) (f : Texture → Texture) :
    SameShaders d (d.modifyTexture id f) := by
  cases id <;> exact ⟨rfl, Nat.le_refl _⟩

/-- Only compiling and linking change stages. -/
theorem sameShaders_perform {α : Type} (command : Command α) (h : command.keepsShaders)
    (d : State) : SameShaders d (d.perform command).2 := by
  -- Every other command at most gives out a number.
  have hsame {d' : State} (hshaders : d'.shaders = d.shaders) (hname : d'.lastName = d.lastName) :
      SameShaders d d' := ⟨hshaders, Nat.le_of_eq hname.symm⟩
  cases command with
  | compileShader | linkProgram => cases h
  | createTexture =>
    simp only [perform, createTexture]
    split
    · exact hsame rfl rfl
    · exact ⟨rfl, Nat.le_succ _⟩
  | createFramebuffer =>
    simp only [perform, createFramebuffer]
    split
    · exact hsame rfl rfl
    · exact ⟨rfl, Nat.le_succ _⟩
  | createBuffer | createSampler | createVertexArray | fenceSync => exact ⟨rfl, Nat.le_succ _⟩
  | clientWaitSync fence =>
    obtain ⟨fences, hwait, -⟩ := d.waitFence_spec fence
    rw [perform, hwait]
    exact hsame rfl rfl
  | framebufferTexture =>
    simp only [perform, attach]
    split <;> exact hsame rfl rfl
  | clear =>
    exact IsTrans.trans d _ _ (clear_moves (fun d id f _ => sameShaders_modifyTexture d id f) ..)
      ⟨rfl, Nat.le_refl _⟩
  | drawArraysInstanced =>
    exact IsTrans.trans d _ _
      (runEmulator_moves (fun d id f _ => sameShaders_modifyTexture d id f) d) ⟨rfl, Nat.le_refl _⟩
  | uniformFloats location | uniformInts location | uniformUInts location
  | uniformMatrix location => cases location <;> exact hsame rfl rfl
  | _ => exact hsame rfl rfl

/-- A link uses up both stages, whether or not it succeeds. -/
theorem linkProgram_stages (d : State) (vertex fragment : Name) :
    (d.linkProgram vertex fragment).2.shaders = (d.shaders.erase vertex).erase fragment ∧
      d.lastName ≤ (d.linkProgram vertex fragment).2.lastName := by
  simp only [linkProgram]
  split
  · exact ⟨rfl, Nat.le_refl _⟩
  · split
    · exact ⟨rfl, Nat.le_succ _⟩
    · exact ⟨rfl, Nat.le_refl _⟩

/-- Every stage has a number that has been given out. -/
def StagesNumbered (d : State) : Prop := ∀ id ∈ d.shaders.keys, id ≤ d.lastName

theorem SameShaders.stagesNumbered (h : SameShaders d d') (hd : d.StagesNumbered) :
    d'.StagesNumbered := fun id hid => Nat.le_trans (hd id (h.shaders ▸ hid)) h.lastName

/-- So many vertex stages have been added to the stages, and nothing else has happened to them. -/
structure Leaves (n : Nat) (d d' : State) : Prop where
  numbered : d'.StagesNumbered
  added : ∃ left, d'.shaders.entries = d.shaders.entries ++ left ∧ left.length = n ∧
    ∀ entry ∈ left, entry.2.1 = .vertex

theorem Leaves.of_same (h : SameShaders d d') (hd : d.StagesNumbered) : Leaves 0 d d' :=
  ⟨h.stagesNumbered hd, [], by rw [h.shaders, List.append_nil], rfl, List.forall_mem_nil _⟩

theorem Leaves.trans {m n : Nat} (h : Leaves m d d') (h' : Leaves n d' d'') :
    Leaves (m + n) d d'' := by
  obtain ⟨left, hleft, hlength, hvertex⟩ := h.added
  obtain ⟨left', hleft', hlength', hvertex'⟩ := h'.added
  refine ⟨h'.numbered, left ++ left', ?_, ?_, List.forall_mem_append.2 ⟨hvertex, hvertex'⟩⟩
  · rw [hleft', hleft, List.append_assoc]
  · rw [List.length_append, hlength, hlength']

end Software.State

theorem Control.sameShaders (change : Control) (d : State) : d.SameShaders (change.apply d) := by
  cases change <;> exact ⟨rfl, Nat.le_refl _⟩

namespace Store

/-- The stages on the device are the same ones. -/
abbrev SameShaders : Store State → Store State → Prop := OnDevice State.SameShaders

theorem command_sameShaders {α : Type} (command : Command α) (h : command.keepsShaders) :
    Moves SameShaders (perform command : StateM (Store State) α) :=
  fun s => State.sameShaders_perform command h s.device

theorem permitsUploads_sameShaders : PermitsUploads SameShaders where
  plain command _ _ _ h := command_sameShaders command h
  mark s _ _ _ _ := refl s.device

theorem permitsTargets_sameShaders : PermitsTargets SameShaders where
  command command h := command_sameShaders command (by cases command <;> first | rfl | cases h)
  same s s' h _ := by
    unfold SameShaders OnDevice
    rw [h]
    exact refl s.device

end Store

/-! ### What an action leaves -/

/-- How many stages an answer leaves behind: one, if it is the refusal of a fragment stage. -/
def stagesLeft {α : Type} : Except DrawError α → Nat
  | .ok _ => 0
  | .error e => if e.stage? = some .fragment then 1 else 0

theorem stagesLeft_error {α : Type} {e : DrawError} (h : e.stage? ≠ some .fragment) :
    stagesLeft (.error e : Except DrawError α) = 0 := if_neg h

/-- Whatever the action answers, it adds the stages that its answer leaves behind. -/
def Attempt.Leaving {α : Type} (act : Attempt DrawError (Renderer State) α) : Prop :=
  ∀ r, r.store.device.StagesNumbered →
    State.Leaves (stagesLeft (act.run r).1) r.store.device (act.run r).2.store.device

namespace Attempt.Leaving

variable {α β : Type} {act : Attempt DrawError (Renderer State) α}

/-- An action that neither compiles nor links and is not refused for a stage. -/
theorem of_moves (hmoves : ∀ buffer, Attempt.Moves (Renderer.Over buffer Store.SameShaders) act)
    (hrefused : act.Unstaged) : act.Leaving := by
  intro r hr
  have hsame : Store.SameShaders r.store (act.run r).2.store :=
    (hmoves r.geometry.buffer r rfl).2.1
  rcases hrun : act.run r with ⟨e | a, r'⟩ <;> rw [hrun] at hsame
  · rw [stagesLeft_error fun h => Option.some_ne_none _ (h.symm.trans (hrefused r e r' hrun))]
    exact .of_same hsame hr
  · exact .of_same hsame hr

theorem lift {act : StateM (Renderer State) α}
    (h : ∀ buffer, DrawPass.Moves (Renderer.Over buffer Store.SameShaders) act) :
    Leaving (ExceptT.lift act : Attempt DrawError (Renderer State) α) :=
  of_moves (fun buffer => .lift (h buffer)) (.lift act)

theorem pure (a : α) : Leaving (Pure.pure a : Attempt DrawError (Renderer State) α) :=
  of_moves (fun _ => .pure a) (.pure a)

theorem perform (command : Command α) (h : command.keepsShaders) :
    Leaving (Attempt.perform command : Attempt DrawError (Renderer State) α) :=
  lift fun _ => Renderer.perform_moves (Store.command_sameShaders command h)

/-- What is left adds up; an action that goes through has left nothing. -/
theorem bind {next : α → Attempt DrawError (Renderer State) β} (h : act.Leaving)
    (h' : ∀ a, (next a).Leaving) : (act >>= next).Leaving := by
  intro r hr
  have hfirst := h r hr
  rcases hrun : act.run r with ⟨e | a, r'⟩ <;> rw [hrun] at hfirst
  · rw [Attempt.run_bind_error hrun]
    exact hfirst
  · rw [Attempt.run_bind_ok hrun, ← Nat.zero_add (stagesLeft _)]
    exact hfirst.trans (h' a r' hfirst.numbered)

theorem bind_get {next : Renderer State → Attempt DrawError (Renderer State) α}
    (h : ∀ r, (next r).Leaving) : Leaving (MonadState.get >>= next) := fun r => h r r

/-- A handler that sets something and passes the refusal on. -/
theorem rethrow {command : Command Unit} (h : act.Leaving) (hcommand : command.keepsShaders) :
    Leaving (tryCatch act fun refusal => do
      Attempt.perform command
      throw refusal) := by
  intro r hr
  have hact := h r hr
  rw [Attempt.run_tryCatch]
  rcases hrun : act.run r with ⟨e | a, r'⟩ <;> rw [hrun] at hact
  · exact hact.trans (.of_same (State.sameShaders_perform command hcommand _) hact.numbered)
  · exact hact

end Attempt.Leaving

/-! ### Programs -/

/-- What is left of the stages of a program: the vertex stage, if it compiles and the fragment
stage does not. -/
def Shader.Sources.left (sources : Sources) (d : State) : List (Name × Stage × String) :=
  if State.compileError? sources.vertex = none ∧ State.compileError? sources.fragment ≠ none then
    [(d.lastName + 1, .vertex, sources.vertex)]
  else []

/-- Two stages that have been compiled one after the other are used up by their link. -/
theorem Software.State.entries_linked {d d' : State} (hd : d.StagesNumbered)
    {vertex fragment : Name} (hvertex : vertex = d.lastName + 1) (hfragment : fragment = vertex + 1)
    {v f : Stage × String}
    (hshaders : d'.shaders = (d.shaders.insert vertex v).insert fragment f) :
    (d'.linkProgram vertex fragment).2.shaders.entries = d.shaders.entries := by
  have hfresh {id : Name} (hid : d.lastName < id) : id ∉ d.shaders.keys := fun hmem =>
    Nat.not_lt_of_le (hd id hmem) hid
  have hvertexNew : vertex ∉ d.shaders.keys := hfresh (hvertex ▸ Nat.lt_succ_self _)
  have hfragmentNew : fragment ∉ d.shaders.keys :=
    hfresh (hfragment ▸ hvertex ▸ Nat.lt_add_of_pos_right Nat.two_pos)
  have hlater : fragment ∉ (d.shaders.insert vertex v).keys := fun hmem =>
    (Table.mem_keys_insert.1 hmem).elim (hfragment ▸ Nat.succ_ne_self vertex) hfragmentNew
  have hkept {id : Name} (hid : id ∉ d.shaders.keys) :
      (d.shaders.entries.filter fun e => !decide (e.1 = id)) = d.shaders.entries :=
    Table.entries_erase_of_notMem hid
  rw [(linkProgram_stages ..).1, hshaders]
  simp [Table.erase, Table.filter, Table.entries_insert hlater, Table.entries_insert hvertexNew,
    List.filter_append, hkept hvertexNew, hkept hfragmentNew]

namespace Renderer

variable {r r' : Renderer State}

theorem introspect_sameShaders (name : Name) (r : Renderer State) : Store.SameShaders r.store
    ((Program.introspect name : StateM (Renderer State) (List Shader.Setter)) r).2.store :=
  (introspect_moves_by (I := fun _ => True)
    (fun command _ _ _ h => Store.command_sameShaders command h) name r trivial).2.1

/-- A stage is taken in if it compiles. -/
theorem run_compile_stages {stage : Stage} {source : String} {result : Except DrawError Name}
    (h : (Program.compile stage source : Attempt DrawError (Renderer State) Name).run r =
      (result, r')) :
    (∃ shader, result = .ok shader ∧ shader = r.store.device.lastName + 1 ∧
        State.compileError? source = none ∧
        r'.store.device.shaders = r.store.device.shaders.insert shader (stage, source) ∧
        r'.store.device.lastName = shader) ∨
      ∃ e, result = .error e ∧ e.stage? = some stage ∧ State.compileError? source ≠ none ∧
        r'.store.device.shaders = r.store.device.shaders ∧
        r'.store.device.lastName = r.store.device.lastName := by
  rw [run_compile] at h
  cases herror : State.compileError? source with
  | some log =>
    rw [herror] at h
    cases h
    exact .inr ⟨_, rfl, rfl, Option.some_ne_none log, rfl, rfl⟩
  | none =>
    rw [herror] at h
    cases h
    exact .inl ⟨_, rfl, rfl, rfl, rfl, rfl⟩

/-- The link of two stages that have just been compiled leaves nothing, however it goes. -/
theorem run_link_compiled {d : State} (hd : d.StagesNumbered) {vertex fragment : Name}
    (hvertex : vertex = d.lastName + 1) (hfragment : fragment = vertex + 1) {v f : Stage × String}
    (hshaders : r.store.device.shaders = (d.shaders.insert vertex v).insert fragment f)
    (hname : r.store.device.lastName = fragment) {result : Except DrawError Shader.Program}
    (hrun : (do
      let name ← Attempt.create .programLink (.linkProgram vertex fragment)
      return ⟨name, ← ExceptT.lift (Program.introspect name)⟩ :
      Attempt DrawError (Renderer State) Shader.Program).run r = (result, r')) :
    r'.store.device.shaders.entries = d.shaders.entries ∧ stagesLeft result = 0 ∧
      r'.store.device.StagesNumbered := by
  rcases hlink : (Attempt.create .programLink (.linkProgram vertex fragment) :
    Attempt DrawError (Renderer State) Name).run r with ⟨linkResult, r₁⟩
  have hdevice : r₁.store.device = (r.store.device.linkProgram vertex fragment).2 := by
    rw [Attempt.run_create] at hlink
    cases hlink
    rfl
  have hentries : r₁.store.device.shaders.entries = d.shaders.entries := by
    rw [hdevice]
    exact State.entries_linked hd hvertex hfragment hshaders
  -- The names of both stages have been given out, so those of the older stages have too.
  have hnumbered : r₁.store.device.StagesNumbered := fun id hid => by
    have hgiven : d.lastName ≤ r.store.device.lastName := by
      rw [hname, hfragment, hvertex]
      exact Nat.le_add_right _ 2
    rw [Table.keys, hentries] at hid
    rw [hdevice]
    exact Nat.le_trans (Nat.le_trans (hd id hid) hgiven) (State.linkProgram_stages ..).2
  cases linkResult with
  | error e =>
    rw [Attempt.run_bind_error hlink] at hrun
    cases hrun
    have hrefused : (Attempt.create .programLink (.linkProgram vertex fragment) :
        Attempt DrawError (Renderer State) Name).Unstaged :=
      .create (P := fun e : DrawError => e.stage? = none) (fun _ => rfl) _
    refine ⟨hentries, stagesLeft_error ?_, hnumbered⟩
    rw [hrefused r e _ hlink]
    exact nofun
  | ok name =>
    rw [Attempt.run_bind_ok hlink] at hrun
    cases hrun
    have hsame := introspect_sameShaders name r₁
    exact ⟨(congrArg Table.entries hsame.shaders).trans hentries, rfl,
      hsame.stagesNumbered hnumbered⟩

/-- What linking leaves of the stages that it compiles: the vertex stage, if it is refused for the
fragment stage. -/
theorem run_link_stages {sources : Sources} {result : Except DrawError Shader.Program}
    (hrun : (Program.link sources : Attempt DrawError (Renderer State) Shader.Program).run r =
      (result, r')) (hr : r.store.device.StagesNumbered) :
    r'.store.device.shaders.entries =
        r.store.device.shaders.entries ++ sources.left r.store.device ∧
      (sources.left r.store.device).length = stagesLeft result ∧
      r'.store.device.StagesNumbered := by
  unfold Program.link at hrun
  rcases hvertex : (Program.compile .vertex sources.vertex :
    Attempt DrawError (Renderer State) Name).run r with ⟨vertexResult, r₁⟩
  rcases run_compile_stages hvertex with ⟨vertex, rfl, hvertexName, hcompiles, hshaders₁, hname₁⟩ |
    ⟨e, rfl, he, hrefused, hshaders₁, hname₁⟩
  swap
  · -- Nothing has been taken in.
    rw [Attempt.run_bind_error hvertex] at hrun
    cases hrun
    have hleft : sources.left r.store.device = [] := if_neg fun h => hrefused h.1
    rw [hleft, stagesLeft_error (by rw [he]; exact nofun), hshaders₁, List.append_nil]
    refine ⟨rfl, rfl, fun id hid => ?_⟩
    rw [hname₁]
    exact hr id (hshaders₁ ▸ hid)
  rw [Attempt.run_bind_ok hvertex] at hrun
  rcases hfragment : (Program.compile .fragment sources.fragment :
    Attempt DrawError (Renderer State) Name).run r₁ with ⟨fragmentResult, r₂⟩
  rcases run_compile_stages hfragment with
    ⟨fragment, rfl, hfragmentName, hcompiles', hshaders₂, hname₂⟩ |
    ⟨e, rfl, he, hrefused, hshaders₂, hname₂⟩
  swap
  · -- There is no link, and the vertex stage stays.
    rw [Attempt.run_bind_error hfragment] at hrun
    cases hrun
    have hleft : sources.left r.store.device = [(vertex, .vertex, sources.vertex)] :=
      hvertexName ▸ if_pos ⟨hcompiles, hrefused⟩
    have hone : stagesLeft (.error e : Except DrawError Shader.Program) = 1 := if_pos he
    have hnew : vertex ∉ r.store.device.shaders.keys := fun hid =>
      Nat.not_succ_le_self _ (hvertexName ▸ hr vertex hid)
    rw [hleft, hone, hshaders₂, hshaders₁]
    refine ⟨Table.entries_insert hnew _, rfl, fun id hid => ?_⟩
    rw [hshaders₂, hshaders₁, Table.mem_keys_insert] at hid
    rw [hname₂, hname₁]
    rcases hid with rfl | hid
    · exact Nat.le_refl _
    · exact Nat.le_trans (hr id hid) (hvertexName ▸ Nat.le_succ _)
  rw [Attempt.run_bind_ok hfragment] at hrun
  have hleft : sources.left r.store.device = [] := if_neg fun h => h.2 hcompiles'
  obtain ⟨hentries, hnone, hnumbered⟩ := run_link_compiled hr hvertexName
    (hname₁ ▸ hfragmentName) (hshaders₁ ▸ hshaders₂) hname₂ hrun
  rw [hleft, List.append_nil, hnone]
  exact ⟨hentries, rfl, hnumbered⟩

theorem link_leaving (sources : Sources) : Attempt.Leaving
    (Program.link sources : Attempt DrawError (Renderer State) Shader.Program) := by
  intro r hr
  rcases hrun : (Program.link sources :
    Attempt DrawError (Renderer State) Shader.Program).run r with ⟨result, r'⟩
  obtain ⟨hentries, hlength, hnumbered⟩ := run_link_stages hrun hr
  refine ⟨hnumbered, _, hentries, hlength, fun entry hentry => ?_⟩
  unfold Sources.left at hentry
  split at hentry
  · rw [List.mem_singleton.1 hentry]
  · cases hentry

/-! ### Draws -/

open Store Attempt

variable (plan : Plan) (blend : Option Blend.State) (uniforms : Uniform.Values)

theorem program_leaving (options : Params.Options) : Leaving
    (program options uniforms : Attempt DrawError (Renderer State) Shader.Program) := by
  have assemble (key : ProgramKey) : Leaving (ExceptT.lift (assemble key uniforms) :
      Attempt DrawError (Renderer State) Sources) :=
    .lift fun _ => .modifyGet fun r => along_of_eq rfl rfl id
  have remember {programs : ProgramCache} : Leaving (modify fun r => { r with programs } :
      Attempt DrawError (Renderer State) PUnit) :=
    .of_moves (fun _ => .modify fun r => along_of_eq rfl rfl id) (.modify _)
  unfold program
  refine .bind_get fun r => .bind ?_ fun _ => .bind remember fun _ => .pure _
  unfold ProgramCache.resolve
  split
  · exact .pure _
  · exact .bind (assemble _) fun _ => .bind (link_leaving _) fun _ => .pure _

theorem runStages_leaving (view : Rect) : Leaving
    (runStages plan blend uniforms view : Attempt DrawError (Renderer State) Unit) := by
  unfold runStages
  refine .bind (.rethrow (program_leaving _ _) rfl) fun program => .lift fun _ => ?_
  exact runProgram_moves permitsUploads_sameShaders
    (fun _ _ _ => command_sameShaders _ rfl) (fun command _ _ h => command_sameShaders command h)
    _ _ _ _ _

theorem render_leaving (size : UInt32 × UInt32) : Leaving
    (render plan blend uniforms size : Attempt DrawError (Renderer State) Unit) := by
  have stages (view : Rect) : Leaving
      (if plan.options.hasStages then runStages plan blend uniforms view
        else Attempt.perform (.depthMask true) : Attempt DrawError (Renderer State) Unit) := by
    split
    · exact runStages_leaving _ _ _ _
    · exact .perform _ rfl
  unfold render
  refine .bind (.perform _ rfl) fun _ => ?_
  dsimp only
  split
  · refine .bind (.lift fun _ => clearView_moves (fun command h => ?_) _ _) fun _ => stages _
    exact perform_moves (command_sameShaders command (command.keepsShaders_of_isSetting h))
  · exact stages _

theorem paint_leaving (resolved : Resolved) : Leaving
    (paint plan blend resolved : Attempt DrawError (Renderer State) Unit) := by
  have hbind : Leaving
      (bind resolved : Attempt DrawError (Renderer State) (UInt32 × UInt32)) :=
    .of_moves (fun _ => bind_moves_by (command_sameShaders _ rfl) (command_sameShaders _ rfl)
      (fun key => permitsTargets_sameShaders.bindTarget key false)
      fun _ _ s => refl s.device) (bind_unstaged resolved)
  unfold paint
  exact .bind (.lift fun _ => withSource_moves _ _) fun uniforms => .bind hbind fun size =>
    render_leaving _ _ _ _

theorem draw_leaving (bag : Params.Bag) (destination : Destination) : Leaving
    (draw bag destination : Attempt DrawError (Renderer State) Resolved) := by
  have hsettle : Leaving (settle bag destination : Attempt DrawError (Renderer State) _) :=
    .of_moves (fun _ => settle_moves_by bag (resolve_moves_by fun spec _ registry =>
      permitsTargets_sameShaders.prepare (fun _ _ _ _ _ _ => command_sameShaders _ rfl) registry
        spec)) (settle_unstaged bag destination)
  rw [draw_eq]
  refine .bind hsettle fun ⟨plan, blend, resolved⟩ => ?_
  dsimp only
  split
  · exact .pure _
  · exact .bind (paint_leaving _ _ _) fun _ => .pure _

end Renderer

/-! ### Runs -/

/-- How many stages an act leaves behind. -/
def Act.stagesLeft (r : Renderer State) : Act → Nat
  | draw bag destination => DrawPass.stagesLeft ((Renderer.draw bag destination).run r).1
  | _ => 0

/-- How many stages acts leave behind, the first one first. -/
def Act.stagesLeftAll (r : Renderer State) : List Act → Nat
  | [] => 0
  | act :: acts => act.stagesLeft r + Act.stagesLeftAll (act.after r) acts

/-- A reset leaves the stages alone. -/
theorem Renderer.reset_sameShaders (r : Renderer State) :
    r.store.SameShaders (Act.reset.after r).store := by
  have hcleared : r.store.SameShaders r.cleared := by
    refine Store.after_moves (fun command hcommand => ?_) r.store
    obtain ⟨id, -, rfl⟩ := List.mem_map.1 hcommand
    exact Store.command_sameShaders _ rfl
  show r.store.SameShaders (reset r).2.store
  rw [run_reset]
  exact IsTrans.trans r.store _ _ hcleared
    (Store.freeAll_moves Store.permitsTargets_sameShaders.free r.registry r.cleared)

/-- Every act adds the stages that it leaves behind. -/
theorem Act.after_leaves (act : Act) (r : Renderer State) (hr : r.store.device.StagesNumbered) :
    State.Leaves (act.stagesLeft r) r.store.device (act.after r).store.device := by
  cases act with
  | draw bag destination => exact Renderer.draw_leaving bag destination r hr
  | reset => exact .of_same (Renderer.reset_sameShaders r) hr
  | _ =>
    refine .of_same (Act.aside_moves Store.permitsTargets_sameShaders
      (fun _ _ _ _ _ _ => Store.command_sameShaders _ rfl)
      (fun s change => change.sameShaders s.device) rfl r) hr

theorem Act.afterAll_leaves (acts : List Act) {r : Renderer State}
    (hr : r.store.device.StagesNumbered) :
    State.Leaves (Act.stagesLeftAll r acts) r.store.device (Act.afterAll r acts).store.device := by
  induction acts generalizing r with
  | nil => exact .of_same (refl r.store.device) hr
  | cons act acts ih =>
    have hact := act.after_leaves r hr
    exact hact.trans (ih hact.numbered)

/-- A link leaves nothing of its stages, unless it is refused for the fragment stage: then the
vertex stage stays.  So the stages that a run leaves are vertex stages, one for each draw that has
been refused for its fragment stage. -/
theorem compiled_stages_left {config : Config} {width height : UInt32} {r : Renderer State}
    (hr : Renderer.create config { device := State.new width height } = .ok r) (acts : List Act) :
    (Act.afterAll r acts).store.device.StagesNumbered ∧
      (Act.afterAll r acts).store.device.shaders.size = Act.stagesLeftAll r acts ∧
      (∀ entry ∈ (Act.afterAll r acts).store.device.shaders.entries, entry.2.1 = .vertex) ∧
      ∀ (r₁ r₂ : Renderer State) (sources : Shader.Sources)
        (result : Except DrawError Shader.Program), r₁.store.device.StagesNumbered →
        (Shader.Program.link sources : Attempt DrawError (Renderer State) Shader.Program).run r₁ =
          (result, r₂) →
        r₂.store.device.shaders.entries =
            r₁.store.device.shaders.entries ++ sources.left r₁.store.device ∧
          (sources.left r₁.store.device).length = stagesLeft result := by
  obtain ⟨capacity, buffers, log, -, heq⟩ := Renderer.create_eq hr
  have hnone : r.store.device.shaders.entries = [] := by
    rw [heq]
    rfl
  have hnumbered : r.store.device.StagesNumbered := fun id hid => by
    rw [Table.keys, hnone] at hid
    cases hid
  have hrun := Act.afterAll_leaves acts hnumbered
  obtain ⟨left, hleft, hlength, hvertex⟩ := hrun.added
  rw [hnone, List.nil_append] at hleft
  refine ⟨hrun.numbered, (congrArg List.length hleft).trans hlength, hleft ▸ hvertex, ?_⟩
  intro r₁ r₂ sources result hr₁ hlink
  obtain ⟨hentries, hlength, -⟩ := Renderer.run_link_stages hlink hr₁
  exact ⟨hentries, hlength⟩

/-- A fragment stage that does not compile leaves the vertex stage behind. -/
theorem compiled_stages_left_of_broken_fragment :
    let sources : Shader.Sources := ⟨"void main() \x7b\x7d", "#error x"⟩
    let linked := (Shader.Program.link sources :
      Attempt DrawError (Renderer State) Shader.Program).run Renderer.onePixel
    stagesLeft linked.1 = 1 ∧
      linked.2.store.device.shaders.entries = [(3, .vertex, "void main() \x7b\x7d")] := by
  obtain ⟨hnumbered, -, -, hlink⟩ := compiled_stages_left Renderer.create_onePixel []
  dsimp only
  rcases hrun : (Shader.Program.link ⟨"void main() \x7b\x7d", "#error x"⟩ :
    Attempt DrawError (Renderer State) Shader.Program).run Renderer.onePixel with ⟨result, r'⟩
  obtain ⟨hentries, hlength⟩ := hlink Renderer.onePixel r' _ result hnumbered hrun
  have hleft : (Shader.Sources.mk "void main() \x7b\x7d" "#error x").left
      Renderer.onePixel.store.device = [(3, .vertex, "void main() \x7b\x7d")] := by
    decide +kernel
  rw [hleft] at hentries hlength
  exact ⟨hlength.symm, hentries⟩

end DrawPass
