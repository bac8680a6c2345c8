/-
DrawPass/Proofs/OrderlyDraws.lean

Draws name what is there.

A renderer has, beside the targets of its store, programs, sampler objects and the index
array.  `Renderer.Kept` says that these are on the device too, each program and each sampler
object once.  A draw keeps all of it.  A program is named when it has just been found in the
cache or linked, a sampler object when it is in the cache, and a texture when the sampler
that is given for a uniform is one of a target that has not been freed.
-/
import DrawPass.Proofs.Orderly
import DrawPass.Proofs.StoryHistory

namespace DrawPass

open Gl DrawPass.Geometry Readback Shader Software

/-- The second step need only be known where the first one has led. -/
theorem Attempt.Moves.bind_ok {ε σ α β : Type} {R : σ → σ → Prop} [IsPreorder σ R]
    {act : Attempt ε σ α} {next : α → Attempt ε σ β} {s : σ} (h : R s (act.run s).2)
    (h' : ∀ a s', act.run s = (.ok a, s') → R s' ((next a).run s').2) :
    R s ((act >>= next).run s).2 := by
  rcases hr : act.run s with ⟨e | a, s'⟩ <;> rw [hr] at h
  · rw [Attempt.run_bind_error hr]
    exact h
  · rw [Attempt.run_bind_ok hr]
    exact IsTrans.trans s s' _ h (h' a s' hr)

/-- A setting names nothing. -/
theorem Gl.Command.names_of_isSetting {α : Type} {command : Command α} (h : command.isSetting) :
    command.deletes? = none ∧ command.names = [] := by
  cases command with
  | bindVertexArray vertexArray =>
    cases vertexArray with
    | none => exact ⟨rfl, rfl⟩
    | some => cases h
  | _ => first | exact ⟨rfl, rfl⟩ | cases h

/-- A program that has been linked has the next number and the uniforms of its sources. -/
theorem Software.State.linkProgram_ok {d d' : State} {vertex fragment name : Name}
    (h : d.linkProgram vertex fragment = (.ok name, d')) :
    ∃ v f, d.shaders.get? vertex = some v ∧ (d.shaders.erase vertex).get? fragment = some f ∧
      name = d.lastName + 1 ∧ d'.programs = d.programs.insert name
        { vertexSource := v.2, fragmentSource := f.2, uniforms := scanUniforms [v.2, f.2] } := by
  unfold State.linkProgram at h
  cases hfail : d.failNextLink with
  | some log =>
    simp [hfail] at h
  | none =>
    cases hvertex : d.shaders.get? vertex with
    | none => simp [hfail, hvertex] at h
    | some v =>
      cases hfragment : (d.shaders.erase vertex).get? fragment with
      | none => simp [hfail, hvertex, hfragment] at h
      | some f =>
        simp only [hfail, hvertex, hfragment, State.fresh, State.record, Prod.mk.injEq] at h
        obtain ⟨hname, rfl⟩ := h
        cases hname
        exact ⟨v, f, rfl, rfl, rfl, rfl⟩

namespace Store

variable {P : Name → Prop} {index : Name} {reads : List PendingRead}
  {objects : List (Kind × Name)} {s s' : Store State}

/-- The programs are on the device, each for one key. -/
structure HasPrograms (s : Store State) (cache : ProgramCache) : Prop where
  held : ∀ program ∈ cache.programs.values, program.name ∈ s.device.holds .program
  distinct : (cache.programs.values.map Program.name).Nodup

theorem HasPrograms.of_subset {cache : ProgramCache} (h : s.HasPrograms cache)
    (hholds : s.device.holds .program ⊆ s'.device.holds .program) : s'.HasPrograms cache where
  held program hprogram := hholds (h.held program hprogram)
  distinct := h.distinct

theorem HasSamplers.of_subset {cache : Sampling.Cache} (h : s.HasSamplers cache)
    (hholds : s.device.holds .sampler ⊆ s'.device.holds .sampler) : s'.HasSamplers cache where
  held id hid := hholds (h.held id hid)
  distinct := h.distinct

/-- Making an index array longer writes its buffer. -/
theorem ensure_gentle (a : IndexArray) (needed : UInt32) :
    Moves (Gentle P a.buffer reads objects) (a.ensure needed : StateM (Store State) _) := by
  have hattribute (buffer : Name) (location divisor : UInt32) :
      Moves (Gentle P a.buffer reads objects)
        (perform (.intAttribute a.vertexArray buffer location divisor) :
          StateM (Store State) Unit) :=
    command_gentle _ rfl rfl (List.nil_subset _)
  unfold IndexArray.ensure
  split
  · exact .pure a
  · refine .bind (writeIndex_gentle _ _ _) fun _ => .bind (hattribute _ _ _) fun _ => ?_
    exact .bind (hattribute _ _ _) fun _ => .pure _

end Store

namespace Renderer

variable {ε α : Type} {P : Name → Prop} {objects : List (Kind × Name)}
  {r r' settled : Renderer State} {s' : Store State} {resolved : Resolved} {plan : Plan}
  {uniforms : Uniform.Values}

/-! ### What a renderer keeps -/

/-- What a renderer is still going to name is there. -/
structure Kept (P : Name → Prop) (r : Renderer State) : Prop where
  store : r.store.Kept P r.geometry.buffer r.store.pending
  programs : r.store.HasPrograms r.programs
  samplers : r.store.HasSamplers r.samplers
  vertexArray : r.geometry.vertexArray ∈ r.store.device.holds .vertexArray

theorem Kept.mono {Q : Name → Prop} (h : r.Kept P) (hPQ : ∀ id, P id → Q id) : r.Kept Q :=
  { h with store := h.store.mono hPQ }

/-- The store has moved on without touching what is not of targets and reads. -/
theorem Kept.of_store (h : r.Kept P) (hs' : s'.Kept P r.geometry.buffer s'.pending)
    (hspares : Store.Spares r.store s') : ({ r with store := s' } : Renderer State).Kept P where
  store := hs'
  programs := h.programs.of_subset (hspares .program rfl)
  samplers := h.samplers.of_subset (hspares .sampler rfl)
  vertexArray := hspares .vertexArray rfl h.vertexArray

/-- If the objects are there, the step keeps what is kept, and nothing goes. -/
def Gentle (P : Name → Prop) (objects : List (Kind × Name)) (r r' : Renderer State) : Prop :=
  r.Kept P → r.store.Has objects → r'.Kept P ∧ Store.Stays r.store r'.store

instance : IsPreorder (Renderer State) (Gentle P objects) where
  refl r h _ := ⟨h, refl (r := Store.Stays) r.store⟩
  trans r r' r'' h h' hr hhas := by
    obtain ⟨hr', hstays⟩ := h hr hhas
    obtain ⟨hr'', hstays'⟩ := h' hr' (hstays.has hhas)
    exact ⟨hr'', IsTrans.trans (r := Store.Stays) r.store r'.store r''.store hstays hstays'⟩

theorem Gentle.of_has {objects' : List (Kind × Name)} (h : Gentle P objects r r')
    (hhas : r.Kept P → r.store.Has objects) : Gentle P objects' r r' :=
  fun hr _ => h hr (hhas hr)

/-- The store has made a gentle step. -/
theorem store_gentle
    (h : Store.Gentle P r.geometry.buffer r.store.pending objects r.store s') :
    Gentle P objects r { r with store := s' } := by
  intro hr hhas
  obtain ⟨hs', hstays⟩ := h hr.store hhas
  exact ⟨hr.of_store (hstays.pending.symm ▸ hs') hstays.spares, hstays⟩

/-- What a renderer remembers that is on no device may change. -/
theorem gentle_of_same (hstore : r'.store = r.store)
    (hvertexArray : r'.geometry.vertexArray = r.geometry.vertexArray)
    (hbuffer : r'.geometry.buffer = r.geometry.buffer) (hprograms : r'.programs = r.programs)
    (hsamplers : r'.samplers = r.samplers) : Gentle P objects r r' := by
  intro hr _
  constructor
  · constructor
    · rw [hstore, hbuffer]
      exact hr.store
    · rw [hstore, hprograms]
      exact hr.programs
    · rw [hstore, hsamplers]
      exact hr.samplers
    · rw [hstore, hvertexArray]
      exact hr.vertexArray
  · rw [hstore]
    exact refl (r := Store.Stays) r.store

/-- A command that leaves the tracked objects alone and names what is there. -/
theorem perform_gentle (command : Command α) (hobjects : command.keepsObjects)
    (hdeletes : command.deletes? = none) (hnames : command.names ⊆ objects) :
    Moves (Gentle P objects) (perform command : StateM (Renderer State) α) := fun r =>
  store_gentle (Store.command_gentle command hobjects hdeletes hnames r.store)

theorem setting_gentle (command : Command Unit) (h : command.isSetting) :
    Moves (Gentle P objects) (perform command : StateM (Renderer State) Unit) := by
  obtain ⟨hdeletes, hnames⟩ := Command.names_of_isSetting h
  exact perform_gentle command (command.keepsObjects_of_isSetting h) hdeletes
    (hnames ▸ List.nil_subset _)

/-- One object is named, and it is there. -/
theorem perform_held (command : Command α) {kind : Kind} {id : Name}
    (hobjects : command.keepsObjects) (hdeletes : command.deletes? = none)
    (hnames : command.names = [(kind, id)])
    (hheld : r.Kept P → id ∈ r.store.device.holds kind) :
    Gentle P objects r ((perform command : StateM (Renderer State) α) r).2 :=
  (perform_gentle command hobjects hdeletes (hnames ▸ List.Subset.refl _) r).of_has fun hr =>
    Store.has_singleton (hheld hr)

/-! ### Programs -/

theorem introspect_gentle (name : Name) (hname : (.program, name) ∈ objects) :
    Moves (Gentle P objects) (Program.introspect name : StateM (Renderer State) (List Setter)) := by
  have plain {α : Type} (command : Command α) (hobjects : command.keepsObjects)
      (hdeletes : command.deletes? = none) (hnames : command.names = []) :
      Moves (Gentle P objects) (perform command : StateM (Renderer State) α) :=
    perform_gentle command hobjects hdeletes (hnames ▸ List.nil_subset _)
  exact Program.introspect_moves
    (perform_gentle _ rfl rfl (List.cons_subset.2 ⟨hname, List.nil_subset _⟩))
    (plain _ rfl rfl rfl) (plain _ rfl rfl rfl) (fun _ => plain _ rfl rfl rfl)
    fun _ _ => plain _ rfl rfl rfl

theorem compile_gentle (stage : Stage) (source : String) :
    Attempt.Moves (Gentle P objects)
      (Program.compile stage source : Attempt DrawError (Renderer State) Name) :=
  .create (perform_gentle _ rfl rfl (List.nil_subset _))

theorem linkProgram_gentle (vertex fragment : Name) : Attempt.Moves (Gentle P objects)
    (Attempt.create .programLink (.linkProgram vertex fragment) :
      Attempt DrawError (Renderer State) Name) :=
  .create (perform_gentle _ rfl rfl (List.nil_subset _))

theorem linkProgram_new {vertex fragment name : Name}
    (h : (Attempt.create .programLink (.linkProgram vertex fragment) :
      Attempt DrawError (Renderer State) Name).run r = (.ok name, r')) :
    name = r.store.device.lastName + 1 ∧ name ∈ r'.store.device.holds .program := by
  rw [Attempt.run_create] at h
  rcases hlink : r.store.device.linkProgram vertex fragment with ⟨e | name', d⟩
  · have hname : (r.store.device.linkProgram vertex fragment).1.mapError DrawError.programLink =
        .ok name := congrArg Prod.fst h
    rw [hlink] at hname
    cases hname
  · have hname : (r.store.device.linkProgram vertex fragment).1.mapError DrawError.programLink =
        .ok name := congrArg Prod.fst h
    have hstate : (r.store.device.linkProgram vertex fragment).2 = r'.store.device :=
      congrArg (fun p : Except DrawError Name × Renderer State => p.2.store.device) h
    rw [hlink] at hname hstate
    cases hname
    subst hstate
    obtain ⟨_, _, -, -, hnext, hprograms⟩ := State.linkProgram_ok hlink
    refine ⟨hnext, ?_⟩
    show name ∈ r'.store.device.programs.keys
    rw [hprograms, Table.mem_keys_insert]
    exact .inl rfl

/-- A program that has been linked is on the device, and was not before. -/
theorem link_new {sources : Sources} {program : Shader.Program} (h : r.Kept P)
    (hrun : (Program.link sources : Attempt DrawError (Renderer State) Shader.Program).run r =
      (.ok program, r')) :
    r'.Kept P ∧ Store.Stays r.store r'.store ∧
      program.name ∈ r'.store.device.holds .program ∧
      program.name ∉ r.store.device.holds .program := by
  unfold Program.link at hrun
  obtain ⟨vertex, r₁, hvertex, hrun⟩ := Attempt.run_bind_eq_ok.1 hrun
  obtain ⟨fragment, r₂, hfragment, hrun⟩ := Attempt.run_bind_eq_ok.1 hrun
  obtain ⟨name, r₃, hlink, hrun⟩ := Attempt.run_bind_eq_ok.1 hrun
  cases hrun
  obtain ⟨h₁, hstays₁⟩ := (compile_gentle _ _).of_run hvertex h r.store.has_nil
  obtain ⟨h₂, hstays₂⟩ := (compile_gentle _ _).of_run hfragment h₁ r₁.store.has_nil
  obtain ⟨h₃, hstays₃⟩ := (linkProgram_gentle _ _).of_run hlink h₂ r₂.store.has_nil
  obtain ⟨hname, hheld⟩ := linkProgram_new hlink
  obtain ⟨h₄, hstays₄⟩ := introspect_gentle name (List.mem_singleton_self _) r₃ h₃
    (Store.has_singleton hheld)
  have hstays := IsTrans.trans (r := Store.Stays) _ _ _ hstays₁ hstays₂
  refine ⟨h₄, IsTrans.trans (r := Store.Stays) _ _ _ hstays
    (IsTrans.trans (r := Store.Stays) _ _ _ hstays₃ hstays₄), hstays₄.holds _ hheld, fun hid => ?_⟩
  have hle := h₂.store.tidy.numbered _ _ (hstays.holds _ hid)
  rw [hname] at hle
  exact Nat.not_succ_le_self _ hle

theorem link_gentle (sources : Sources) : Attempt.Moves (Gentle P objects)
    (Program.link sources : Attempt DrawError (Renderer State) Shader.Program) := by
  unfold Program.link
  refine .bind (compile_gentle _ _) fun vertex => .bind (compile_gentle _ _) fun fragment r => ?_
  refine Attempt.Moves.bind_ok (linkProgram_gentle _ _ r) fun name r' hlink => ?_
  have hintrospect := introspect_gentle (P := P) name (List.mem_singleton_self _) r'
  exact hintrospect.of_has fun _ => Store.has_singleton (linkProgram_new hlink).2

theorem assemble_gentle (key : ProgramKey) (uniforms : Uniform.Values) :
    Moves (Gentle P objects) (assemble key uniforms : StateM (Renderer State) Sources) :=
  .modifyGet fun _ => gentle_of_same rfl rfl rfl rfl rfl

/-- A program that has just been linked is remembered under a key that was free. -/
theorem Kept.linked (h : r.Kept P) (hstays : Store.Stays r.store r'.store) (hr' : r'.Kept P)
    {key : ProgramKey} {program : Shader.Program} (hkey : r.programs.programs.get? key = none)
    (hheld : program.name ∈ r'.store.device.holds .program)
    (hnew : program.name ∉ r.store.device.holds .program) :
    ({ r' with programs := ⟨r.programs.programs.insert key program⟩ } : Renderer State).Kept P where
  store := hr'.store
  programs := by
    have hkeys : key ∉ r.programs.programs.keys := by
      rw [Table.mem_keys_iff, hkey]
      exact Bool.false_ne_true
    constructor
    · intro p hp
      rw [Table.values_insert hkeys, List.mem_append, List.mem_singleton] at hp
      rcases hp with hp | rfl
      · exact hstays.holds _ (h.programs.held p hp)
      · exact hheld
    · rw [Table.values_insert hkeys, List.map_append, List.nodup_append]
      refine ⟨h.programs.distinct, by simp, fun id hid id' hid' e => hnew ?_⟩
      obtain ⟨p, hp, rfl⟩ := List.mem_map.1 hid
      rw [List.map_singleton, List.mem_singleton] at hid'
      exact hid' ▸ e ▸ h.programs.held p hp
  samplers := hr'.samplers
  vertexArray := hr'.vertexArray

/-- The program of a draw is found or linked, and it is on the device. -/
theorem program_kept (options : Params.Options) (uniforms : Uniform.Values) (h : r.Kept P) :
    ((program options uniforms).run r).2.Kept P ∧
      Store.Stays r.store ((program options uniforms).run r).2.store ∧
      ∀ p, ((program options uniforms).run r).1 = .ok p →
        p.name ∈ ((program options uniforms).run r).2.store.device.holds .program := by
  let key : ProgramKey := ⟨options.includes, options.vertex, options.fragment⟩
  -- A program that is known was linked for an earlier draw and has been held since.
  cases hkey : r.programs.programs.get? key with
  | some program =>
    rw [program_known hkey]
    refine ⟨h, refl (r := Store.Stays) r.store, fun p hp => ?_⟩
    cases hp
    exact h.programs.held _ (List.mem_map.2 ⟨_, Table.get?_eq_some_iff.1 hkey, rfl⟩)
  | none =>
    have hassembled := assemble_gentle (P := P) key uniforms r h r.store.has_nil
    rcases hassemble : (assemble key uniforms : StateM (Renderer State) Sources) r with
      ⟨sources, r₁⟩
    rw [hassemble] at hassembled
    obtain ⟨h₁, hstays₁⟩ := hassembled
    have hlinked := link_gentle (P := P) sources r₁ h₁ r₁.store.has_nil
    rw [program_new rfl hkey hassemble]
    rcases hlink : (Program.link sources : Attempt DrawError (Renderer State) _).run r₁ with
      ⟨e | program, r₂⟩
    · rw [hlink] at hlinked
      exact ⟨hlinked.1, IsTrans.trans (r := Store.Stays) _ _ _ hstays₁ hlinked.2, nofun⟩
    · obtain ⟨h₂, hstays₂, hheld, hnew⟩ := link_new h₁ hlink
      have hstays := IsTrans.trans (r := Store.Stays) _ _ _ hstays₁ hstays₂
      refine ⟨h.linked hstays h₂ hkey hheld fun hid => hnew (hstays₁.holds _ hid), hstays,
        fun p hp => ?_⟩
      cases hp
      exact hheld

/-! ### Uniforms -/

/-- Every sampler among the values is one of a target. -/
def HasTextures (r : Renderer State) (uniforms : Uniform.Values) : Prop :=
  ∀ name sampler, uniforms.get? name = some (.sampler sampler) → r.store.HasTexture sampler

theorem HasTextures.of_stays (h : r.HasTextures uniforms) (hstays : Store.Stays r.store r'.store) :
    r'.HasTextures uniforms := fun name sampler hvalue =>
  hstays.hasTexture (h name sampler hvalue)

/-- The uniforms that every draw has are no samplers. -/
theorem HasTextures.withBuiltins (h : r.HasTextures uniforms) (plan : Plan) (view : Rect) :
    r.HasTextures (plan.withBuiltins uniforms view) := by
  intro name sampler hvalue
  unfold Plan.withBuiltins at hvalue
  dsimp only at hvalue
  iterate 4
    rw [Table.get?_insert] at hvalue
    split at hvalue
    · cases hvalue
  exact h name sampler hvalue

/-- The sampler of a target is one of a target. -/
theorem hasTexture_sampler {s : Store State} (hs : s.WellFormed) {key : TargetKey} {t : Target}
    (ht : s.target? key = some t) : s.HasTexture t.sampler := by
  refine ⟨t.frame, ?_, rfl⟩
  show s.frame? t.texture.key = some t.frame
  rw [hs.ownKey key t ht]
  exact Store.frame?_of_target? ht

/-- The source of a draw into a story is one of its slots. -/
theorem HasTextures.withSource (h : r.HasTextures uniforms) (hr : r.store.WellFormed)
    (resolved : Resolved) : r.HasTextures (Renderer.withSource resolved uniforms r).1 := by
  unfold Renderer.withSource
  rw [run_get_bind]
  cases resolved with
  | screen | texture => exact h
  | story key =>
    dsimp only
    rcases hslot : ((Resolved.story key).target? r.store).bind r.store.target? with - | t
    · exact h
    · dsimp only
      split
      · exact h
      · intro name sampler hvalue
        have hlook := (Table.get?_insert ..).symm.trans hvalue
        split at hlook
        · cases hlook
          obtain ⟨_, -, ht⟩ := Option.bind_eq_some_iff.1 hslot
          exact hasTexture_sampler hr ht
        · exact h name sampler hlook

/-! ### Drawing -/

/-- The index array is made longer, and stays the same array. -/
theorem ensure_gentle (needed : UInt32) : Gentle P objects r
    { (r.geometry.ensure needed r).2 with geometry := (r.geometry.ensure needed r).1 } := by
  obtain ⟨capacity, buffers, log, hensure⟩ := run_ensure r.geometry needed r.store
  have hgentle : Store.Gentle P r.geometry.buffer r.store.pending objects r.store
      (r.geometry.ensure needed r.store).2 := Store.ensure_gentle r.geometry needed r.store
  rw [hensure] at hgentle
  rw [ensure_eq_onStore, onStore, hensure]
  exact IsTrans.trans (r := Gentle P objects) _ _ _ (store_gentle hgentle)
    (gentle_of_same rfl rfl rfl rfl rfl)

theorem applyUniforms_gentle (program : Shader.Program) (h : r.HasTextures uniforms) :
    Gentle P objects r
      { r with
        store := (program.applyUniforms uniforms r.samplers r.store).2
        samplers := (program.applyUniforms uniforms r.samplers r.store).1 } := by
  intro hr _
  obtain ⟨hkept, hstays, hsamplers⟩ :=
    Store.applyUniforms_sampled program hr.store hr.samplers h
  have hmoved := hr.of_store (hstays.pending.symm ▸ hkept) hstays.spares
  exact ⟨{ hmoved with samplers := hsamplers }, hstays⟩

theorem drawStrip_gentle (plan : Plan) (program : Shader.Program) (h : r.HasTextures uniforms) :
    Gentle P objects r (drawStrip plan program uniforms r).2 := by
  let needed := max plan.vertices plan.instances
  let r₁ : Renderer State :=
    { (r.geometry.ensure needed r).2 with geometry := (r.geometry.ensure needed r).1 }
  let r₂ := (perform (.bindVertexArray (some r₁.geometry.vertexArray)) r₁).2
  let r₃ : Renderer State :=
    { r₂ with
      store := (program.applyUniforms uniforms r₂.samplers r₂.store).2
      samplers := (program.applyUniforms uniforms r₂.samplers r₂.store).1 }
  let draw : Command Unit := .drawArraysInstanced Constant.triangleStrip 0
    plan.vertices.toInt32 plan.instances.toInt32
  show Gentle P objects r (perform draw r₃).2
  intro hr hhas
  obtain ⟨h₁, hstays₁⟩ : r₁.Kept P ∧ Store.Stays r.store r₁.store := ensure_gentle needed hr hhas
  obtain ⟨h₂, hstays₂⟩ : r₂.Kept P ∧ Store.Stays r₁.store r₂.store :=
    perform_held _ rfl rfl rfl Kept.vertexArray h₁ r₁.store.has_nil
  have hstays := IsTrans.trans (r := Store.Stays) _ _ _ hstays₁ hstays₂
  obtain ⟨h₃, hstays₃⟩ : r₃.Kept P ∧ Store.Stays r₂.store r₃.store :=
    applyUniforms_gentle program (h.of_stays hstays) h₂ r₂.store.has_nil
  obtain ⟨h₄, hstays₄⟩ := perform_gentle draw rfl rfl (List.nil_subset _) r₃ h₃ r₃.store.has_nil
  exact ⟨h₄, IsTrans.trans (r := Store.Stays) _ _ _ hstays
    (IsTrans.trans (r := Store.Stays) _ _ _ hstays₃ hstays₄)⟩

theorem runStages_gentle (plan : Plan) (blend : Option Blend.State) (view : Rect)
    (h : r.HasTextures uniforms) :
    Gentle P objects r ((runStages plan blend uniforms view).run r).2 := by
  intro hr _
  obtain ⟨h₁, hstays₁, hheld⟩ := program_kept plan.options uniforms hr
  have setting (command : Command Unit) (hset : command.isSetting) :
      Moves (Gentle P []) (perform command : StateM (Renderer State) Unit) :=
    setting_gentle command hset
  unfold runStages
  rw [Attempt.run_bind, Attempt.run_tryCatch]
  rcases hprogram : (program plan.options uniforms).run r with ⟨e | program, r₁⟩ <;>
    rw [hprogram] at h₁ hstays₁ hheld
  · obtain ⟨h₂, hstays₂⟩ := setting (.depthMask true) rfl r₁ h₁ r₁.store.has_nil
    exact ⟨h₂, IsTrans.trans (r := Store.Stays) _ _ _ hstays₁ hstays₂⟩
  · let r₂ := (perform (.useProgram (some program.name)) r₁).2
    let r₃ := (setState plan blend r₂).2
    let r₄ := (perform (.viewport view) r₃).2
    let r₅ := (drawStrip plan program (plan.withBuiltins uniforms view) r₄).2
    show (revertState plan blend r₅).2.Kept P ∧
      Store.Stays r.store (revertState plan blend r₅).2.store
    -- The program is the only object that is named from here on.
    have huse : Gentle P [] r₁ r₂ := perform_held _ rfl rfl rfl fun _ => hheld program rfl
    have hset : Gentle P [] r₂ r₄ := IsTrans.trans (r := Gentle P []) r₂ r₃ r₄
      (setState_moves (fun command hset _ => setting command hset) plan blend r₂) (setting _ rfl r₃)
    obtain ⟨h₄, hstays₄⟩ := IsTrans.trans (r := Gentle P []) _ _ _ huse hset h₁ r₁.store.has_nil
    have hstays := IsTrans.trans (r := Store.Stays) _ _ _ hstays₁ hstays₄
    have hstrip : Gentle P [] r₄ r₅ :=
      drawStrip_gentle plan program ((h.of_stays hstays).withBuiltins plan view)
    obtain ⟨h₆, hstays₆⟩ := IsTrans.trans (r := Gentle P []) r₄ r₅ _ hstrip
      (revertState_moves (fun command hset _ => setting command hset) plan blend r₅) h₄
      r₄.store.has_nil
    exact ⟨h₆, IsTrans.trans (r := Store.Stays) _ _ _ hstays hstays₆⟩

theorem render_gentle (plan : Plan) (blend : Option Blend.State) (size : UInt32 × UInt32)
    (h : r.HasTextures uniforms) :
    Gentle P objects r ((render plan blend uniforms size).run r).2 := by
  intro hr _
  have setting (command : Command Unit) (hset : command.isSetting) :
      Moves (Gentle P []) (perform command : StateM (Renderer State) Unit) :=
    setting_gentle command hset
  -- What comes last is the same whether the view has been cleared or not.
  let stages (view : Rect) : Attempt DrawError (Renderer State) Unit :=
    if plan.options.hasStages then runStages plan blend uniforms view
    else Attempt.perform (.depthMask true)
  have hstages (view : Rect) {r₁ : Renderer State} (h₁ : r₁.Kept P ∧ Store.Stays r.store r₁.store) :
      ((stages view).run r₁).2.Kept P ∧ Store.Stays r.store ((stages view).run r₁).2.store := by
    obtain ⟨h₁, hstays₁⟩ := h₁
    have hlast : Gentle P [] r₁ ((stages view).run r₁).2 := by
      unfold stages
      split
      · exact runStages_gentle plan blend view (h.of_stays hstays₁)
      · exact setting (.depthMask true) rfl r₁
    obtain ⟨h₂, hstays₂⟩ := hlast h₁ r₁.store.has_nil
    exact ⟨h₂, IsTrans.trans (r := Store.Stays) _ _ _ hstays₁ hstays₂⟩
  have hmask := setting (.depthMask plan.options.depthTest.writes) rfl r
  unfold render
  rw [Attempt.run_bind_ok (Attempt.run_perform ..)]
  dsimp only
  split
  · rw [Attempt.run_bind_ok (Attempt.run_lift ..)]
    exact hstages _ (IsTrans.trans (r := Gentle P []) _ _ _ hmask
      (clearView_moves setting _ _ _) hr r.store.has_nil)
  · exact hstages _ (hmask hr r.store.has_nil)

/-- Binding what is drawn into names its framebuffer. -/
theorem bind_gentle (resolved : Resolved) (hstray : ∀ id, r.store.Stray id → P id) :
    Gentle P objects r ((bind resolved).run r).2 := by
  have bindTarget (key : TargetKey) {r : Renderer State}
      (hstray : ∀ id, r.store.Stray id → P id) : Gentle P objects r
        ((tryOnStore (Store.bindTarget key false) :
          Attempt DrawError (Renderer State) (UInt32 × UInt32)).run r).2 :=
    store_gentle (Store.bindTarget_gentle hstray false)
  unfold bind
  cases resolved with
  | screen =>
    refine Attempt.Moves.bind_at (perform_gentle (.bindFramebuffer none) rfl rfl
      (List.nil_subset _) r) fun _ => ?_
    exact .lift (perform_gentle _ rfl rfl (List.nil_subset _))
  | texture key => exact bindTarget key hstray
  | story key =>
    let r₁ : Renderer State := { r with store := r.store.rotate key }
    refine IsTrans.trans (r := Gentle P objects) r r₁ _ (store_gentle (Store.rotate_gentle _ key)) ?_
    rw [Attempt.run_bind_ok (Attempt.run_modify _ r), Attempt.run_bind_ok (Attempt.run_get _)]
    split
    · exact bindTarget _ hstray
    · exact refl r₁

/-- All that comes after a draw has settled. -/
theorem paint_gentle (plan : Plan) (blend : Option Blend.State) (resolved : Resolved)
    (h : r.HasTextures plan.uniforms) (hstray : ∀ id, r.store.Stray id → P id) :
    Gentle P objects r ((paint plan blend resolved).run r).2 := by
  intro hr _
  have huniforms := h.withSource hr.store.toWellFormed resolved
  have hbind : Gentle P [] r ((bind resolved).run r).2 := bind_gentle resolved hstray
  obtain ⟨h₁, hstays₁⟩ := hbind hr r.store.has_nil
  unfold paint
  rw [Attempt.run_bind_ok (Attempt.run_lift ..), withSource_state]
  rcases hrun : (bind resolved).run r with ⟨e | size, r₁⟩ <;> rw [hrun] at h₁ hstays₁
  · rw [Attempt.run_bind_error hrun]
    exact ⟨h₁, hstays₁⟩
  · rw [Attempt.run_bind_ok hrun]
    obtain ⟨h₂, hstays₂⟩ := render_gentle plan blend size (huniforms.of_stays hstays₁) h₁
      r₁.store.has_nil
    exact ⟨h₂, IsTrans.trans (r := Store.Stays) _ _ _ hstays₁ hstays₂⟩

/-! ### Settling -/

/-- The step keeps what is kept. -/
def Keeping (P : Name → Prop) (r r' : Renderer State) : Prop := r.Kept P → r'.Kept P

instance : IsPreorder (Renderer State) (Keeping P) where
  refl _ := id
  trans _ _ _ h h' := h' ∘ h

theorem Gentle.keeping (h : Gentle P [] r r') : Keeping P r r' := fun hr =>
  (h hr r.store.has_nil).1

/-- The store has made an orderly step. -/
theorem store_keeping (h : Store.Orderly P r.geometry.buffer r.store.pending r.store s') :
    Keeping P r { r with store := s' } := by
  intro hr
  obtain ⟨hs', hpending, hspares⟩ := h hr.store
  exact hr.of_store (hpending.symm ▸ hs') hspares

/-- What comes first in a draw may free targets and make others. -/
theorem settle_keeping (bag : Params.Bag) (destination : Destination) :
    Attempt.Moves (Keeping P)
      (settle bag destination : Attempt DrawError (Renderer State) _) := by
  have same {r r' : Renderer State} (h : Gentle P [] r r') : Keeping P r r' := h.keeping
  refine settle_moves_of (fun _ _ => same (gentle_of_same rfl rfl rfl rfl rfl)) bag
    (resolve_moves_of (fun _ _ => same (gentle_of_same rfl rfl rfl rfl rfl)) ?_)
  exact fun spec _ registry r => store_keeping (Store.prepare_orderly registry spec r.store)

end Renderer

end DrawPass
