/-
DrawPass/Proofs/UseAfterDelete.lean

No call names an object that an earlier call deleted, with one exception.

Whatever a host draws, reads, frees and resets, and whether or not it gives up the renderer in
the end: what a call of the log deletes is not named by any later call, neither to use it nor
to delete it again, unless the later call attaches a texture that is a stray companion's
(`named_after_delete`).  A stray companion has been freed while its target has not; the
framebuffer of the target is then made as if the companion were still there.
-/
import DrawPass.Proofs.OrderlyDraws
import DrawPass.Proofs.OrderlyReads

namespace DrawPass

open Gl DrawPass.Geometry Readback Shader Software

/-- A command that deletes something names it; and what is not of targets and reads is not
tracked. -/
theorem Gl.Command.names_of_deletes {α : Type} {command : Command α} {kind : Kind} {id : Name}
    (h : command.deletes? = some (kind, id)) :
    command.names = [(kind, id)] ∧ (kind.ofTargets = false → command.keepsObjects) := by
  cases command <;> cases h <;> refine ⟨rfl, fun hkind => ?_⟩ <;> first | rfl | cases hkind

namespace Store

variable {P : Name → Prop} {index : Name} {reads : List PendingRead} {s : Store State}

/-! ### Deleting what is not of targets and reads -/

/-- A command that deletes an object that is neither a target's nor a read's. -/
theorem Kept.deleted (h : s.Kept P index reads) {command : Command Unit} {kind : Kind} {id : Name}
    (hdeletes : command.deletes? = some (kind, id)) (hkind : kind.ofTargets = false)
    (hheld : id ∈ s.device.holds kind) :
    (Gl.perform command s).2.Kept P index reads := by
  obtain ⟨hnames, hobjects⟩ := Command.names_of_deletes hdeletes
  have hobjects := hobjects hkind
  have hsame := State.sameObjects_perform command hobjects s.device
  have hholds {kind' : Kind} {id' : Name} (hid : id' ∈ s.device.holds kind')
      (hof : kind'.ofTargets = true) : id' ∈ (Gl.perform command s).2.device.holds kind' := by
    refine (State.holds_delete hdeletes ..).2 ⟨hid, fun e => ?_⟩
    rw [e.1, hkind] at hof
    cases hof
  refine ⟨command_owning command (command.keepsFrames_of_keepsObjects hobjects) s h.toOwned,
    h.tidy.perform command (hnames ▸ State.names_held hheld _),
    h.pooled.of_same rfl rfl hsame.lastName hsame.buffers, h.distinct, hholds h.index rfl,
    fun read hread => hholds (h.fences read hread) rfl, h.distinctFences⟩

/-- The store after some commands. -/
def after (s : Store State) (commands : List (Command Unit)) : Store State :=
  commands.foldl (fun s command => (Gl.perform command s).2) s

theorem after_moves {R : Store State → Store State → Prop} [IsPreorder (Store State) R]
    {commands : List (Command Unit)} (h : ∀ command ∈ commands, Moves R
      (Gl.perform command : StateM (Store State) Unit)) (s : Store State) :
    R s (s.after commands) := Moves.foldl h s

theorem after_append (s : Store State) (commands commands' : List (Command Unit)) :
    s.after (commands ++ commands') = (s.after commands).after commands' := List.foldl_append

/-- Objects of one kind that are neither targets' nor reads' may be deleted once each. -/
theorem Kept.deletedAll {kind : Kind} {delete : Name → Command Unit}
    (hdelete : ∀ id, (delete id).deletes? = some (kind, id)) (hkind : kind.ofTargets = false)
    {ids : List Name} (h : s.Kept P index reads) (hheld : ∀ id ∈ ids, id ∈ s.device.holds kind)
    (hdistinct : ids.Nodup) :
    (s.after (ids.map delete)).Kept P index reads ∧
      (s.after (ids.map delete)).pending = s.pending ∧
      ∀ kind', kind' ≠ kind →
        s.device.holds kind' ⊆ (s.after (ids.map delete)).device.holds kind' := by
  induction ids generalizing s with
  | nil => exact ⟨h, rfl, fun _ _ => List.Subset.refl _⟩
  | cons id ids ih =>
    obtain ⟨hfirst, hrest⟩ := List.forall_mem_cons.1 hheld
    obtain ⟨hnew, hdistinct⟩ := List.nodup_cons.1 hdistinct
    obtain ⟨hkept, hpending, hholds⟩ := ih (h.deleted (hdelete id) hkind hfirst)
      (fun id' hid' => (State.holds_delete (hdelete id) ..).2
        ⟨hrest id' hid', fun e => hnew (e.2 ▸ hid')⟩) hdistinct
    refine ⟨hkept, hpending, fun kind' hne => List.Subset.trans (fun id' hid' => ?_)
      (hholds kind' hne)⟩
    exact (State.holds_delete (hdelete id) ..).2 ⟨hid', fun e => hne e.1⟩

end Store

namespace Renderer

variable {P : Name → Prop} {r r' : Renderer State}

/-- Commands go to the store one after the other. -/
theorem run_commands {α : Type} (command : α → Command Unit) (l : List α) (r : Renderer State) :
    l.foldl (fun r a => ((perform (command a) : StateM (Renderer State) Unit) r).2) r =
      { r with store := r.store.after (l.map command) } := by
  induction l generalizing r with
  | nil => rfl
  | cons a l ih => exact ih _

/-- The store of a renderer whose programs have been deleted. -/
def cleared (r : Renderer State) : Store State :=
  r.store.after ((r.programs.programs.values.map Program.name).map .deleteProgram)

theorem run_clear_programs (r : Renderer State) :
    (r.programs.clear : StateM (Renderer State) ProgramCache) r =
      ({}, { r with store := r.cleared }) := by
  unfold ProgramCache.clear cleared
  rw [run_forIn_bind, run_commands fun program : Shader.Program => .deleteProgram program.name,
    List.map_map]
  rfl

/-- What a reset leaves: the programs are deleted first, and the targets freed after them. -/
theorem run_reset (r : Renderer State) :
    (reset : StateM (Renderer State) Unit) r = ((), { r with
      store := ((r.registry.freeAll : StateM (Store State) Registry) r.cleared).2
      programs := {}
      registry := { r.registry with entries := .empty }
      assembler := r.assembler.clear }) := by
  unfold reset
  rw [run_get_bind, run_bind_eq (run_clear_programs r)]
  rfl

/-- The programs are deleted, and no others are remembered. -/
theorem Kept.cleared (h : r.Kept P) :
    ({ (r.programs.clear r).2 with programs := (r.programs.clear r).1 } : Renderer State).Kept P := by
  let ids := r.programs.programs.values.map Program.name
  have hheld : ∀ id ∈ ids, id ∈ r.store.device.holds .program := by
    intro id hid
    obtain ⟨program, hprogram, rfl⟩ := List.mem_map.1 hid
    exact h.programs.held program hprogram
  obtain ⟨hkept, hpending, hholds⟩ := @Store.Kept.deletedAll _ _ _ _ .program .deleteProgram
    (fun _ => rfl) rfl ids h.store hheld h.programs.distinct
  rw [run_clear_programs]
  exact ⟨hpending.symm ▸ hkept, ⟨nofun, List.nodup_nil⟩, h.samplers.of_subset (hholds _ nofun),
    hholds .vertexArray nofun h.vertexArray⟩

/-- A reset frees what was made for specs, and deletes every program. -/
theorem reset_keeping : Moves (Keeping P) (reset : StateM (Renderer State) Unit) := by
  intro r hr
  let r₁ : Renderer State := { (r.programs.clear r).2 with programs := (r.programs.clear r).1 }
  let s₂ := ((r₁.registry.freeAll : StateM (Store State) Registry) r₁.store).2
  let r₃ : Renderer State := { r₁ with store := s₂ }
  have hfree : Keeping P r₁ r₃ :=
    store_keeping (Store.freeAll_moves Store.free_orderly r₁.registry r₁.store)
  have hsame : Gentle P [] r₃ (reset r).2 := gentle_of_same rfl rfl rfl rfl rfl
  exact hsame.keeping (hfree hr.cleared)

/-- The end of a renderer: after the reset the sampler objects are deleted, and then the index
array. -/
theorem run_close (r : Renderer State) : (close r).1 = (reset r).2.store.after
    ((reset r).2.samplers.objects.values.map .deleteSampler ++
      [.deleteVertexArray (reset r).2.geometry.vertexArray,
        .deleteBuffer (reset r).2.geometry.buffer]) := by
  rcases hreset : (reset : StateM (Renderer State) Unit) r with ⟨⟨⟩, r₁⟩
  have hclear : (r₁.samplers.clear : StateM (Renderer State) Sampling.Cache) r₁ = ({}, { r₁ with
      store := r₁.store.after (r₁.samplers.objects.values.map .deleteSampler) }) := by
    unfold Sampling.Cache.clear
    rw [run_forIn_bind, run_commands Command.deleteSampler]
    rfl
  unfold close
  rw [run_bind_eq hreset, run_get_bind, run_bind_eq hclear, Store.after_append]
  rfl

/-- When a renderer has been given up, its device is still tidy. -/
theorem Kept.close_tidy (h : r.Kept P) : (close r).1.device.Tidy P := by
  have h₁ := reset_keeping r h
  rw [run_close, Store.after_append]
  generalize (reset r).2 = r₁ at h₁ ⊢
  obtain ⟨h₂, -, hholds⟩ := @Store.Kept.deletedAll _ _ _ _ .sampler .deleteSampler
    (fun _ => rfl) rfl _ h₁.store h₁.samplers.held h₁.samplers.distinct
  have h₃ := @Store.Kept.deleted _ _ _ _ h₂ (.deleteVertexArray r₁.geometry.vertexArray)
    .vertexArray _ rfl rfl (hholds .vertexArray nofun h₁.vertexArray)
  exact h₃.tidy.perform (.deleteBuffer r₁.geometry.buffer) (State.names_held h₃.index _)

theorem tidy_newDevice (width height : UInt32) : (newDevice width height).Tidy P := by
  have hnew : (State.new width height).Tidy P := by
    have hnone (kind : Kind) (id : Name) : id ∉ (State.new width height).holds kind := by
      cases kind <;> exact List.not_mem_nil
    have hbooked : (State.new width height).Booked :=
      ⟨fun kind id hid => absurd hid (hnone kind id),
        fun _ _ hdeleted => absurd hdeleted (Nat.lt_irrefl 0), fun _ _ => Nat.zero_le 1, nofun⟩
    exact ⟨hbooked, fun kind kind' id hid => absurd hid (hnone kind id), nofun, .nil⟩
  have hpack := hnew.perform (.pixelStore Constant.packAlignment 1) (State.names_nil P _ _)
  have hunpack := hpack.perform (.pixelStore Constant.unpackAlignment 1) (State.names_nil P _ _)
  have harray := hunpack.perform .createVertexArray (State.names_nil P _ _)
  exact harray.perform .createBuffer (State.names_nil P _ _)

/-- Where there are no targets and no stories, nothing is to be named but the index array. -/
theorem kept_newDevice {s : Store State} {width height : UInt32}
    (hdevice : s.device = newDevice width height) (htargets : s.targets = .empty)
    (hstories : s.stories = .empty) : s.Kept P 2 [] := by
  have htidy : s.device.Tidy P := hdevice ▸ tidy_newDevice width height
  have hnumbered : s.device.Numbered :=
    ⟨htidy.numbered .texture, htidy.numbered .framebuffer, htidy.numbered .buffer,
      htidy.numbered .fence⟩
  have hwf : s.WellFormed := (Store.wellFormed_new width height).of_eq hnumbered htargets hstories
  have hnone (key : TargetKey) : s.target? key = none := by
    rw [Store.target?, htargets]
    rfl
  have hframe (key : TargetKey) (f : Frame) : s.frame? key ≠ some f := by
    rw [Store.frame?, hnone]
    intro h
    cases h
  have hframebuffer (key : TargetKey) (id : Name) : s.framebuffer? key ≠ some id := by
    rw [Store.framebuffer?, hnone]
    intro h
    cases h
  have hpool (key : TargetKey) (p : PackPool) : s.pool? key ≠ some p := by
    rw [Store.pool?, hnone]
    intro h
    cases h
  have hidle (key : TargetKey) (buffer : Name) : s.idleCount key buffer = 0 := by
    rw [Store.idleCount, Store.pool?, hnone]
    rfl
  have hstory (key : StoryKey) (story : Story) : s.story? key ≠ some story := by
    rw [Store.story?, hstories]
    intro h
    cases h
  have howned : s.Owned :=
    ⟨hwf, fun key f h => absurd h (hframe key f), fun key id h => absurd h (hframebuffer key id),
      fun key f h => absurd h (hframe key f), fun key _ f _ h => absurd h (hframe key f),
      fun key _ id h => absurd h (hframebuffer key id), fun key f _ h => absurd h (hframe key f),
      fun key story h => absurd h (hstory key story), fun key story h => absurd h (hstory key story)⟩
  have hpooled : s.Pooled 2 [] :=
    ⟨hdevice ▸ Nat.le_refl 2, fun key p _ h => absurd h (hpool key p),
      fun key _ p _ _ h => absurd h (hpool key p), fun key p _ h => absurd h (hpool key p),
      fun key p _ h => absurd h (hpool key p), fun key p _ h => absurd h (hpool key p),
      fun key buffer => (hidle key buffer).symm ▸ Nat.zero_le 1, List.forall_mem_nil _,
      fun key p h => absurd h (hpool key p)⟩
  exact ⟨howned, htidy, hpooled, fun key p h => absurd h (hpool key p),
    hdevice ▸ List.mem_singleton_self 2, List.forall_mem_nil _, List.nodup_nil⟩

/-- A new renderer has what it is going to name. -/
theorem kept_create {config : Config} {width height : UInt32}
    (hr : create config { device := State.new width height } = .ok r) : r.Kept P := by
  have hs : (newStore config width height).Kept P 2 [] := kept_newDevice rfl rfl rfl
  obtain ⟨hkept, hstays⟩ :=
    Store.ensure_gentle ⟨1, 2, 0⟩ (max config.indexCapacity 1) _ hs (Store.has_nil _)
  obtain ⟨capacity, buffers, log, hensure, rfl⟩ := create_eq hr
  rw [hensure] at hkept hstays
  exact ⟨hkept, ⟨nofun, List.nodup_nil⟩, ⟨nofun, List.nodup_nil⟩,
    hstays.holds .vertexArray (List.mem_singleton_self 1)⟩

end Renderer

/-! ### Runs -/

/-- The samplers that an act is given have been taken from targets. -/
def Act.IsGenuine (r : Renderer State) : Act → Prop
  | draw bag _ => ∀ name sampler, bag.get? name = some (.uniform (.sampler sampler)) →
      ∃ key t, r.store.target? key = some t ∧ t.texture = sampler.texture
  | _ => True

/-- The samplers that the acts of a run are given have been taken from targets before. -/
def Act.AreGenuine : Renderer State → List Act → Prop
  | _, [] => True
  | r, act :: acts => act.IsGenuine r ∧ AreGenuine (act.after r) acts

namespace Renderer

variable {P : Name → Prop} {r settled : Renderer State} {bag : Params.Bag}
  {destination : Destination} {plan : Plan} {blend : Option Blend.State} {resolved : Resolved}

/-- What a sampler has been taken from is there when a draw has settled. -/
theorem hasTextures_settled (hr : r.store.WellFormed)
    (hgenuine : (Act.draw bag destination).IsGenuine r)
    (h : (settle bag destination).run r = (.ok (plan, blend, resolved), settled)) :
    settled.HasTextures plan.uniforms := by
  intro name sampler hvalue
  rw [Params.get?_split (Plan.ofBag_eq_ok (run_settle_eq_ok h).1).1] at hvalue
  split at hvalue
  · obtain ⟨value, hbag, huniform⟩ := Option.bind_eq_some_iff.1 hvalue
    cases value with
    | uniform value =>
      cases huniform
      obtain ⟨key, t, ht, htexture⟩ := hgenuine name sampler hbag
      have hkeeps : Over r.geometry.buffer Store.KeepsTextures r
          ((settle bag destination).run r).2 :=
        settle_moves Store.permits_keepsTextures bag (fun _ _ => trivial) r
      rw [h] at hkeeps
      obtain ⟨hwf, hsame⟩ := (hkeeps rfl).2.1 hr
      obtain ⟨t', ht', htexture'⟩ := hsame key t ht
      obtain ⟨f, hf, hname⟩ := hasTexture_sampler hwf ht'
      refine ⟨f, ?_, ?_⟩
      · rw [← htexture, ← htexture']
        exact hf
      · rw [← htexture, ← htexture']
        exact hname
    | _ => cases huniform
  · cases hvalue

/-- A draw keeps what is kept, unless it attaches a stray companion. -/
theorem draw_kept (hr : r.Kept P) (hgenuine : (Act.draw bag destination).IsGenuine r)
    (hstray : ∀ id, ((draw bag destination).run r).2.store.Stray id → P id) :
    ((draw bag destination).run r).2.Kept P := by
  have hsettled := settle_keeping bag destination r hr
  rw [draw_eq] at hstray ⊢
  rcases hsettle : (settle bag destination).run r with ⟨e | ⟨plan, blend, resolved⟩, settled⟩ <;>
    rw [hsettle] at hsettled
  · rw [Attempt.run_bind_error hsettle]
    exact hsettled
  rw [Attempt.run_bind_ok hsettle] at hstray ⊢
  dsimp only at hstray ⊢
  split at hstray
  · rename_i honly
    rw [if_pos honly]
    exact hsettled
  · rename_i honly
    rw [if_neg honly]
    have huniforms := hasTextures_settled hr.store.toWellFormed hgenuine hsettle
    -- What is stray is the same before the draw as after it, so the set can be chosen afterwards.
    have hpaint (Q : Name → Prop) (hQ : ∀ id, settled.store.Stray id → Q id) :
        Gentle Q [] settled ((paint plan blend resolved).run settled).2 :=
      paint_gentle plan blend resolved huniforms hQ
    obtain ⟨-, hstays⟩ := hpaint (fun _ => True) (fun _ _ => trivial)
      (hsettled.mono fun _ _ => trivial) settled.store.has_nil
    rcases hrun : (paint plan blend resolved).run settled with ⟨e | ⟨⟩, after⟩ <;>
      rw [hrun] at hpaint hstays
    · rw [Attempt.run_bind_error hrun] at hstray ⊢
      exact (hpaint P (fun id hid => hstray id (hstays.stray.2 hid)) hsettled
        settled.store.has_nil).1
    · rw [Attempt.run_bind_ok hrun] at hstray ⊢
      exact (hpaint P (fun id hid => hstray id (hstays.stray.2 hid)) hsettled
        settled.store.has_nil).1

end Renderer

theorem Control.sameHolds (change : Control) (d : State) : d.SameHolds (change.apply d) := by
  cases change <;> exact ⟨rfl, Nat.le_refl _, rfl⟩

/-- Every act keeps what is kept, as long as the stray companions are excepted. -/
theorem Act.after_kept {P : Name → Prop} {act : Act} {r : Renderer State} (hr : r.Kept P)
    (hgenuine : act.IsGenuine r) (hbefore : ∀ id, r.store.Stray id → P id)
    (hafter : ∀ id, (act.after r).store.Stray id → P id) : (act.after r).Kept P := by
  have gentle {s' : Store State}
      (h : Store.Gentle P r.geometry.buffer r.store.pending [] r.store s') :
      ({ r with store := s' } : Renderer State).Kept P := (Renderer.store_gentle h).keeping hr
  cases act with
  | draw bag destination => exact Renderer.draw_kept hr hgenuine hafter
  | reset => exact Renderer.reset_keeping r hr
  | poll =>
    obtain ⟨hkept, hspares⟩ := Store.poll_kept hr.store
    exact hr.of_store hkept hspares
  | read key label region destination =>
    obtain ⟨hkept, hspares⟩ := Store.read_kept hr.store hbefore key label region destination
    exact hr.of_store hkept hspares
  | readSync key region => exact gentle (Store.readSync_gentle hbefore region)
  | update key size data => exact gentle (Store.update_gentle key size data r.store)
  | bindTarget key readOnly => exact gentle (Store.bindTarget_gentle hbefore readOnly)
  | free key => exact Renderer.store_keeping (Store.free_orderly key r.store) hr
  | rotate key => exact gentle (Store.rotate_gentle r.store key)
  | wait time => exact gentle (Store.time_gentle rfl rfl rfl rfl)
  | control change =>
    have hsame := change.sameHolds r.store.device
    have hset := hr.store.set hsame (change.owning r.store hr.store.toOwned)
      (change.sameObjects r.store.device).buffers
    exact hr.of_store hset fun kind _ => hsame.holds ▸ List.Subset.refl _

/-- What is kept is kept throughout a run, as long as every companion that is stray at some point
of it is excepted. -/
theorem Act.afterAll_kept {P : Name → Prop} {acts : List Act} {r : Renderer State} (hr : r.Kept P)
    (hgenuine : Act.AreGenuine r acts)
    (hstray : ∀ earlier, earlier <+: acts → ∀ id, (Act.afterAll r earlier).store.Stray id → P id) :
    (Act.afterAll r acts).Kept P := by
  induction acts generalizing r with
  | nil => exact hr
  | cons act acts ih =>
    have hfirst := hstray [] (List.nil_prefix)
    have hsecond := hstray [act] ⟨acts, rfl⟩
    refine ih (Act.after_kept hr hgenuine.1 hfirst hsecond) hgenuine.2 fun earlier hearlier => ?_
    exact hstray (act :: earlier) ((List.prefix_cons_inj act).2 hearlier)

/-! ### What is deleted is not named again -/

/-- After a call that deletes an object no call names it again, neither to use it nor to delete it
a second time, unless it attaches the texture of a companion that has been freed before its
target. -/
theorem named_after_delete {config : Config} {width height : UInt32} {r : Renderer State}
    (hr : Renderer.create config { device := State.new width height } = .ok r) {acts : List Act}
    (hacts : Act.AreGenuine r acts) {device : State}
    (hdevice : device = (Act.afterAll r acts).store.device ∨
      device = (Renderer.close (Act.afterAll r acts)).1.device)
    {before between after : List Software.Call} {call later : Software.Call} {id : Name}
    (hlog : device.log.reverse = before ++ call :: between ++ later :: after)
    (hdeleted : call.deleted? = some id) (hnames : id ∈ later.names) :
    later.isAttachment = true ∧
      ∃ earlier, earlier <+: acts ∧ (Act.afterAll r earlier).store.Stray id := by
  have hkept := Act.afterAll_kept (Renderer.kept_create hr) hacts
    fun earlier hearlier id hid => (⟨earlier, hearlier, hid⟩ :
      ∃ earlier, earlier <+: acts ∧ (Act.afterAll r earlier).store.Stray id)
  have htidy : device.Tidy fun id =>
      ∃ earlier, earlier <+: acts ∧ (Act.afterAll r earlier).store.Stray id := by
    rcases hdevice with rfl | rfl
    · exact hkept.store.tidy
    · exact hkept.close_tidy
  -- The log has the latest call first.
  have hpairs := htidy.log
  rw [← List.reverse_reverse device.log, hlog, List.pairwise_reverse] at hpairs
  rw [List.append_assoc, List.pairwise_append] at hpairs
  obtain ⟨-, hpairs, -⟩ := hpairs
  rw [List.cons_append, List.pairwise_cons] at hpairs
  exact hpairs.1 later (by simp) id hnames hdeleted

/-- A target with a depth companion, whose companion is freed before the target is bound: the
companion's texture is deleted and attached afterwards. -/
theorem named_after_delete_of_freed_companion :
    ∃ (acts : List Act) (before between after : List Software.Call) (later : Software.Call),
      Act.AreGenuine Renderer.onePixel acts ∧
      (Act.afterAll Renderer.onePixel acts).store.device.log.reverse =
        before ++ .deleteTexture 3 :: between ++ later :: after ∧
      3 ∈ later.names ∧ later.isAttachment = true ∧
      ∃ earlier, earlier <+: acts ∧ (Act.afterAll Renderer.onePixel earlier).store.Stray 3 := by
  let spec : TargetSpec := { tag := "s", size := some (1, 1), format := some "rgba8+depth" }
  let bag : Params.Bag := Table.empty.insert "Clear" (.uniform (.float .zero))
  let acts : List Act := [.draw .empty (.spec spec), .free ⟨0⟩, .draw bag (.texture ⟨1⟩)]
  let log := (Act.afterAll Renderer.onePixel acts).store.device.log.reverse
  have hclear : (Act.draw bag (.texture ⟨1⟩)).IsGenuine
      (Act.afterAll Renderer.onePixel [.draw .empty (.spec spec), .free ⟨0⟩]) := by
    intro name sampler hvalue
    have hlook := (Table.get?_insert ..).symm.trans hvalue
    split at hlook <;> cases hlook
  have hgenuine : Act.AreGenuine Renderer.onePixel acts :=
    ⟨fun _ _ h => absurd h.symm (Option.some_ne_none _), trivial, hclear, trivial⟩
  have hlog : log = log.take 12 ++ .deleteTexture 3 :: (log.drop 13).take 3 ++
      .framebufferTexture Constant.depthAttachment 3 none :: log.drop 17 := by
    decide +kernel
  refine ⟨acts, _, _, _, _, hgenuine, hlog, List.mem_singleton_self 3, ?_⟩
  exact named_after_delete Renderer.create_onePixel hgenuine (.inl rfl) hlog rfl
    (List.mem_singleton_self 3)

end DrawPass
