/-
DrawPass/Proofs/Current.lean

Mip levels that are not stale are those of what was written last.

A target knows whether its mip levels are stale, and the log knows whether they are.
`Store.Current` says that the two agree: where a target's mip levels are not stale, every call
that wrote the first level of its texture has been followed by new mip levels.  Two things are
left out.  A companion is written together with the target it is attached to and does not
notice; and a set of calls may be excused from the start, because a draw that samples what it
draws into makes mip levels before it writes.

What targets and reads do keeps this true for simple reasons: either nothing is written
(`Store.Quiet`), or new storage is specified, and the target is marked.
-/
import DrawPass.Proofs.Mounted
import DrawPass.Proofs.TargetCommands

namespace DrawPass

open Software
open Gl hiding Call

theorem Gl.Command.writesLevels_of_ofTargets {α : Type} (command : Command α)
    (h : command.ofTargets) : command.writesLevels = false := by
  cases command <;> first | rfl | cases h

namespace Store

variable {P : Name → List Call → Prop} {s s' : Store State} {key : TargetKey} {t : Target}

/-- The target of a key is the companion of a target. -/
def IsCompanion (s : Store State) (key : TargetKey) : Prop :=
  ∃ owner f, s.frame? owner = some f ∧ f.companion.key? = some key

theorem KeepsFrames.isCompanion (h : s.KeepsFrames s') (hkey : s.IsCompanion key) :
    s'.IsCompanion key := by
  obtain ⟨owner, f, hf, hcompanion⟩ := hkey
  exact ⟨owner, f, h owner f hf, hcompanion⟩

/-- A target keeps its texture. -/
theorem KeepsFrames.name_eq (h : s.KeepsFrames s') {t' : Target} (ht : s.target? key = some t)
    (ht' : s'.target? key = some t') : t'.texture.name = t.texture.name := by
  have hframe := h key t.frame (frame?_of_target? ht)
  rw [frame?_of_target? ht'] at hframe
  exact congrArg Frame.name (Option.some.inj hframe)

/-- The log tells what is attached where, and mip levels that are not stale follow every call that
wrote the first level, unless the call is excused or the target is a companion. -/
structure Current (P : Name → List Call → Prop) (s : Store State) : Prop extends s.Mounted where
  framing : Framing.replay {} s.device.calls = s.device.framing
  current : ∀ key t, s.target? key = some t → t.mipsStale = false → ¬ s.IsCompanion key →
    LevelsFollow (P t.texture.name) t.texture.name s.device.calls

/-- What is current stays current. -/
def KeepsCurrent (P : Name → List Call → Prop) (s s' : Store State) : Prop :=
  s.Current P → s'.Current P

instance : IsPreorder (Store State) (KeepsCurrent P) where
  refl _ := id
  trans _ _ _ h h' := h' ∘ h

/-! ### Steps that write nothing -/

/-- No first level has been written, and no mip levels have been made. -/
structure Quiet (s s' : Store State) : Prop where
  unwritten : s.device.Unwritten s'.device
  stale : s.KeepsStale s'

instance : IsPreorder (Store State) Quiet where
  refl s := ⟨refl s.device, refl (r := KeepsStale) s⟩
  trans s s' s'' h h' := ⟨IsTrans.trans (r := State.Unwritten) _ _ _ h.unwritten h'.unwritten,
    IsTrans.trans (r := KeepsStale) s s' s'' h.stale h'.stale⟩

theorem keepsCurrent_of_quiet (hmounting : Mounting s s') (hquiet : Quiet s s') :
    KeepsCurrent P s s' := by
  intro h
  obtain ⟨hmounted, hframes⟩ := hmounting h.toMounted
  refine ⟨hmounted, hquiet.unwritten.replay h.framing, ?_⟩
  intro key t' ht' hstale hcompanion
  obtain ⟨t, ht, hstale'⟩ := hquiet.stale key t' ht' hstale
  obtain ⟨calls, hcalls, -, hnone⟩ := hquiet.unwritten
  have hfollow := h.current key t ht hstale' fun hkey => hcompanion (hframes.isCompanion hkey)
  rw [hframes.name_eq ht ht', hcalls]
  exact hfollow.append hnone

theorem permitsTargets_quiet : PermitsTargets Quiet where
  command command h s :=
    ⟨State.unwritten_perform command (command.writesLevels_of_ofTargets h) s.device,
      keepsStale_of_targets rfl⟩
  same s s' hdevice hstale := by
    refine ⟨?_, hstale⟩
    rw [hdevice]
    exact refl s.device

theorem free_current (key : TargetKey) :
    Moves (KeepsCurrent P) (free key : StateM (Store State) Unit) := fun s =>
  keepsCurrent_of_quiet (free_mounting key s) (permitsTargets_quiet.free key s)

theorem bindTarget_current (key : TargetKey) (readOnly : Bool) :
    Attempt.Moves (KeepsCurrent P) (bindTarget key readOnly :
      Attempt DrawError (Store State) _) := fun s =>
  keepsCurrent_of_quiet (bindTarget_moves permits_mounting.toBinding key readOnly s)
    (permitsTargets_quiet.bindTarget key readOnly s)

/-! ### New storage -/

/-- New storage is for one texture only, whose target is marked. -/
theorem respecified_current (ht : s.target? key = some t) {size : UInt32 × UInt32}
    {data : Option PixelData} (hmounting : Mounting s (s.respecified key t size data)) :
    KeepsCurrent P s (s.respecified key t size data) := by
  intro h
  obtain ⟨hmounted, hframes⟩ := hmounting h.toMounted
  obtain ⟨hcalls, hframing⟩ := s.device.perform_texImage t.texture.name t.info.layout size.1 size.2
    t.layers (data.map PixelData.bytes)
  have hcalls' : (s.respecified key t size data).device.calls = _ := hcalls
  have hframing' : (s.respecified key t size data).device.framing = _ := hframing
  refine ⟨hmounted, ?_, ?_⟩
  · rw [hcalls', hframing', Framing.replay_append, h.framing]
    rfl
  intro key' t' ht' hstale hcompanion
  rw [target?_respecified] at ht'
  split at ht'
  · obtain ⟨_, _, rfl⟩ := Option.map_eq_some_iff.1 ht'
    cases hstale
  · rename_i hkey
    have hfollow := h.current key' t' ht' hstale fun hown => hcompanion (hframes.isCompanion hown)
    rw [hcalls']
    refine hfollow.snoc fun hwrites => absurd ?_ hkey
    have hname : t.texture.name = t'.texture.name := beq_iff_eq.1 hwrites
    exact h.ownTexture key key' _ _ (frame?_of_target? ht) (frame?_of_target? ht') hname

theorem respecify_current (key : TargetKey) (size : UInt32 × UInt32) (data : Option PixelData) :
    Attempt.Moves (KeepsCurrent P)
      (respecify key size data : Attempt DrawError (Store State) Unit) := by
  intro s
  have hmounting := respecify_moves permitsContents_mounting key size data s
  by_cases hgood : ∃ t, s.target? key = some t ∧ t.freed = false ∧
      checkData t.tag t.info size t.layers data = .ok ()
  · obtain ⟨t, ht, hfreed, hdata⟩ := hgood
    rw [respecify_ok ht hfreed hdata] at hmounting ⊢
    exact respecified_current ht hmounting
  · obtain ⟨e, hrun⟩ := respecify_error hgood
    rw [hrun]
    exact refl (r := KeepsCurrent P) s

theorem update_current (key : TargetKey) (size : UInt32 × UInt32) (data : Option PixelData) :
    Attempt.Moves (KeepsCurrent P)
      (update key size data : Attempt DrawError (Store State) Unit) := by
  unfold update
  refine .bind (usable_moves key) fun t => .bind (respecify_current _ _ _) fun _ => ?_
  split
  · exact respecify_current _ _ _
  · exact .pure _

/-! ### New targets -/

/-- A new target has no mip levels yet. -/
theorem added_quiet {d : TargetDescription} {companion : Companion}
    (hnew : Added d companion s s') : Quiet s s' := by
  constructor
  · rw [hnew.device]
    exact State.unwritten_perform .createTexture rfl s.device
  · intro key t ht hstale
    rw [hnew.target] at ht
    split at ht
    · cases ht
      cases hstale
    · exact ⟨t, ht, hstale⟩

theorem make_current (spec : TargetSpec) (d : TargetDescription) :
    Attempt.Moves (KeepsCurrent P)
      (Registry.make spec d : Attempt DrawError (Store State) Entry) := by
  intro s hs
  have hrefuse (s : Store State) : KeepsCurrent P s s.disarmed :=
    keepsCurrent_of_quiet (refuse_mounting s) ⟨.of_eq rfl rfl, keepsStale_of_targets rfl⟩
  refine make_moves_at (R := KeepsCurrent P) update_current free_current hrefuse ?_ ?_ spec d
    hs.toWellFormed hs
  · intro s s' d companion hwf hnew hkeeps hown hdepth
    exact keepsCurrent_of_quiet (added_mounting hwf hnew hkeeps hown hdepth) (added_quiet hnew)
  · intro s story _ hwf hslots
    exact keepsCurrent_of_quiet (addStory_mounting hwf hslots)
      ⟨refl s.device, keepsStale_of_targets rfl⟩

theorem prepare_current (r : Registry) (spec : TargetSpec) : Attempt.Moves (KeepsCurrent P)
    (r.prepare spec : Attempt DrawError (Store State) _) := by
  refine prepare_moves update_current (fun s => ?_) r fun _ _ => make_current _ _
  exact keepsCurrent_of_quiet (permitsContents_mounting.plain _ rfl rfl s)
    (permitsTargets_quiet.command _ rfl s)

/-! ### Commands -/

/-- A command that has nothing to do with targets. -/
theorem command_current {α : Type} (command : Command α) (h : command.sparesTargets) :
    Moves (KeepsCurrent P) (perform command : StateM (Store State) α) := fun s =>
  keepsCurrent_of_quiet (command_mounting command (command.keepsFrames_of_sparesTargets h) s)
    ⟨State.unwritten_perform command (command.writesLevels_of_sparesTargets h) s.device,
      keepsStale_of_targets rfl⟩

end Store

/-! ### Acts -/

/-- A change of the device's settings writes nothing. -/
theorem Control.unwritten (change : Control) (d : State) : d.Unwritten (change.apply d) := by
  cases change <;> exact .of_eq rfl rfl

/-- What is current stays current through every act that is not a draw. -/
theorem Act.after_current {P : Name → List Call → Prop} {act : Act}
    (hact : ∀ bag destination, act ≠ .draw bag destination) (r : Renderer State) :
    Store.KeepsCurrent P r.store (act.after r).store := by
  have hmounting := act.after_mounting r
  have quiet (h : Store.Quiet r.store (act.after r).store) :
      Store.KeepsCurrent P r.store (act.after r).store :=
    Store.keepsCurrent_of_quiet hmounting h
  cases act with
  | draw bag destination => exact absurd rfl (hact bag destination)
  | update key size data => exact Store.update_current key size data r.store
  | poll => exact quiet (Store.permitsTargets_quiet.poll r.store)
  | read key label region destination =>
    exact quiet (Store.permitsTargets_quiet.read key label region destination r.store)
  | readSync key region => exact quiet (Store.permitsTargets_quiet.readSync key region r.store)
  | bindTarget key readOnly =>
    exact quiet (Store.permitsTargets_quiet.bindTarget key readOnly r.store)
  | free key => exact quiet (Store.permitsTargets_quiet.free key r.store)
  | rotate key => exact quiet ⟨refl r.store.device, Store.keepsStale_of_targets rfl⟩
  | wait time => exact quiet ⟨refl r.store.device, Store.keepsStale_of_targets rfl⟩
  | control change =>
    exact quiet ⟨change.unwritten r.store.device, Store.keepsStale_of_targets rfl⟩
  | reset =>
    -- Programs are deleted and targets are freed.
    have hreset : Moves (Renderer.Over r.geometry.buffer Store.Quiet)
        (Renderer.reset : StateM (Renderer State) Unit) := by
      unfold Renderer.reset Shader.ProgramCache.clear
      refine .bind .get fun r => .bind (.bind (.forIn (fun program _ => ?_) _ _) fun _ => .pure _)
        fun _ => .bind (.modify fun r => Renderer.along_of_eq rfl rfl id) fun _ => ?_
      · refine .bind (Renderer.perform_moves fun s => ?_) fun _ => .pure _
        exact ⟨State.unwritten_perform (.deleteProgram program.name) rfl s.device,
          Store.keepsStale_of_targets rfl⟩
      · refine .bind .get fun r => .bind (Renderer.onStore_moves ?_) fun _ =>
          .modify fun r => Renderer.along_of_eq rfl rfl id
        exact Store.freeAll_moves Store.permitsTargets_quiet.free r.registry
    exact quiet (hreset r rfl).2.1

/-- Everything is current in a new renderer. -/
theorem Renderer.current_create {P : Name → List Call → Prop} {config : Config}
    {width height : UInt32} {r : Renderer State}
    (hr : create config { device := State.new width height } = .ok r) : r.store.Current P := by
  have hquiet : Store.Quiet { device := State.new width height } r.store :=
    create_moves_by (fun command _ h s => ⟨State.unwritten_perform command
        (command.writesLevels_of_sparesTargets h) s.device, Store.keepsStale_of_targets rfl⟩)
      (fun s s' hdevice htargets _ => Store.permitsTargets_quiet.same s s' hdevice
        (Store.keepsStale_of_targets htargets)) hr
  have hmounted := (ReachableBy.start (P := fun _ => True) hr).mounted
  obtain ⟨_, -, -, -, -, hstore⟩ := create_new hr
  refine ⟨hmounted, hquiet.unwritten.replay rfl, fun key t ht => ?_⟩
  have hnone : r.store.target? key = none := by
    rw [hstore]
    rfl
  rw [hnone] at ht
  cases ht

end DrawPass
