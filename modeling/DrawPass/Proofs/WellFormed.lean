/-
DrawPass/Proofs/WellFormed.lean

What holds of the store of every reachable renderer.

Object numbers have been given out before they are used; the keys of the targets are
the numbers below their count, and each target knows its own key; no slot occurs twice
in a story.  Every command and every change of a target keeps this, so every act does
(`ReachableBy.wellFormed`).  The one place where there is something to show is the
making of a story, whose slots are made one after the other.
-/
import DrawPass.Proofs.Run

namespace DrawPass

open Gl Software

namespace TargetDescription

/-- The target that is made from a description, around a texture. -/
def target (d : TargetDescription) (key : TargetKey) (name : Name) (companion : Companion) :
    Target where
  texture := { key, name, format := d.format, layered := d.layers.isSome, tag := d.tag }
  mode := d.mode
  layers := d.layers
  size := d.size
  companion := companion
  pool := { limit := d.poolLimit }

/-- The companion of its own that a target may have. -/
def companion (d : TargetDescription) : TargetDescription :=
  { d with
    tag := d.tag ++ "_depth"
    format := .depth
    layers := none
    data := none
    withDepth := false }

end TargetDescription

/-- The slots of every story are distinct, and keys and numbers are those given out. -/
structure Store.WellFormed (s : Store State) : Prop where
  numbered : s.device.Numbered
  mem_targets : ∀ key : TargetKey, key ∈ s.targets.keys ↔ key.index < s.targets.size
  ownKey : ∀ key t, s.target? key = some t → t.texture.key = key
  distinctSlots : ∀ key story, s.story? key = some story → story.slots.Nodup

namespace Store

/-- What is well formed stays so, and no target is lost. -/
def Keeps (s s' : Store State) : Prop :=
  s.WellFormed → s'.WellFormed ∧ s.targets.size ≤ s'.targets.size

instance : IsPreorder (Store State) Keeps where
  refl s h := ⟨h, Nat.le_refl _⟩
  trans s s' s'' h h' hs := by
    obtain ⟨hs', hle⟩ := h hs
    obtain ⟨hs'', hle'⟩ := h' hs'
    exact ⟨hs'', Nat.le_trans hle hle'⟩

theorem WellFormed.of_eq {s s' : Store State} (h : s.WellFormed) (hdevice : s'.device.Numbered)
    (htargets : s'.targets = s.targets) (hstories : s'.stories = s.stories) : s'.WellFormed where
  numbered := hdevice
  mem_targets := htargets ▸ h.mem_targets
  ownKey key t ht := h.ownKey key t (by rwa [target?, htargets] at ht)
  distinctSlots key story hstory := h.distinctSlots key story (by rwa [story?, hstories] at hstory)

theorem nextTarget_notMem {s : Store State} (h : s.WellFormed) : s.nextTarget ∉ s.targets.keys := by
  rw [h.mem_targets]
  exact Nat.lt_irrefl _

theorem size_addTarget {s : Store State} {t : Target} (h : t.texture.key ∉ s.targets.keys) :
    (s.addTarget t).targets.size = s.targets.size + 1 := by
  unfold addTarget
  rw [Table.size_insert, if_neg h]

theorem permitsParts_keeps : PermitsParts Keeps where
  command command _ s h := ⟨h.of_eq (State.numbered_perform command h.numbered) rfl rfl, Nat.le_refl _⟩
  modifyTarget s key f hf h := by
    have hsize : (s.modifyTarget key f).targets.size = s.targets.size := Table.size_modify ..
    refine ⟨⟨h.numbered, fun key' => ?_, fun key' t ht => ?_, h.distinctSlots⟩,
      Nat.le_of_eq hsize.symm⟩
    · rw [hsize]
      exact Table.mem_keys_modify.trans (h.mem_targets key')
    · rw [target?, modifyTarget, Table.get?_modify] at ht
      split at ht
      · subst_vars
        obtain ⟨t', ht', rfl⟩ := Option.map_eq_some_iff.1 ht
        rw [hf]
        exact h.ownKey _ t' ht'
      · exact h.ownKey key' t ht
  addTarget s t ht h := by
    -- A new target is put behind the others, under their number.
    have hsize := size_addTarget (ht ▸ nextTarget_notMem h)
    refine ⟨⟨h.numbered, fun key => ?_, fun key t' ht' => ?_, h.distinctSlots⟩, ?_⟩
    · rw [hsize, addTarget, Table.mem_keys_insert, h.mem_targets, ht, Nat.lt_succ_iff_lt_or_eq,
        or_comm, nextTarget]
      exact or_congr_right ⟨congrArg TargetKey.index, fun hi => hi ▸ rfl⟩
    · rw [target?, addTarget, Table.get?_insert] at ht'
      split at ht'
      · cases ht'
        assumption
      · exact h.ownKey key t' ht'
    · exact hsize ▸ Nat.le_succ _
  reads s s' hdevice htargets hstories h :=
    ⟨h.of_eq (hdevice ▸ h.numbered) htargets hstories, htargets ▸ Nat.le_refl _⟩

/-! ### Targets that have been made -/

/-- A target that has been made has the next key and stands around a new texture, and it has been
given its first storage. -/
theorem run_createWith_ok {d : TargetDescription} {companion : Companion} {s s' : Store State}
    {key : TargetKey} (h : (createWith d companion).run s = (.ok key, s')) :
    ∃ name s₁, (Attempt.perform .createTexture : Attempt DrawError (Store State) _).run s =
        (.ok (.ok name), s₁) ∧ s₁.targets = s.targets ∧ key = s₁.nextTarget ∧
      (update key d.size d.data).run (s₁.addTarget (d.target key name companion)) =
        (.ok (), s') := by
  unfold createWith at h
  obtain ⟨reply, s₁, hreply, h⟩ := Attempt.run_bind_eq_ok.1 h
  rcases reply with cause | name
  · -- The device has refused, and so has the target been.
    dsimp only at h
    split at h
    · rw [Attempt.run_bind_ok (Attempt.run_lift _ s₁)] at h
      cases h
    · cases h
  have htargets : s₁.targets = s.targets := by
    injection hreply with _ hreply
    subst hreply
    rfl
  rw [Attempt.run_bind_ok (Attempt.run_get s₁),
    Attempt.run_bind_ok (Attempt.run_modify _ s₁)] at h
  obtain ⟨_, s₂, hupdate, h⟩ := Attempt.run_bind_eq_ok.1 h
  cases h
  rw [Attempt.run_tryCatch] at hupdate
  split at hupdate
  · rename_i hrun
    cases hupdate
    exact ⟨name, s₁, hreply, htargets, rfl, hrun⟩
  · -- A target whose storage has been refused is freed, and the refusal handed on.
    rename_i s₃ _
    rw [Attempt.run_bind_ok (Attempt.run_lift _ s₃)] at hupdate
    cases hupdate

/-- A target that has been made was made last, maybe after its companion. -/
theorem run_create_ok {d : TargetDescription} {s s' : Store State} {key : TargetKey}
    (h : (create d).run s = (.ok key, s')) :
    ∃ companion s₁, (createWith d companion).run s₁ = (.ok key, s') ∧
      (s₁ = s ∨ ∃ own, (createWith d.companion .none).run s = (.ok own, s₁)) := by
  unfold create at h
  obtain ⟨_, s₁, hdata, h⟩ := Attempt.run_bind_eq_ok.1 h
  rw [Attempt.run_ofExcept] at hdata
  injection hdata with _ hdata
  subst hdata
  split at h
  · exact ⟨_, s, h, .inl rfl⟩
  · split at h
    · obtain ⟨own, s₁, hown, h⟩ := Attempt.run_bind_eq_ok.1 h
      exact ⟨_, s₁, h, .inr ⟨own, hown⟩⟩
    · exact ⟨_, s, h, .inl rfl⟩

/-! ### The slots of a new story -/

/-- The key of a new target is none of those that were given out before. -/
theorem createWith_key {d : TargetDescription} {companion : Companion} {s s' : Store State}
    {key : TargetKey} (hs : s.WellFormed)
    (h : (createWith d companion).run s = (.ok key, s')) :
    s.targets.size ≤ key.index ∧ key.index < s'.targets.size := by
  obtain ⟨name, s₁, hreply, htargets, rfl, hupdate⟩ := run_createWith_ok h
  obtain ⟨hwf, -⟩ := (permitsParts_keeps.perform .createTexture rfl).of_run hreply hs
  obtain ⟨hadded, -⟩ :=
    permitsParts_keeps.addTarget s₁ (d.target s₁.nextTarget name companion) rfl hwf
  obtain ⟨-, hle⟩ := (update_moves permitsParts_keeps.toContents _ _ _).of_run hupdate hadded
  rw [size_addTarget (nextTarget_notMem hwf)] at hle
  exact ⟨Nat.le_of_eq (congrArg Table.size htargets.symm), hle⟩

theorem create_key {d : TargetDescription} {s s' : Store State} {key : TargetKey}
    (hs : s.WellFormed) (h : (create d).run s = (.ok key, s')) :
    s.targets.size ≤ key.index ∧ key.index < s'.targets.size := by
  obtain ⟨companion, s₁, hwith, rfl | ⟨own, hown⟩⟩ := run_create_ok h
  · exact createWith_key hs hwith
  · obtain ⟨hs₁, hle⟩ := (createWith_moves permitsParts_keeps _ _).of_run hown hs
    obtain ⟨hlow, hhigh⟩ := createWith_key hs₁ hwith
    exact ⟨Nat.le_trans hle hlow, hhigh⟩

/-- Targets made one after the other have keys of their own, one each, and are there in the end. -/
theorem mapM_create_keys {ds : List TargetDescription} {s s' : Store State}
    {keys : List TargetKey} (hs : s.WellFormed) (h : (ds.mapM create).run s = (.ok keys, s')) :
    keys.length = ds.length ∧ keys.Nodup ∧
      ∀ key ∈ keys, s.targets.size ≤ key.index ∧ key.index < s'.targets.size := by
  induction ds generalizing s keys with
  | nil =>
    cases h
    exact ⟨rfl, List.nodup_nil, nofun⟩
  | cons d ds ih =>
    rw [List.mapM_cons] at h
    obtain ⟨key, s₁, hkey, h⟩ := Attempt.run_bind_eq_ok.1 h
    obtain ⟨keys', s₂, hkeys, h⟩ := Attempt.run_bind_eq_ok.1 h
    cases h
    obtain ⟨hs₁, hle⟩ := (create_moves permitsParts_keeps d).of_run hkey hs
    obtain ⟨-, hle'⟩ := (Attempt.Moves.mapM fun d _ => create_moves permitsParts_keeps d).of_run
      hkeys hs₁
    obtain ⟨hlow, hhigh⟩ := create_key hs hkey
    obtain ⟨hlength, hnodup, hlater⟩ := ih hs₁ hkeys
    refine ⟨congrArg Nat.succ hlength, List.nodup_cons.2 ⟨fun hmem => ?_, hnodup⟩,
      List.forall_mem_cons.2 ⟨⟨hlow, Nat.lt_of_lt_of_le hhigh hle'⟩, fun key' hkey' => ?_⟩⟩
    · exact Nat.lt_irrefl _ (Nat.lt_of_lt_of_le hhigh (hlater key hmem).1)
    · exact ⟨Nat.le_trans hle (hlater key' hkey').1, (hlater key' hkey').2⟩

theorem addStory_wellFormed {s : Store State} {story : Story} (h : s.WellFormed)
    (hstory : story.slots.Nodup) : (s.addStory story).2.WellFormed where
  numbered := h.numbered
  mem_targets := h.mem_targets
  ownKey := h.ownKey
  distinctSlots key story' hstory' := by
    rw [story?, addStory, Table.get?_insert] at hstory'
    split at hstory'
    · cases hstory'
      exact hstory
    · exact h.distinctSlots key story' hstory'

theorem make_keeps (spec : TargetSpec) (d : TargetDescription) :
    Attempt.Moves Keeps (Registry.make spec d : Attempt DrawError (Store State) Entry) := by
  have hcreate := create_moves permitsParts_keeps
  intro s hs
  unfold Registry.make
  split
  · rename_i earlier _
    rcases hcurrent : (create d).run s with ⟨e | current, s₁⟩
    · rw [Attempt.run_bind_error hcurrent]
      exact (hcreate d).of_run hcurrent hs
    rw [Attempt.run_bind_ok hcurrent]
    obtain ⟨hs₁, hle₁⟩ := (hcreate d).of_run hcurrent hs
    rcases hearlier : ((List.replicate earlier d).mapM create).run s₁ with ⟨e | keys, s₂⟩
    · rw [Attempt.run_bind_error hearlier]
      obtain ⟨hs₂, hle₂⟩ := (Attempt.Moves.mapM fun d _ => hcreate d).of_run hearlier hs₁
      exact ⟨hs₂, Nat.le_trans hle₁ hle₂⟩
    rw [Attempt.run_bind_ok hearlier]
    obtain ⟨hs₂, hle₂⟩ := (Attempt.Moves.mapM fun d _ => hcreate d).of_run hearlier hs₁
    -- Seen together, the two steps are one run along the slots, whose keys are distinct.
    have hslots : ((d :: List.replicate earlier d).mapM create).run s =
        (.ok (current :: keys), s₂) := by
      rw [List.mapM_cons, Attempt.run_bind_ok hcurrent, Attempt.run_bind_ok hearlier]
      rfl
    obtain ⟨-, hdistinct, -⟩ := mapM_create_keys hs hslots
    exact ⟨addStory_wellFormed hs₂ hdistinct, Nat.le_trans hle₁ hle₂⟩
  · exact Attempt.Moves.bind (hcreate d) (fun _ => .pure _) s hs

theorem permits_keeps : Permits Keeps fun _ => True :=
  permitsParts_keeps.permits fun _ _ _ _ _ => make_keeps _ _

/-- Turning a story round moves its slots about. -/
theorem rotate_keeps (s : Store State) (key : StoryKey) : Keeps s (s.rotate key) := by
  refine fun h => ⟨⟨h.numbered, h.mem_targets, h.ownKey, fun key' story hstory => ?_⟩,
    Nat.le_refl _⟩
  rw [story?, rotate, Table.get?_modify] at hstory
  split at hstory
  · obtain ⟨story', hstory', rfl⟩ := Option.map_eq_some_iff.1 hstory
    exact (Story.rotate_perm story').nodup_iff.2 (h.distinctSlots _ story' hstory')
  · exact h.distinctSlots key' story hstory

end Store

theorem Control.keeps (change : Control) (s : Store State) :
    Store.Keeps s { s with device := change.apply s.device } := fun h =>
  ⟨h.of_eq ((change.sameObjects s.device).numbered h.numbered) rfl rfl, Nat.le_refl _⟩

/-- A store on which nothing has been made is well formed. -/
theorem Store.wellFormed_new (width height : UInt32) :
    ({ device := State.new width height } : Store State).WellFormed where
  numbered := by constructor <;> exact fun _ h => absurd h List.not_mem_nil
  mem_targets _ := ⟨fun h => absurd h List.not_mem_nil, fun h => absurd h (Nat.not_lt_zero _)⟩
  ownKey _ _ h := nomatch (h : none = some _)
  distinctSlots _ _ h := nomatch (h : none = some _)

/-- Every act keeps the store well formed. -/
theorem Act.after_keeps (act : Act) (r : Renderer State) :
    Store.Keeps r.store (act.after r).store :=
  Act.moves Store.permits_keeps Store.permitsParts_keeps.toReads
    (fun command _ _ h => ⟨h.of_eq (State.numbered_perform command h.numbered) rfl rfl, Nat.le_refl _⟩)
    Store.rotate_keeps (fun s change => change.keeps s) act r

/-- Every reachable store is well formed. -/
theorem ReachableBy.wellFormed {P : Act → Prop} {r : Renderer State} (hr : ReachableBy P r) :
    r.store.WellFormed := by
  refine ReachableBy.invariant (I := fun r => r.store.WellFormed)
    (fun config width height r hr => ?_) (fun act r _ h => (act.after_keeps r h).1) hr
  exact (Renderer.create_moves Store.permitsParts_keeps hr (Store.wellFormed_new width height)).1

end DrawPass
