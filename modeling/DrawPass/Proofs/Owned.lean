/-
DrawPass/Proofs/Owned.lean

Whose the textures and the framebuffers of the device are.

Whatever specs a host draws into, the texture of a target is the target's own and stays
on the device until the target is freed, and so does its framebuffer; the slots of a
story are targets that have been made.  `Store.Owned` says so of a store, and every act
keeps it (`ReachableBy.owned`).

The texture of a target never changes, not even when the target is freed
(`KeepsTextures`): this is why a sampler stays one of the target that it was taken from.

Targets are made in a few steps, some of which may be undone.  What a preorder has to
permit for the making of a target, or of a story, is stated once (`create_moves_at`,
`make_moves_at`), for stores that are well formed.
-/
import DrawPass.Proofs.Sound

namespace DrawPass

open Gl Readback Software

namespace Store

variable {s s' : Store State} {key : TargetKey} {t : Target}

/-! ### Making, for well-formed stores -/

/-- A key that has been given out is that of a target. -/
theorem WellFormed.exists_target (hs : s.WellFormed) (hkey : key.index < s.targets.size) :
    ∃ t, s.target? key = some t :=
  Option.isSome_iff_exists.1 (Table.mem_keys_iff.1 ((hs.mem_targets key).2 hkey))

/-- A key that has not been given out is that of no target. -/
theorem WellFormed.target?_eq_none (hs : s.WellFormed) (hkey : s.targets.size ≤ key.index) :
    s.target? key = none := by
  cases ht : s.target? key with
  | none => rfl
  | some t =>
    have hmem := Table.mem_keys_iff.2 (Option.isSome_of_mem ht)
    exact absurd ((hs.mem_targets key).1 hmem) (Nat.not_lt.2 hkey)

/-- A story that has been made: the slots are targets, each made for it. -/
theorem run_make_story {spec : TargetSpec} {d : TargetDescription} {key : StoryKey}
    (hs : s.WellFormed) (h : (Registry.make spec d).run s = (.ok (.story key), s')) :
    ∃ story s₁, s' = (s₁.addStory story).2 ∧ key = ⟨s₁.stories.size⟩ ∧
      ((List.replicate story.size d).mapM create).run s = (.ok story.slots, s₁) ∧
      spec.story = some story.size := by
  unfold Registry.make at h
  split at h
  · rename_i earlier hspec
    obtain ⟨current, s₁, hcurrent, h⟩ := Attempt.run_bind_eq_ok.1 h
    obtain ⟨keys, s₂, hkeys, h⟩ := Attempt.run_bind_eq_ok.1 h
    cases h
    have hslots : ((d :: List.replicate earlier d).mapM create).run s =
        (.ok (current :: keys), s₂) := by
      rw [List.mapM_cons, Attempt.run_bind_ok hcurrent, Attempt.run_bind_ok hkeys]
      rfl
    obtain ⟨hs₁, -⟩ := (create_moves permitsParts_keeps d).of_run hcurrent hs
    have hlength : keys.length = earlier :=
      (mapM_create_keys hs₁ hkeys).1.trans List.length_replicate
    have hsize : (⟨current, keys⟩ : Story).size = earlier + 1 := by
      rw [Story.size, Story.length_slots, hlength]
    refine ⟨⟨current, keys⟩, s₂, rfl, rfl, ?_, ?_⟩
    · rw [hsize]
      exact hslots
    · rw [hsize, hspec]
  · obtain ⟨_, _, _, h⟩ := Attempt.run_bind_eq_ok.1 h
    cases h

theorem permitsContents_sameFrames : PermitsContents SameFrames where
  plain _ _ _ _ := ⟨rfl, rfl, rfl⟩
  contents s key _ hf := (sameTargets_modifyTarget s key hf).toSameFrames

/-- A target that has been made is drawn into as its description says. -/
theorem createWith_frame {d : TargetDescription} {companion : Companion}
    (h : (createWith d companion).run s = (.ok key, s')) :
    ∃ name, s'.frame? key = some (d.target key name companion).frame := by
  obtain ⟨name, s₁, -, -, rfl, hupdate⟩ := run_createWith_ok h
  have hsame := (update_moves permitsContents_sameFrames _ _ _).of_run hupdate
  exact ⟨name, hsame.frame ▸ frame?_of_target? ((target?_addTarget ..).trans (if_pos rfl))⟩

section Making

variable {R : Store State → Store State → Prop} [IsPreorder (Store State) R]
  (hupdate : ∀ key size data, Attempt.Moves R
    (update key size data : Attempt DrawError (Store State) Unit))
  (hfree : ∀ key, Moves R (free key : StateM (Store State) Unit))
  (hrefuse : ∀ s : Store State, R s s.disarmed)
  (hadd : ∀ (s s' : Store State) (d : TargetDescription) (companion : Companion), s.WellFormed →
    Added d companion s s' → Keeps s s' →
    (∀ own, companion.ownedKey? = some own → own.index < s.targets.size) →
    (∀ own, companion.ownedKey? = some own → ∃ c, s.frame? own = some c ∧ c.isFlatDepth = true) →
    R s s')
include hupdate hfree hrefuse hadd

/-- A target is made after its own companion. -/
theorem create_moves_at (d : TargetDescription) (hs : s.WellFormed) :
    R s ((create d).run s).2 := by
  -- The relation holds for a target as soon as its companion is there.
  have hwith (s : Store State) (hs : s.WellFormed) (d : TargetDescription) (companion : Companion)
      (hown : ∀ own, companion.ownedKey? = some own → own.index < s.targets.size)
      (hdepth : ∀ own, companion.ownedKey? = some own →
        ∃ c, s.frame? own = some c ∧ c.isFlatDepth = true) :
      R s ((createWith d companion).run s).2 :=
    createWith_moves_at hupdate hfree (hrefuse s)
      (fun s' hadded hkeeps => hadd s s' d companion hs hadded hkeeps hown hdepth) hs
  by_cases hdata : checkData d.tag d.format.info d.size d.layers d.data = .ok ()
  · rw [run_create hdata]
    split
    · exact hwith s hs d _ nofun nofun
    · split
      · have hfirst := hwith s hs d.companion .none nofun nofun
        rcases hrun : (createWith d.companion .none).run s with ⟨e | own, s₁⟩ <;>
          rw [hrun] at hfirst
        · rw [Attempt.run_bind_error hrun]
          exact hfirst
        · rw [Attempt.run_bind_ok hrun]
          obtain ⟨hs₁, -⟩ := (createWith_moves permitsParts_keeps _ _).of_run hrun hs
          refine IsTrans.trans s s₁ _ hfirst (hwith s₁ hs₁ d _ (fun own' hown => ?_)
            fun own' hown => ?_) <;> cases hown
          · exact (createWith_key hs hrun).2
          · obtain ⟨name, hframe⟩ := createWith_frame hrun
            exact ⟨_, hframe, rfl⟩
      · exact hwith s hs d _ nofun nofun
  · obtain ⟨e, hrun⟩ := create_refused hdata
    rw [hrun]
    exact refl s

/-- Targets are made one after the other. -/
theorem mapM_create_moves_at (d : TargetDescription) (n : Nat) (hs : s.WellFormed) :
    R s (((List.replicate n d).mapM create).run s).2 := by
  induction n generalizing s with
  | zero => exact refl s
  | succ n ih =>
    rw [List.replicate_succ, List.mapM_cons]
    have hfirst := create_moves_at hupdate hfree hrefuse hadd d hs
    rcases hrun : (create d).run s with ⟨e | key, s₁⟩ <;> rw [hrun] at hfirst
    · rw [Attempt.run_bind_error hrun]
      exact hfirst
    · obtain ⟨hs₁, -⟩ := (create_moves permitsParts_keeps d).of_run hrun hs
      rw [Attempt.run_bind_ok hrun]
      have hrest := ih hs₁
      rcases hrun₁ : ((List.replicate n d).mapM create).run s₁ with ⟨e | keys, s₂⟩ <;>
        rw [hrun₁] at hrest
      · rw [Attempt.run_bind_error hrun₁]
        exact IsTrans.trans s s₁ s₂ hfirst hrest
      · rw [Attempt.run_bind_ok hrun₁]
        exact IsTrans.trans s s₁ s₂ hfirst hrest

/-- The slots of a story are made before the story. -/
theorem make_moves_at (hstory : ∀ (s : Store State) (story : Story), s.WellFormed →
      (s.addStory story).2.WellFormed → (∀ slot ∈ story.slots, slot.index < s.targets.size) →
      R s (s.addStory story).2)
    (spec : TargetSpec) (d : TargetDescription) (hs : s.WellFormed) :
    R s ((Registry.make spec d).run s).2 := by
  have hkeeps := make_keeps spec d s hs
  unfold Registry.make at hkeeps ⊢
  split
  · rename_i earlier hspec
    rw [hspec] at hkeeps
    have hfirst := create_moves_at hupdate hfree hrefuse hadd d hs
    rcases hcurrent : (create d).run s with ⟨e | current, s₁⟩ <;> rw [hcurrent] at hfirst
    · rw [Attempt.run_bind_error hcurrent]
      exact hfirst
    obtain ⟨hs₁, -⟩ := (create_moves permitsParts_keeps d).of_run hcurrent hs
    rw [Attempt.run_bind_ok hcurrent] at hkeeps ⊢
    have hrest := mapM_create_moves_at hupdate hfree hrefuse hadd d earlier hs₁
    rcases hearlier : ((List.replicate earlier d).mapM create).run s₁ with ⟨e | keys, s₂⟩ <;>
      rw [hearlier] at hrest
    · rw [Attempt.run_bind_error hearlier]
      exact IsTrans.trans s s₁ s₂ hfirst hrest
    obtain ⟨hs₂, hle⟩ := (Attempt.Moves.mapM fun d _ => create_moves permitsParts_keeps d).of_run
      hearlier hs₁
    rw [Attempt.run_bind_ok hearlier] at hkeeps ⊢
    have hthere : ∀ slot ∈ (⟨current, keys⟩ : Story).slots, slot.index < s₂.targets.size :=
      List.forall_mem_cons.2 ⟨Nat.lt_of_lt_of_le (create_key hs hcurrent).2 hle,
        fun slot hslot => ((mapM_create_keys hs₁ hearlier).2.2 slot hslot).2⟩
    exact IsTrans.trans s s₂ _ (IsTrans.trans s s₁ s₂ hfirst hrest)
      (hstory s₂ ⟨current, keys⟩ hs₂ hkeeps.1 hthere)
  · have hfirst := create_moves_at hupdate hfree hrefuse hadd d hs
    rcases hrun : (create d).run s with ⟨e | key, s₁⟩ <;> rw [hrun] at hfirst
    · rw [Attempt.run_bind_error hrun]
      exact hfirst
    · rw [Attempt.run_bind_ok hrun]
      exact hfirst

end Making

/-! ### Textures are for good -/

/-- A target keeps its texture. -/
def KeepsTextures (s s' : Store State) : Prop :=
  s.WellFormed → s'.WellFormed ∧
    ∀ key t, s.target? key = some t → ∃ t', s'.target? key = some t' ∧ t'.texture = t.texture

instance : IsPreorder (Store State) KeepsTextures where
  refl s h := ⟨h, fun _ t ht => ⟨t, ht, rfl⟩⟩
  trans s s' s'' h h' hs := by
    obtain ⟨hs', hsame⟩ := h hs
    obtain ⟨hs'', hsame'⟩ := h' hs'
    refine ⟨hs'', fun key t ht => ?_⟩
    obtain ⟨t', ht', htexture⟩ := hsame key t ht
    obtain ⟨t'', ht'', htexture'⟩ := hsame' key t' ht'
    exact ⟨t'', ht'', htexture'.trans htexture⟩

theorem keepsTextures_of_eq (hkeeps : Keeps s s') (htargets : s'.targets = s.targets) :
    KeepsTextures s s' := fun hs =>
  ⟨(hkeeps hs).1, fun key t ht => ⟨t, by rwa [target?, htargets], rfl⟩⟩

theorem permitsParts_keepsTextures : PermitsParts KeepsTextures where
  command command hfixed s := keepsTextures_of_eq (permitsParts_keeps.command command hfixed s) rfl
  modifyTarget s key f hf hs := by
    refine ⟨(permitsParts_keeps.modifyTarget s key f hf hs).1, fun key' t ht => ?_⟩
    rw [target?_modifyTarget]
    split
    · exact ⟨f t, by rw [ht, Option.map_some], hf t⟩
    · exact ⟨t, ht, rfl⟩
  addTarget s t ht hs := by
    refine ⟨(permitsParts_keeps.addTarget s t ht hs).1, fun key' t' ht' => ⟨t', ?_, rfl⟩⟩
    have hne : t.texture.key ≠ key' := by
      rintro rfl
      exact nextTarget_notMem hs (ht ▸ Table.mem_keys_iff.2 (Option.isSome_of_mem ht'))
    rw [target?_addTarget, if_neg hne, ht']
  reads s s' hdevice htargets hstories :=
    keepsTextures_of_eq (permitsParts_keeps.reads s s' hdevice htargets hstories) htargets

theorem permits_keepsTextures : Permits KeepsTextures fun _ => True := by
  refine permitsParts_keepsTextures.permits fun r spec format size _ s hs => ?_
  refine make_moves_at (R := KeepsTextures) (update_moves permitsParts_keepsTextures.toContents)
    (free_moves permitsParts_keepsTextures) (fun s => ?_)
    (fun s s' d companion hs hnew hkeeps _ _ => ?_)
    (fun s story _ hwf _ _ => ⟨hwf, fun key t ht => ⟨t, ht, rfl⟩⟩) spec _ hs hs
  · refine keepsTextures_of_eq (fun h => ⟨h.of_eq ?_ rfl rfl, Nat.le_refl _⟩) rfl
    exact ⟨h.numbered.textures, h.numbered.framebuffers, h.numbered.buffers, h.numbered.fences⟩
  · intro _
    refine ⟨(hkeeps hs).1, fun key t ht => ⟨t, ?_, rfl⟩⟩
    have hne : key ≠ s.nextTarget := fun e =>
      nextTarget_notMem hs (e ▸ Table.mem_keys_iff.2 (Option.isSome_of_mem ht))
    rw [hnew.target, if_neg hne, ht]

theorem rotate_keepsTextures (s : Store State) (key : StoryKey) :
    KeepsTextures s (s.rotate key) := keepsTextures_of_eq (rotate_keeps s key) rfl

/-- A new target has the tag that was asked for. -/
theorem createWith_tag {d : TargetDescription} {companion : Companion} (hs : s.WellFormed)
    (h : (createWith d companion).run s = (.ok key, s')) :
    ∃ t, s'.target? key = some t ∧ t.tag = d.tag := by
  obtain ⟨name, s₁, hreply, -, rfl, hupdate⟩ := run_createWith_ok h
  obtain ⟨hs₁, -⟩ := (permitsParts_keeps.perform .createTexture rfl).of_run hreply hs
  obtain ⟨-, hsame⟩ := (update_moves permitsParts_keepsTextures.toContents _ _ _).of_run hupdate
    (permitsParts_keeps.addTarget s₁ _ rfl hs₁).1
  obtain ⟨t, ht, htexture⟩ := hsame s₁.nextTarget _ ((target?_addTarget ..).trans (if_pos rfl))
  exact ⟨t, ht, congrArg TextureRef.tag htexture⟩

theorem create_tag {d : TargetDescription} (hs : s.WellFormed)
    (h : (create d).run s = (.ok key, s')) : ∃ t, s'.target? key = some t ∧ t.tag = d.tag := by
  obtain ⟨companion, s₁, hwith, rfl | ⟨own, hown⟩⟩ := run_create_ok h
  · exact createWith_tag hs hwith
  · obtain ⟨hs₁, -⟩ := (createWith_moves permitsParts_keeps _ _).of_run hown hs
    exact createWith_tag hs₁ hwith

/-- What a store must say of the slots that have been made for a story. -/
structure NewSlots (s s' : Store State) (tag : String) (slots : List TargetKey) : Prop where
  distinct : slots.Nodup
  fresh : ∀ slot ∈ slots, s.target? slot = none
  tagged : ∀ slot ∈ slots, ∃ t, s'.target? slot = some t ∧ t.tag = tag

/-- Targets made one after the other are new and have the tag that was asked for. -/
theorem mapM_create_new {n : Nat} {d : TargetDescription} {keys : List TargetKey}
    (hs : s.WellFormed) (h : ((List.replicate n d).mapM create).run s = (.ok keys, s')) :
    NewSlots s s' d.tag keys := by
  obtain ⟨-, hdistinct, hrange⟩ := mapM_create_keys hs h
  refine ⟨hdistinct, fun key hkey => hs.target?_eq_none (hrange key hkey).1, ?_⟩
  clear hdistinct hrange
  induction n generalizing s keys with
  | zero =>
    cases h
    exact nofun
  | succ n ih =>
    rw [List.replicate_succ, List.mapM_cons] at h
    obtain ⟨key, s₁, hkey, h⟩ := Attempt.run_bind_eq_ok.1 h
    obtain ⟨keys', s₂, hkeys, h⟩ := Attempt.run_bind_eq_ok.1 h
    cases h
    obtain ⟨hs₁, -⟩ := (create_moves permitsParts_keeps d).of_run hkey hs
    obtain ⟨-, hsame⟩ := (Attempt.Moves.mapM fun d _ =>
      create_moves permitsParts_keepsTextures d).of_run hkeys hs₁
    obtain ⟨t, ht, htag⟩ := create_tag hs hkey
    obtain ⟨t', ht', htexture⟩ := hsame key t ht
    exact List.forall_mem_cons.2
      ⟨⟨t', ht', (congrArg TextureRef.tag htexture).trans htag⟩, ih hs₁ hkeys⟩

/-! ### Whose the textures and framebuffers are -/

/-- Every target has a texture and a framebuffer of its own. -/
structure Owned (s : Store State) : Prop extends s.WellFormed where
  texture : ∀ key f, s.frame? key = some f → s.IsLive key → f.name ∈ s.device.textures.keys
  framebuffer : ∀ key id, s.framebuffer? key = some id → id ∈ s.device.framebuffers.keys
  numberedTexture : ∀ key f, s.frame? key = some f → f.name ≤ s.device.lastName
  ownTexture : ∀ key key' f f', s.frame? key = some f → s.frame? key' = some f' →
    f.name = f'.name → key = key'
  ownFramebuffer : ∀ key key' id, s.framebuffer? key = some id → s.framebuffer? key' = some id →
    key = key'
  /-- A companion is made before its target. -/
  older : ∀ key f own, s.frame? key = some f → f.companion.ownedKey? = some own →
    own.index < key.index
  slots : ∀ key story, s.story? key = some story → ∀ slot ∈ story.slots,
    slot.index < s.targets.size
  stories : ∀ key story, s.story? key = some story → key.index < s.stories.size

theorem Owned.apart (h : s.Owned) : s.Apart :=
  ⟨h.texture, h.numberedTexture, h.ownTexture, h.ownFramebuffer⟩

/-- The texture of a target in use is there. -/
theorem Owned.exists_texture (h : s.Owned) (ht : s.target? key = some t) (hlive : t.freed = false) :
    ∃ texture, s.device.textures.get? t.texture.name = some texture := by
  have hmem := h.texture key t.frame (frame?_of_target? ht) ((isLive_of_target? ht).2 hlive)
  exact Option.isSome_iff_exists.1 (Table.mem_keys_iff.1 hmem)

/-- No target is its own companion. -/
theorem Owned.own_ne (h : s.Owned) (ht : s.target? key = some t) {own : TargetKey}
    (hown : t.companion.ownedKey? = some own) : own ≠ key := by
  rintro rfl
  exact Nat.lt_irrefl _ (h.older own t.frame own (frame?_of_target? ht) hown)

/-- What is owned stays so. -/
def Owning (s s' : Store State) : Prop := s.Owned → s'.Owned

instance : IsPreorder (Store State) Owning where
  refl _ := id
  trans _ _ _ h h' := h' ∘ h

/-- A step that leaves the targets' objects alone. -/
theorem Owned.of_same (h : s.Owned) (hkeeps : Keeps s s') (htargets : SameFrames s s')
    (htextures : s'.device.textures.keys = s.device.textures.keys)
    (hframebuffers : s'.device.framebuffers = s.device.framebuffers)
    (hname : s.device.lastName ≤ s'.device.lastName) (hstories : s'.stories = s.stories) :
    s'.Owned := by
  obtain ⟨htexture, hnumbered, hownTexture, hownFramebuffer⟩ :=
    h.apart.of_same htargets htextures hname
  refine ⟨(hkeeps h.toWellFormed).1, htexture, ?framebuffer, hnumbered, hownTexture,
    hownFramebuffer, htargets.frame ▸ h.older, ?slots, ?stories⟩
  case framebuffer =>
    intro key id hid
    rw [hframebuffers]
    exact h.framebuffer key id (htargets.framebuffer ▸ hid)
  case slots =>
    intro key story hstory slot hslot
    exact Nat.lt_of_lt_of_le (h.slots key story (by rwa [story?, hstories] at hstory) slot hslot)
      (hkeeps h.toWellFormed).2
  case stories =>
    intro key story hstory
    rw [hstories]
    exact h.stories key story (by rwa [story?, hstories] at hstory)

theorem sameFrames_of_targets (h : s'.targets = s.targets) : SameFrames s s' := by
  have hlook : s'.target? = s.target? := by
    funext key
    rw [target?, target?, h]
  exact (SameTargets.of_eq hlook).toSameFrames

theorem command_owning {α : Type} (command : Command α) (hframes : command.keepsFrames) :
    Moves Owning (perform command : StateM (Store State) α) := by
  intro s hs
  obtain ⟨htextures, hframebuffers, hname⟩ := State.sameFrames_perform command hframes s.device
  have hkeeps : Keeps s (perform command s).2 := fun h =>
    ⟨h.of_eq (State.numbered_perform command h.numbered) rfl rfl, Nat.le_refl _⟩
  exact hs.of_same hkeeps (sameFrames_of_targets rfl) htextures hframebuffers hname rfl

theorem permitsContents_owning : PermitsContents Owning where
  plain command _ hobjects := command_owning command (command.keepsFrames_of_keepsObjects hobjects)
  contents s key f hf hs := hs.of_same
    (permitsParts_keeps.modifyTarget s key f fun t => (hf t).1)
    (sameTargets_modifyTarget s key hf).toSameFrames rfl rfl (Nat.le_refl _) rfl

/-- Pools, reads and the time may change as they like. -/
theorem permitsReads_owning : PermitsReads Owning where
  command command _ hframes _ := command_owning command hframes
  pool s key f hs := by
    obtain ⟨hframe, hframebuffer, hlive, -⟩ := modifyPool_targets s key f
    exact hs.of_same (permitsParts_keeps.modifyTarget s key _ fun _ => rfl)
      ⟨hframe, hframebuffer, hlive⟩ rfl rfl (Nat.le_refl _) rfl
  reads s s' hdevice htargets hstories hs :=
    hs.of_same (permitsParts_keeps.reads s s' hdevice htargets hstories)
      (sameFrames_of_targets htargets) (by rw [hdevice]) (by rw [hdevice])
      (Nat.le_of_eq (congrArg State.lastName hdevice.symm)) hstories

/-- The framebuffer of a target has a number that has not been given out before. -/
theorem Owned.framed (h : s.Owned) (hkeeps : Keeps s s') (hmade : Framed key t s s')
    (ht : s.target? key = some t) : s'.Owned := by
  have hwf := (hkeeps h.toWellFormed).1
  have hnew (key' : TargetKey) : s.framebuffer? key' ≠ some (s.device.lastName + 1) := fun hid =>
    Nat.not_succ_le_self _ (h.numbered.framebuffers _ (h.framebuffer key' _ hid))
  obtain ⟨htexture, hnumbered, hownTexture, hownFramebuffer⟩ := h.apart.framed hmade ht hnew
  obtain ⟨hframe, -, -, hframebuffer⟩ := hmade.targets ht
  obtain ⟨framebuffers, log, rfl, hget⟩ := hmade
  refine ⟨hwf, htexture, ?framebuffer, hnumbered, hownTexture, hownFramebuffer, hframe ▸ h.older,
    ?slots, h.stories⟩
  case framebuffer =>
    intro key' id hid
    rw [hframebuffer] at hid
    refine Table.mem_keys_iff.2 ?_
    show (framebuffers.get? id).isSome
    rw [hget]
    split at hid
    · cases hid
      rw [if_pos rfl]
      rfl
    · split
      · rfl
      · exact Table.mem_keys_iff.1 (h.framebuffer key' id hid)
  case slots =>
    intro key' story hstory slot hslot
    refine Nat.lt_of_lt_of_le (h.slots key' story hstory slot hslot) (Nat.le_of_eq ?_)
    exact (Table.size_modify ..).symm

theorem makeFramebuffer_owning (ht : s.target? key = some t) :
    Owning s ((makeFramebuffer key t).run s).2 := by
  intro hs
  have hkeeps : Keeps s ((makeFramebuffer key t).run s).2 :=
    makeFramebuffer_moves permitsParts_keeps.toFramebuffers key t s
  rcases run_makeFramebuffer key t s with ⟨e, hrun⟩ | ⟨s', hrun, hmade⟩ <;> rw [hrun] at hkeeps ⊢
  · exact hs.of_same hkeeps (sameFrames_of_targets rfl) rfl rfl (Nat.le_refl _) rfl
  · exact hs.framed hkeeps hmade ht

/-- The other targets have textures and framebuffers of their own. -/
theorem Owned.released (h : s.Owned) (hend : Released key t s s') (ht : s.target? key = some t) :
    s'.Owned := by
  obtain ⟨htexture, hnumbered, hownTexture, hownFramebuffer⟩ := h.apart.released hend ht
  obtain ⟨hframe, -, -, -⟩ := hend.targets ht
  refine ⟨h.toWellFormed.released hend ht, htexture, ?framebuffer, hnumbered, hownTexture,
    hownFramebuffer, hframe ▸ h.older, ?slots, ?stories⟩
  case framebuffer =>
    intro key' id hid
    obtain ⟨hid, hget⟩ := h.apart.framebuffer_of_released hend ht hid
    rw [Table.mem_keys_iff, hget]
    exact Table.mem_keys_iff.1 (h.framebuffer key' id hid)
  case slots =>
    intro key' story hstory slot hslot
    rw [← Table.length_keys, hend.keys, Table.length_keys]
    exact h.slots key' story (by rwa [story?, hend.stories] at hstory) slot hslot
  case stories =>
    intro key' story hstory
    rw [hend.stories]
    exact h.stories key' story (by rwa [story?, hend.stories] at hstory)

theorem free_owning (key : TargetKey) :
    Moves Owning (free key : StateM (Store State) Unit) := by
  intro s hs
  exact free_moves_at (R := Owning) (fun _ _ _ _ ht _ hend h => h.released hend ht)
    (fun _ _ ht hown => hs.own_ne ht hown) hs

variable {d : TargetDescription} {companion : Companion}

/-- A new target has a texture that no other has, and no framebuffer yet. -/
theorem Owned.added (h : s.Owned) (hnew : Added d companion s s') (hkeeps : Keeps s s')
    (hcompanion : ∀ own, companion.ownedKey? = some own → own.index < s.targets.size) :
    s'.Owned := by
  obtain ⟨htexture, hnumbered, hownTexture, hownFramebuffer⟩ := h.apart.added hnew
  obtain ⟨hframe, hframebuffer, -, -⟩ := hnew.targets
  refine ⟨(hkeeps h.toWellFormed).1, htexture, ?framebuffer, hnumbered, hownTexture,
    hownFramebuffer, ?older, ?slots, ?stories⟩
  case framebuffer =>
    intro key' id hid
    rw [hframebuffer] at hid
    rw [hnew.framebuffers]
    split at hid
    · cases hid
    · exact h.framebuffer key' id hid
  case older =>
    intro key' f own hf hown
    rw [hframe] at hf
    split at hf
    · rename_i hkey
      cases hf
      rw [hkey]
      exact hcompanion own hown
    · exact h.older key' f own hf hown
  case slots =>
    intro key' story hstory slot hslot
    exact Nat.lt_of_lt_of_le (h.slots key' story (by rwa [story?, hnew.stories] at hstory)
      slot hslot) (hkeeps h.toWellFormed).2
  case stories =>
    intro key' story hstory
    rw [hnew.stories]
    exact h.stories key' story (by rwa [story?, hnew.stories] at hstory)

/-- No story has the key of the next one. -/
theorem Owned.story?_next (h : s.Owned) : s.story? ⟨s.stories.size⟩ = none := by
  cases hstory : s.story? ⟨s.stories.size⟩ with
  | none => rfl
  | some story => exact absurd (h.stories _ story hstory) (Nat.lt_irrefl _)

theorem Owned.addStory (h : s.Owned) {story : Story} (hwf : (s.addStory story).2.WellFormed)
    (hslots : ∀ slot ∈ story.slots, slot.index < s.targets.size) : (s.addStory story).2.Owned where
  toWellFormed := hwf
  texture := h.texture
  framebuffer := h.framebuffer
  numberedTexture := h.numberedTexture
  ownTexture := h.ownTexture
  ownFramebuffer := h.ownFramebuffer
  older := h.older
  slots key story' hstory' slot hslot := by
    rw [story?, Store.addStory, Table.get?_insert] at hstory'
    split at hstory'
    · cases hstory'
      exact hslots slot hslot
    · exact h.slots key story' hstory' slot hslot
  stories key story' hstory' := by
    -- Stories are numbered as they come, so the new one has the last number.
    have hsize : (s.addStory story).2.stories.size = s.stories.size + 1 := by
      refine (Table.size_insert ..).trans (if_neg fun hmem => ?_)
      have hsome := Table.mem_keys_iff.1 hmem
      have hnone : s.stories.get? ⟨s.stories.size⟩ = none := h.story?_next
      rw [hnone] at hsome
      cases hsome
    rw [hsize]
    rw [story?, Store.addStory, Table.get?_insert] at hstory'
    split at hstory'
    · subst_vars
      exact Nat.lt_succ_self _
    · exact Nat.lt_succ_of_lt (h.stories key story' hstory')

theorem refuse_owning (s : Store State) : Owning s s.disarmed := fun hs =>
  hs.of_same (keeps_disarmed s) (sameFrames_of_targets rfl) rfl rfl (Nat.le_refl _) rfl

theorem make_owning (spec : TargetSpec) (d : TargetDescription) :
    Attempt.Moves Owning (Registry.make spec d : Attempt DrawError (Store State) Entry) := by
  intro s hs
  exact make_moves_at (R := Owning) (update_moves permitsContents_owning) free_owning refuse_owning
    (fun _ _ _ _ _ hnew hkeeps hown _ h => h.added hnew hkeeps hown)
    (fun _ _ _ hwf hslots h => h.addStory hwf hslots) spec d hs.toWellFormed hs

theorem permits_owning : Permits Owning fun _ => True where
  toPermitsContents := permitsContents_owning
  makeFramebuffer _ _ _ ht _ _ := makeFramebuffer_owning ht
  free := free_owning
  make _ spec _ _ _ := make_owning spec _

theorem rotate_owning (s : Store State) (key : StoryKey) : Owning s (s.rotate key) := by
  intro hs
  have hturned (key' : StoryKey) (story : Story) (hstory : (s.rotate key).story? key' = some story) :
      ∃ story', s.story? key' = some story' ∧ ∀ slot ∈ story.slots, slot ∈ story'.slots := by
    rw [story?, rotate, Table.get?_modify] at hstory
    split at hstory
    · rename_i hkey
      obtain ⟨story', hstory', rfl⟩ := Option.map_eq_some_iff.1 hstory
      exact ⟨story', hkey ▸ hstory', fun slot => story'.rotate_perm.mem_iff.1⟩
    · exact ⟨story, hstory, fun _ => id⟩
  refine ⟨(rotate_keeps s key hs.toWellFormed).1, hs.texture, hs.framebuffer, hs.numberedTexture,
    hs.ownTexture, hs.ownFramebuffer, hs.older, fun key' story hstory slot hslot => ?_,
    fun key' story hstory => ?_⟩
  · obtain ⟨story', hstory', hslots⟩ := hturned key' story hstory
    exact hs.slots key' story' hstory' slot (hslots slot hslot)
  · obtain ⟨story', hstory', -⟩ := hturned key' story hstory
    exact Nat.lt_of_lt_of_eq (hs.stories key' story' hstory') (Table.size_modify ..).symm

end Store

/-! ### Acts -/

theorem Control.owning (change : Control) (s : Store State) :
    Store.Owning s { s with device := change.apply s.device } := by
  have hsame := change.sameObjects s.device
  exact fun hs => hs.of_same (change.keeps s) (Store.sameFrames_of_targets rfl) hsame.textures
    hsame.framebuffers hsame.lastName rfl

/-- Every act leaves textures and framebuffers with their targets. -/
theorem Act.after_owning (act : Act) (r : Renderer State) :
    Store.Owning r.store (act.after r).store :=
  Act.moves Store.permits_owning Store.permitsReads_owning Store.command_owning Store.rotate_owning
    (fun s change => change.owning s) act r

/-- Every act leaves every target its texture. -/
theorem Act.after_keepsTextures (act : Act) (r : Renderer State) :
    Store.KeepsTextures r.store (act.after r).store :=
  Act.moves Store.permits_keepsTextures Store.permitsParts_keepsTextures.toReads
    (fun command _ _ => Store.keepsTextures_of_eq (fun h =>
      ⟨h.of_eq (State.numbered_perform command h.numbered) rfl rfl, Nat.le_refl _⟩) rfl)
    Store.rotate_keepsTextures
    (fun _ change => Store.keepsTextures_of_eq (change.keeps _) rfl) act r

/-- Every reachable store owns what it uses. -/
theorem ReachableBy.owned {P : Act → Prop} {r : Renderer State} (hr : ReachableBy P r) :
    r.store.Owned := by
  refine ReachableBy.invariant (I := fun r => r.store.Owned)
    (fun config width height r hr => ?_) (fun act r _ h => act.after_owning r h) hr
  have hwf := (ReachableBy.start (P := P) hr).wellFormed
  obtain ⟨device, -, -, -, -, hstore⟩ := Renderer.create_new hr
  rw [hstore] at hwf ⊢
  exact ⟨hwf, nofun, nofun, nofun, nofun, nofun, nofun, nofun, nofun⟩

end DrawPass
