/-
DrawPass/Proofs/Mounted.lean

What framebuffers are made of.

A target keeps its texture and its companion for good, and its framebuffer is the one that is
made for these two (`Store.Mounted`).  A companion that is lent may turn up after the framebuffer
has been made, one of the target's own is there before the target is, as a flat depth target.
So whatever is drawn into a target writes its own texture and that of its companion, and nothing
else (`Store.Mounted.mem_textures`).
-/
import DrawPass.Proofs.Levels
import DrawPass.Proofs.Owned

namespace DrawPass

open Gl Readback Software

/-! ### The framebuffer of a frame -/

namespace Frame

/-- A framebuffer after the target of a frame has been attached to it. -/
def attachTo (f : Frame) (fb : Framebuffer) : Framebuffer :=
  match f.layers with
  | none =>
    fb.attach (if f.isFlatDepth then Constant.depthAttachment else Constant.colorAttachment0)
      f.name none
  | some layers =>
    ((List.range layers.toNat).map UInt32.ofNat).foldl (fun fb layer =>
      fb.attach (Constant.colorAttachment0 + layer) f.name (some layer)) fb

/-- The framebuffer that is made for a frame, with or without the companion. -/
def framebuffer (f : Frame) (companion : Option Frame) : Framebuffer :=
  match companion with
  | none => f.attachTo {}
  | some companion => companion.attachTo (f.attachTo {})

/-- Attaching a target brings its own texture. -/
theorem mem_textures_attachTo {f : Frame} {fb : Framebuffer} {name : Name}
    (h : name ∈ (f.attachTo fb).textures) : name = f.name ∨ name ∈ fb.textures := by
  unfold attachTo at h
  split at h
  · exact Framebuffer.mem_textures_attach h
  · generalize (List.range _).map UInt32.ofNat = layers at h
    induction layers generalizing fb with
    | nil => exact .inr h
    | cons layer layers ih =>
      rcases ih h with h | h
      · exact .inl h
      · exact Framebuffer.mem_textures_attach h

theorem mem_textures_framebuffer {f : Frame} {companion : Option Frame} {name : Name}
    (h : name ∈ (f.framebuffer companion).textures) :
    name = f.name ∨ ∃ c, companion = some c ∧ c.name = name := by
  have hempty : name ∉ ({} : Framebuffer).textures := List.not_mem_nil
  cases companion with
  | none => exact .inl ((mem_textures_attachTo h).resolve_right hempty)
  | some c =>
    rcases mem_textures_attachTo h with hname | h
    · exact .inr ⟨c, rfl, hname.symm⟩
    · exact .inl ((mem_textures_attachTo h).resolve_right hempty)

end Frame

theorem Target.attachTo_eq (t : Target) : t.attachTo = t.frame.attachTo := by
  funext fb
  unfold attachTo Frame.attachTo
  change _ = (match t.layers with | none => _ | some layers => _)
  cases hlayers : t.layers with
  | none =>
    have hdepth : t.frame.isFlatDepth = t.format.isDepth := by
      change (t.layers.isNone && t.format.isDepth) = _
      rw [hlayers]
      rfl
    dsimp only
    rw [hdepth]
    rfl
  | some layers => rfl

namespace Store

variable {s s' : Store State} {key : TargetKey} {t : Target} {f : Frame} {name : Name}

/-- What is attached beside the target of a frame: its companion, unless that is missing, which
only one that is lent can be. -/
inductive Mounts (s : Store State) (f : Frame) : Option Frame → Prop where
  | alone (h : f.companion.ownedKey? = none) : Mounts s f none
  | beside {own : TargetKey} {c : Frame} (hown : f.companion.key? = some own)
      (hc : s.frame? own = some c) : Mounts s f (some c)

/-- The framebuffers of targets are those that are made for them, and the companions that targets
own are flat depth targets. -/
structure Mounted (s : Store State) : Prop extends s.Owned where
  mounted : ∀ key f id, s.frame? key = some f → s.framebuffer? key = some id →
    ∃ c, s.Mounts f c ∧ s.device.framebuffers.get? id = some (f.framebuffer c)
  paired : ∀ key f own, s.frame? key = some f → f.companion.ownedKey? = some own →
    ∃ c, s.frame? own = some c ∧ c.isFlatDepth = true

/-- Nothing is attached to the framebuffer of a target but the textures of the target and of its
companion. -/
theorem Mounted.mem_textures {id : Name} {fb : Framebuffer} (h : s.Mounted)
    (hf : s.frame? key = some f) (hid : s.framebuffer? key = some id)
    (hfb : s.device.framebuffers.get? id = some fb) (hname : name ∈ fb.textures) :
    name = f.name ∨ ∃ own c, f.companion.key? = some own ∧ s.frame? own = some c ∧ c.name = name := by
  obtain ⟨companion, hmounts, hget⟩ := h.mounted key f id hf hid
  cases hget.symm.trans hfb
  rcases Frame.mem_textures_framebuffer hname with hsame | ⟨c, rfl, hsame⟩
  · exact .inl hsame
  · cases hmounts with
    | beside hown hc => exact .inr ⟨_, c, hown, hc, hsame⟩

/-- Targets keep their textures and their companions. -/
def KeepsFrames (s s' : Store State) : Prop :=
  ∀ key f, s.frame? key = some f → s'.frame? key = some f

theorem KeepsFrames.mounts (h : s.KeepsFrames s') {companion : Option Frame}
    (hmounts : s.Mounts f companion) : s'.Mounts f companion := by
  cases hmounts with
  | alone hown => exact .alone hown
  | beside hown hc => exact .beside hown (h _ _ hc)

theorem SameFrames.keepsFrames (h : SameFrames s s') : s.KeepsFrames s' := fun _ _ hf =>
  h.frame ▸ hf

/-- Framebuffers stay what they are made of, and targets keep their textures and companions. -/
def Mounting (s s' : Store State) : Prop := s.Mounted → s'.Mounted ∧ s.KeepsFrames s'

instance : IsPreorder (Store State) Mounting where
  refl _ h := ⟨h, fun _ _ => id⟩
  trans _ _ _ h h' hs := by
    obtain ⟨hs', hframes⟩ := h hs
    obtain ⟨hs'', hframes'⟩ := h' hs'
    exact ⟨hs'', fun key f hf => hframes' key f (hframes key f hf)⟩

/-! ### Steps that leave framebuffers alone -/

theorem mounting_of_same (howned : Owning s s') (htargets : SameFrames s s')
    (hframebuffers : s'.device.framebuffers = s.device.framebuffers) : Mounting s s' := by
  intro h
  refine ⟨⟨howned h.toOwned, fun key f id hf hid => ?_, ?_⟩, htargets.keepsFrames⟩
  · obtain ⟨c, hmounts, hget⟩ :=
      h.mounted key f id (htargets.frame ▸ hf) (htargets.framebuffer ▸ hid)
    exact ⟨c, htargets.keepsFrames.mounts hmounts, hframebuffers ▸ hget⟩
  · rw [htargets.frame]
    exact h.paired

theorem command_mounting {α : Type} (command : Command α) (hframes : command.keepsFrames) :
    Moves Mounting (perform command : StateM (Store State) α) := by
  intro s
  obtain ⟨-, hframebuffers, -⟩ := State.sameFrames_perform command hframes s.device
  exact mounting_of_same (command_owning command hframes s) (sameFrames_of_targets rfl)
    hframebuffers

theorem permitsContents_mounting : PermitsContents Mounting where
  plain command _ hobjects :=
    command_mounting command (command.keepsFrames_of_keepsObjects hobjects)
  contents s key f hf := mounting_of_same (permitsContents_owning.contents s key f hf)
    (sameTargets_modifyTarget s key hf).toSameFrames rfl

theorem permitsReads_mounting : PermitsReads Mounting where
  command command _ hframes _ := command_mounting command hframes
  pool s key f := by
    obtain ⟨hframe, hframebuffer, hlive, -⟩ := modifyPool_targets s key f
    exact mounting_of_same (permitsReads_owning.pool s key f) ⟨hframe, hframebuffer, hlive⟩ rfl
  reads s s' hdevice htargets hstories :=
    mounting_of_same (permitsReads_owning.reads s s' hdevice htargets hstories)
      (sameFrames_of_targets htargets) (by rw [hdevice])

theorem rotate_mounting (s : Store State) (key : StoryKey) : Mounting s (s.rotate key) :=
  mounting_of_same (rotate_owning s key) (sameFrames_of_targets rfl) rfl

/-! ### The life of a target -/

/-- What is made for a target, if a companion of its own is there. -/
theorem frameOf_mounts (hown : ∀ own, t.companion.ownedKey? = some own → (s.frame? own).isSome) :
    ∃ c, s.Mounts t.frame c ∧ s.frameOf t = t.frame.framebuffer c := by
  unfold frameOf
  split
  · rename_i hnone
    refine ⟨none, .alone ?_, by rw [Target.attachTo_eq]; rfl⟩
    change t.companion.ownedKey? = none
    cases hcompanion : t.companion with
    | owned own =>
      rw [hcompanion] at hown hnone
      obtain ⟨c, hc⟩ := Option.isSome_iff_exists.1 (hown own rfl)
      obtain ⟨t', ht', -⟩ := frame?_eq_some hc
      cases ht'.symm.trans hnone
    | none | borrowed => rfl
  · rename_i c hc
    obtain ⟨own, hown, hlook⟩ := Option.bind_eq_some_iff.1 hc
    exact ⟨some c.frame, .beside hown (frame?_of_target? hlook), by
      rw [Target.attachTo_eq, Target.attachTo_eq]; rfl⟩

theorem makeFramebuffer_mounting (ht : s.target? key = some t) :
    Mounting s ((makeFramebuffer key t).run s).2 := by
  have howned := makeFramebuffer_owning ht
  rcases run_makeFramebuffer key t s with ⟨e, hrun⟩ | ⟨s', hrun, hmade⟩ <;> rw [hrun] at howned ⊢
  · exact mounting_of_same howned (sameFrames_of_targets rfl) rfl
  intro h
  obtain ⟨hframe, -, -, hframebuffer⟩ := hmade.targets ht
  have hframes : s.KeepsFrames s' := fun key' f hf => hframe ▸ hf
  refine ⟨⟨howned h.toOwned, fun key' f id hf hid => ?_, ?_⟩, hframes⟩
  · obtain ⟨framebuffers, log, rfl, hget⟩ := hmade
    rw [hframe] at hf
    rw [hframebuffer] at hid
    split at hid
    · rename_i hkey
      cases hid
      cases (hkey ▸ hf).symm.trans (frame?_of_target? ht)
      obtain ⟨c, hmounts, hmade⟩ := frameOf_mounts (s := s) (t := t) fun own hown => by
        obtain ⟨c, hc, -⟩ := h.paired key t.frame own (frame?_of_target? ht) hown
        exact Option.isSome_of_mem hc
      exact ⟨c, hframes.mounts hmounts, ((hget _).trans (if_pos rfl)).trans (congrArg some hmade)⟩
    · obtain ⟨c, hmounts, hold⟩ := h.mounted key' f id hf hid
      refine ⟨c, hframes.mounts hmounts, ((hget id).trans (if_neg ?_)).trans hold⟩
      -- The number of the new framebuffer is not that of an old one.
      rintro rfl
      exact Nat.not_succ_le_self _ (h.numbered.framebuffers _ (h.framebuffer key' _ hid))
  · rw [hframe]
    exact h.paired

theorem released_mounting (hend : Released key t s s') (ht : s.target? key = some t) :
    Mounting s s' := by
  intro h
  obtain ⟨hframe, hframebuffer, -, -⟩ := hend.targets ht
  have hframes : s.KeepsFrames s' := fun key' f hf => hframe ▸ hf
  refine ⟨⟨h.toOwned.released hend ht, fun key' f id hf hid => ?_, ?_⟩, hframes⟩
  · rw [hframe] at hf
    rw [hframebuffer] at hid
    split at hid
    · cases hid
    · rename_i hkey
      obtain ⟨c, hmounts, hget⟩ := h.mounted key' f id hf hid
      refine ⟨c, hframes.mounts hmounts, ((hend.framebuffers id).trans (if_neg ?_)).trans hget⟩
      exact fun e => hkey (h.ownFramebuffer key' key id hid ((framebuffer?_of_target? ht).trans e))
  · rw [hframe]
    exact h.paired

theorem free_mounting (key : TargetKey) :
    Moves Mounting (free key : StateM (Store State) Unit) := by
  intro s hs
  exact free_moves_at (R := Mounting) (fun _ _ _ _ ht _ hend => released_mounting hend ht)
    (fun _ _ ht hown => hs.own_ne ht hown) hs

theorem added_mounting {d : TargetDescription} {companion : Companion} (hs : s.WellFormed)
    (hnew : Added d companion s s') (hkeeps : Keeps s s')
    (hcompanion : ∀ own, companion.ownedKey? = some own → own.index < s.targets.size)
    (hdepth : ∀ own, companion.ownedKey? = some own →
      ∃ c, s.frame? own = some c ∧ c.isFlatDepth = true) :
    Mounting s s' := by
  intro h
  obtain ⟨hframe, hframebuffer, -, -⟩ := hnew.targets
  -- The key of the new target was free, so every older target is found as it was.
  have hframes : s.KeepsFrames s' := by
    intro key' f hf
    have hne : key' ≠ s.nextTarget := by
      rintro rfl
      rw [frame?_nextTarget hs] at hf
      cases hf
    rw [hframe, if_neg hne, hf]
  refine ⟨⟨h.toOwned.added hnew hkeeps hcompanion, fun key' f id hf hid => ?_,
    fun key' f own hf hown => ?_⟩, hframes⟩
  · rw [hframebuffer] at hid
    split at hid
    · cases hid
    · rename_i hkey
      rw [hframe, if_neg hkey] at hf
      obtain ⟨c, hmounts, hget⟩ := h.mounted key' f id hf hid
      exact ⟨c, hframes.mounts hmounts, hnew.framebuffers ▸ hget⟩
  · rw [hframe] at hf
    obtain ⟨c, hc, hflat⟩ : ∃ c, s.frame? own = some c ∧ c.isFlatDepth = true := by
      split at hf
      · cases hf
        exact hdepth own hown
      · exact h.paired key' f own hf hown
    exact ⟨c, hframes own c hc, hflat⟩

theorem refuse_mounting (s : Store State) : Mounting s s.disarmed :=
  mounting_of_same (refuse_owning s) (sameFrames_of_targets rfl) rfl

theorem addStory_mounting {story : Story} (hwf : (s.addStory story).2.WellFormed)
    (hslots : ∀ slot ∈ story.slots, slot.index < s.targets.size) :
    Mounting s (s.addStory story).2 :=
  mounting_of_same (fun h => h.addStory hwf hslots) (sameFrames_of_targets rfl) rfl

theorem make_mounting (spec : TargetSpec) (d : TargetDescription) :
    Attempt.Moves Mounting (Registry.make spec d : Attempt DrawError (Store State) Entry) := by
  intro s hs
  exact make_moves_at (R := Mounting) (update_moves permitsContents_mounting) free_mounting
    refuse_mounting
    (fun _ _ _ _ hwf hnew hkeeps hown hdepth => added_mounting hwf hnew hkeeps hown hdepth)
    (fun _ _ _ hwf hslots => addStory_mounting hwf hslots) spec d hs.toWellFormed hs

theorem permits_mounting : Permits Mounting fun _ => True where
  toPermitsContents := permitsContents_mounting
  makeFramebuffer _ _ _ ht _ _ := makeFramebuffer_mounting ht
  free := free_mounting
  make _ spec _ _ _ := make_mounting spec _

end Store

/-! ### Acts -/

theorem Control.mounting (change : Control) (s : Store State) :
    Store.Mounting s { s with device := change.apply s.device } :=
  Store.mounting_of_same (change.owning s) (Store.sameFrames_of_targets rfl)
    (change.sameObjects s.device).framebuffers

/-- Every act leaves framebuffers what they are made of. -/
theorem Act.after_mounting (act : Act) (r : Renderer State) :
    Store.Mounting r.store (act.after r).store :=
  Act.moves Store.permits_mounting Store.permitsReads_mounting Store.command_mounting
    Store.rotate_mounting (fun s change => change.mounting s) act r

/-- The framebuffers of every reachable store are mounted. -/
theorem ReachableBy.mounted {P : Act → Prop} {r : Renderer State} (hr : ReachableBy P r) :
    r.store.Mounted := by
  refine ReachableBy.invariant (I := fun r => r.store.Mounted)
    (fun config width height r hr => ?_) (fun act r _ h => (act.after_mounting r h).1) hr
  have howned := (ReachableBy.start (P := P) hr).owned
  obtain ⟨_, -, -, -, -, hstore⟩ := Renderer.create_new hr
  rw [hstore] at howned ⊢
  exact ⟨howned, nofun, nofun⟩

end DrawPass
