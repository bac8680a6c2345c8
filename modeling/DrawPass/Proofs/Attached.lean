/-
DrawPass/Proofs/Attached.lean

Every target is read through its own texture.

`Store.Attached` says so: a target that is there has its texture, and its framebuffer, if
it has one, is read through the source that the target should be read through.  It also
says what keeps this true while targets come and go: no two targets share a texture or a
framebuffer (`Store.Apart`), and a companion stays where it is.

Four kinds of steps matter: those that leave the targets' objects alone, the making of a
framebuffer, the end of a target, and a new target.  Each keeps the targets attached.
-/
import DrawPass.Proofs.Attachment
import DrawPass.Proofs.Creation

namespace DrawPass

open Gl Readback Software

namespace Store

/-- The framebuffer of the target of a key. -/
def framebuffer? (s : Store State) (key : TargetKey) : Option Name :=
  (s.target? key).bind Target.framebuffer

/-- The pool of the target of a key. -/
def pool? (s : Store State) (key : TargetKey) : Option PackPool := (s.target? key).map Target.pool

/-- The target of a key is there and has not been freed. -/
def IsLive (s : Store State) (key : TargetKey) : Prop :=
  ∃ t, s.target? key = some t ∧ t.freed = false

/-- What targets are drawn into and read through is the same. -/
structure SameFrames (s s' : Store State) : Prop where
  frame : s'.frame? = s.frame?
  framebuffer : s'.framebuffer? = s.framebuffer?
  live : s'.IsLive = s.IsLive

instance : IsPreorder (Store State) SameFrames where
  refl _ := ⟨rfl, rfl, rfl⟩
  trans _ _ _ h h' := ⟨h'.frame.trans h.frame, h'.framebuffer.trans h.framebuffer,
    h'.live.trans h.live⟩

/-- The pools are the same as well. -/
structure SameTargets (s s' : Store State) : Prop extends SameFrames s s' where
  pool : s'.pool? = s.pool?

/-- Every target that is there is read through its own texture. -/
structure Attached (s : Store State) : Prop where
  texture : ∀ key f, s.frame? key = some f → s.IsLive key → f.name ∈ s.device.textures.keys
  source : ∀ key f id, s.frame? key = some f → s.framebuffer? key = some id →
    ∃ fb, s.device.framebuffers.get? id = some fb ∧ fb.source? = some (s.source f)
  ownFramebuffer : ∀ key key' id, s.framebuffer? key = some id → s.framebuffer? key' = some id →
    key = key'
  numbered : ∀ key f, s.frame? key = some f → f.name ≤ s.device.lastName
  ownTexture : ∀ key key' f f', s.frame? key = some f → s.frame? key' = some f' →
    f.name = f'.name → key = key'
  companion : ∀ key f own, s.frame? key = some f → f.companion.key? = some own →
    own ≠ key ∧ ∃ c, s.frame? own = some c ∧ c.isFlatDepth = true
  layers : ∀ key f, s.frame? key = some f → f.layers ≠ some 0

/-- No two targets share a texture or a framebuffer, and the texture of a target in use is there. -/
structure Apart (s : Store State) : Prop where
  texture : ∀ key f, s.frame? key = some f → s.IsLive key → f.name ∈ s.device.textures.keys
  numbered : ∀ key f, s.frame? key = some f → f.name ≤ s.device.lastName
  ownTexture : ∀ key key' f f', s.frame? key = some f → s.frame? key' = some f' →
    f.name = f'.name → key = key'
  ownFramebuffer : ∀ key key' id, s.framebuffer? key = some id → s.framebuffer? key' = some id →
    key = key'

variable {s s' : Store State} {key : TargetKey} {t : Target}

theorem Attached.apart (h : s.Attached) : s.Apart :=
  ⟨h.texture, h.numbered, h.ownTexture, h.ownFramebuffer⟩

theorem framebuffer?_of_target? (h : s.target? key = some t) :
    s.framebuffer? key = t.framebuffer := congrArg (Option.bind · Target.framebuffer) h

theorem pool?_of_target? (h : s.target? key = some t) : s.pool? key = some t.pool :=
  congrArg (Option.map Target.pool) h

theorem isLive_of_target? (h : s.target? key = some t) : s.IsLive key ↔ t.freed = false := by
  constructor
  · rintro ⟨t', ht', hfreed⟩
    rw [h] at ht'
    cases ht'
    exact hfreed
  · exact fun hfreed => ⟨t, h, hfreed⟩

/-! ### Steps that leave the targets alone -/

theorem SameTargets.of_eq (h : s'.target? = s.target?) : SameTargets s s' := by
  refine ⟨⟨?_, ?_, ?_⟩, ?_⟩ <;> funext key
  · rw [frame?, frame?, h]
  · rw [framebuffer?, framebuffer?, h]
  · rw [IsLive, IsLive, h]
  · rw [pool?, pool?, h]

theorem sameTargets_modifyTarget (s : Store State) (key : TargetKey) {f : Target → Target}
    (hf : ∀ t : Target, t.SameObjects (f t)) : SameTargets s (s.modifyTarget key f) := by
  -- One look-up at a time: a target that is found has been changed by `f` or not at all.
  have hlook {α : Type} (view : Option Target → α)
      (hview : ∀ t, view (some (f t)) = view (some t)) (key' : TargetKey) :
      view ((s.modifyTarget key f).target? key') = view (s.target? key') := by
    rw [target?_modifyTarget]
    split
    · cases s.target? key' with
      | none => rfl
      | some t => exact hview t
    · rfl
  have hflat (t : Target) : (f t).isFlatDepth = t.isFlatDepth := by
    obtain ⟨htexture, hlayers, -⟩ := hf t
    rw [Target.isFlatDepth, Target.isFlatDepth, Target.format, Target.format, htexture, hlayers]
  refine ⟨⟨funext ?_, funext ?_, funext ?_⟩, funext ?_⟩
  · apply hlook (Option.map Target.frame)
    intro t
    obtain ⟨htexture, hlayers, hcompanion, -⟩ := hf t
    rw [Option.map_some, Option.map_some, Target.frame, htexture, hlayers, hcompanion, hflat]
    rfl
  · apply hlook fun t => t.bind Target.framebuffer
    exact fun t => (hf t).2.2.2.1
  · apply hlook fun t => ∃ t', t = some t' ∧ t'.freed = false
    intro t
    simp only [Option.some.injEq, exists_eq_left', (hf t).2.2.2.2.2]
  · apply hlook (Option.map Target.pool)
    exact fun t => congrArg some (hf t).2.2.2.2.1

/-- Where the companions of a frame are the same, so is the texture it is read through. -/
theorem source_eq {f : Frame}
    (h : ∀ own, f.companion.key? = some own → s'.frame? own = s.frame? own) :
    s'.source f = s.source f := by
  have hbind : f.companion.key?.bind s'.frame? = f.companion.key?.bind s.frame? := by
    cases hkey : f.companion.key? with
    | none => rfl
    | some own => exact h own hkey
  rw [source, source, hbind]

theorem Apart.of_same (h : s.Apart) (htargets : SameFrames s s')
    (htextures : s'.device.textures.keys = s.device.textures.keys)
    (hname : s.device.lastName ≤ s'.device.lastName) : s'.Apart where
  texture key f hf hlive := by
    rw [htextures]
    exact h.texture key f (htargets.frame ▸ hf) (htargets.live ▸ hlive)
  numbered key f hf := Nat.le_trans (h.numbered key f (htargets.frame ▸ hf)) hname
  ownTexture := htargets.frame ▸ h.ownTexture
  ownFramebuffer := htargets.framebuffer ▸ h.ownFramebuffer

theorem Attached.of_same (h : s.Attached) (htargets : SameFrames s s')
    (htextures : s'.device.textures.keys = s.device.textures.keys)
    (hframebuffers : s'.device.framebuffers = s.device.framebuffers)
    (hname : s.device.lastName ≤ s'.device.lastName) : s'.Attached := by
  obtain ⟨htexture, hnumbered, hownTexture, hownFramebuffer⟩ :=
    h.apart.of_same htargets htextures hname
  refine ⟨htexture, fun key f id hf hid => ?_, hownFramebuffer, hnumbered, hownTexture,
    htargets.frame ▸ h.companion, htargets.frame ▸ h.layers⟩
  rw [hframebuffers, source_eq fun own _ => congrFun htargets.frame own]
  exact h.source key f id (htargets.frame ▸ hf) (htargets.framebuffer ▸ hid)

/-! ### A framebuffer is made -/

/-- Only the framebuffer of one target is another. -/
theorem Framed.targets (h : Framed key t s s') (ht : s.target? key = some t) :
    s'.frame? = s.frame? ∧ s'.pool? = s.pool? ∧ s'.IsLive = s.IsLive ∧
      ∀ key', s'.framebuffer? key' =
        if key' = key then some (s.device.lastName + 1) else s.framebuffer? key' := by
  obtain ⟨framebuffers, log, rfl, -⟩ := h
  let made (t : Target) : Target := { t with framebuffer := some (s.device.lastName + 1) }
  have hlook (key' : TargetKey) : Table.get? (s.targets.modify key made) key' =
      if key = key' then (s.target? key').map made else s.target? key' := Table.get?_modify ..
  -- One look-up after another: the target at `key` differs in its framebuffer and nothing else.
  refine ⟨funext fun key' => ?_, funext fun key' => ?_, funext fun key' => ?_, fun key' => ?_⟩
  · show (Table.get? (s.targets.modify key made) key').map Target.frame = _
    rw [hlook]
    split
    · rename_i hkey
      rw [← hkey, frame?, ht]
      rfl
    · rfl
  · show (Table.get? (s.targets.modify key made) key').map Target.pool = _
    rw [hlook]
    split
    · rename_i hkey
      rw [← hkey, pool?, ht]
      rfl
    · rfl
  · show (∃ t', Table.get? (s.targets.modify key made) key' = some t' ∧ t'.freed = false) = _
    rw [hlook]
    split
    · rename_i hkey
      rw [← hkey, IsLive, ht]
      simp only [Option.map_some, Option.some.injEq, exists_eq_left', made]
    · rfl
  · show (Table.get? (s.targets.modify key made) key').bind Target.framebuffer = _
    rw [hlook]
    by_cases hkey : key = key'
    · rw [if_pos hkey, if_pos hkey.symm, ← hkey, ht]
      rfl
    · rw [if_neg hkey, if_neg (Ne.symm hkey)]
      rfl

/-- A framebuffer that no other target has stays apart from theirs. -/
theorem Apart.framed (h : s.Apart) (hmade : Framed key t s s') (ht : s.target? key = some t)
    (hnew : ∀ key', s.framebuffer? key' ≠ some (s.device.lastName + 1)) : s'.Apart := by
  obtain ⟨hframe, -, hlive, hframebuffer⟩ := hmade.targets ht
  obtain ⟨framebuffers, log, rfl, -⟩ := hmade
  refine ⟨fun key' f hf hl => h.texture key' f (hframe ▸ hf) (hlive ▸ hl),
    fun key' f hf => Nat.le_succ_of_le (h.numbered key' f (hframe ▸ hf)),
    hframe ▸ h.ownTexture, fun key₁ key₂ id h₁ h₂ => ?_⟩
  rw [hframebuffer] at h₁ h₂
  split at h₁ <;> split at h₂
  · rename_i e₁ e₂
    exact e₁.trans e₂.symm
  · exact absurd (h₂.trans h₁.symm) (hnew key₂)
  · exact absurd (h₁.trans h₂.symm) (hnew key₁)
  · exact h.ownFramebuffer key₁ key₂ id h₁ h₂

/-- Only targets in use have framebuffers. -/
def FramebuffersLive (s : Store State) : Prop :=
  ∀ key id, s.framebuffer? key = some id → s.IsLive key

theorem FramebuffersLive.framed (h : s.FramebuffersLive) (hmade : Framed key t s s')
    (ht : s.target? key = some t) (hfreed : t.freed = false) : s'.FramebuffersLive := by
  obtain ⟨-, -, hlive, hframebuffer⟩ := hmade.targets ht
  intro key' id hid
  rw [hframebuffer] at hid
  rw [hlive]
  split at hid
  · subst_vars
    exact (isLive_of_target? ht).2 hfreed
  · exact h key' id hid

/-- The framebuffer of a target is read through the target's source. -/
theorem Attached.framed (h : s.Attached) (hs : s.device.Numbered) (hmade : Framed key t s s')
    (ht : s.target? key = some t) : s'.Attached := by
  -- The number of the new framebuffer is not that of an old one.
  have hnew (key' : TargetKey) : s.framebuffer? key' ≠ some (s.device.lastName + 1) := by
    intro hid
    cases ht' : s.target? key' with
    | none =>
      rw [framebuffer?, ht'] at hid
      cases hid
    | some t' =>
      obtain ⟨fb, hfb, -⟩ := h.source key' t'.frame _ (frame?_of_target? ht') hid
      have hle := hs.framebuffers _ (Table.mem_keys_iff.2 (Option.isSome_of_mem hfb))
      exact Nat.not_succ_le_self _ hle
  obtain ⟨htexture, hnumbered, hownTexture, hownFramebuffer⟩ := h.apart.framed hmade ht hnew
  obtain ⟨hframe, -, -, hframebuffer⟩ := hmade.targets ht
  obtain ⟨framebuffers, log, rfl, hget⟩ := hmade
  refine ⟨htexture, ?source, hownFramebuffer, hnumbered, hownTexture, hframe ▸ h.companion,
    hframe ▸ h.layers⟩
  case source =>
    intro key' f id hf hid
    rw [hframe] at hf
    rw [source_eq fun own _ => congrFun hframe own]
    show ∃ fb, framebuffers.get? id = some fb ∧ _
    rw [hframebuffer] at hid
    split at hid
    · rename_i hkey
      subst hkey
      cases hid
      rw [frame?_of_target? ht] at hf
      cases hf
      refine ⟨_, (hget _).trans (if_pos rfl), ?_⟩
      apply source?_frameOf (h.layers key' _ (frame?_of_target? ht))
      intro own c hown hc
      obtain ⟨-, c', hc', hflat⟩ := h.companion key' _ own (frame?_of_target? ht) hown
      rw [frame?_of_target? hc] at hc'
      cases hc'
      exact hflat
    · have hne : ¬ s.device.lastName + 1 = id := fun e => hnew key' (e ▸ hid)
      rw [hget, if_neg hne]
      exact h.source key' f id hf hid

/-! ### The end of a target -/

theorem Released.targets (h : Released key t s s') (ht : s.target? key = some t) :
    s'.frame? = s.frame? ∧
      (∀ key', s'.framebuffer? key' = if key' = key then none else s.framebuffer? key') ∧
      (∀ key', s'.pool? key' = if key' = key then some t.pool.emptied else s.pool? key') ∧
      ∀ key', s'.IsLive key' ↔ key' ≠ key ∧ s.IsLive key' := by
  refine ⟨funext fun key' => ?_, fun key' => ?_, fun key' => ?_, fun key' => ?_⟩
  · rw [frame?, h.target]
    split
    · rename_i hkey
      rw [hkey, frame?, ht]
      rfl
    · rfl
  · rw [framebuffer?, h.target]
    split <;> rfl
  · rw [pool?, h.target]
    split <;> rfl
  · rw [IsLive, h.target]
    split
    · rename_i hkey
      constructor
      · rintro ⟨t', ht', hfreed⟩
        cases ht'
        cases hfreed
      · exact fun hlive => absurd hkey hlive.1
    · rename_i hkey
      exact ⟨fun hlive => ⟨hkey, hlive⟩, And.right⟩

/-- The target that has come to its end has no framebuffer left. -/
theorem FramebuffersLive.released (h : s.FramebuffersLive) (hend : Released key t s s')
    (ht : s.target? key = some t) : s'.FramebuffersLive := by
  obtain ⟨-, hframebuffer, -, hlive⟩ := hend.targets ht
  intro key' id hid
  rw [hframebuffer] at hid
  split at hid
  · cases hid
  · rename_i hne
    exact (hlive key').2 ⟨hne, h key' id hid⟩

/-- A framebuffer that is there once a target has come to its end is that of another target, which
had it before. -/
theorem Apart.framebuffer_of_released (h : s.Apart) (hend : Released key t s s')
    (ht : s.target? key = some t) {key' : TargetKey} {id : Name}
    (hid : s'.framebuffer? key' = some id) :
    s.framebuffer? key' = some id ∧
      s'.device.framebuffers.get? id = s.device.framebuffers.get? id := by
  obtain ⟨-, hframebuffer, -, -⟩ := hend.targets ht
  rw [hframebuffer] at hid
  split at hid
  · cases hid
  · rename_i hne
    have hother : t.framebuffer ≠ some id := by
      intro hid'
      rw [← framebuffer?_of_target? ht] at hid'
      exact hne (h.ownFramebuffer key' key id hid hid')
    exact ⟨hid, (hend.framebuffers id).trans (if_neg hother)⟩

/-- The other targets have textures and framebuffers of their own. -/
theorem Apart.released (h : s.Apart) (hend : Released key t s s') (ht : s.target? key = some t) :
    s'.Apart := by
  obtain ⟨hframe, -, -, hlive⟩ := hend.targets ht
  refine ⟨fun key' f hf hl => ?_, fun key' f hf => ?_, hframe ▸ h.ownTexture,
    fun key₁ key₂ id h₁ h₂ => ?_⟩
  · rw [hframe] at hf
    obtain ⟨hne, hl⟩ := (hlive key').1 hl
    rw [hend.textures, Table.mem_keys_erase]
    refine ⟨h.texture key' f hf hl, fun hname => hne ?_⟩
    exact h.ownTexture key' key f t.frame hf (frame?_of_target? ht) hname
  · rw [hend.lastName]
    exact h.numbered key' f (hframe ▸ hf)
  · exact h.ownFramebuffer key₁ key₂ id (h.framebuffer_of_released hend ht h₁).1
      (h.framebuffer_of_released hend ht h₂).1

theorem Attached.released (h : s.Attached) (hend : Released key t s s')
    (ht : s.target? key = some t) : s'.Attached := by
  obtain ⟨htexture, hnumbered, hownTexture, hownFramebuffer⟩ := h.apart.released hend ht
  obtain ⟨hframe, -, -, -⟩ := hend.targets ht
  refine ⟨htexture, fun key' f id hf hid => ?_, hownFramebuffer, hnumbered, hownTexture,
    hframe ▸ h.companion, hframe ▸ h.layers⟩
  obtain ⟨hid, hget⟩ := h.apart.framebuffer_of_released hend ht hid
  rw [source_eq fun own _ => congrFun hframe own, hget]
  exact h.source key' f id (hframe ▸ hf) hid

/-! ### A new target -/

variable {d : TargetDescription} {companion : Companion}

/-- What is there already stays, and the new target has nothing but its texture. -/
theorem Added.targets (h : Added d companion s s') :
    (∀ key', s'.frame? key' = if key' = s.nextTarget
      then some (d.target s.nextTarget (s.device.lastName + 1) companion).frame
      else s.frame? key') ∧
    (∀ key', s'.framebuffer? key' = if key' = s.nextTarget then none else s.framebuffer? key') ∧
    (∀ key', s'.pool? key' = if key' = s.nextTarget then some { limit := d.poolLimit }
      else s.pool? key') ∧
    ∀ key', s'.IsLive key' ↔ key' = s.nextTarget ∨ s.IsLive key' := by
  refine ⟨fun key' => ?_, fun key' => ?_, fun key' => ?_, fun key' => ?_⟩
  · rw [frame?, h.target]
    split <;> rfl
  · rw [framebuffer?, h.target]
    split <;> rfl
  · rw [pool?, h.target]
    split <;> rfl
  · rw [IsLive, h.target]
    split
    · rename_i hkey
      exact ⟨fun _ => .inl hkey, fun _ => ⟨_, rfl, rfl⟩⟩
    · rename_i hkey
      exact ⟨.inr, fun hlive => hlive.resolve_left hkey⟩

theorem FramebuffersLive.added (h : s.FramebuffersLive) (hnew : Added d companion s s') :
    s'.FramebuffersLive := by
  obtain ⟨-, hframebuffer, -, hlive⟩ := hnew.targets
  intro key' id hid
  rw [hframebuffer] at hid
  split at hid
  · cases hid
  · exact (hlive key').2 (.inr (h key' id hid))

theorem frame?_nextTarget (hs : s.WellFormed) : s.frame? s.nextTarget = none := by
  cases h : s.target? s.nextTarget with
  | none => rw [frame?, h, Option.map_none]
  | some t => exact absurd (Table.mem_keys_iff.2 (Option.isSome_of_mem h)) (nextTarget_notMem hs)

/-- A new target has a texture that no other has, and no framebuffer yet. -/
theorem Apart.added (h : s.Apart) (hnew : Added d companion s s') : s'.Apart := by
  obtain ⟨hframe, hframebuffer, -, hlive⟩ := hnew.targets
  constructor
  case texture =>
    intro key' f hf hl
    rw [hnew.textures, List.mem_append]
    rw [hframe] at hf
    split at hf
    · cases hf
      exact .inr (List.mem_singleton.2 rfl)
    · rename_i hkey
      exact .inl (h.texture key' f hf (((hlive key').1 hl).resolve_left hkey))
  case numbered =>
    intro key' f hf
    rw [hnew.lastName]
    rw [hframe] at hf
    split at hf
    · cases hf
      exact Nat.le_refl _
    · exact Nat.le_succ_of_le (h.numbered key' f hf)
  case ownTexture =>
    intro key₁ key₂ f₁ f₂ h₁ h₂ hname
    -- The number of the new texture is greater than all others.
    have hnumber {key' : TargetKey} {f : Frame} (hf : s.frame? key' = some f) :
        f.name ≠ s.device.lastName + 1 := fun e =>
      Nat.not_succ_le_self _ (e ▸ h.numbered key' f hf)
    rw [hframe] at h₁ h₂
    split at h₁ <;> split at h₂
    · rename_i e₁ e₂
      exact e₁.trans e₂.symm
    · cases h₁
      exact absurd hname.symm (hnumber h₂)
    · cases h₂
      exact absurd hname (hnumber h₁)
    · exact h.ownTexture key₁ key₂ f₁ f₂ h₁ h₂ hname
  case ownFramebuffer =>
    intro key₁ key₂ id h₁ h₂
    rw [hframebuffer] at h₁ h₂
    split at h₁
    · cases h₁
    · split at h₂
      · cases h₂
      · exact h.ownFramebuffer key₁ key₂ id h₁ h₂

theorem Attached.added (h : s.Attached) (hs : s.WellFormed) (hnew : Added d companion s s')
    (hcompanion : ∀ own, companion.key? = some own →
      ∃ c, s.frame? own = some c ∧ c.isFlatDepth = true)
    (hlayers : d.layers ≠ some 0) : s'.Attached := by
  obtain ⟨hframe, hframebuffer, -, -⟩ := hnew.targets
  -- A target that is found before is not the new one.
  have hkeep {key' : TargetKey} {f : Frame} (hf : s.frame? key' = some f) :
      s'.frame? key' = s.frame? key' := by
    have hne : key' ≠ s.nextTarget := by
      intro hkey
      rw [hkey, frame?_nextTarget hs] at hf
      cases hf
    rw [hframe, if_neg hne]
  have hexists {own : TargetKey} (hc : ∃ c, s.frame? own = some c ∧ c.isFlatDepth = true) :
      ∃ c, s'.frame? own = some c ∧ c.isFlatDepth = true := by
    obtain ⟨c, hc, hflat⟩ := hc
    exact ⟨c, (hkeep hc).trans hc, hflat⟩
  obtain ⟨htexture, hnumbered, hownTexture, hownFramebuffer⟩ := h.apart.added hnew
  refine ⟨htexture, ?source, hownFramebuffer, hnumbered, hownTexture, ?companion, ?layers⟩
  case source =>
    intro key' f id hf hid
    rw [hframebuffer] at hid
    split at hid
    · cases hid
    · rename_i hkey
      rw [hframe, if_neg hkey] at hf
      rw [hnew.framebuffers, source_eq fun own hown => ?_]
      · exact h.source key' f id hf hid
      · obtain ⟨-, c, hc, -⟩ := h.companion key' f own hf hown
        exact hkeep hc
  case companion =>
    intro key' f own hf hown
    rw [hframe] at hf
    split at hf
    · rename_i hkey
      cases hf
      obtain ⟨c, hc, hflat⟩ := hcompanion own hown
      refine ⟨fun e => ?_, hexists ⟨c, hc, hflat⟩⟩
      rw [e, hkey, frame?_nextTarget hs] at hc
      cases hc
    · obtain ⟨hne, hc⟩ := h.companion key' f own hf hown
      exact ⟨hne, hexists hc⟩
  case layers =>
    intro key' f hf
    rw [hframe] at hf
    split at hf
    · cases hf
      exact hlayers
    · exact h.layers key' f hf

end Store

end DrawPass
