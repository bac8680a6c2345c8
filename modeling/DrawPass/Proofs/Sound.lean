/-
DrawPass/Proofs/Sound.lean

Whatever the host does, reads under way are safe.

A store is sound if it is well formed, its targets are attached and its pools are in
order.  A step is calm if it keeps a store sound and leaves the reads under way alone:
none is added, none is delivered, and their buffers keep what they hold.  Every whole step
in the life of a target is calm, and so is everything that is drawn and cleared, so every
act is that has nothing to do with reads itself (`Act.after_calm`).
-/
import DrawPass.Proofs.Pooled

namespace DrawPass

open Gl Readback Software

/-- The spec neither brings a depth companion nor asks for no layers at all. -/
def TargetSpec.IsPlain (spec : TargetSpec) : Prop := spec.depth = none ∧ spec.layers ≠ some 0

namespace Store

/-- What holds of the store between any two steps. -/
structure Sound (index : Name) (reads : List PendingRead) (s : Store State) : Prop where
  wellFormed : s.WellFormed
  attached : s.Attached
  pooled : s.Pooled index reads

/-- The target of a key has been freed. -/
def IsFreed (s : Store State) (key : TargetKey) : Prop :=
  ∃ t, s.target? key = some t ∧ t.freed = true

/-- The reads under way are left alone. -/
structure Undisturbed (reads : List PendingRead) (s s' : Store State) : Prop where
  pending : s'.pending = s.pending
  delivered : s'.delivered = s.delivered
  freed : ∀ key, s.IsFreed key → s'.IsFreed key
  holds : ∀ read ∈ reads, ∀ data, s.Holds read data → s'.Holds read data

/-- The step keeps a store sound and leaves the reads under way alone. -/
def Calm (index : Name) (reads : List PendingRead) (s s' : Store State) : Prop :=
  s.Sound index reads → s'.Sound index reads ∧ Undisturbed reads s s'

variable {index : Name} {reads : List PendingRead} {s s' : Store State} {key : TargetKey}
  {t : Target}

theorem Undisturbed.trans {s'' : Store State} (h : Undisturbed reads s s')
    (h' : Undisturbed reads s' s'') : Undisturbed reads s s'' where
  pending := h'.pending.trans h.pending
  delivered := h'.delivered.trans h.delivered
  freed key hkey := h'.freed key (h.freed key hkey)
  holds read hread data hdata := h'.holds read hread data (h.holds read hread data hdata)

instance : IsPreorder (Store State) (Calm index reads) where
  refl s h := ⟨h, rfl, rfl, fun _ => id, fun _ _ _ => id⟩
  trans s s' s'' h h' hs := by
    obtain ⟨hs', hsame⟩ := h hs
    obtain ⟨hs'', hsame'⟩ := h' hs'
    exact ⟨hs'', hsame.trans hsame'⟩

/-- A target has been freed if it is known but not live. -/
theorem isFreed_iff : s.IsFreed key ↔ (s.frame? key).isSome ∧ ¬ s.IsLive key := by
  constructor
  · rintro ⟨t, ht, hfreed⟩
    rw [isLive_of_target? ht, frame?_of_target? ht, hfreed]
    exact ⟨rfl, Bool.false_ne_true.symm⟩
  · rintro ⟨hsome, hlive⟩
    cases ht : s.target? key with
    | none =>
      rw [frame?, ht] at hsome
      cases hsome
    | some t =>
      rw [isLive_of_target? ht, Bool.not_eq_false] at hlive
      exact ⟨t, ht, hlive⟩

/-! ### Single steps -/

/-- A step that leaves the objects of targets alone. -/
theorem calm_of_same (hkeeps : Keeps s s') (htargets : SameTargets s s')
    (hdevice : s.device.SameObjects s'.device) (hpending : s'.pending = s.pending)
    (hdelivered : s'.delivered = s.delivered) : Calm index reads s s' := fun hs =>
  ⟨⟨(hkeeps hs.wellFormed).1,
      hs.attached.of_same htargets.toSameFrames hdevice.textures hdevice.framebuffers hdevice.lastName,
      hs.pooled.of_same htargets.pool htargets.live hdevice.lastName hdevice.buffers⟩,
    hpending, hdelivered,
    fun _ hkey => isFreed_iff.2 (htargets.frame.symm ▸ htargets.live.symm ▸ isFreed_iff.1 hkey),
    fun _ _ _ hdata => hdata.of_same htargets.pool hdevice.buffers⟩

theorem perform_calm {α : Type} (command : Command α) (hcommand : command.keepsObjects) :
    Moves (Calm index reads) (perform command : StateM (Store State) α) := fun s =>
  have hkeeps : Keeps s (perform command s).2 := fun h =>
    ⟨h.of_eq (State.numbered_perform command h.numbered) rfl rfl, Nat.le_refl _⟩
  calm_of_same hkeeps (.of_eq rfl) (State.sameObjects_perform command hcommand s.device) rfl rfl

theorem permitsContents_calm : PermitsContents (Calm index reads) where
  plain command _ hobjects := perform_calm command hobjects
  contents s key f hf := calm_of_same
    (permitsParts_keeps.modifyTarget s key f fun t => (hf t).1)
    (sameTargets_modifyTarget s key hf) (refl s.device) rfl rfl

theorem makeFramebuffer_calm (ht : s.target? key = some t) :
    Calm index reads s ((makeFramebuffer key t).run s).2 := by
  have hkeeps : Keeps s ((makeFramebuffer key t).run s).2 :=
    makeFramebuffer_moves permitsParts_keeps.toFramebuffers key t s
  rcases run_makeFramebuffer key t s with ⟨e, hrun⟩ | ⟨s', hrun, hmade⟩ <;> rw [hrun] at hkeeps ⊢
  · exact calm_of_same hkeeps (.of_eq rfl) (.of_eq rfl rfl rfl rfl (Nat.le_refl _)) rfl rfl
  · intro hs
    obtain ⟨hframe, hpool, hlive, -⟩ := hmade.targets ht
    have hattached := hs.attached.framed hs.wellFormed.numbered hmade ht
    obtain ⟨_, _, rfl, -⟩ := hmade
    refine ⟨⟨(hkeeps hs.wellFormed).1, hattached,
      hs.pooled.of_same hpool hlive (Nat.le_succ _) rfl⟩, rfl, rfl, fun key' hkey' => ?_,
      fun _ _ _ hdata => hdata.of_same hpool rfl⟩
    exact isFreed_iff.2 (hframe.symm ▸ hlive.symm ▸ isFreed_iff.1 hkey')

theorem WellFormed.released (h : s.WellFormed) (hend : Released key t s s')
    (ht : s.target? key = some t) : s'.WellFormed where
  numbered := by
    have hkeys {α : Type} {table table' : Table Name α} (hget : ∀ id,
        (table'.get? id).isSome → (table.get? id).isSome) (id : Name) (hid : id ∈ table'.keys) :
        id ∈ table.keys := Table.mem_keys_iff.2 (hget id (Table.mem_keys_iff.1 hid))
    -- Nothing is held afterwards that was not held before.
    constructor <;> intro id hid <;> rw [hend.lastName]
    · rw [hend.textures, Table.mem_keys_erase] at hid
      exact h.numbered.textures id hid.1
    · refine h.numbered.framebuffers id (hkeys (fun id => ?_) id hid)
      rw [hend.framebuffers]
      split
      · intro hsome
        cases hsome
      · exact fun hsome => hsome
    · refine h.numbered.buffers id (hkeys (fun id => ?_) id hid)
      rw [hend.buffers]
      split
      · intro hsome
        cases hsome
      · exact fun hsome => hsome
    · exact h.numbered.fences id (hend.fences ▸ hid)
  mem_targets key' := by
    rw [← Table.length_keys, hend.keys, Table.length_keys]
    exact h.mem_targets key'
  ownKey key' t' ht' := by
    rw [hend.target] at ht'
    split at ht'
    · rename_i hkey
      cases ht'
      exact hkey ▸ h.ownKey key t ht
    · exact h.ownKey key' t' ht'
  distinctSlots key' story hstory :=
    h.distinctSlots key' story (by rwa [story?, hend.stories] at hstory)

theorem calm_released (hend : Released key t s s') (ht : s.target? key = some t) :
    Calm index reads s s' := by
  intro hs
  refine ⟨⟨hs.wellFormed.released hend ht, hs.attached.released hend ht,
    hs.pooled.released hend ht⟩, hend.pending, hend.delivered, fun key' hkey' => ?_,
    fun _ _ _ hdata => hs.pooled.holds_released hend ht hdata⟩
  obtain ⟨t', ht', hfreed⟩ := hkey'
  by_cases hkey : key' = key
  · exact ⟨t.released, (hend.target key').trans (if_pos hkey), rfl⟩
  · exact ⟨t', ((hend.target key').trans (if_neg hkey)).trans ht', hfreed⟩

theorem free_calm (key : TargetKey) :
    Moves (Calm index reads) (free key : StateM (Store State) Unit) := by
  intro s hs
  refine free_moves_at (R := Calm index reads) (fun _ _ _ _ ht _ hend => calm_released hend ht)
    (fun t own ht hown => ?_) hs
  have hkey : t.frame.companion.key? = some own := by
    show t.companion.key? = some own
    cases hc : t.companion <;> rw [hc] at hown <;> cases hown
    rfl
  exact (hs.attached.companion key _ own (frame?_of_target? ht) hkey).1

/-! ### New targets -/

variable {d : TargetDescription} {companion : Companion}

/-- The making of a target is a preorder's business if its parts are: a texture and a target
around it, its first specification, and the end of a target that could not be finished. -/
theorem createWith_moves_at {R : Store State → Store State → Prop} [IsPreorder (Store State) R]
    (hupdate : ∀ key size data, Attempt.Moves R
      (update key size data : Attempt DrawError (Store State) Unit))
    (hfree : ∀ key, Moves R (free key : StateM (Store State) Unit))
    (hrefuse : R s s.disarmed)
    (hadd : ∀ s', Added d companion s s' → Keeps s s' → R s s') (hs : s.WellFormed) :
    R s ((createWith d companion).run s).2 := by
  unfold createWith
  by_cases hgrant : s.device.failTextureAfter = some 0
  · rw [Attempt.run_bind_ok (run_createTexture_error hgrant)]
    refine IsTrans.trans (r := R) _ _ _ hrefuse ?_
    dsimp only
    split
    · exact Attempt.Moves.bind (.lift (hfree _)) (fun _ => .throw _) _
    · exact Attempt.Moves.throw _ _
  · rw [Attempt.run_bind_ok (run_createTexture_ok hgrant)]
    dsimp only
    rw [Attempt.run_bind_ok (Attempt.run_get _), Attempt.run_bind_ok (Attempt.run_modify _ _)]
    refine IsTrans.trans (r := R) s (s.withTarget d companion) _
      (hadd _ (added_withTarget hs hgrant d companion) (keeps_withTarget hgrant d companion)) ?_
    refine Attempt.Moves.bind (.tryCatch (hupdate _ _ _) fun refusal => ?_)
      (fun _ => .pure _) _
    exact .bind (.lift (hfree _)) fun _ => .throw _

theorem calm_added (hlayers : d.layers ≠ some 0) (hcompanion : ∀ own, companion.key? = some own →
      ∃ c, s.frame? own = some c ∧ c.isFlatDepth = true) (hadd : Added d companion s s')
    (hkeeps : Keeps s s') : Calm index reads s s' := by
  intro hs
  refine ⟨⟨(hkeeps hs.wellFormed).1,
    hs.attached.added hs.wellFormed hadd hcompanion hlayers, hs.pooled.added hadd⟩,
    hadd.pending, hadd.delivered, ?_, fun _ _ _ hdata => hdata.added hadd⟩
  rintro key ⟨t, ht, hfreed⟩
  have hne : key ≠ s.nextTarget := by
    intro hkey
    have hnone := frame?_nextTarget hs.wellFormed
    rw [← hkey, frame?_of_target? ht] at hnone
    cases hnone
  exact ⟨t, ((hadd.target key).trans (if_neg hne)).trans ht, hfreed⟩

/-- A target may be made around a companion that is there. -/
theorem createWith_calm (hlayers : d.layers ≠ some 0)
    (hcompanion : s.Sound index reads → ∀ own, companion.key? = some own →
      ∃ c, s.frame? own = some c ∧ c.isFlatDepth = true) :
    Calm index reads s ((createWith d companion).run s).2 := by
  intro hs
  exact createWith_moves_at (update_moves permitsContents_calm) free_calm
    (calm_of_same (keeps_disarmed s) (.of_eq rfl) (.of_eq rfl rfl rfl rfl (Nat.le_refl _)) rfl rfl)
    (fun _ => calm_added hlayers (hcompanion hs)) hs.wellFormed hs

/-- The companion of its own that a target gets is a depth buffer. -/
theorem frame?_companion (hs : s.WellFormed) {own : TargetKey}
    (hrun : (createWith d.companion .none).run s = (.ok own, s')) :
    ∃ c, s'.frame? own = some c ∧ c.isFlatDepth = true := by
  by_cases hgrant : s.device.failTextureAfter = some 0
  · obtain ⟨e, _, herror, -⟩ := createWith_error hgrant d.companion .none rfl
    rw [herror] at hrun
    cases hrun
  · obtain ⟨s₁, hok, -, ht, -⟩ := createWith_ok (d := d.companion) hs hgrant rfl .none nofun
    rw [hok] at hrun
    cases hrun
    exact ⟨_, frame?_of_target? ht, rfl⟩

theorem create_calm (hdepth : d.depth = none) (hlayers : d.layers ≠ some 0) :
    Attempt.Moves (Calm index reads)
      (create d : Attempt DrawError (Store State) TargetKey) := by
  intro s hs
  by_cases hdata : checkData d.tag d.format.info d.size d.layers d.data = .ok ()
  · rw [run_create hdata, hdepth]
    dsimp only
    split
    · have hfirst : Calm index reads s ((createWith d.companion .none).run s).2 :=
        createWith_calm nofun fun _ => nofun
      rcases hrun : (createWith d.companion .none).run s with ⟨e | own, s₁⟩ <;>
        rw [hrun] at hfirst
      · rw [Attempt.run_bind_error hrun]
        exact hfirst hs
      · rw [Attempt.run_bind_ok hrun]
        refine IsTrans.trans (r := Calm index reads) s s₁ _ hfirst ?_ hs
        refine createWith_calm hlayers fun _ own' hown => ?_
        cases hown
        exact frame?_companion hs.wellFormed hrun
    · exact createWith_calm hlayers (fun _ => nofun) hs
  · obtain ⟨e, hrun⟩ := create_refused hdata
    rw [hrun]
    exact refl (r := Calm index reads) s hs

theorem make_calm (hdepth : d.depth = none) (hlayers : d.layers ≠ some 0) (spec : TargetSpec) :
    Attempt.Moves (Calm index reads)
      (Registry.make spec d : Attempt DrawError (Store State) Entry) := by
  have hcreate : Attempt.Moves (Calm index reads)
      (create d : Attempt DrawError (Store State) TargetKey) := create_calm hdepth hlayers
  intro s hs
  have hkeeps := make_keeps spec d s hs.wellFormed
  unfold Registry.make at hkeeps ⊢
  split
  · rename_i earlier hstory
    rw [hstory] at hkeeps
    have hslots : Attempt.Moves (Calm index reads)
        ((List.replicate earlier d).mapM create : Attempt DrawError (Store State) _) :=
      .mapM fun d' hd' => List.eq_of_mem_replicate hd' ▸ hcreate
    rcases hcurrent : (create d).run s with ⟨e | current, s₁⟩
    · rw [Attempt.run_bind_error hcurrent]
      exact hcreate.of_run hcurrent hs
    rw [Attempt.run_bind_ok hcurrent] at hkeeps ⊢
    rcases hearlier : ((List.replicate earlier d).mapM create).run s₁ with ⟨e | keys, s₂⟩
    · rw [Attempt.run_bind_error hearlier]
      exact IsTrans.trans (r := Calm index reads) s s₁ s₂ (hcreate.of_run hcurrent)
        (hslots.of_run hearlier) hs
    rw [Attempt.run_bind_ok hearlier] at hkeeps ⊢
    obtain ⟨hs₂, hpending, hdelivered, hfreed, hholds⟩ := IsTrans.trans (r := Calm index reads) s s₁ s₂
      (hcreate.of_run hcurrent) (hslots.of_run hearlier) hs
    have hsame : SameTargets s₂ (s₂.addStory ⟨current, keys⟩).2 := .of_eq rfl
    -- That the story is well formed is known of the whole run only.
    exact ⟨⟨hkeeps.1, hs₂.attached.of_same hsame.toSameFrames rfl rfl (Nat.le_refl _),
      hs₂.pooled.of_same rfl rfl (Nat.le_refl _) rfl⟩, hpending, hdelivered, hfreed, hholds⟩
  · exact Attempt.Moves.bind hcreate (fun _ => .pure _) s hs

theorem permits_calm : Permits (Calm index reads) TargetSpec.IsPlain where
  toPermitsContents := permitsContents_calm
  makeFramebuffer _ _ _ ht _ _ := makeFramebuffer_calm ht
  free := free_calm
  make _ spec _ _ hspec := make_calm hspec.1 hspec.2 spec

theorem rotate_calm (s : Store State) (key : StoryKey) : Calm index reads s (s.rotate key) :=
  calm_of_same (rotate_keeps s key) (.of_eq rfl) (refl s.device) rfl rfl

/-- The index array may be written, which is in no pool. -/
theorem writeIndex_calm (target : UInt32) (data : Bytes) (usage : UInt32) :
    Moves (Calm index reads)
      (perform (.bufferData target index data usage) : StateM (Store State) Unit) := by
  intro s hs
  have hkeeps : Keeps s (perform (.bufferData target index data usage) s).2 :=
    permitsParts_keeps.command _ rfl s
  have hsame : SameTargets s (perform (.bufferData target index data usage) s).2 := .of_eq rfl
  exact ⟨⟨(hkeeps hs.wellFormed).1,
      hs.attached.of_same hsame.toSameFrames rfl rfl (Nat.le_refl _),
      hs.pooled.index_written target data usage⟩,
    rfl, rfl, fun _ hkey => hkey,
    fun _ _ _ hdata => hs.pooled.holds_index_written target data usage hdata⟩

end Store

/-! ### Acts -/

/-- The act makes targets for plain specs only. -/
def Act.IsPlain : Act → Prop
  | draw _ (.spec spec) => spec.IsPlain
  | _ => True

/-- Whether an act has nothing to do with reads that do not wait. -/
def Act.isCalm : Act → Bool
  | poll | read .. => false
  | _ => true

open Store

variable {index : Name} {reads : List PendingRead}

theorem Control.calm (change : Control) (s : Store State) :
    Calm index reads s { s with device := change.apply s.device } :=
  calm_of_same (change.keeps s) (.of_eq rfl) (change.sameObjects s.device) rfl rfl

/-- An act that has nothing to do with reads leaves those under way alone. -/
theorem Act.after_calm {act : Act} (hplain : act.IsPlain) (hcalm : act.isCalm)
    (r : Renderer State) : Renderer.Over index (Calm index reads) r (act.after r) := by
  by_cases hdraw : ∃ bag destination, act = .draw bag destination
  · obtain ⟨bag, destination, rfl⟩ := hdraw
    refine Renderer.draw_moves permits_calm (fun _ _ _ => writeIndex_calm _ _ _)
      (fun command hcommand => perform_calm command hcommand) rotate_calm bag ?_ r
    rintro spec rfl
    exact hplain
  · have hquiet : act.isQuiet := by
      cases act with
      | draw bag destination => exact absurd ⟨bag, destination, rfl⟩ hdraw
      | poll | read => cases hcalm
      | _ => rfl
    exact Act.quiet_moves permits_calm (fun key _ s => rotate_calm s key)
      (fun change _ s => change.calm s)
      (fun s time => calm_of_same (permitsParts_keeps.reads s _ rfl rfl rfl) (.of_eq rfl)
        (refl s.device) rfl rfl) hquiet r

end DrawPass
