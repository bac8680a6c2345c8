/-
DrawPass/Proofs/Making.lean

Everything that the making of targets can do.

The making of one target ends in one of four ways (`Store.Made`): it is refused before
anything has changed; the target is there alone, with nothing or a borrowed companion
beside it; it is there with a companion of its own, which was made just before it; or the
companion was made, the target was refused its texture, and the companion has been freed
again.  The slots of a story are made one after the other, so a fact about them is an
invariant of this sequence (`mapM_create_rule`), and the story is added to them at the end
(`run_make`).
-/
import DrawPass.Proofs.Extents
import DrawPass.Proofs.FailedPreparation

namespace DrawPass

open Gl Software

namespace TargetDescription

/-- The body of the target that is made from a description, around a texture. -/
def body (d : TargetDescription) (key : TargetKey) (name : Name) (companion : Companion) : Body :=
  (d.target key name companion).body

/-- Whether a target gets a companion of its own. -/
def ownsCompanion (d : TargetDescription) : Bool := d.depth.isNone && d.withDepth

/-- The companion of a target that gets none of its own. -/
def lent (d : TargetDescription) : Companion :=
  match d.depth with
  | some key => .borrowed key
  | none => .none

theorem lent_of_depth_none {d : TargetDescription} (h : d.depth = none) : d.lent = .none := by
  unfold lent
  rw [h]

theorem ownedKey?_lent (d : TargetDescription) : d.lent.ownedKey? = none := by
  unfold lent
  split <;> rfl

theorem key?_lent (d : TargetDescription) : d.lent.key? = d.depth := by
  unfold lent
  split <;> rename_i h <;> rw [h] <;> rfl

end TargetDescription

namespace Store

variable {s s' : Store State} {d : TargetDescription} {companion : Companion}

/-! ### One texture and its target -/

/-- A target has been made around a new texture that has storage of its size; all that was there is
as it was. -/
structure Planted (d : TargetDescription) (companion : Companion) (s s' : Store State) : Prop where
  body : ∀ key, s'.body? key =
    if key = s.nextTarget then some (d.body s.nextTarget (s.device.lastName + 1) companion)
    else s.body? key
  extents : ∀ id, s'.device.textureSize? id =
    if id = s.device.lastName + 1
    then some (d.body s.nextTarget (s.device.lastName + 1) companion).extent
    else s.device.textureSize? id
  slots : s'.slots? = s.slots?
  nextTarget : s'.nextTarget.index = s.nextTarget.index + 1

theorem WellFormed.body?_nextTarget (hs : s.WellFormed) : s.body? s.nextTarget = none :=
  congrArg (Option.map Target.body) (hs.target?_eq_none (Nat.le_refl _))

/-- The number of the next object is that of no texture. -/
theorem WellFormed.textureSize?_next (hs : s.WellFormed) :
    s.device.textureSize? (s.device.lastName + 1) = none := by
  rw [State.textureSize?_eq, Option.map_eq_none_iff]
  refine Option.not_isSome_iff_eq_none.1 fun h => ?_
  exact Nat.not_succ_le_self _ (hs.numbered.textures _ (Table.mem_keys_iff.2 h))

/-- A new texture has no texels. -/
theorem textureSize?_withTarget (s : Store State) (d : TargetDescription) (companion : Companion)
    (id : Name) : (s.withTarget d companion).device.textureSize? id =
      if id = s.device.lastName + 1 then some Texture.empty.extent
      else s.device.textureSize? id := by
  refine (congrArg (Option.map Texture.extent) (Table.get?_insert ..)).trans ?_
  by_cases hid : id = s.device.lastName + 1
  · rw [if_pos hid.symm, if_pos hid]
    rfl
  · rw [if_neg (Ne.symm hid), if_neg hid]
    rfl

/-- A target is made if the device grants its texture, around a companion of its size. -/
theorem createWith_planted (hs : s.WellFormed) (hgrant : s.device.failTextureAfter ≠ some 0)
    (hdata : checkData d.tag d.format.info d.size d.layers d.data = .ok ())
    (hcompanion : ∀ own, companion.ownedKey? = some own → ∃ b, s.body? own = some b ∧
      b.freed = false ∧ b.size = d.size ∧ s.device.textureSize? b.texture.name = some b.extent) :
    ∃ s', (createWith d companion).run s = (.ok s.nextTarget, s') ∧ Planted d companion s s' := by
  have hadded := added_withTarget hs hgrant d companion
  let t := d.target s.nextTarget (s.device.lastName + 1) companion
  have hnew : (s.withTarget d companion).target? s.nextTarget = some t :=
    (hadded.target _).trans (if_pos rfl)
  -- The target with storage of its own.
  let s₂ := (s.withTarget d companion).respecified s.nextTarget t d.size d.data
  have hplanted : Planted d companion s s₂ := by
    constructor
    case body =>
      intro key
      rw [body?_respecified, body?, hadded.target, body?]
      by_cases hkey : key = s.nextTarget
      · rw [if_pos hkey, if_pos hkey, if_pos hkey.symm]
        rfl
      · rw [if_neg hkey, if_neg hkey, if_neg (Ne.symm hkey)]
    case extents =>
      intro id
      rw [textureSize?_respecified, textureSize?_withTarget]
      by_cases hid : id = s.device.lastName + 1
      · rw [if_pos hid, if_pos hid, hid]
        exact if_pos rfl
      · rw [if_neg hid, if_neg hid]
        exact if_neg (Ne.symm hid)
    case slots => exact slots?_of_stories hadded.stories
    case nextTarget =>
      have hfresh : s.nextTarget ∉ s.targets.keys := nextTarget_notMem hs
      exact (Table.size_modify ..).trans (size_addTarget hfresh)
  -- A companion has storage of this size already.
  obtain ⟨s₃, hupdate, hsteady⟩ : ∃ s₃,
      (update s.nextTarget d.size d.data).run (s.withTarget d companion) = (.ok (), s₃) ∧
        Steady s₂ s₃ := by
    rcases hown : companion.ownedKey? with _ | own
    · exact ⟨s₂, update_alone hnew rfl hdata hown, refl s₂⟩
    obtain ⟨b, hb, hfreed, hsize, hstored⟩ := hcompanion own hown
    have hne : own ≠ s.nextTarget := by
      rintro rfl
      rw [hs.body?_nextTarget] at hb
      cases hb
    have hid : b.texture.name ≠ s.device.lastName + 1 := by
      intro e
      rw [e, hs.textureSize?_next] at hstored
      cases hstored
    replace hb := (hplanted.body own).trans ((if_neg hne).trans hb)
    replace hstored := (hplanted.extents _).trans ((if_neg hid).trans hstored)
    obtain ⟨c, hc, rfl⟩ := body?_eq_some hb
    refine ⟨s₂.respecified own c d.size none, ?_, hsize ▸ respecified_steady hc hstored none⟩
    exact (update_owner hnew rfl hdata hown).trans (respecify_ok hc hfreed rfl)
  refine ⟨s₃, createWith_granted hgrant hupdate,
    ⟨fun key => ?_, fun id => ?_, hsteady.slots.trans hplanted.slots, ?_⟩⟩
  · rw [hsteady.body, hplanted.body]
  · rw [hsteady.extents, hplanted.extents]
  · rw [hsteady.nextTarget, hplanted.nextTarget]

/-- A target without a companion of its own that is refused its texture. -/
theorem createWith_steady (hrefuse : s.device.failTextureAfter = some 0) (d : TargetDescription)
    (hown : companion.ownedKey? = none) :
    ∃ e s', (createWith d companion).run s = (.error e, s') ∧ Steady s s' :=
  ⟨_, _, createWith_refused hrefuse hown, rfl, rfl, rfl, rfl⟩

/-- Whether or not a target is made, textures stay with their targets. -/
theorem createWith_owning (hs : s.Owned)
    (hown : ∀ own, companion.ownedKey? = some own → own.index < s.targets.size) :
    ((createWith d companion).run s).2.Owned :=
  createWith_moves_at (R := Owning) (update_moves permitsContents_owning) free_owning
    (refuse_owning s) (fun _ hnew hkeeps h => h.added hnew hkeeps hown) hs.toWellFormed hs

/-- What was there is as it was. -/
theorem Planted.kept (h : Planted d companion s s') (hs : s.WellFormed) {key : TargetKey} {b : Body}
    (hb : s.body? key = some b) : s'.body? key = some b := by
  rw [h.body, if_neg, hb]
  rintro rfl
  rw [hs.body?_nextTarget] at hb
  cases hb

theorem create_owning (d : TargetDescription) :
    Attempt.Moves Owning (create d : Attempt DrawError (Store State) TargetKey) := fun _ hs =>
  create_moves_at (R := Owning) (update_moves permitsContents_owning) free_owning refuse_owning
    (fun _ _ _ _ _ hnew hkeeps hown _ h => h.added hnew hkeeps hown) d hs.toWellFormed hs

/-! ### One target and its companion -/

/-- How the making of a target can end, and with which answer. -/
inductive Made (d : TargetDescription) (s s' : Store State) : Except DrawError TargetKey → Prop
  /-- The data does not fit, or the first texture is refused. -/
  | refused {e : DrawError} (h : Steady s s') : Made d s s' (.error e)
  | alone (hown : d.ownsCompanion = false) (h : Planted d d.lent s s') :
      Made d s s' (.ok s.nextTarget)
  | paired {s₁ : Store State} (hown : d.ownsCompanion = true)
      (hfirst : Planted d.companion .none s s₁) (hs₁ : s₁.Owned)
      (h : Planted d (.owned s.nextTarget) s₁ s') :
      Made d s s' (.ok s₁.nextTarget)
  /-- The second texture is refused, and the companion is freed again. -/
  | undone {e : DrawError} {s₁ : Store State} {c : Target} (hown : d.ownsCompanion = true)
      (hfirst : Planted d.companion .none s s₁) (hs₁ : s₁.Owned)
      (hc : s₁.target? s.nextTarget = some c)
      (h : Released s.nextTarget c s₁ s') : Made d s s' (.error e)

variable {result : Except DrawError TargetKey}

/-- A target that shares nothing is made or refused at once. -/
theorem createWith_lent (hs : s.WellFormed)
    (hdata : checkData d.tag d.format.info d.size d.layers d.data = .ok ())
    (hown : companion.ownedKey? = none) :
    (∃ e s', (createWith d companion).run s = (.error e, s') ∧ Steady s s') ∨
      ∃ s', (createWith d companion).run s = (.ok s.nextTarget, s') ∧ Planted d companion s s' := by
  by_cases hgrant : s.device.failTextureAfter = some 0
  · exact .inl (createWith_steady hgrant d hown)
  · refine .inr (createWith_planted hs hgrant hdata fun own h => ?_)
    rw [hown] at h
    cases h

/-- Without a companion of its own. -/
theorem made_of_alone (hs : s.WellFormed)
    (hdata : checkData d.tag d.format.info d.size d.layers d.data = .ok ())
    (hown : d.ownsCompanion = false) (h : (createWith d d.lent).run s = (result, s')) :
    Made d s s' result := by
  rcases createWith_lent hs hdata d.ownedKey?_lent with ⟨e, s₁, hrun, hsteady⟩ |
    ⟨s₁, hrun, hplanted⟩ <;> rw [hrun] at h <;> cases h
  · exact .refused hsteady
  · exact .alone hown hplanted

/-- The companion of its own is made first. -/
theorem made_of_paired (hs : s.Owned)
    (hdata : checkData d.tag d.format.info d.size d.layers d.data = .ok ())
    (hown : d.ownsCompanion = true)
    (h : (createWith d.companion .none >>= fun own => createWith d (.owned own) :
      Attempt DrawError (Store State) TargetKey).run s = (result, s')) :
    Made d s s' result := by
  rcases @createWith_lent s d.companion .none hs.toWellFormed rfl rfl with
    ⟨e, s₁, hrun, hsteady⟩ | ⟨s₁, hrun, hfirst⟩
  · rw [Attempt.run_bind_error hrun] at h
    cases h
    exact .refused hsteady
  rw [Attempt.run_bind_ok hrun] at h
  have hs₁ : s₁.Owned := by
    have howned : ((createWith d.companion .none).run s).2.Owned := createWith_owning hs nofun
    rwa [hrun] at howned
  have hbody := (hfirst.body s.nextTarget).trans (if_pos rfl)
  -- The companion is there by now, and goes again if the second texture is refused.
  by_cases hgrant : s₁.device.failTextureAfter = some 0
  · obtain ⟨c, hc, hcbody⟩ := body?_eq_some hbody
    obtain ⟨e, s₂, hrun₂, hreleased⟩ := createWith_error_owner hgrant d hc
      (congrArg Body.freed hcbody) (congrArg (Companion.ownedKey? ∘ Body.companion) hcbody)
    rw [hrun₂] at h
    cases h
    exact .undone hown hfirst hs₁ hc hreleased
  · obtain ⟨s₂, hrun₂, hplanted⟩ := @createWith_planted s₁ d (.owned s.nextTarget)
      hs₁.toWellFormed hgrant hdata fun own hkey => by
        cases hkey
        exact ⟨_, hbody, rfl, rfl, (hfirst.extents _).trans (if_pos rfl)⟩
    rw [hrun₂] at h
    cases h
    exact .paired hown hfirst hs₁ hplanted

/-- There is no other way. -/
theorem create_made (hs : s.Owned) (h : (create d).run s = (result, s')) :
    Made d s s' result := by
  by_cases hdata : checkData d.tag d.format.info d.size d.layers d.data = .ok ()
  case neg =>
    obtain ⟨e, hrun⟩ := create_refused hdata
    rw [hrun] at h
    cases h
    exact .refused (refl s)
  rw [run_create hdata] at h
  rcases hdepth : d.depth with _ | depth <;> rw [hdepth] at h <;> dsimp only at h
  case some =>
    have hlent : d.lent = .borrowed depth := by
      unfold TargetDescription.lent
      rw [hdepth]
    rw [← hlent] at h
    refine made_of_alone hs.toWellFormed hdata ?_ h
    unfold TargetDescription.ownsCompanion
    rw [hdepth]
    rfl
  have howns : d.ownsCompanion = d.withDepth := by
    unfold TargetDescription.ownsCompanion
    rw [hdepth]
    rfl
  rcases hwith : d.withDepth with _ | _ <;> rw [hwith] at h
  · rw [if_neg Bool.false_ne_true, ← TargetDescription.lent_of_depth_none hdepth] at h
    exact made_of_alone hs.toWellFormed hdata (howns.trans hwith) h
  · rw [if_pos rfl] at h
    exact made_of_paired hs hdata (howns.trans hwith) h

/-! ### Several targets -/

/-- What the making of one more target keeps of those that have been made, the making of several
keeps. -/
theorem mapM_create_rule {P : Store State → List TargetKey → Prop}
    (hstep : ∀ s s' keys result, P s keys → (create d).run s = (result, s') →
      (∀ e, result = .error e → P s' keys) ∧ ∀ key, result = .ok key → P s' (keys ++ [key]))
    {n : Nat} (keys : List TargetKey) (h : P s keys) {result : Except DrawError (List TargetKey)}
    (hrun : ((List.replicate n d).mapM create).run s = (result, s')) :
    (∃ made, P s' (keys ++ made)) ∧ ∀ made, result = .ok made → P s' (keys ++ made) := by
  -- The invariant is about what has been made so far, to which each target is added at the end.
  induction n generalizing s keys result with
  | zero =>
    cases hrun
    rw [← List.append_nil keys] at h
    exact ⟨⟨_, h⟩, fun made hmade => by cases hmade; exact h⟩
  | succ n ih =>
    rw [List.replicate_succ, List.mapM_cons] at hrun
    rcases hfirst : (create d).run s with ⟨e | key, s₁⟩
    · rw [Attempt.run_bind_error hfirst] at hrun
      cases hrun
      have hs' := (hstep s s' keys _ h hfirst).1 e rfl
      rw [← List.append_nil keys] at hs'
      exact ⟨⟨_, hs'⟩, nofun⟩
    · rw [Attempt.run_bind_ok hfirst] at hrun
      have hs₁ := (hstep s s₁ keys _ h hfirst).2 key rfl
      rcases hrest : ((List.replicate n d).mapM create).run s₁ with ⟨e | made, s₂⟩
      · rw [Attempt.run_bind_error hrest] at hrun
        cases hrun
        obtain ⟨made, hmade⟩ := (ih (keys ++ [key]) hs₁ hrest).1
        rw [List.append_assoc] at hmade
        exact ⟨⟨_, hmade⟩, nofun⟩
      · rw [Attempt.run_bind_ok hrest] at hrun
        cases hrun
        have hmade := (ih (keys ++ [key]) hs₁ hrest).2 made rfl
        rw [List.append_assoc] at hmade
        exact ⟨⟨_, hmade⟩, fun _ h => by cases h; exact hmade⟩

/-- An entry that has been made stands for the targets that have been made for it. -/
theorem run_make_ok {spec : TargetSpec} {entry : Entry} (hs : s.WellFormed)
    (h : (Registry.make spec d).run s = (.ok entry, s')) :
    ∃ keys s₁, ((List.replicate spec.slots d).mapM create).run s = (.ok keys, s₁) ∧
      ((∃ key, keys = [key] ∧ entry = .single key ∧ s' = s₁) ∨
        ∃ story : Story, keys = story.slots ∧ entry = .story ⟨s₁.stories.size⟩ ∧
          s' = (s₁.addStory story).2) := by
  cases entry with
  | story key =>
    obtain ⟨story, s₁, rfl, rfl, hrun, hspec⟩ := run_make_story hs h
    have hslots : spec.slots = story.size := by
      rw [TargetSpec.slots, hspec, Option.getD_some, Story.size, Story.length_slots]
      omega
    rw [← hslots] at hrun
    exact ⟨_, s₁, hrun, .inr ⟨story, rfl, rfl, rfl⟩⟩
  | single key =>
    unfold Registry.make at h
    split at h
    · obtain ⟨_, _, _, h⟩ := Attempt.run_bind_eq_ok.1 h
      obtain ⟨_, _, _, h⟩ := Attempt.run_bind_eq_ok.1 h
      cases h
    · rename_i hspec
      obtain ⟨_, _, hrun, h⟩ := Attempt.run_bind_eq_ok.1 h
      cases h
      refine ⟨[key], s', ?_, .inl ⟨key, rfl, rfl, rfl⟩⟩
      rw [TargetSpec.slots_of_single hspec, List.replicate_succ, List.mapM_cons,
        Attempt.run_bind_ok hrun]
      rfl

end Store

end DrawPass
