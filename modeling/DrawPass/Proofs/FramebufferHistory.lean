/-
DrawPass/Proofs/FramebufferHistory.lean

Framebuffers match their targets.

A target is given a framebuffer once.  Draws and reads make framebuffers and free nothing,
everything else makes none; so whatever the log shows as made was the framebuffer of some target
at the end of the act that made it (`Act.made_after`), and a target keeps its framebuffer until
it is freed, after which it gets no other (`Act.keepsFramebuffers`).  Together with what is
attached to a framebuffer this makes the main result, `framebuffers_match_targets`.
-/
import DrawPass.Proofs.Framebuffers
import DrawPass.Proofs.Naming
import DrawPass.Proofs.Origin
import DrawPass.Proofs.UseAfterDelete

namespace DrawPass

open Gl Readback Software

/-! ### The log -/

namespace Software

/-- The framebuffer that a call makes. -/
def Call.framebuffer? : Call → Option Name
  | createFramebuffer id => some id
  | _ => none

theorem Call.made?_of_framebuffer? {call : Call} {id : Name} (h : call.framebuffer? = some id) :
    call.made? = some (.framebuffer, id) := by
  cases call with
  | createFramebuffer =>
    cases h
    rfl
  | _ => cases h

namespace State

variable {d d' : State}

/-- The framebuffers that the log shows as made, newest first. -/
def framebuffersMade (d : State) : List Name := d.log.filterMap Call.framebuffer?

theorem framebuffersMade_cons {call : Call} (h : d'.log = call :: d.log)
    (hcall : call.framebuffer? = none) : d'.framebuffersMade = d.framebuffersMade := by
  unfold framebuffersMade
  rw [h, List.filterMap_cons_none hcall]

/-- Nothing but new framebuffers have been made, each once. -/
structure Numbers (d d' : State) : Prop where
  lastName : d.lastName ≤ d'.lastName
  made : ∃ new, d'.framebuffersMade = new ++ d.framebuffersMade ∧ new.Nodup ∧
    ∀ id ∈ new, d.lastName < id ∧ id ≤ d'.lastName

instance : IsPreorder State Numbers where
  refl d := ⟨Nat.le_refl _, [], rfl, List.nodup_nil, nofun⟩
  trans d d' d'' h h' := by
    obtain ⟨new, hmade, hdistinct, hnew⟩ := h.made
    obtain ⟨new', hmade', hdistinct', hnew'⟩ := h'.made
    refine ⟨Nat.le_trans h.lastName h'.lastName, new' ++ new, ?_, ?_, fun id hid => ?_⟩
    · rw [hmade', hmade, List.append_assoc]
    · refine List.nodup_append.2 ⟨hdistinct', hdistinct, fun id hid id' hid' => ?_⟩
      exact Nat.ne_of_gt (Nat.lt_of_le_of_lt (hnew id' hid').2 (hnew' id hid).1)
    · rcases List.mem_append.1 hid with hid | hid
      · exact ⟨Nat.lt_of_le_of_lt h.lastName (hnew' id hid).1, (hnew' id hid).2⟩
      · exact ⟨(hnew id hid).1, Nat.le_trans (hnew id hid).2 h'.lastName⟩

theorem numbers_of_eq (hlast : d.lastName ≤ d'.lastName)
    (hmade : d'.framebuffersMade = d.framebuffersMade) : Numbers d d' :=
  ⟨hlast, [], hmade, List.nodup_nil, nofun⟩

/-- A command makes a framebuffer under the next number or none. -/
theorem framebuffersMade_perform {α : Type} (command : Command α) (d : State) :
    d.lastName ≤ (d.perform command).2.lastName ∧
      ((d.perform command).2.framebuffersMade = d.framebuffersMade ∨
        (d.perform command).2.lastName = d.lastName + 1 ∧
        (d.perform command).2.framebuffersMade = (d.lastName + 1) :: d.framebuffersMade ∧
        d.lastName + 1 ∈ (d.perform command).2.framebuffers.keys) := by
  have hnone {call : Call} (hmade : call.made? = none) : call.framebuffer? = none := by
    refine Option.eq_none_iff_forall_ne_some.2 fun id hid => ?_
    cases hmade.symm.trans (Call.made?_of_framebuffer? hid)
  have heffect := effect_perform command d
  generalize (d.perform command).2 = d' at *
  generalize command.deletes? = deletes at heffect
  generalize command.names = names at heffect
  generalize command.isAttachment = attaches at heffect
  cases heffect with
  | silent hsame => exact ⟨hsame.lastName, .inl (congrArg (List.filterMap _) hsame.log)⟩
  | called call _ hlast hlog _ hmade =>
    exact ⟨hlast, .inl (framebuffersMade_cons hlog (hnone hmade))⟩
  | deleted _ _ call hdeletes hlog _ hmade =>
    exact ⟨Nat.le_of_eq hdeletes.lastName.symm, .inl (framebuffersMade_cons hlog (hnone hmade))⟩
  | made kind call hmakes hlog _ hmade =>
    refine ⟨hmakes.lastName ▸ Nat.le_succ _, ?_⟩
    cases hcall : call.framebuffer? with
    | none => exact .inl (framebuffersMade_cons hlog hcall)
    | some id =>
      cases hmade _ (Call.made?_of_framebuffer? hcall)
      refine .inr ⟨hmakes.lastName, ?_, (hmakes.holds .framebuffer _).2 (.inr ⟨rfl, rfl⟩)⟩
      unfold framebuffersMade
      rw [hlog, List.filterMap_cons_some hcall]

/-- Numbers are given out once. -/
theorem numbers_perform {α : Type} (command : Command α) (d : State) :
    Numbers d (d.perform command).2 := by
  obtain ⟨hlast, hsame | ⟨hnext, hmade, -⟩⟩ := framebuffersMade_perform command d
  · exact numbers_of_eq hlast hsame
  · refine ⟨hlast, [d.lastName + 1], hmade, List.pairwise_singleton _ _, fun id hid => ?_⟩
    rw [List.mem_singleton.1 hid, hnext]
    exact ⟨Nat.lt_succ_self _, Nat.le_refl _⟩

/-- A command that adds no framebuffer to those that are there writes none down as made. -/
theorem framebuffersMade_eq {α : Type} {command : Command α}
    (hnumbered : ∀ id ∈ d.framebuffers.keys, id ≤ d.lastName)
    (hkeys : (d.perform command).2.framebuffers.keys ⊆ d.framebuffers.keys) :
    (d.perform command).2.framebuffersMade = d.framebuffersMade := by
  obtain ⟨-, hsame | ⟨-, -, hmem⟩⟩ := framebuffersMade_perform command d
  · exact hsame
  · exact absurd (hnumbered _ (hkeys hmem)) (Nat.not_succ_le_self _)

/-- The end of a target makes no framebuffer. -/
theorem framebuffersMade_endOn (t : Target) (d : State) :
    (t.endOn d).framebuffersMade = d.framebuffersMade := by
  have hbuffers (d : State) (dead : List Name) :
      (d.deleteBuffers dead).framebuffersMade = d.framebuffersMade := by
    unfold deleteBuffers
    induction dead generalizing d with
    | nil => rfl
    | cons buffer dead ih => exact ih (d.perform (.deleteBuffer buffer)).2
  unfold Target.endOn
  refine (hbuffers _ _).trans ?_
  split <;> rfl

end State

end Software

namespace Store

variable {s s' : Store State} {key : TargetKey} {t : Target} {id : Name}

/-! ### Numbers are given out once -/

/-- Nothing but new framebuffers have been made, each once. -/
def Numbering (s s' : Store State) : Prop := s.device.Numbers s'.device

instance : IsPreorder (Store State) Numbering where
  refl s := refl s.device
  trans _ _ _ h h' := IsTrans.trans (r := State.Numbers) _ _ _ h h'

theorem permitsParts_numbering : PermitsParts Numbering :=
  permitsParts_onDevice State.numbers_perform

/-! ### To the end of a target -/

/-- The target of a key has been freed. -/
def Ended (s : Store State) (key : TargetKey) : Prop :=
  (∃ f, s.frame? key = some f) ∧ ¬ s.IsLive key ∧ s.framebuffer? key = none

/-- A target keeps its framebuffer until it is freed, and gets none after that. -/
structure KeepsFramebuffers (s s' : Store State) : Prop where
  kept : ∀ key id, s.framebuffer? key = some id → s'.framebuffer? key = some id ∨ s'.Ended key
  ended : ∀ key, s.Ended key → s'.Ended key

/-- Framebuffers are kept where everything has its owner. -/
def Aging (s s' : Store State) : Prop := s.Owned → s'.Owned ∧ s.KeepsFramebuffers s'

instance : IsPreorder (Store State) Aging where
  refl _ h := ⟨h, fun _ _ => .inl, fun _ h => h⟩
  trans _ _ _ h h' hs := by
    obtain ⟨hs', hkept, hended⟩ := h hs
    obtain ⟨hs'', hkept', hended'⟩ := h' hs'
    refine ⟨hs'', fun key id hid => ?_, fun key hkey => hended' key (hended key hkey)⟩
    rcases hkept key id hid with hid | hkey
    · exact hkept' key id hid
    · exact .inr (hended' key hkey)

theorem aging_of_same (howned : Owning s s') (htargets : SameFrames s s') : Aging s s' := by
  refine fun h => ⟨howned h, fun key id hid => .inl (htargets.framebuffer ▸ hid), fun key hkey => ?_⟩
  unfold Ended
  rw [htargets.frame, htargets.live, htargets.framebuffer]
  exact hkey

theorem command_aging {α : Type} (command : Command α) (hframes : command.keepsFrames) :
    Moves Aging (perform command : StateM (Store State) α) := fun s =>
  aging_of_same (command_owning command hframes s) (sameFrames_of_targets rfl)

theorem permitsContents_aging : PermitsContents Aging where
  plain command _ hobjects :=
    command_aging command (command.keepsFrames_of_keepsObjects hobjects)
  contents s key f hf := aging_of_same (permitsContents_owning.contents s key f hf)
    (sameTargets_modifyTarget s key hf).toSameFrames

theorem permitsReads_aging : PermitsReads Aging where
  command command _ hframes _ := command_aging command hframes
  pool s key f := by
    obtain ⟨hframe, hframebuffer, hlive, -⟩ := modifyPool_targets s key f
    exact aging_of_same (permitsReads_owning.pool s key f) ⟨hframe, hframebuffer, hlive⟩
  reads s s' hdevice htargets hstories :=
    aging_of_same (permitsReads_owning.reads s s' hdevice htargets hstories)
      (sameFrames_of_targets htargets)

/-- Only a target without one is given a framebuffer. -/
theorem makeFramebuffer_aging (ht : s.target? key = some t) (hfreed : t.freed = false)
    (hnone : t.framebuffer = none) : Aging s ((makeFramebuffer key t).run s).2 := by
  have howned := makeFramebuffer_owning ht
  rcases run_makeFramebuffer key t s with ⟨e, hrun⟩ | ⟨s', hrun, hmade⟩ <;> rw [hrun] at howned ⊢
  · exact aging_of_same howned (sameFrames_of_targets rfl)
  obtain ⟨hframe, -, hlive, hframebuffer⟩ := hmade.targets ht
  refine fun h => ⟨howned h, fun key' id hid => .inl ?_, fun key' ⟨hf, hgone, hnone'⟩ => ?_⟩
  · rw [hframebuffer, if_neg, hid]
    rintro rfl
    rw [framebuffer?_of_target? ht, hnone] at hid
    cases hid
  · refine ⟨hframe ▸ hf, hlive ▸ hgone, ?_⟩
    rw [hframebuffer, if_neg, hnone']
    rintro rfl
    exact hgone ((isLive_of_target? ht).2 hfreed)

theorem released_aging (hend : Released key t s s') (ht : s.target? key = some t) :
    Aging s s' := by
  obtain ⟨hframe, hframebuffer, -, hlive⟩ := hend.targets ht
  refine fun h => ⟨h.released hend ht, fun key' id hid => ?_, fun key' ⟨hf, hgone, hnone⟩ => ?_⟩
  · by_cases hkey : key' = key
    · subst hkey
      exact .inr ⟨⟨t.frame, hframe ▸ frame?_of_target? ht⟩,
        fun hlive' => ((hlive key').1 hlive').1 rfl,
        (hframebuffer key').trans (if_pos rfl)⟩
    · exact .inl (((hframebuffer key').trans (if_neg hkey)).trans hid)
  · refine ⟨hframe ▸ hf, fun hlive' => hgone ((hlive key').1 hlive').2, ?_⟩
    rw [hframebuffer]
    split
    · rfl
    · exact hnone

theorem free_aging (key : TargetKey) :
    Moves Aging (free key : StateM (Store State) Unit) := by
  intro s hs
  exact free_moves_at (R := Aging) (fun _ _ _ _ ht _ hend => released_aging hend ht)
    (fun _ _ ht hown => hs.own_ne ht hown) hs

theorem added_aging {d : TargetDescription} {companion : Companion} (hs : s.WellFormed)
    (hnew : Added d companion s s') (hkeeps : Keeps s s')
    (hcompanion : ∀ own, companion.ownedKey? = some own → own.index < s.targets.size) :
    Aging s s' := by
  obtain ⟨hframe, hframebuffer, -, hlive⟩ := hnew.targets
  refine fun h => ⟨h.added hnew hkeeps hcompanion, fun key' id hid => .inl ?_,
    fun key' ⟨⟨f, hf⟩, hgone, hnone⟩ => ?_⟩
  · rw [hframebuffer, if_neg, hid]
    rintro rfl
    obtain ⟨t, ht, -⟩ := Option.bind_eq_some_iff.1 hid
    cases (frame?_nextTarget hs).symm.trans (frame?_of_target? ht)
  · have hne : key' ≠ s.nextTarget := by
      rintro rfl
      cases (frame?_nextTarget hs).symm.trans hf
    refine ⟨⟨f, ((hframe key').trans (if_neg hne)).trans hf⟩, fun hlive' => hgone ?_,
      ((hframebuffer key').trans (if_neg hne)).trans hnone⟩
    exact ((hlive key').1 hlive').resolve_left hne

theorem make_aging (spec : TargetSpec) (d : TargetDescription) :
    Attempt.Moves Aging (Registry.make spec d : Attempt DrawError (Store State) Entry) := by
  intro s hs
  exact make_moves_at (R := Aging) (update_moves permitsContents_aging) free_aging
    (fun s => aging_of_same (refuse_owning s) (sameFrames_of_targets rfl))
    (fun _ _ _ _ hwf hnew hkeeps hown _ => added_aging hwf hnew hkeeps hown)
    (fun _ _ _ hwf hslots => aging_of_same (fun h => h.addStory hwf hslots)
      (sameFrames_of_targets rfl)) spec d hs.toWellFormed hs

theorem permits_aging : Permits Aging fun _ => True where
  toPermitsContents := permitsContents_aging
  makeFramebuffer _ _ _ ht hfreed hnone := makeFramebuffer_aging ht hfreed hnone
  free := free_aging
  make _ spec _ _ _ := make_aging spec _

/-! ### Steps that make no framebuffer -/

/-- No framebuffer has been made. -/
def MakesNone (s s' : Store State) : Prop :=
  s.Owned → s'.Owned ∧ s'.device.framebuffersMade = s.device.framebuffersMade

instance : IsPreorder (Store State) MakesNone where
  refl _ h := ⟨h, rfl⟩
  trans _ _ _ h h' hs := by
    obtain ⟨hs', hmade⟩ := h hs
    obtain ⟨hs'', hmade'⟩ := h' hs'
    exact ⟨hs'', hmade'.trans hmade⟩

theorem command_makesNone {α : Type} (command : Command α) (hframes : command.keepsFrames) :
    Moves MakesNone (perform command : StateM (Store State) α) := by
  intro s h
  obtain ⟨-, hframebuffers, -⟩ := State.sameFrames_perform command hframes s.device
  refine ⟨command_owning command hframes s h, State.framebuffersMade_eq h.numbered.framebuffers ?_⟩
  rw [hframebuffers]
  exact List.Subset.refl _

theorem permitsContents_makesNone : PermitsContents MakesNone where
  plain command _ hobjects :=
    command_makesNone command (command.keepsFrames_of_keepsObjects hobjects)
  contents s key f hf h := ⟨permitsContents_owning.contents s key f hf h, rfl⟩

theorem free_makesNone (key : TargetKey) :
    Moves MakesNone (free key : StateM (Store State) Unit) := by
  intro s hs
  refine free_moves_at (R := MakesNone) (fun s s' key t ht _ hend h => ?_) (fun t own ht hown => ?_) hs
  · obtain ⟨armed, hdevice⟩ := hend.device
    refine ⟨h.released hend ht, ?_⟩
    rw [hdevice]
    exact State.framebuffersMade_endOn t { s.device with failTextureAfter := armed }
  · exact hs.own_ne ht hown

theorem make_makesNone (spec : TargetSpec) (d : TargetDescription) :
    Attempt.Moves MakesNone (Registry.make spec d : Attempt DrawError (Store State) Entry) := by
  intro s hs
  refine make_moves_at (R := MakesNone) (update_moves permitsContents_makesNone) free_makesNone
    (fun s h => ⟨refuse_owning s h, rfl⟩) (fun s s' d companion hwf hnew hkeeps hown _ h => ?_)
    (fun s story _ hwf hslots h => ⟨h.addStory hwf hslots, rfl⟩) spec d hs.toWellFormed hs
  refine ⟨h.added hnew hkeeps hown, ?_⟩
  rw [hnew.device]
  refine State.framebuffersMade_eq h.numbered.framebuffers ?_
  rw [← hnew.device, hnew.framebuffers]
  exact List.Subset.refl _

theorem prepare_makesNone (registry : Registry) (spec : TargetSpec) :
    Attempt.Moves MakesNone (registry.prepare spec : Attempt DrawError (Store State) _) :=
  prepare_moves (update_moves permitsContents_makesNone) (command_makesNone _ rfl) registry
    fun _ _ => make_makesNone spec _

/-! ### Steps that free nothing -/

/-- Every new framebuffer is that of a target, and no target has lost one. -/
structure Furnishes (s s' : Store State) : Prop where
  made : ∀ id ∈ s'.device.framebuffersMade,
    id ∈ s.device.framebuffersMade ∨ ∃ key, s'.framebuffer? key = some id
  kept : ∀ key id, s.framebuffer? key = some id → s'.framebuffer? key = some id

/-- Framebuffers are made for targets where everything has its owner. -/
def Furnishing (s s' : Store State) : Prop := s.Owned → s'.Owned ∧ s.Furnishes s'

instance : IsPreorder (Store State) Furnishing where
  refl _ h := ⟨h, fun _ => .inl, fun _ _ h => h⟩
  trans _ _ _ h h' hs := by
    obtain ⟨hs', hmade, hkept⟩ := h hs
    obtain ⟨hs'', hmade', hkept'⟩ := h' hs'
    refine ⟨hs'', fun id hid => ?_, fun key id hid => hkept' key id (hkept key id hid)⟩
    rcases hmade' id hid with hid | hkey
    · exact (hmade id hid).imp_right fun ⟨key, hkey⟩ => ⟨key, hkept' key id hkey⟩
    · exact .inr hkey

theorem furnishing_of_same (hmakes : MakesNone s s') (htargets : SameFrames s s') :
    Furnishing s s' := by
  intro h
  obtain ⟨hs', hmade⟩ := hmakes h
  exact ⟨hs', fun id hid => .inl (hmade ▸ hid), fun key id hid => htargets.framebuffer ▸ hid⟩

theorem command_furnishing {α : Type} (command : Command α) (hframes : command.keepsFrames) :
    Moves Furnishing (perform command : StateM (Store State) α) := fun s =>
  furnishing_of_same (command_makesNone command hframes s) (sameFrames_of_targets rfl)

/-- The framebuffer that is made is that of the target. -/
theorem makeFramebuffer_furnishing (ht : s.target? key = some t) (hnone : t.framebuffer = none) :
    Furnishing s ((makeFramebuffer key t).run s).2 := by
  have howned := makeFramebuffer_owning ht
  obtain ⟨hlast, new, hnew, -, hfresh⟩ :=
    makeFramebuffer_moves permitsParts_numbering.toFramebuffers key t s
  rcases run_makeFramebuffer key t s with ⟨e, hrun⟩ | ⟨s', hrun, hmade⟩ <;>
    rw [hrun] at howned hnew hfresh ⊢
  · exact furnishing_of_same (fun h => ⟨howned h, rfl⟩) (sameFrames_of_targets rfl)
  obtain ⟨-, -, -, hframebuffer⟩ := hmade.targets ht
  refine fun h => ⟨howned h, fun id hid => ?_, fun key' id hid => ?_⟩
  · rw [hnew] at hid
    rcases List.mem_append.1 hid with hid | hid
    · have hnext : s'.device.lastName = s.device.lastName + 1 := by
        obtain ⟨_, _, rfl, -⟩ := hmade
        rfl
      obtain ⟨hlow, hhigh⟩ := hfresh id hid
      have hid : id = s.device.lastName + 1 := Nat.le_antisymm (hnext ▸ hhigh) hlow
      exact .inr ⟨key, by rw [hframebuffer, if_pos rfl, hid]⟩
    · exact .inl hid
  · rw [hframebuffer, if_neg, hid]
    rintro rfl
    rw [framebuffer?_of_target? ht, hnone] at hid
    cases hid

theorem permitsBinding_furnishing : PermitsBinding Furnishing where
  plain command _ hobjects _ :=
    command_furnishing command (command.keepsFrames_of_keepsObjects hobjects)
  mark s key f hf _ := furnishing_of_same (permitsContents_makesNone.contents s key f hf)
    (sameTargets_modifyTarget s key hf).toSameFrames
  makeFramebuffer _ _ _ ht _ hnone := makeFramebuffer_furnishing ht hnone

theorem permitsReads_furnishing : PermitsReads Furnishing where
  command command _ hframes _ := command_furnishing command hframes
  pool s key f := by
    obtain ⟨hframe, hframebuffer, hlive, -⟩ := modifyPool_targets s key f
    exact furnishing_of_same (fun h => ⟨permitsReads_owning.pool s key f h, rfl⟩)
      ⟨hframe, hframebuffer, hlive⟩
  reads s s' hdevice htargets hstories :=
    furnishing_of_same
      (fun h => ⟨permitsReads_owning.reads s s' hdevice htargets hstories h, by rw [hdevice]⟩)
      (sameFrames_of_targets htargets)

theorem rotate_furnishing (s : Store State) (key : StoryKey) : Furnishing s (s.rotate key) :=
  furnishing_of_same (fun h => ⟨rotate_owning s key h, rfl⟩) (sameFrames_of_targets rfl)

end Store

/-! ### Acts -/

theorem Control.framebuffersMade (change : Control) (d : State) :
    (change.apply d).framebuffersMade = d.framebuffersMade := by
  cases change <;> rfl

/-- A target keeps its framebuffer until it is freed, whatever a host does. -/
theorem Act.after_aging (act : Act) (r : Renderer State) :
    Store.Aging r.store (act.after r).store :=
  Act.moves Store.permits_aging Store.permitsReads_aging Store.command_aging
    (fun s key => Store.aging_of_same (Store.rotate_owning s key) (Store.sameFrames_of_targets rfl))
    (fun s change => Store.aging_of_same (change.owning s) (Store.sameFrames_of_targets rfl)) act r

/-- No number is given out twice, whatever a host does. -/
theorem Act.after_numbering (act : Act) (r : Renderer State) :
    Store.Numbering r.store (act.after r).store :=
  Act.onDevice_moves State.numbers_perform (fun change d =>
    State.numbers_of_eq (change.sameObjects d).lastName (change.framebuffersMade d)) act r

namespace Renderer

variable {r r' : Renderer State}

/-- Every new framebuffer is that of a target. -/
def FurnishesTargets (r r' : Renderer State) : Prop := r.store.Owned → r'.store.Owned ∧
  ∀ id ∈ r'.store.device.framebuffersMade,
    id ∈ r.store.device.framebuffersMade ∨ ∃ key, r'.store.framebuffer? key = some id

theorem furnishesTargets_of_makesNone (h : Store.MakesNone r.store r'.store) :
    FurnishesTargets r r' := by
  intro hs
  obtain ⟨hs', hmade⟩ := h hs
  exact ⟨hs', fun id hid => .inl (hmade ▸ hid)⟩

theorem furnishesTargets_of_furnishing (h : Store.Furnishing r.store r'.store) :
    FurnishesTargets r r' := by
  intro hs
  obtain ⟨hs', hfurnishes⟩ := h hs
  exact ⟨hs', hfurnishes.made⟩

/-- Settling on a target makes no framebuffer. -/
theorem settle_makesNone (bag : Params.Bag) (destination : Destination) (r : Renderer State) :
    Store.MakesNone r.store ((settle bag destination).run r).2.store :=
  (settle_moves_by bag (resolve_moves_by fun spec _ registry =>
    Store.prepare_makesNone registry spec) r rfl).2.1

/-- Targets are furnished with framebuffers, and none loses one. -/
def Furnishing (r r' : Renderer State) : Prop := r.store.Furnishing r'.store

instance : IsPreorder (Renderer State) Furnishing where
  refl r := refl r.store
  trans _ _ _ h h' := IsTrans.trans (r := Store.Furnishing) _ _ _ h h'

/-- What comes after the preparation of a draw frees nothing. -/
theorem paint_furnishing (plan : Plan) (blend : Option Blend.State) (resolved : Resolved) :
    Attempt.Moves Furnishing
      (paint plan blend resolved : Attempt DrawError (Renderer State) Unit) := fun r =>
  (paint_moves Store.permitsBinding_furnishing (fun _ _ _ => Store.command_furnishing _ rfl)
    (fun command hobjects _ =>
      Store.command_furnishing command (command.keepsFrames_of_keepsObjects hobjects))
    (fun key _ s => Store.rotate_furnishing s key) plan blend r rfl).2.1

theorem draw_furnishesTargets (bag : Params.Bag) (destination : Destination)
    (r : Renderer State) : FurnishesTargets r ((draw bag destination).run r).2 := by
  intro hs
  obtain ⟨hs₁, hsame⟩ := settle_makesNone bag destination r hs
  obtain ⟨hs', hfurnishes⟩ := settle_draw paint_furnishing bag destination r hs₁
  exact ⟨hs', fun id hid => hsame ▸ hfurnishes.made id hid⟩

theorem reset_makesNone (r : Renderer State) : Store.MakesNone r.store (reset r).2.store := by
  rw [run_reset]
  refine IsTrans.trans (r := Store.MakesNone) _ r.cleared _ ?_
    (Store.freeAll_moves Store.free_makesNone r.registry r.cleared)
  refine Store.after_moves (fun command hcommand => ?_) r.store
  obtain ⟨id, -, rfl⟩ := List.mem_map.1 hcommand
  exact Store.command_makesNone _ rfl

end Renderer

/-- A framebuffer that an act makes is that of a target when the act is over. -/
theorem Act.after_furnishesTargets (act : Act) (r : Renderer State) :
    r.FurnishesTargets (act.after r) := by
  have hnone (h : r.Over r.geometry.buffer Store.MakesNone (act.after r)) :
      r.FurnishesTargets (act.after r) := Renderer.furnishesTargets_of_makesNone (h rfl).2.1
  cases act with
  | draw bag destination => exact Renderer.draw_furnishesTargets bag destination r
  | reset => exact Renderer.furnishesTargets_of_makesNone (Renderer.reset_makesNone r)
  | update key size data =>
    exact hnone (Renderer.tryOnStore_moves
      (Store.update_moves Store.permitsContents_makesNone key size data) r)
  | free key => exact hnone (Renderer.onStore_moves (Store.free_makesNone key) r)
  | control change =>
    exact Renderer.furnishesTargets_of_makesNone fun hs =>
      ⟨change.owning r.store hs, change.framebuffersMade r.store.device⟩
  | _ =>
    exact Renderer.furnishesTargets_of_furnishing (Act.look_moves Store.permitsBinding_furnishing
      Store.permitsReads_furnishing (fun key _ s => Store.rotate_furnishing s key) rfl r rfl).2.1

/-! ### Runs -/

namespace Renderer

/-- At some point of a run a target has a framebuffer. -/
def Gives (r : Renderer State) (acts : List Act) (key : TargetKey) (id : Name) : Prop :=
  ∃ before, before <+: acts ∧ (Act.afterAll r before).store.framebuffer? key = some id

theorem Gives.cons {r : Renderer State} {acts : List Act} {key : TargetKey} {id : Name} (act : Act)
    (h : (act.after r).Gives acts key id) : r.Gives (act :: acts) key id := by
  obtain ⟨before, hbefore, hid⟩ := h
  exact ⟨act :: before, List.cons_prefix_cons.2 ⟨rfl, hbefore⟩, hid⟩

end Renderer

/-- What a run makes it gives to targets. -/
theorem Act.afterAll_furnishes {r : Renderer State} (hs : r.store.Owned) (acts : List Act) :
    ∀ id ∈ (Act.afterAll r acts).store.device.framebuffersMade,
      id ∈ r.store.device.framebuffersMade ∨ ∃ key, r.Gives acts key id := by
  induction acts generalizing r with
  | nil => exact fun id => .inl
  | cons act acts ih =>
    intro id hid
    obtain ⟨hs₁, hmade⟩ := act.after_furnishesTargets r hs
    rcases ih hs₁ id hid with hid | ⟨key, hkey⟩
    · exact (hmade id hid).imp_right fun ⟨key, hkey⟩ => ⟨key, [act], ⟨acts, rfl⟩, hkey⟩
    · exact .inr ⟨key, hkey.cons act⟩

/-- A target has one framebuffer only. -/
theorem Renderer.Gives.eq {r : Renderer State} {acts : List Act} {key : TargetKey} {id id' : Name}
    (hs : r.store.Owned) (h : r.Gives acts key id) (h' : r.Gives acts key id') : id = id' := by
  have hlater {before rest : List Act} {id id' : Name}
      (hid : (Act.afterAll r before).store.framebuffer? key = some id)
      (hid' : (Act.afterAll r (before ++ rest)).store.framebuffer? key = some id') : id = id' := by
    rw [Act.afterAll_append] at hid'
    obtain ⟨hs₁, -⟩ := Act.afterAll_moves Act.after_aging before r hs
    obtain ⟨-, hkept, -⟩ := Act.afterAll_moves Act.after_aging rest (Act.afterAll r before) hs₁
    rcases hkept key id hid with hid | ⟨-, -, hnone⟩
    · exact Option.some.inj (hid.symm.trans hid')
    · cases hnone.symm.trans hid'
  obtain ⟨before, hbefore, hid⟩ := h
  obtain ⟨before', hbefore', hid'⟩ := h'
  rcases List.prefix_or_prefix_of_prefix hbefore hbefore' with ⟨rest, rfl⟩ | ⟨rest, rfl⟩
  · exact hlater hid hid'
  · exact (hlater hid' hid).symm

/-- The log of a reachable renderer shows every framebuffer once. -/
theorem ReachableBy.nodup_framebuffersMade {P : Act → Prop} {r : Renderer State}
    (hr : ReachableBy P r) : r.store.device.framebuffersMade.Nodup := by
  obtain ⟨width, height, -, new, hmade, hdistinct, -⟩ :
      ∃ width height, State.Numbers (State.new width height) r.store.device := by
    refine hr.invariant (I := fun r => ∃ width height,
      State.Numbers (State.new width height) r.store.device)
      (fun config width height r hr => ⟨width, height, ?_⟩)
      fun act r _ ⟨width, height, h⟩ =>
        ⟨width, height, IsTrans.trans _ _ _ h (act.after_numbering r)⟩
    exact Renderer.create_moves Store.permitsParts_numbering hr
  have hnone : (State.new width height).framebuffersMade = [] := rfl
  rw [hmade, hnone, List.append_nil]
  exact hdistinct

/-- Every framebuffer that a run writes down as made is given to a target, and no target is given
two. -/
structure Renderer.FurnishesOnce (r : Renderer State) (acts : List Act) : Prop where
  made : ∀ id ∈ (Act.afterAll r acts).store.device.framebuffersMade,
    id ∈ r.store.device.framebuffersMade ∨ ∃ key, r.Gives acts key id
  once : ∀ (key : TargetKey) (ids : List Name),
    ids.Sublist (Act.afterAll r acts).store.device.framebuffersMade →
    (∀ id ∈ ids, r.Gives acts key id) → ids.length ≤ 1

/-- At most one framebuffer is made for each target, whatever a host does. -/
theorem ReachableBy.furnishesOnce {P : Act → Prop} {r : Renderer State} (hr : ReachableBy P r)
    (acts : List Act) : r.FurnishesOnce acts := by
  refine ⟨Act.afterAll_furnishes hr.owned acts, fun key ids hids hgives => ?_⟩
  have hafter : Reachable (Act.afterAll r acts) :=
    ReachableBy.afterAll hr.reachable fun _ _ => trivial
  have hdistinct := hafter.nodup_framebuffersMade.sublist hids
  match ids, hdistinct, hgives with
  | [], _, _ => exact Nat.zero_le _
  | [_], _, _ => exact Nat.le_refl _
  | id :: id' :: _, hdistinct, hgives =>
    have hsame : id = id' := (hgives id List.mem_cons_self).eq hr.owned
      (hgives id' (List.mem_cons_of_mem _ List.mem_cons_self))
    exact absurd (hsame ▸ List.mem_cons_self) (List.nodup_cons.1 hdistinct).1

/-- Whatever a host does after a target has been made for a spec that lends it no companion, the
framebuffer of the target, once there is one, has attached what the layers and the format of the
spec ask for, and no second one is made for any target. -/
theorem framebuffers_match_targets {r made : Renderer State} (hr : Reachable r)
    {bag : Params.Bag} {spec : TargetSpec} {format : TargetFormat} {key : TargetKey}
    (hmade : r.MakesTarget bag spec format key made) (hdepth : spec.depth = none)
    (hplain : format.withDepth = true → format.color.isDepth = false) (acts : List Act) :
    (∀ t id, (Act.afterAll made acts).store.target? key = some t → t.framebuffer = some id →
      ∃ fb, (Act.afterAll made acts).store.device.framebuffers.get? id = some fb ∧
        (Act.afterAll made acts).store.Mirrors spec.layers format t fb) ∧
    r.FurnishesOnce (.draw bag (.spec spec) :: acts) := by
  refine ⟨fun t id ht hid => ?_, hr.furnishesOnce _⟩
  obtain ⟨b, size, hb, -, hfrom, -⟩ := hmade.origin hr.owned
  have hr₁ : Reachable made := by
    rw [← hmade.draw]
    exact hr.step (.draw bag (.spec spec)) trivial
  -- No act changes the texture, the layers or the companion of a target.
  obtain ⟨b', hb', houtlives⟩ := Act.outlives_afterAll acts hr₁.mounted hb
  cases (Store.body?_of_target? ht).symm.trans hb'
  have hlayers : t.layers = spec.layers := houtlives.layers.trans hfrom.layers
  have hcompanion : t.companion = b.companion := houtlives.companion
  have howns : (r.registry.describe spec format size).ownsCompanion = format.withDepth := by
    change (spec.depth.isNone && format.withDepth) = _
    rw [hdepth]
    rfl
  have hmounted : (Act.afterAll made acts).store.Mounted :=
    (ReachableBy.afterAll hr₁ fun _ _ => trivial).mounted
  rw [← hlayers]
  refine hmounted.mirrors ht hid ((congrArg TextureRef.format houtlives.texture).trans hfrom.format)
    (fun hwith => ?_) (fun hwith => ?_) hplain
  · obtain ⟨own, hown⟩ := hfrom.owned (howns.trans hwith)
    exact ⟨own, hcompanion.trans hown⟩
  · refine hcompanion.trans ((hfrom.lent (howns.trans hwith)).trans ?_)
    exact TargetDescription.lent_of_depth_none hdepth

/-- The layers of a depth texture are attached as colours, and nothing as a depth buffer. -/
theorem framebuffers_match_targets_of_layeredDepth :
    ∃ made t id, Renderer.onePixel.MakesTarget .empty
        { tag := "s", size := some (1, 1), format := some "depth", layers := some 2 }
        ⟨.depth, false⟩ ⟨0⟩ made ∧
      (Act.afterAll made [.bindTarget ⟨0⟩ false]).store.target? ⟨0⟩ = some t ∧
      t.framebuffer = some id ∧
      ∃ fb, (Act.afterAll made [.bindTarget ⟨0⟩ false]).store.device.framebuffers.get? id =
          some fb ∧
        fb.colors = [⟨Constant.colorAttachment0, t.texture.name, some 0⟩,
          ⟨Constant.colorAttachment0 + 1, t.texture.name, some 1⟩] ∧
        fb.depth = none := by
  let spec : TargetSpec :=
    { tag := "s", size := some (1, 1), format := some "depth", layers := some 2 }
  let made := ((Renderer.draw .empty (.spec spec)).run Renderer.onePixel).2
  have hmade : Renderer.onePixel.MakesTarget .empty spec ⟨.depth, false⟩ ⟨0⟩ made :=
    ⟨rfl, by decide +kernel, by decide +kernel, by decide +kernel⟩
  have hbound : ((Act.afterAll made [.bindTarget ⟨0⟩ false]).store.framebuffer? ⟨0⟩).isSome := by
    decide +kernel
  obtain ⟨id, hid⟩ := Option.isSome_iff_exists.1 hbound
  obtain ⟨t, ht, hid⟩ := Option.bind_eq_some_iff.1 hid
  obtain ⟨fb, hfb, hmirrors⟩ := (framebuffers_match_targets (.start Renderer.create_onePixel) hmade
    rfl nofun [.bindTarget ⟨0⟩ false]).1 t id ht hid
  refine ⟨made, t, id, hmade, ht, hid, fb, hfb, hmirrors.layered 2 rfl (by decide), ?_⟩
  exact hmirrors.noDepth rfl nofun fun n hn => by cases hn; decide

end DrawPass
