/-
DrawPass/Proofs/Punctual.lean

Reads are handed over in time.

When a read begins, its fence takes as many waits as the device is set to at that moment, and the
first of them is part of the read.  If reads are looked at again at once, each poll waits for the
fence once more.  So the read is handed over by the poll whose number among the polls after it is
that of the waits, or by the read itself if there are none (`polling_is_fair`), whatever else the
host does, and however many other reads are under way.

Where a read stands is said by the polls that it has left (`Store.Punctual`).  A poll takes one off
(`poll_punctual`); every other act leaves the read waiting (`Store.LeavesWaiting`), unless its
target is freed.
-/
import DrawPass.Proofs.Accounted
import DrawPass.Proofs.Polled
import DrawPass.Proofs.Readback

namespace DrawPass

open Gl Readback Software

/-! ### How fences are waited for -/

namespace Software.State

variable {d : State}

/-- New fences take as many waits as before, and waits fail if they did. -/
structure SameWaits (d d' : State) : Prop where
  fenceLatency : d'.fenceLatency = d.fenceLatency
  failFenceWaits : d'.failFenceWaits = d.failFenceWaits

instance : IsPreorder State SameWaits where
  refl _ := ⟨rfl, rfl⟩
  trans _ _ _ h h' :=
    ⟨h'.fenceLatency.trans h.fenceLatency, h'.failFenceWaits.trans h.failFenceWaits⟩

theorem sameWaits_modifyTexture (d : State) (id : Option Name) (f : Texture → Texture) :
    SameWaits d (d.modifyTexture id f) := by
  cases id <;> exact ⟨rfl, rfl⟩

/-- It is the settings of the device that say how long fences take, and no command changes them. -/
theorem sameWaits_perform {α : Type} (command : Command α) (d : State) :
    SameWaits d (d.perform command).2 := by
  have haside (h : command.isAside) := perform_aside command h d
  cases command with
  | createTexture =>
    simp only [perform, createTexture]
    split <;> exact ⟨rfl, rfl⟩
  | createFramebuffer =>
    simp only [perform, createFramebuffer]
    split <;> exact ⟨rfl, rfl⟩
  | framebufferTexture =>
    simp only [perform, attach]
    split <;> exact ⟨rfl, rfl⟩
  | compileShader | linkProgram | clientWaitSync | uniformFloats | uniformInts | uniformUInts
  | uniformMatrix =>
    obtain ⟨_, _, _, _, _, _, heq, -⟩ := haside rfl
    rw [heq]
    exact ⟨rfl, rfl⟩
  | clear =>
    exact IsTrans.trans d _ _ (clear_moves (fun d id f _ => sameWaits_modifyTexture d id f) ..)
      ⟨rfl, rfl⟩
  | drawArraysInstanced =>
    exact IsTrans.trans d _ _
      (runEmulator_moves (fun d id f _ => sameWaits_modifyTexture d id f) d) ⟨rfl, rfl⟩
  | _ => exact ⟨rfl, rfl⟩

theorem sameWaits_endOn (t : Target) (d : State) : SameWaits d (t.endOn d) := by
  have hbuffers (d : State) (dead : List Name) : SameWaits d (d.deleteBuffers dead) := by
    unfold deleteBuffers
    induction dead generalizing d with
    | nil => exact refl d
    | cons buffer dead ih =>
      exact IsTrans.trans d _ _ (sameWaits_perform (.deleteBuffer buffer) d) (ih _)
  unfold Target.endOn
  refine IsTrans.trans d _ _ ?_ (IsTrans.trans _ _ _ (hbuffers _ _) (sameWaits_perform _ _))
  split
  · exact refl d
  · exact sameWaits_perform _ d

end Software.State

namespace Store

variable {s s' s'' : Store State} {key : TargetKey} {t : Target} {label : String}
  {read : PendingRead} {looks : List Look} {index : Name}

/-! ### Acts that leave reads waiting -/

/-- The reads of a label are left waiting, unless their target is freed. -/
structure LeavesWaiting (label : String) (s s' : Store State) : Prop where
  underWay : s'.underWay label = s.underWay label
  handedOver : s'.handedOver label = s.handedOver label
  fences : ∀ read ∈ s.underWay label,
    s'.device.fences.get? read.fence = s.device.fences.get? read.fence
  clock : s.clock ≤ s'.clock
  pollInterval : s'.pollInterval = s.pollInterval
  waits : s.device.failFenceWaits = false → s'.device.failFenceWaits = false
  freed : ∀ key, s.IsFreed key → s'.IsFreed key
  valid : ∀ read ∈ s.underWay label, s.bufferIsValid read = true →
    s'.bufferIsValid read = true ∨ s'.IsFreed read.target

theorem LeavesWaiting.refl (s : Store State) : LeavesWaiting label s s :=
  ⟨rfl, rfl, fun _ _ => rfl, Nat.le_refl _, rfl, id, fun _ => id, fun _ _ => .inl⟩

theorem LeavesWaiting.trans (h : LeavesWaiting label s s') (h' : LeavesWaiting label s' s'') :
    LeavesWaiting label s s'' where
  underWay := h'.underWay.trans h.underWay
  handedOver := h'.handedOver.trans h.handedOver
  fences read hread := (h'.fences read (h.underWay ▸ hread)).trans (h.fences read hread)
  clock := Nat.le_trans h.clock h'.clock
  pollInterval := h'.pollInterval.trans h.pollInterval
  waits := h'.waits ∘ h.waits
  freed key := h'.freed key ∘ h.freed key
  valid read hread hvalid := by
    rcases h.valid read hread hvalid with hvalid | hfreed
    · exact h'.valid read (h.underWay ▸ hread) hvalid
    · exact .inr (h'.freed _ hfreed)

theorem underWay_of_eq (h : s'.pending = s.pending) (label : String) :
    s'.underWay label = s.underWay label := by
  rw [underWay, underWay, h]

theorem SameFrames.isFreed (h : SameFrames s s') : s'.IsFreed key ↔ s.IsFreed key := by
  rw [isFreed_iff, isFreed_iff, h.frame, h.live]

theorem leavesWaiting_of_same (htargets : SameTargets s s') (hpending : s'.pending = s.pending)
    (hdelivered : s'.delivered = s.delivered) (hfences : s'.device.fences = s.device.fences)
    (hclock : s.clock ≤ s'.clock) (hinterval : s'.pollInterval = s.pollInterval)
    (hwaits : s.device.failFenceWaits = false → s'.device.failFenceWaits = false) :
    LeavesWaiting label s s' where
  underWay := underWay_of_eq hpending label
  handedOver := handedOver_of_eq hdelivered label
  fences read _ := by rw [hfences]
  clock := hclock
  pollInterval := hinterval
  waits := hwaits
  freed key := htargets.toSameFrames.isFreed.2
  valid read _ hvalid := .inl ((bufferIsValid_congr htargets.pool).trans hvalid)

/-- Reads are left waiting where everything has its owner. -/
def Biding (label : String) (s s' : Store State) : Prop :=
  s.Owned → s'.Owned ∧ LeavesWaiting label s s'

instance : IsPreorder (Store State) (Biding label) where
  refl s h := ⟨h, .refl s⟩
  trans _ _ _ h h' hs := by
    obtain ⟨hs', hleaves⟩ := h hs
    obtain ⟨hs'', hleaves'⟩ := h' hs'
    exact ⟨hs'', hleaves.trans hleaves'⟩

theorem biding_of_same (howned : Owning s s') (htargets : SameTargets s s')
    (hpending : s'.pending = s.pending) (hdelivered : s'.delivered = s.delivered)
    (hfences : s'.device.fences = s.device.fences) (hclock : s.clock ≤ s'.clock)
    (hinterval : s'.pollInterval = s.pollInterval)
    (hwaits : s.device.failFenceWaits = false → s'.device.failFenceWaits = false) :
    Biding label s s' := fun h =>
  ⟨howned h, leavesWaiting_of_same htargets hpending hdelivered hfences hclock hinterval hwaits⟩

/-- A command that is not about fences. -/
theorem command_biding {α : Type} (command : Command α) (hframes : command.keepsFrames)
    (hfences : (s.device.perform command).2.fences = s.device.fences) :
    Biding label s (perform command s).2 :=
  biding_of_same (command_owning command hframes s) (.of_eq rfl) rfl rfl hfences (Nat.le_refl _) rfl
    fun hwaits => (State.sameWaits_perform command s.device).failFenceWaits.trans hwaits

theorem plain_biding {α : Type} (command : Command α) (hobjects : command.keepsObjects) :
    Moves (Biding label) (perform command : StateM (Store State) α) := fun s =>
  command_biding command (command.keepsFrames_of_keepsObjects hobjects)
    (State.sameObjects_perform command hobjects s.device).fences

theorem permitsContents_biding : PermitsContents (Biding label) where
  plain command _ hobjects := plain_biding command hobjects
  contents s key f hf := biding_of_same (permitsContents_owning.contents s key f hf)
    (sameTargets_modifyTarget s key hf) rfl rfl rfl (Nat.le_refl _) rfl id

theorem rotate_biding (s : Store State) (key : StoryKey) : Biding label s (s.rotate key) :=
  biding_of_same (rotate_owning s key) (.of_eq rfl) rfl rfl rfl (Nat.le_refl _) rfl id

/-- A change of the settings that lets no wait fail. -/
theorem control_biding (s : Store State) {change : Control}
    (hchange : change ≠ .failFenceWaits true) :
    Biding label s { s with device := change.apply s.device } := by
  refine biding_of_same (change.owning s) (.of_eq rfl) rfl rfl
    (change.sameObjects s.device).fences (Nat.le_refl _) rfl fun hwaits => ?_
  cases change with
  | failFenceWaits fail =>
    cases fail with
    | false => rfl
    | true => exact absurd rfl hchange
  | _ => exact hwaits

theorem makeFramebuffer_biding (ht : s.target? key = some t) :
    Biding label s ((makeFramebuffer key t).run s).2 := by
  have howned := makeFramebuffer_owning ht
  rcases run_makeFramebuffer key t s with ⟨e, hrun⟩ | ⟨s', hrun, hmade⟩ <;> rw [hrun] at howned ⊢
  · exact biding_of_same howned (.of_eq rfl) rfl rfl rfl (Nat.le_refl _) rfl id
  obtain ⟨hframe, hpool, hlive, -⟩ := hmade.targets ht
  obtain ⟨_, _, rfl, -⟩ := hmade
  refine fun h => ⟨howned h, rfl, rfl, fun _ _ => rfl, Nat.le_refl _, rfl, id, fun key' hkey' => ?_,
    fun _ _ hvalid => .inl ((bufferIsValid_congr hpool).trans hvalid)⟩
  rw [isFreed_iff, hframe, hlive, ← isFreed_iff]
  exact hkey'

/-- The end of a target ends the reads of this target only. -/
theorem released_biding (hend : Released key t s s') (ht : s.target? key = some t) :
    Biding label s s' := by
  obtain ⟨hframe, -, hpool, hlive⟩ := hend.targets ht
  have hfreed (key' : TargetKey) : s'.IsFreed key' ↔ s.IsFreed key' ∨ key' = key := by
    by_cases hkey : key' = key
    · rw [isFreed_iff, hframe, hlive, hkey, frame?_of_target? ht]
      simp
    · rw [isFreed_iff, isFreed_iff, hframe, hlive]
      simp [hkey]
  refine fun h => ⟨h.released hend ht, underWay_of_eq hend.pending _,
    handedOver_of_eq hend.delivered _, fun read _ => by rw [hend.fences],
    Nat.le_of_eq hend.clock.symm, hend.pollInterval, fun hwaits => ?_,
    fun key' hkey' => (hfreed key').2 (.inl hkey'), fun read _ hvalid => ?_⟩
  · obtain ⟨armed, hdevice⟩ := hend.device
    rw [hdevice]
    exact (State.sameWaits_endOn t _).failFenceWaits.trans hwaits
  · -- The pool of this target is emptied, and no other one changes.
    by_cases hkey : read.target = key
    · exact .inr ((hfreed _).2 (.inr hkey))
    · obtain ⟨p, hp, hcapacity⟩ := bufferIsValid_iff.1 hvalid
      exact .inl (bufferIsValid_iff.2 ⟨p, ((hpool _).trans (if_neg hkey)).trans hp, hcapacity⟩)

theorem free_biding (key : TargetKey) :
    Moves (Biding label) (free key : StateM (Store State) Unit) := by
  intro s hs
  exact free_moves_at (R := Biding label) (fun _ _ _ _ ht _ hend => released_biding hend ht)
    (fun _ _ ht hown => hs.own_ne ht hown) hs

/-- There are no reads of a target that has yet to be made. -/
theorem added_biding {d : TargetDescription} {companion : Companion} (hs : s.WellFormed)
    (hnew : Added d companion s s') (hkeeps : Keeps s s')
    (hcompanion : ∀ own, companion.ownedKey? = some own → own.index < s.targets.size) :
    Biding label s s' := by
  obtain ⟨hframe, -, hpool, hlive⟩ := hnew.targets
  have hnone : s.target? s.nextTarget = none := hs.target?_eq_none (Nat.le_refl _)
  refine fun h => ⟨h.added hnew hkeeps hcompanion, underWay_of_eq hnew.pending _,
    handedOver_of_eq hnew.delivered _, fun read _ => ?_, Nat.le_of_eq hnew.clock.symm,
    hnew.pollInterval, fun hwaits => ?_, fun key' hkey' => ?_, fun read _ hvalid => .inl ?_⟩
  · rw [hnew.device]
    simp only [State.perform, State.createTexture]
    split <;> rfl
  · rw [hnew.device]
    exact (State.sameWaits_perform .createTexture s.device).failFenceWaits.trans hwaits
  · obtain ⟨t, ht, hfreed⟩ := hkey'
    have hne : key' ≠ s.nextTarget := by
      rintro rfl
      cases hnone.symm.trans ht
    exact ⟨t, ((hnew.target key').trans (if_neg hne)).trans ht, hfreed⟩
  · obtain ⟨p, hp, hcapacity⟩ := bufferIsValid_iff.1 hvalid
    have hne : read.target ≠ s.nextTarget := by
      intro hkey
      rw [hkey, pool?, hnone] at hp
      cases hp
    exact bufferIsValid_iff.2 ⟨p, ((hpool _).trans (if_neg hne)).trans hp, hcapacity⟩

theorem make_biding (spec : TargetSpec) (d : TargetDescription) :
    Attempt.Moves (Biding label) (Registry.make spec d :
      Attempt DrawError (Store State) Entry) := by
  intro s hs
  exact make_moves_at (R := Biding label) (update_moves permitsContents_biding) free_biding
    (fun s => biding_of_same (refuse_owning s) (.of_eq rfl) rfl rfl rfl (Nat.le_refl _) rfl id)
    (fun _ _ _ _ hwf hnew hkeeps hown _ => added_biding hwf hnew hkeeps hown)
    (fun _ _ _ hwf hslots => biding_of_same (fun h => h.addStory hwf hslots) (.of_eq rfl) rfl rfl
      rfl (Nat.le_refl _) rfl id) spec d hs.toWellFormed hs

theorem permits_biding : Permits (Biding label) fun _ => True where
  toPermitsContents := permitsContents_biding
  makeFramebuffer _ _ _ ht _ _ := makeFramebuffer_biding ht
  free := free_biding
  make _ spec _ _ _ := make_biding spec _

/-! ### What looks do to the reads of a label -/

theorem Polled.underWay (h : Polled s looks s') (label : String) :
    s'.underWay label = s.underWay label ++
      ((looks.filter (·.read.label == label)).filter Look.waits).map s.later := by
  rw [Store.underWay, h.pending, List.filter_append, List.filter_map, List.filter_comm]
  rfl

theorem Polled.handedOver (h : Polled s looks s') (label : String) :
    s'.handedOver label = s.handedOver label ++
      ((looks.filter (·.read.label == label)).filter Look.delivers).map
        fun look => (s.delivery look).pixels := by
  rw [Store.handedOver, h.delivered, List.filter_append, List.map_append, List.filter_map,
    List.filter_comm, List.map_map]
  rfl

/-- Looks at reads of other labels. -/
theorem Polled.leavesWaiting (h : Polled s looks s') (hframes : SameFrames s s')
    (hlabels : ∀ look ∈ looks, look.read.label ≠ label)
    (hfences : ∀ read ∈ s.underWay label, read.fence ∉ looks.map (·.read.fence)) :
    LeavesWaiting label s s' := by
  have hnone : looks.filter (·.read.label == label) = [] :=
    List.filter_eq_nil_iff.2 fun look hlook => by simpa using hlabels look hlook
  refine ⟨?_, ?_, fun read hread => h.fences _ (hfences read hread), Nat.le_of_eq h.clock.symm,
    h.pollInterval, fun hwaits => h.failing.trans hwaits, fun _ => hframes.isFreed.2,
    fun read _ hvalid => .inl ((h.valid read).trans hvalid)⟩
  · rw [h.underWay, hnone]
    exact List.append_nil _
  · rw [h.handedOver, hnone]
    exact List.append_nil _

/-! ### Reads that are on time -/

/-- Where a read stands that is handed over after so many more polls: it waits, is due, and its
fence takes the rest of the waits, or it has been handed over. -/
inductive OnTime (key : TargetKey) (label : String) (s : Store State) : Nat → Prop where
  | waiting {read : PendingRead} {left : UInt32} (hread : s.underWay label = [read])
      (hnone : s.handedOver label = []) (htarget : read.target = key)
      (hdue : read.nextPoll ≤ s.clock) (hvalid : s.bufferIsValid read = true)
      (hfence : s.device.fences.get? read.fence = some left) :
      OnTime key label s (left.toNat + 1)
  | delivered (hover : s.underWay label = []) (hone : (s.handedOver label).length = 1) :
      OnTime key label s 0

/-- The read of a label is handed over after so many more polls, unless its target is freed. -/
structure Punctual (key : TargetKey) (label : String) (left : Nat) (s : Store State) : Prop where
  pollInterval : s.pollInterval = 0
  waits : s.device.failFenceWaits = false
  onTime : s.IsFreed key ∨ s.OnTime key label left

theorem LeavesWaiting.punctual {left : Nat} (h : LeavesWaiting label s s')
    (hs : s.Punctual key label left) : s'.Punctual key label left := by
  refine ⟨h.pollInterval.trans hs.pollInterval, h.waits hs.waits, ?_⟩
  rcases hs.onTime with hfreed | honTime
  · exact .inl (h.freed key hfreed)
  cases honTime with
  | delivered hover hone =>
    refine .inr (.delivered (h.underWay.trans hover) ?_)
    rw [h.handedOver]
    exact hone
  | @waiting read left hread hnone htarget hdue hvalid hfence =>
    have hmem : read ∈ s.underWay label := hread ▸ List.mem_singleton_self read
    rcases h.valid read hmem hvalid with hvalid | hfreed
    · exact .inr (.waiting (h.underWay.trans hread) (h.handedOver.trans hnone) htarget
        (Nat.le_trans hdue h.clock) hvalid ((h.fences read hmem).trans hfence))
    · exact .inl (htarget ▸ hfreed)

/-- What the device says about a fence of a good read. -/
theorem answer_of_fence {left : UInt32} (hvalid : s.bufferIsValid read = true)
    (hwaits : s.device.failFenceWaits = false)
    (hfence : s.device.fences.get? read.fence = some left) :
    s.answer read = some (if left = 0 then .signaled else .timeout) := by
  have hrecorded : (s.device.record (.clientWaitSync read.fence)).failFenceWaits = false := hwaits
  have hget : (s.device.record (.clientWaitSync read.fence)).fences.get? read.fence = some left :=
    hfence
  unfold answer State.waitFence
  dsimp only
  rw [hvalid, if_pos rfl, hrecorded, hget]
  simp only [Bool.false_eq_true, if_false]
  split <;> rfl

/-- A read that is looked at once has as many looks left as its fence takes waits. -/
theorem Polled.onTime {left : UInt32} (h : Polled s looks s')
    (hdistinct : (looks.map (·.read.fence)).Nodup)
    (hlooks : looks.filter (·.read.label == label) = [⟨read, s.answer read⟩])
    (hnew : s.IsNew label) (htarget : read.target = key) (hinterval : s.pollInterval = 0)
    (hwaits : s.device.failFenceWaits = false) (hvalid : s.bufferIsValid read = true)
    (hfence : s.device.fences.get? read.fence = some left) :
    s'.OnTime key label left.toNat := by
  have hunderWay := h.underWay label
  have hhandedOver := h.handedOver label
  rw [hlooks, hnew.1, List.nil_append, answer_of_fence hvalid hwaits hfence] at hunderWay
  rw [hlooks, hnew.2, List.nil_append, answer_of_fence hvalid hwaits hfence] at hhandedOver
  -- Either the fence has signalled, or it takes one wait less from now on.
  by_cases hzero : left = 0
  · rw [if_pos hzero] at hunderWay hhandedOver
    rw [hzero]
    exact .delivered hunderWay (congrArg List.length hhandedOver)
  · rw [if_neg hzero] at hunderWay hhandedOver
    have hmem : (⟨read, s.answer read⟩ : Look) ∈ looks :=
      (List.mem_filter.1 (hlooks ▸ List.mem_singleton_self _)).1
    have hnearer := h.nearer hdistinct _ hmem (by
      rw [Look.waits, answer_of_fence hvalid hwaits hfence, if_neg hzero]
      rfl)
    rw [hfence, Option.map_some] at hnearer
    have hone : 1 ≤ left := by
      rw [UInt32.le_iff_toNat_le]
      exact Nat.pos_of_ne_zero fun e => hzero (UInt32.toNat_inj.1 e)
    have hleft : (left - 1).toNat + 1 = left.toNat := by
      rw [UInt32.toNat_sub_of_le _ _ hone]
      exact Nat.sub_add_cancel (UInt32.le_iff_toNat_le.1 hone)
    rw [← hleft]
    refine .waiting hunderWay hhandedOver htarget ?_ ((h.valid _).trans hvalid) hnearer
    show s.clock + s.pollInterval ≤ s'.clock
    rw [hinterval, h.clock]
    exact Nat.le_refl _

/-! ### Polls -/

theorem underWay_takeDue (s : Store State) (label : String) :
    s.takeDue.2.underWay label =
      (s.underWay label).filter fun read => !decide (read.nextPoll ≤ s.clock) := List.filter_comm ..

theorem filter_takeDue (s : Store State) (label : String) :
    s.takeDue.1.filter (·.label == label) =
      (s.underWay label).filter fun read => decide (read.nextPoll ≤ s.clock) := List.filter_comm ..

/-- A poll brings a read one poll nearer, whatever it does to the other reads. -/
theorem poll_punctual {left : Nat} (hfences : (s.pending.map PendingRead.fence).Nodup)
    (hs : s.Punctual key label left) : (poll s).2.Punctual key label (left - 1) := by
  obtain ⟨hlooks, hpolled, -⟩ := poll_polled s
  have hframes : SameFrames s (poll s).2 := poll_moves permitsReads_sameFrames.toLooks s
  refine ⟨hpolled.pollInterval.trans hs.pollInterval, hpolled.failing.trans hs.waits, ?_⟩
  have hdistinct : (s.takeDue.1.map PendingRead.fence).Nodup :=
    hfences.sublist (List.filter_sublist.map _)
  -- No two reads have one fence, so the look at the read is the one it would have had alone.
  have hlooks := hlooks.answers hdistinct
  have hlabel : s.dueLooks.filter (·.read.label == label) =
      (s.takeDue.1.filter (·.label == label)).map fun read => ⟨read, s.answer read⟩ := by
    rw [hlooks, List.filter_map]
    rfl
  rw [filter_takeDue] at hlabel
  rcases hs.onTime with hfreed | honTime
  · exact .inl (hframes.isFreed.2 hfreed)
  refine .inr ?_
  cases honTime with
  | delivered hover hone =>
    rw [hover] at hlabel
    refine .delivered ?_ ?_
    · rw [hpolled.underWay, hlabel, underWay_takeDue, hover]
      rfl
    · rw [hpolled.handedOver, hlabel]
      exact (congrArg List.length (List.append_nil _)).trans hone
  | @waiting read left hread hnone htarget hdue hvalid hfence =>
    rw [hread, List.filter_singleton, decide_eq_true hdue] at hlabel
    refine hpolled.onTime ?_ hlabel ⟨?_, hnone⟩ htarget hs.pollInterval hs.waits hvalid hfence
    · rw [hlooks, List.map_map]
      exact hdistinct
    · rw [underWay_takeDue, hread, List.filter_singleton, decide_eq_true hdue]
      rfl

/-! ### Reads that begin -/

/-- A new fence is not that of a read under way. -/
theorem Accounted.fence_ne (h : s.Accounted index s.pending)
    (hname : s.device.lastName ≤ s'.device.lastName) (hread : read ∈ s.underWay label) :
    read.fence ≠ s'.device.lastName + 1 := by
  have hmem : read.fence ∈ s.device.fences.keys :=
    h.fences.mem_iff.2 (List.mem_map_of_mem (List.mem_of_mem_filter hread))
  exact Nat.ne_of_lt (Nat.lt_succ_of_le (Nat.le_trans (h.numbered.fences _ hmem) hname))

/-- A region is copied into a buffer that was taken for it, which is of no account to other
reads. -/
theorem Accounted.copied_leavesWaiting {p p' : PackPool} {bytes : Nat} {buffer : Name}
    {dead : List Name} (h : s.Accounted index s.pending) (hp : s.pool? key = some p)
    (htaken : PackPool.Taken p p' s s' bytes buffer dead) (label : String) (t : Target)
    (rect : Rect) : LeavesWaiting label s ((s'.modifyPool key fun _ => p').copied t rect buffer) ∧
      ∀ read ∈ s.underWay label, read.fence ≠ s'.device.lastName + 1 := by
  obtain ⟨hname, -⟩ := h.stocked.pooled.lastName_taken hp htaken
  have hfence {read : PendingRead} (hread : read ∈ s.underWay label) := h.fence_ne hname hread
  have hvalid {read : PendingRead} (hread : read ∈ s.underWay label)
      (hvalid : s.bufferIsValid read = true) :=
    h.stocked.pooled.valid_taken hp htaken (List.mem_of_mem_filter hread) hvalid
  obtain ⟨hframe, hframebuffer, hlive, -⟩ := modifyPool_targets s' key fun _ => p'
  have hframes : SameFrames s ((s'.modifyPool key fun _ => p').copied t rect buffer) := by
    obtain ⟨_, _, _, rfl⟩ := htaken.frame
    exact ⟨hframe, hframebuffer, hlive⟩
  obtain ⟨_, _, _, rfl⟩ := htaken.frame
  refine ⟨⟨rfl, rfl, fun read hread => ?_, Nat.le_refl _, rfl, id, fun _ => hframes.isFreed.2,
    fun read hread hgood => .inl (hvalid hread hgood)⟩, fun read hread => hfence hread⟩
  exact (Table.get?_insert ..).trans (if_neg (hfence hread).symm)

/-- The target of a read is bound. -/
theorem bindForRead_leavesWaiting (h : s.Accounted index s.pending) (label : String)
    {e : Except ReadError Unit} (hbind : (bindForRead key).run s = (e, s')) :
    s'.Accounted index s.pending ∧ s'.pending = s.pending ∧ LeavesWaiting label s s' ∧
      s.device.SameWaits s'.device := by
  obtain ⟨haccounted, hpending⟩ :=
    (bindForRead_moves permits_accounting.toBinding key).of_run hbind h
  obtain ⟨-, hleaves⟩ := (bindForRead_moves permits_biding.toBinding key).of_run hbind h.toOwned
  have hdevice : PermitsBinding (OnDevice State.SameWaits) :=
    ((permitsParts_onDevice State.sameWaits_perform).permits (G := fun _ => False)
      fun _ _ _ _ h => h.elim).toBinding
  exact ⟨haccounted, hpending, hleaves, (bindForRead_moves hdevice key).of_run hbind⟩

/-- A read leaves those of other labels waiting. -/
theorem read_leavesWaiting (h : s.Accounted index s.pending) (key : TargetKey) {label' : String}
    (hlabel : label' ≠ label) (region : Option Rect) (destination : Option PixelData) :
    LeavesWaiting label s ((DrawPass.Store.read key label' region destination).run s).2 := by
  have hspec := run_read_spec key label' region destination s fun _ hbind =>
    (bindForRead_leavesWaiting h label hbind).1.stocked.pooled
  generalize (DrawPass.Store.read key label' region destination).run s = result at hspec ⊢
  cases hspec with
  | refused => exact .refl s
  | unbound hbind => exact (bindForRead_leavesWaiting h label hbind).2.2.1
  | @begun t rect s₁ s₂ s₃ p' buffer dead hbegun hp hlive htake htaken hgiven =>
    obtain ⟨h₁, hpending, hbound, -⟩ := bindForRead_leavesWaiting h label hbegun.bound
    rw [← hpending] at h₁
    obtain ⟨hcopied, hfences⟩ := h₁.copied_leavesWaiting hp htaken label t rect
    subst hgiven
    obtain ⟨-, hpolled⟩ := step_polled
      ((s₂.modifyPool key fun _ => p').begun key label' destination t rect buffer)
      ((s₂.modifyPool key fun _ => p').copied t rect buffer)
    refine (hbound.trans hcopied).trans (hpolled.leavesWaiting
      (step_moves permitsReads_sameFrames.toLooks _ _) (fun look hlook => ?_)
      fun read hread hmem => ?_)
    · rw [List.mem_singleton.1 hlook]
      exact hlabel
    · exact hfences read (hcopied.underWay ▸ hread) (List.mem_singleton.1 hmem)

/-- A read takes as many polls as the device is set to, itself not among them. -/
theorem read_punctual (h : s.Accounted index s.pending) {region : Option Rect}
    {destination : Option PixelData} (hinterval : s.pollInterval = 0)
    (hwaits : s.device.failFenceWaits = false) (hnew : s.IsNew label)
    (hrun : (DrawPass.Store.read key label region destination).run s = (.ok (), s')) :
    s'.Punctual key label s.device.fenceLatency.toNat := by
  have hspec := run_read_spec key label region destination s fun _ hbind =>
    (bindForRead_leavesWaiting h label hbind).1.stocked.pooled
  rw [hrun] at hspec
  cases hspec with
  | @begun t rect s₁ s₂ s₃ p' buffer dead hbegun hp hlive htake htaken hgiven =>
    obtain ⟨h₁, hpending, hbound, hsame⟩ := bindForRead_leavesWaiting h label hbegun.bound
    rw [← hpending] at h₁
    have hleaves : LeavesWaiting label s (s₃.copied t rect buffer) :=
      hbound.trans (hgiven ▸ (h₁.copied_leavesWaiting hp htaken label t rect).1)
    obtain ⟨-, hpolled⟩ := step_polled (s₃.begun key label destination t rect buffer)
      (s₃.copied t rect buffer)
    have hlatency : s₃.device.fenceLatency = s.device.fenceLatency := by
      subst hgiven
      obtain ⟨_, _, _, rfl⟩ := htaken.frame
      exact hsame.fenceLatency
    -- The fence is set when the copy has been asked for, so it waits as long as the device has it
    -- wait.
    have hfence : (s₃.copied t rect buffer).device.fences.get? (s₃.device.lastName + 1) =
        some s.device.fenceLatency := by
      rw [← hlatency]
      exact (Table.get?_insert ..).trans (if_pos rfl)
    -- The buffer has been reserved for the bytes of the read.
    have hvalid : (s₃.copied t rect buffer).bufferIsValid
        (s₃.begun key label destination t rect buffer) = true := by
      refine bufferIsValid_iff.2 ⟨p', ?_, ?_⟩
      · subst hgiven
        exact (pool?_taken hp htaken key).trans (if_pos rfl)
      · exact Nat.lt_of_lt_of_le (Target.regionBytes_pos hbegun.region) htaken.enough
    refine ⟨hpolled.pollInterval.trans (hleaves.pollInterval.trans hinterval),
      hpolled.failing.trans (hleaves.waits hwaits), .inr (hpolled.onTime (List.nodup_singleton _) ?_
        ⟨hleaves.underWay.trans hnew.1, hleaves.handedOver.trans hnew.2⟩ rfl
        (hleaves.pollInterval.trans hinterval) (hleaves.waits hwaits) hvalid hfence)⟩
    rw [List.filter_singleton, show (s₃.begun key label destination t rect buffer).label == label
      from beq_self_eq_true label]
    rfl

end Store

/-! ### Acts -/

/-- Whether an act is a look at the reads that are due. -/
def Act.isPoll : Act → Bool
  | poll => true
  | _ => false

section

variable {r : Renderer State} {act : Act} {acts : List Act} {key : TargetKey} {label : String}
  {left : Nat}

/-- All acts but polls leave a read waiting, unless waits for fences are to fail. -/
theorem Act.after_leavesWaiting (hr : r.Accounted) (hpoll : act.isPoll = false)
    (hlabel : act.label? ≠ some label) (hcontrol : act ≠ .control (.failFenceWaits true)) :
    r.store.LeavesWaiting label (act.after r).store := by
  have hover (hmoves : r.Over r.geometry.buffer (Store.Biding label) (act.after r)) :
      r.store.LeavesWaiting label (act.after r).store := by
    obtain ⟨-, hbiding, -⟩ := hmoves rfl
    exact (hbiding hr.toOwned).2
  have hquiet (hact : act.isQuiet) : r.store.LeavesWaiting label (act.after r).store :=
    hover (Act.quiet_moves Store.permits_biding (fun key _ s => Store.rotate_biding s key)
      (fun change hchange s => Store.control_biding s fun e => hcontrol (e ▸ hchange))
      (fun s time => Store.biding_of_same (Store.permitsReads_owning.reads s _ rfl rfl rfl)
        (.of_eq rfl) rfl rfl rfl (Nat.le_add_right ..) rfl id) hact r)
  cases act with
  | draw bag destination =>
    exact hover (Renderer.draw_moves Store.permits_biding
      (fun target data usage s => Store.command_biding (.bufferData target _ data usage) rfl rfl)
      Store.plain_biding Store.rotate_biding bag (fun _ _ => trivial) r)
  | poll => cases hpoll
  | read key label' region destination =>
    exact Store.read_leavesWaiting hr key (fun e => hlabel (congrArg some e)) region destination
  | _ => exact hquiet rfl

/-- A poll takes one poll off those that a read has left, and nothing else does. -/
theorem Act.after_punctual (hr : r.Accounted) (hlabel : act.label? ≠ some label)
    (hcontrol : act ≠ .control (.failFenceWaits true)) (h : r.store.Punctual key label left) :
    (act.after r).store.Punctual key label (left - if act.isPoll then 1 else 0) := by
  cases hpoll : act.isPoll with
  | false => exact (Act.after_leavesWaiting hr hpoll hlabel hcontrol).punctual h
  | true =>
    cases act with
    | poll => exact Store.poll_punctual (hr.fences.nodup_iff.1 r.store.device.fences.distinct) h
    | _ => cases hpoll

theorem Act.afterAll_punctual (hr : r.Accounted)
    (hacts : ∀ act ∈ acts, act.label? ≠ some label ∧ act ≠ .control (.failFenceWaits true))
    (h : r.store.Punctual key label left) :
    (Act.afterAll r acts).store.Punctual key label (left - acts.countP Act.isPoll) := by
  induction acts generalizing r left with
  | nil => exact h
  | cons act acts ih =>
    rw [List.forall_mem_cons] at hacts
    obtain ⟨⟨hlabel, hcontrol⟩, hacts⟩ := hacts
    rw [List.countP_cons, Nat.add_comm, ← Nat.sub_sub]
    exact ih (act.after_accounted hr) hacts (act.after_punctual hr hlabel hcontrol h)

end

/-- Polls are fair to the reads under way.

Whatever the queue, the moment and the fences are, a poll looks once at each read that is due, and
at no other (`Store.Fair`).

So if reads are looked at again at once and no wait fails, a read whose target is not freed is
handed over by the poll whose number among the polls after it is that of the waits that fences took
when it began, or by the read itself if they took none; and nothing else that the host has done by
then matters to it, be it with other reads. -/
theorem polling_is_fair :
    (∀ s : Store State, s.Fair s.dueLooks (Store.poll s)) ∧
    ∀ (r r₁ : Renderer State) (key : TargetKey) (label : String) (region : Option Rect)
      (destination : Option PixelData) (acts : List Act), Reachable r →
      r.store.pollInterval = 0 → r.store.device.failFenceWaits = false → r.store.IsNew label →
      (Renderer.tryOnStore (Store.read key label region destination)).run r = (.ok (), r₁) →
      (∀ act ∈ acts, act.label? ≠ some label ∧ act ≠ .control (.failFenceWaits true)) →
      ¬ (Act.afterAll r₁ acts).store.IsFreed key →
      let isOver := r.store.device.fenceLatency.toNat ≤ acts.countP Act.isPoll
      ((Act.afterAll r₁ acts).store.underWay label).length = (if isOver then 0 else 1) ∧
        ((Act.afterAll r₁ acts).store.handedOver label).length = if isOver then 1 else 0 := by
  refine ⟨Store.poll_fair, ?_⟩
  intro r r₁ key label region destination acts hr hinterval hwaits hnew hread hacts hfree
  have hafter : (Act.read key label region destination).after r = r₁ := congrArg Prod.snd hread
  have hr₁ : r₁.Accounted := hafter ▸ Act.after_accounted _ hr.accounted
  have hrun : (Store.read key label region destination).run r.store = (.ok (), r₁.store) := by
    injection hread with hok hstate
    subst hstate
    exact Prod.ext hok rfl
  have hfirst := Store.read_punctual hr.accounted hinterval hwaits hnew hrun
  have honTime := (Act.afterAll_punctual hr₁ hacts hfirst).onTime.resolve_left hfree
  -- The read is over just if there are no polls left.
  generalize hleft : r.store.device.fenceLatency.toNat - acts.countP Act.isPoll = left at honTime
  dsimp only
  cases honTime with
  | waiting hunderWay hnone =>
    have hnotOver : ¬ r.store.device.fenceLatency.toNat ≤ acts.countP Act.isPoll := by omega
    rw [if_neg hnotOver, if_neg hnotOver, hunderWay, hnone]
    exact ⟨rfl, rfl⟩
  | delivered hover hone =>
    have hisOver : r.store.device.fenceLatency.toNat ≤ acts.countP Act.isPoll := by omega
    rw [if_pos hisOver, if_pos hisOver, hover]
    exact ⟨rfl, hone⟩

/-- A renderer on a device of one pixel that looks at reads again at once. -/
def Renderer.impatient : Renderer State :=
  (Renderer.create { indexCapacity := 1, pollInterval := 0 }
    { device := State.new 1 1 }).toOption.get rfl

theorem Renderer.create_impatient :
    Renderer.create { indexCapacity := 1, pollInterval := 0 } { device := State.new 1 1 } =
      .ok Renderer.impatient :=
  rfl

/-- A target has been drawn into, and a read of it is under way. -/
def Renderer.reading : Renderer State :=
  Act.afterAll impatient [.draw .empty (.spec { tag := "s" }), .control (.fenceLatency 3),
    .read ⟨0⟩ "a" none none, .control (.fenceLatency 2)]

/-- A read whose fence takes two waits waits through one poll and is handed over by the next one,
while an older read goes on waiting. -/
theorem polling_is_fair_of_two_waits : ∃ r₁ : Renderer State,
    (Renderer.tryOnStore (Store.read ⟨0⟩ "b" none none)).run Renderer.reading = (.ok (), r₁) ∧
    ((Act.afterAll r₁ [.poll]).store.underWay "b").length = 1 ∧
    ((Act.afterAll r₁ [.poll]).store.handedOver "b").length = 0 ∧
    ((Act.afterAll r₁ [.poll, .poll]).store.underWay "b").length = 0 ∧
    ((Act.afterAll r₁ [.poll, .poll]).store.handedOver "b").length = 1 ∧
    ((Act.afterAll r₁ [.poll, .poll]).store.underWay "a").length = 1 := by
  have hreachable : Reachable Renderer.reading :=
    (ReachableBy.start Renderer.create_impatient).afterAll fun _ _ => trivial
  let r₁ := (Act.read ⟨0⟩ "b" none none).after Renderer.reading
  have hread : (Renderer.tryOnStore (Store.read ⟨0⟩ "b" none none)).run Renderer.reading =
      (.ok (), r₁) := by
    have hok : ((Renderer.tryOnStore (Store.read ⟨0⟩ "b" none none)).run
        Renderer.reading).1.toOption.isSome := by decide +kernel
    refine Prod.ext ?_ rfl
    rcases h : ((Renderer.tryOnStore (Store.read ⟨0⟩ "b" none none)).run Renderer.reading).1
      with e | _
    · rw [h] at hok
      cases hok
    · rfl
  have hpolls (n : Nat) : ∀ act ∈ List.replicate n Act.poll,
      act.label? ≠ some "b" ∧ act ≠ .control (.failFenceWaits true) := by
    intro act hact
    rw [List.eq_of_mem_replicate hact]
    exact ⟨by simp [Act.label?], by simp⟩
  have hlive (n : Nat) (h : ((Act.afterAll r₁ (List.replicate n .poll)).store.target? ⟨0⟩).map
      Target.freed = some false) :
      ¬ (Act.afterAll r₁ (List.replicate n .poll)).store.IsFreed ⟨0⟩ := by
    rintro ⟨t, ht, hfreed⟩
    rw [ht, Option.map_some, hfreed] at h
    cases h
  have hfair (n : Nat) (h : ((Act.afterAll r₁ (List.replicate n .poll)).store.target? ⟨0⟩).map
      Target.freed = some false) :=
    polling_is_fair.2 Renderer.reading r₁ ⟨0⟩ "b" none none (List.replicate n .poll) hreachable
      (by decide +kernel) (by decide +kernel) (by decide +kernel) hread (hpolls n) (hlive n h)
  obtain ⟨hwaits, hnone⟩ := hfair 1 (by decide +kernel)
  obtain ⟨hover, hone⟩ := hfair 2 (by decide +kernel)
  exact ⟨r₁, hread, hwaits, hnone, hover, hone, by decide +kernel⟩

end DrawPass
