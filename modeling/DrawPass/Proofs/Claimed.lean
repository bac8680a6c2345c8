/-
DrawPass/Proofs/Claimed.lean

Nothing on the device is without an owner.

Every texture on the device is that of a target that has not been freed, every framebuffer is
that of a target, and every pixel buffer is in the pool of a target or is the one of the index
array (`Store.Claimed`).  This is the other half of `Store.Owned`, which says that targets have
what they refer to; together they say that the objects on the device are those of the targets,
no more and no less.  Every act keeps it, also an act that fails: a target that is refused its
storage is freed again, and a companion that was made in vain goes with it.
-/
import DrawPass.Proofs.UseAfterDelete

namespace DrawPass

open Gl Readback Software

namespace Store

variable {index : Name} {reads : List PendingRead} {s s' : Store State} {key : TargetKey}
  {t : Target}

/-- A buffer is in the pool of a target. -/
def HasPooled (s : Store State) (id : Name) : Prop := ∃ key p, s.pool? key = some p ∧ id ∈ p.live

/-- Every texture, framebuffer and buffer belongs to a target, apart from one buffer. -/
structure Claimed (index : Name) (s : Store State) : Prop extends s.Owned where
  ofTexture : ∀ id ∈ s.device.holds .texture,
    ∃ key f, s.frame? key = some f ∧ f.name = id ∧ s.IsLive key
  ofFramebuffer : ∀ id ∈ s.device.holds .framebuffer, ∃ key, s.framebuffer? key = some id
  ofBuffer : ∀ id ∈ s.device.holds .buffer, id = index ∨ s.HasPooled id
  live : ∀ key id, s.framebuffer? key = some id → s.IsLive key

/-- What is claimed stays so. -/
def Claiming (index : Name) (s s' : Store State) : Prop := s.Claimed index → s'.Claimed index

instance : IsPreorder (Store State) (Claiming index) where
  refl _ := id
  trans _ _ _ h h' := h' ∘ h

/-! ### Steps that leave textures and framebuffers alone -/

/-- The pools may change, if every buffer is still claimed afterwards. -/
theorem Claimed.of_frames (h : s.Claimed index) (howned : s'.Owned) (htargets : SameFrames s s')
    (htextures : s'.device.textures.keys = s.device.textures.keys)
    (hframebuffers : s'.device.framebuffers = s.device.framebuffers)
    (hbuffers : ∀ id ∈ s'.device.holds .buffer, id = index ∨ s'.HasPooled id) :
    s'.Claimed index where
  toOwned := howned
  ofTexture id hid := by
    rw [State.holds, htextures] at hid
    rw [htargets.frame, htargets.live]
    exact h.ofTexture id hid
  ofFramebuffer id hid := by
    rw [State.holds, hframebuffers] at hid
    rw [htargets.framebuffer]
    exact h.ofFramebuffer id hid
  ofBuffer := hbuffers
  live key id hid := by
    rw [htargets.framebuffer] at hid
    rw [htargets.live]
    exact h.live key id hid

theorem claiming_of_same (howned : Owning s s') (htargets : SameTargets s s')
    (htextures : s'.device.textures.keys = s.device.textures.keys)
    (hframebuffers : s'.device.framebuffers = s.device.framebuffers)
    (hbuffers : s'.device.buffers.keys = s.device.buffers.keys) : Claiming index s s' := by
  intro h
  refine h.of_frames (howned h.toOwned) htargets.toSameFrames htextures hframebuffers
    fun id hid => ?_
  rw [State.holds, hbuffers] at hid
  rw [HasPooled, htargets.pool]
  exact h.ofBuffer id hid

theorem command_claiming {α : Type} (command : Command α) (hframes : command.keepsFrames)
    (hbuffers : (s.device.perform command).2.buffers.keys = s.device.buffers.keys) :
    Claiming index s (perform command s).2 := by
  obtain ⟨htextures, hframebuffers, -⟩ := State.sameFrames_perform command hframes s.device
  exact claiming_of_same (command_owning command hframes s) (.of_eq rfl) htextures hframebuffers
    hbuffers

theorem plain_claiming {α : Type} (command : Command α) (hobjects : command.keepsObjects) :
    Moves (Claiming index) (perform command : StateM (Store State) α) := fun s =>
  command_claiming command (command.keepsFrames_of_keepsObjects hobjects)
    (congrArg Table.keys (State.sameObjects_perform command hobjects s.device).buffers)

theorem permitsContents_claiming : PermitsContents (Claiming index) where
  plain command _ hobjects := plain_claiming command hobjects
  contents s key f hf := claiming_of_same (permitsContents_owning.contents s key f hf)
    (sameTargets_modifyTarget s key hf) rfl rfl rfl

theorem rotate_claiming (s : Store State) (key : StoryKey) : Claiming index s (s.rotate key) :=
  claiming_of_same (rotate_owning s key) (.of_eq rfl) rfl rfl rfl

/-! ### The life of a target -/

theorem makeFramebuffer_claiming (ht : s.target? key = some t) (hfreed : t.freed = false)
    (hnone : t.framebuffer = none) :
    Claiming index s ((makeFramebuffer key t).run s).2 := by
  have howned := makeFramebuffer_owning ht
  rcases run_makeFramebuffer key t s with ⟨e, hrun⟩ | ⟨s', hrun, hmade⟩ <;> rw [hrun] at howned ⊢
  · exact claiming_of_same howned (.of_eq rfl) rfl rfl rfl
  intro h
  have hframebuffers := FramebuffersLive.framed h.live hmade ht hfreed
  obtain ⟨hframe, hpool, hlive, hframebuffer⟩ := hmade.targets ht
  obtain ⟨framebuffers, log, rfl, hget⟩ := hmade
  refine ⟨howned h.toOwned, fun id hid => ?_, fun id hid => ?_, fun id hid => ?_, hframebuffers⟩
  · rw [hframe, hlive]
    exact h.ofTexture id hid
  · have hsome : (framebuffers.get? id).isSome := Table.mem_keys_iff.1 hid
    rw [hget] at hsome
    by_cases hnew : s.device.lastName + 1 = id
    · exact ⟨key, by rw [hframebuffer, if_pos rfl, hnew]⟩
    · rw [if_neg hnew] at hsome
      obtain ⟨key', hkey'⟩ := h.ofFramebuffer id (Table.mem_keys_iff.2 hsome)
      have hother : key' ≠ key := by
        rintro rfl
        rw [framebuffer?_of_target? ht, hnone] at hkey'
        cases hkey'
      exact ⟨key', by rw [hframebuffer, if_neg hother, hkey']⟩
  · rw [HasPooled, hpool]
    exact h.ofBuffer id hid

/-- What a target had goes with it. -/
theorem released_claiming (hend : Released key t s s') (ht : s.target? key = some t) :
    Claiming index s s' := by
  intro h
  obtain ⟨hframe, hframebuffer, hpool, hlive⟩ := hend.targets ht
  refine ⟨h.toOwned.released hend ht, fun id hid => ?_, fun id hid => ?_, fun id hid => ?_,
    FramebuffersLive.released h.live hend ht⟩
  -- What the device still has was not that of the target, so another target has it.
  · rw [State.holds, hend.textures, Table.mem_keys_erase] at hid
    obtain ⟨key', f, hf, rfl, hl⟩ := h.ofTexture id hid.1
    refine ⟨key', f, hframe ▸ hf, rfl, (hlive key').2 ⟨?_, hl⟩⟩
    rintro rfl
    rw [frame?_of_target? ht] at hf
    cases hf
    exact hid.2 rfl
  · have hsome : (s'.device.framebuffers.get? id).isSome := Table.mem_keys_iff.1 hid
    rw [hend.framebuffers] at hsome
    split at hsome
    · cases hsome
    · rename_i hother
      obtain ⟨key', hkey'⟩ := h.ofFramebuffer id (Table.mem_keys_iff.2 hsome)
      have hne : key' ≠ key := by
        rintro rfl
        exact hother ((framebuffer?_of_target? ht).symm.trans hkey')
      exact ⟨key', by rw [hframebuffer, if_neg hne, hkey']⟩
  · have hsome : (s'.device.buffers.get? id).isSome := Table.mem_keys_iff.1 hid
    rw [hend.buffers] at hsome
    split at hsome
    · cases hsome
    · rename_i hother
      refine (h.ofBuffer id (Table.mem_keys_iff.2 hsome)).imp_right fun howner => ?_
      obtain ⟨key', p, hp, hmem⟩ := howner
      have hne : key' ≠ key := by
        rintro rfl
        cases (pool?_of_target? ht).symm.trans hp
        exact hother hmem
      exact ⟨key', p, by rw [hpool, if_neg hne, hp], hmem⟩

theorem free_claiming (key : TargetKey) :
    Moves (Claiming index) (free key : StateM (Store State) Unit) := by
  intro s hs
  exact free_moves_at (R := Claiming index)
    (fun _ _ _ _ ht _ hend => released_claiming hend ht) (fun _ _ ht hown => hs.own_ne ht hown) hs

/-- A new texture is that of the new target. -/
theorem added_claiming {d : TargetDescription} {companion : Companion} (hs : s.WellFormed)
    (hnew : Added d companion s s') (hkeeps : Keeps s s')
    (hcompanion : ∀ own, companion.ownedKey? = some own → own.index < s.targets.size) :
    Claiming index s s' := by
  intro h
  obtain ⟨hframe, hframebuffer, hpool, hlive⟩ := hnew.targets
  -- What was there has another key.
  have hnone : s.target? s.nextTarget = none := hs.target?_eq_none (Nat.le_refl _)
  refine ⟨h.toOwned.added hnew hkeeps hcompanion, fun id hid => ?_, fun id hid => ?_,
    fun id hid => ?_, FramebuffersLive.added h.live hnew⟩
  · rw [State.holds, hnew.textures, List.mem_append] at hid
    rcases hid with hid | hid
    · obtain ⟨key', f, hf, hname, hl⟩ := h.ofTexture id hid
      refine ⟨key', f, ?_, hname, (hlive key').2 (.inr hl)⟩
      have hne : key' ≠ s.nextTarget := by
        rintro rfl
        rw [frame?, hnone] at hf
        cases hf
      rw [hframe, if_neg hne, hf]
    · cases List.mem_singleton.1 hid
      exact ⟨s.nextTarget, _, (hframe _).trans (if_pos rfl), rfl, (hlive _).2 (.inl rfl)⟩
  · rw [State.holds, hnew.framebuffers] at hid
    obtain ⟨key', hkey'⟩ := h.ofFramebuffer id hid
    have hne : key' ≠ s.nextTarget := by
      rintro rfl
      rw [framebuffer?, hnone] at hkey'
      cases hkey'
    exact ⟨key', by rw [hframebuffer, if_neg hne, hkey']⟩
  · rw [State.holds, hnew.buffers] at hid
    refine (h.ofBuffer id hid).imp_right fun howner => ?_
    obtain ⟨key', p, hp, hmem⟩ := howner
    have hne : key' ≠ s.nextTarget := by
      rintro rfl
      rw [pool?, hnone] at hp
      cases hp
    exact ⟨key', p, by rw [hpool, if_neg hne, hp], hmem⟩

theorem make_claiming (spec : TargetSpec) (d : TargetDescription) :
    Attempt.Moves (Claiming index) (Registry.make spec d :
      Attempt DrawError (Store State) Entry) := by
  intro s hs
  exact make_moves_at (R := Claiming index) (update_moves permitsContents_claiming) free_claiming
    (fun s => claiming_of_same (refuse_owning s) (.of_eq rfl) rfl rfl rfl)
    (fun _ _ _ _ hwf hnew hkeeps hown _ => added_claiming hwf hnew hkeeps hown)
    (fun _ _ _ hwf hslots => claiming_of_same (fun h => h.addStory hwf hslots) (.of_eq rfl) rfl rfl
      rfl) spec d hs.toWellFormed hs

theorem permits_claiming : Permits (Claiming index) fun _ => True where
  toPermitsContents := permitsContents_claiming
  makeFramebuffer _ _ _ ht hfreed hnone := makeFramebuffer_claiming ht hfreed hnone
  free := free_claiming
  make _ spec _ _ _ := make_claiming spec _

/-! ### Reads -/

/-- A buffer that goes back to its pool stays in it. -/
theorem HasPooled.recycle {id : Name} (h : s.HasPooled id) (key : TargetKey) (buffer : Name) :
    (s.modifyPool key (·.recycle buffer)).HasPooled id := by
  obtain ⟨key', p, hp, hmem⟩ := h
  refine ⟨key', if key = key' then p.recycle buffer else p, ?_, ?_⟩
  · rw [(modifyPool_targets s key _).2.2.2, hp]
    split <;> rfl
  · split
    · rwa [PackPool.live_recycle]
    · exact hmem

/-- A look at a read makes and deletes nothing but fences. -/
theorem step_claiming (read : PendingRead) :
    Moves (Claiming index) (step read : StateM (Store State) Bool) := by
  intro s h
  have howned := step_moves permitsReads_owning.toLooks read s h.toOwned
  have hrecycled (s₁ : Store State) (hs₁ : s₁.targets = s.targets) : SameFrames s
      (s₁.modifyPool read.target (·.recycle read.buffer)) := by
    obtain ⟨hframe, hframebuffer, hlive, -⟩ := modifyPool_targets s₁ read.target
      (·.recycle read.buffer)
    have hsame : SameFrames s s₁ := sameFrames_of_targets hs₁
    exact ⟨hframe.trans hsame.frame, hframebuffer.trans hsame.framebuffer, hlive.trans hsame.live⟩
  obtain ⟨fences, log, ⟨-, hstep⟩ | ⟨-, ⟨nextPoll, hstep⟩ | hstep | hstep⟩⟩ := step_cases read s <;>
    rw [hstep] at howned ⊢
  · exact h.of_frames howned (sameFrames_of_targets rfl) rfl rfl h.ofBuffer
  · exact h.of_frames howned (sameFrames_of_targets rfl) rfl rfl h.ofBuffer
  all_goals exact h.of_frames howned (hrecycled _ rfl) rfl rfl fun id hid =>
    (h.ofBuffer id hid).imp_right fun hpooled => HasPooled.recycle hpooled ..

/-- A poll looks at the reads that are due, one after the other. -/
theorem poll_claiming : Moves (Claiming index) (poll : StateM (Store State) Nat) := by
  intro s
  have hlook (n : Nat) (read : PendingRead) : Moves (Claiming index) (do
      return if ← step read then n + 1 else n : StateM (Store State) Nat) :=
    .bind (step_claiming read) fun _ => .pure _
  have htaken : Claiming index s
      { s with pending := s.pending.filter fun read => !decide (read.nextPoll ≤ s.clock) } :=
    claiming_of_same (permitsReads_owning.reads s _ rfl rfl rfl) (.of_eq rfl) rfl rfl rfl
  exact IsTrans.trans (r := Claiming index) s _ _ htaken (Moves.foldlM hlook _ 0 _)

/-- A buffer that has been taken is in its pool. -/
theorem Claimed.taken {p' : PackPool} {bytes : Nat} {buffer : Name} {dead : List Name}
    (h : s.Claimed index) (hp : s.pool? key = some t.pool)
    (htake : (t.pool.acquire bytes).run s = (.ok (buffer, p'), s'))
    (htaken : PackPool.Taken t.pool p' s s' bytes buffer dead) :
    (s'.modifyPool key fun _ => p').Claimed index := by
  have howned : s'.Owned :=
    (acquirePackBuffer_moves permitsReads_owning t.pool bytes).of_run htake h.toOwned
  obtain ⟨hframe, hframebuffer, hlive, hpool⟩ := modifyPool_targets s' key fun _ => p'
  obtain ⟨buffers, lastName, log, hframes⟩ := htaken.frame
  have hcontents := htaken.contents
  subst hframes
  refine h.of_frames (permitsReads_owning.pool _ key _ howned)
    ⟨hframe, hframebuffer, hlive⟩ rfl rfl fun id hid => ?_
  -- What lives in the pool is claimed by it, and the other pools are as they were.
  have hown : ∀ b ∈ p'.live, HasPooled (Store.modifyPool _ key fun _ => p') b := fun b hb =>
    ⟨key, p', by rw [hpool, if_pos rfl]; exact congrArg (Option.map fun _ => p') hp, hb⟩
  by_cases hnew : id = buffer
  · exact .inr (hown id ((htaken.live id).2 ⟨.inr hnew, hnew ▸ htaken.notDead⟩))
  have hsome : (buffers.get? id).isSome := Table.mem_keys_iff.1 hid
  rw [show buffers.get? id = _ from hcontents id hnew] at hsome
  split at hsome
  · cases hsome
  · rename_i hdead
    refine (h.ofBuffer id (Table.mem_keys_iff.2 hsome)).imp_right fun howner => ?_
    obtain ⟨key', p, hkey', hmem⟩ := howner
    by_cases hkey : key = key'
    · subst hkey
      cases hp.symm.trans hkey'
      exact hown id ((htaken.live id).2 ⟨.inl hmem, hdead⟩)
    · exact ⟨key', p, by rw [hpool, if_neg hkey]; exact hkey', hmem⟩

/-- A read that does not wait takes a buffer of its target's pool and sets a fence. -/
theorem Claimed.after_read {P : Name → Prop} (h : s.Claimed index)
    (hkept : s.Kept P index s.pending) (hstray : ∀ id, s.Stray id → P id) (key : TargetKey)
    (label : String) (region : Option Rect) (destination : Option PixelData) :
    ((DrawPass.Store.read key label region destination).run s).2.Claimed index := by
  have hbound {e : Except ReadError Unit} {s₁ : Store State}
      (hbind : (bindForRead key).run s = (e, s₁)) : s₁.Pooled index s.pending ∧ s₁.Claimed index := by
    have hgentle : Gentle P index s.pending [] s ((bindForRead key).run s).2 :=
      bindForRead_gentle hstray
    have hclaiming := bindForRead_moves permits_claiming.toBinding key s h
    rw [hbind] at hgentle hclaiming
    exact ⟨(hgentle hkept s.has_nil).1.pooled, hclaiming⟩
  have hspec := run_read_spec key label region destination s fun _ hbind => (hbound hbind).1
  generalize (DrawPass.Store.read key label region destination).run s = result at hspec ⊢
  cases hspec with
  | refused => exact h
  | unbound hbind => exact (hbound hbind).2
  | @begun t rect s₁ s₂ s₃ p' buffer dead hbegun hp hlive htake htaken hgiven =>
    have hclaimed : s₃.Claimed index := hgiven ▸ (hbound hbegun.bound).2.taken hp htake htaken
    have hpacked := @command_claiming index s₃ _
      (.packPixels rect t.info.layout.format t.info.layout.type buffer) rfl
      (Table.keys_modify ..) hclaimed
    have hcopied : (s₃.copied t rect buffer).Claimed index :=
      command_claiming .flush rfl rfl (command_claiming .fenceSync rfl rfl hpacked)
    exact step_claiming _ _ hcopied

/-- A buffer may be written. -/
theorem bufferData_claiming (target : UInt32) (id : Name) (data : Bytes) (usage : UInt32) :
    Moves (Claiming index) (perform (.bufferData target id data usage) :
      StateM (Store State) Unit) := fun _ =>
  command_claiming (.bufferData target id data usage) rfl (Table.keys_modify ..)

theorem ensure_claiming (a : Geometry.IndexArray) (needed : UInt32) :
    Moves (Claiming index) (a.ensure needed : StateM (Store State) _) := by
  unfold Geometry.IndexArray.ensure
  split
  · exact .pure a
  · refine .bind (bufferData_claiming _ _ _ _) fun _ => .bind (plain_claiming _ rfl) fun _ => ?_
    exact .bind (plain_claiming _ rfl) fun _ => .pure _

end Store

/-! ### Acts -/

namespace Renderer

/-- Every texture, framebuffer and buffer on the device belongs to a target, apart from the buffer
of the index array. -/
def Claimed (r : Renderer State) : Prop := r.store.Claimed r.geometry.buffer

/-- A new renderer has a buffer, which is that of its index array, and no targets. -/
theorem claimed_create {config : Config} {width height : UInt32} {r : Renderer State}
    (hr : create config { device := State.new width height } = .ok r) : r.Claimed := by
  have hs : (newStore config width height).Claimed 2 := by
    have hkept : (newStore config width height).Kept (fun _ => True) 2 [] :=
      kept_newDevice rfl rfl rfl
    refine ⟨hkept.toOwned, nofun, nofun, fun id hid => .inl (List.mem_singleton.1 hid), ?_⟩
    intro key id hid
    cases hid
  have hclaimed := Store.ensure_claiming ⟨1, 2, 0⟩ (max config.indexCapacity 1) _ hs
  obtain ⟨capacity, buffers, log, hensure, rfl⟩ := create_eq hr
  rwa [hensure] at hclaimed

end Renderer

/-- Every act leaves everything with an owner. -/
theorem Act.after_claimed {P : Name → Prop} {act : Act} {r : Renderer State} (hr : r.Kept P)
    (hstray : ∀ id, r.store.Stray id → P id) (h : r.Claimed) : (act.after r).Claimed := by
  have hover (hmoves : r.Over r.geometry.buffer (Store.Claiming r.geometry.buffer) (act.after r)) :
      (act.after r).Claimed := by
    obtain ⟨hbuffer, hclaiming, -⟩ := hmoves rfl
    unfold Renderer.Claimed
    rw [hbuffer]
    exact hclaiming h
  have hcontrol (s : Store State) (change : Control) :
      Store.Claiming r.geometry.buffer s { s with device := change.apply s.device } := by
    have hsame := change.sameObjects s.device
    exact Store.claiming_of_same (change.owning s) (.of_eq rfl) hsame.textures hsame.framebuffers
      (congrArg Table.keys hsame.buffers)
  have hquiet (hact : act.isQuiet) : (act.after r).Claimed :=
    hover (Act.quiet_moves Store.permits_claiming (fun key _ s => Store.rotate_claiming s key)
      (fun change _ s => hcontrol s change) (fun s _ => Store.claiming_of_same
        (Store.permitsReads_owning.reads s _ rfl rfl rfl) (.of_eq rfl) rfl rfl rfl) hact r)
  cases act with
  | draw bag destination =>
    exact hover (Renderer.draw_moves Store.permits_claiming
      (fun target data usage => Store.bufferData_claiming target _ data usage)
      Store.plain_claiming Store.rotate_claiming bag (fun _ _ => trivial) r)
  | poll => exact Store.poll_claiming r.store h
  | read key label region destination =>
    exact Store.Claimed.after_read h hr.store hstray key label region destination
  | _ => exact hquiet rfl

end DrawPass
