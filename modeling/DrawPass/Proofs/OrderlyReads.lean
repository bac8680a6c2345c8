/-
DrawPass/Proofs/OrderlyReads.lean

Reads name only buffers and fences that are there.

A read that begins takes a buffer of its target's pool and sets a fence; idle buffers beyond
the limit of the pool are deleted on the way, and they are in use by nobody.  A look at a
read deletes its fence when the read is over, and the read is then forgotten, so its fence
is not named again.  Its buffer is read only while the pool still has it.
-/
import DrawPass.Proofs.Orderly

namespace DrawPass

open Gl Readback Software

namespace Readback.PackPool

variable {P : Name → Prop} {p p' : PackPool} {s s' : Store State} {d d' : State} {bytes : Nat}
  {buffer : Name} {dead : List Name}

theorem Reserved.holds (h : Reserved buffer d d') : d'.holds = d.holds := by
  rcases h with rfl | ⟨bytes, rfl⟩
  · rfl
  · exact (State.sameHolds_modifyBuffer d buffer fun _ => List.replicate bytes 0).holds

theorem Reserved.tidy (h : Reserved buffer d d') (htidy : d.Tidy P)
    (hbuffer : buffer ∈ d.holds .buffer) : d'.Tidy P := by
  rcases h with rfl | ⟨bytes, rfl⟩
  · exact htidy
  · exact htidy.perform _ (State.names_held hbuffer _)

/-- Only the buffers that are deleted go. -/
theorem Taken.holds (h : Taken p p' s s' bytes buffer dead) {kind : Kind} {id : Name}
    (hid : id ∈ s.device.holds kind) (hdead : ¬ (kind = .buffer ∧ id ∈ dead)) :
    id ∈ s'.device.holds kind := by
  obtain ⟨d, hd, hreserved⟩ := h.device
  rw [hreserved.holds]
  rcases hd with ⟨-, -, rfl⟩ | rfl
  · exact State.holds_perform rfl s.device kind hid
  · refine (State.holds_deleteBuffers ..).2 ⟨hid, ?_⟩
    rwa [List.mem_reverse]

/-- Buffers that are there may be deleted, and the one that is taken is there. -/
theorem Taken.tidy (h : Taken p p' s s' bytes buffer dead) (htidy : s.device.Tidy P)
    (hdead : ∀ b ∈ dead, b ∈ s.device.holds .buffer) (hdistinct : dead.Nodup) :
    s'.device.Tidy P := by
  obtain ⟨d, hd, hreserved⟩ := h.device
  refine hreserved.tidy ?_ ?_
  · rcases hd with ⟨-, -, rfl⟩ | rfl
    · exact htidy.perform .createBuffer (State.names_nil P _ _)
    · exact htidy.deleteBuffers (fun b hb => hdead b (List.mem_reverse.1 hb))
        ((List.reverse_perm dead).nodup_iff.2 hdistinct)
  · obtain ⟨content, hcontent, -⟩ := h.stored
    rw [← hreserved.holds]
    exact Table.mem_keys_iff.2 (Option.isSome_of_mem hcontent)

end Readback.PackPool

namespace Store

variable {P : Name → Prop} {index : Name} {reads : List PendingRead}
  {objects : List (Kind × Name)} {s s' : Store State} {key : TargetKey} {t : Target}
  {read : PendingRead}

/-! ### Buffers -/

/-- No buffer is idle twice. -/
theorem Pooled.nodup_idle (h : s.Pooled index reads) {p : PackPool} (hp : s.pool? key = some p) :
    p.idle.Nodup := by
  refine List.nodup_iff_count.2 fun b => ?_
  have honce := h.once key b
  rw [idleCount, hp, Option.map_some, Option.getD_some] at honce
  exact Nat.le_of_add_right_le honce

/-- A buffer is taken for a read. -/
theorem Kept.taken {p' : PackPool} {bytes : Nat} {buffer : Name} {dead : List Name}
    (h : s.Kept P index reads) (hp : s.pool? key = some t.pool) (hlive : s.IsLive key)
    (htake : (t.pool.acquire bytes).run s = (.ok (buffer, p'), s'))
    (htaken : PackPool.Taken t.pool p' s s' bytes buffer dead) (htarget : read.target = key)
    (hbuffer : read.buffer = buffer) :
    let given := s'.modifyPool key fun _ => p'
    given.pending = s.pending ∧ Spares s given ∧ given.Kept P index reads ∧
      given.Pooled index (read :: reads) := by
  -- What is deleted was idle, so it is held up to then, and it is deleted once.
  have hdead {b : Name} (hb : b ∈ dead) : b ∈ t.pool.live := h.pooled.mem_of_dead hp htaken hb
  have hdistinct : dead.Nodup := by
    have hidle := h.pooled.nodup_idle hp
    rcases htaken.source with ⟨hsource, -⟩ | ⟨-, -, hnone, -⟩
    · rw [hsource] at hidle
      exact (List.nodup_append.1 (List.nodup_cons.1 hidle).2).2.1
    · rw [hnone]
      exact List.nodup_nil
  have hlives : p'.live.Nodup := htaken.nodup_live (h.distinct key _ hp) fun b hb =>
    (h.pooled.numbered key _ b hp hb).1
  refine ⟨?_, fun kind hkind id hid => htaken.holds hid fun e => ?_, ?_⟩
  · obtain ⟨_, _, _, rfl⟩ := htaken.frame
    rfl
  · rw [e.1] at hkind
    cases hkind
  · have hpooled := h.pooled.taken hp htaken hlive htarget hbuffer
    have howned : s'.Owned :=
      (acquirePackBuffer_moves permitsReads_owning t.pool bytes).of_run htake h.toOwned
    refine ⟨⟨permitsReads_owning.pool s' key _ howned, ?_, hpooled.tail, fun key' q hq => ?_, ?_,
      fun read hread => htaken.holds (h.fences read hread) nofun, h.distinctFences⟩, hpooled⟩
    · exact htaken.tidy h.tidy (fun b hb => h.buffer_held hp (hdead hb)) hdistinct
    · rw [(modifyPool_targets s' key fun _ => p').2.2.2] at hq
      split at hq
      · obtain ⟨_, -, rfl⟩ := Option.map_eq_some_iff.1 hq
        exact hlives
      · obtain ⟨_, _, _, rfl⟩ := htaken.frame
        exact h.distinct key' q hq
    · exact htaken.holds h.index fun e => (h.pooled.numbered key _ _ hp (hdead e.2)).2 rfl

/-- The buffer of a read that is over goes back to its pool. -/
theorem Kept.recycled (h : s.Kept P index reads) (hpooled : s.Pooled index (read :: reads)) :
    (s.modifyPool read.target (·.recycle read.buffer)).Kept P index reads where
  toOwned := permitsReads_owning.pool s read.target _ h.toOwned
  tidy := h.tidy
  pooled := hpooled.recycled
  distinct key p hp := by
    rw [(modifyPool_targets s read.target _).2.2.2] at hp
    split at hp
    · obtain ⟨p₀, hp₀, rfl⟩ := Option.map_eq_some_iff.1 hp
      rw [PackPool.live_recycle]
      exact h.distinct key p₀ hp₀
    · exact h.distinct key p hp
  index := h.index
  fences := h.fences
  distinctFences := h.distinctFences

/-! ### Fences -/

/-- A fence has been set for a read that has its buffer. -/
theorem Kept.begun (h : s.Kept P index reads) (hpooled : s.Pooled index (read :: reads))
    (hfence : read.fence ∈ s.device.holds .fence)
    (hnew : ∀ other ∈ reads, other.fence ≠ read.fence) : s.Kept P index (read :: reads) :=
  { h with
    pooled := hpooled
    fences := List.forall_mem_cons.2 ⟨hfence, h.fences⟩
    distinctFences := List.nodup_cons.2 ⟨fun hmem => by
      obtain ⟨other, hother, e⟩ := List.mem_map.1 hmem
      exact hnew other hother e, h.distinctFences⟩ }

theorem Kept.perm {reads' : List PendingRead} (h : s.Kept P index reads)
    (hperm : reads'.Perm reads) : s.Kept P index reads' :=
  { h with
    pooled := h.pooled.perm hperm
    fences := fun read hread => h.fences read (hperm.mem_iff.1 hread)
    distinctFences := (hperm.map _).nodup_iff.2 h.distinctFences }

/-- A read goes on waiting. -/
theorem Kept.later (h : s.Kept P index (read :: reads)) (nextPoll : Nat) :
    s.Kept P index ({ read with nextPoll } :: reads) := by
  have hpooled : s.Pooled index ({ read with nextPoll } :: reads) := by
    refine h.pooled.of_reads (fun key b => ?_) fun other hother => ?_
    · rw [List.countP_cons, List.countP_cons]
      exact Nat.le_refl _
    · rcases List.mem_cons.1 hother with rfl | hother
      · exact ⟨read, List.mem_cons_self, rfl⟩
      · exact ⟨other, List.mem_cons_of_mem _ hother, rfl⟩
  obtain ⟨hfence, hfences⟩ := List.forall_mem_cons.1 h.fences
  exact { h with
    pooled := hpooled
    fences := List.forall_mem_cons.2 ⟨hfence, hfences⟩
    distinctFences := h.distinctFences }

/-- A read that is over loses its fence, and keeps its buffer for the moment. -/
theorem Kept.unfenced (h : s.Kept P index (read :: reads)) :
    (Gl.perform (.deleteSync read.fence) s).2.Kept P index reads ∧
      (Gl.perform (.deleteSync read.fence) s).2.Pooled index (read :: reads) ∧
      Spares s (Gl.perform (.deleteSync read.fence) s).2 := by
  have hpooled : (Gl.perform (.deleteSync read.fence) s).2.Pooled index (read :: reads) :=
    h.pooled.of_same rfl rfl (Nat.le_refl _) rfl
  have hholds {kind : Kind} {id : Name} (hid : id ∈ s.device.holds kind)
      (hne : ¬ (kind = .fence ∧ id = read.fence)) :
      id ∈ (Gl.perform (.deleteSync read.fence) s).2.device.holds kind :=
    (State.holds_delete rfl ..).2 ⟨hid, hne⟩
  obtain ⟨hfence, hfences⟩ := List.forall_mem_cons.1 h.fences
  obtain ⟨hnew, hdistinct⟩ := List.nodup_cons.1 h.distinctFences
  refine ⟨⟨command_owning _ rfl s h.toOwned, ?_, hpooled.tail, h.distinct, hholds h.index nofun,
    fun other hother => hholds (hfences other hother) fun e => hnew ?_, hdistinct⟩, hpooled,
    fun kind hkind id hid => hholds hid fun e => ?_⟩
  · exact h.tidy.perform (.deleteSync read.fence) (State.names_held hfence _)
  · exact List.mem_map.2 ⟨other, hother, e.2⟩
  · rw [e.1] at hkind
    cases hkind

theorem finish_kept (h : s.Kept P index (read :: reads)) :
    ((finish read : StateM (Store State) Unit) s).2.Kept P index reads ∧
      ((finish read : StateM (Store State) Unit) s).2.pending = s.pending ∧
      Spares s ((finish read : StateM (Store State) Unit) s).2 := by
  obtain ⟨hkept, hpooled, hspares⟩ := h.unfenced
  exact ⟨hkept.recycled hpooled, rfl, hspares⟩

theorem deliver_gentle (read : PendingRead) :
    Moves (Gentle P index reads [(.buffer, read.buffer)])
      (deliver read : StateM (Store State) Unit) := by
  unfold deliver
  refine .bind (command_gentle _ rfl rfl (List.Subset.refl _)) fun bytes => ?_
  exact .modify fun s => time_gentle rfl rfl rfl rfl

/-- A wait for a fence that is there. -/
theorem wait_kept (h : s.Kept P index (read :: reads)) (timeout : Int32) :
    (perform (.clientWaitSync read.fence timeout) s).2.Kept P index (read :: reads) := by
  refine h.perform _ rfl rfl (State.names_held (h.fences read List.mem_cons_self) _) ?_
  obtain ⟨answer, fences, log, hwait⟩ := s.device.waitFence_eq read.fence
  have hstate : (perform (.clientWaitSync read.fence timeout) s).2 =
      { s with device := { s.device with fences, log } } :=
    congrArg (fun r : Wait × State => ({ s with device := r.2 } : Store State)) hwait
  rw [hstate]
  exact h.pooled.of_same rfl rfl (Nat.le_refl _) rfl

/-- A look at a read names its fence and its buffer, and what is over is forgotten. -/
theorem step_kept (h : s.Kept P index (read :: reads)) : ∃ waiting : List PendingRead,
    (step read s).2.pending = s.pending ++ waiting ∧
      (step read s).2.Kept P index (waiting ++ reads) ∧ Spares s (step read s).2 := by
  unfold step look
  rw [bind_assoc, run_get_bind]
  cases hvalid : s.bufferIsValid read with
  | false =>
    obtain ⟨hkept, -, hspares⟩ := h.unfenced
    exact ⟨[], (List.append_nil _).symm, hkept, hspares⟩
  | true =>
    simp only [Bool.not_true, Bool.false_eq_true, if_false]
    have hkept := wait_kept h 0
    have hstays : Stays s (perform (.clientWaitSync read.fence 0) s).2 := stays_perform rfl s
    rcases hwait : (perform (.clientWaitSync read.fence 0) : StateM (Store State) Wait) s
      with ⟨answer, s₁⟩
    rw [hwait] at hkept hstays
    rw [bind_assoc, run_bind_eq hwait]
    cases answer with
    | timeout =>
      -- The read waits for a later look.
      let later : PendingRead := { read with nextPoll := s₁.clock + s₁.pollInterval }
      let s₂ : Store State := { s₁ with pending := s₁.pending ++ [later] }
      refine ⟨[later], congrArg (· ++ [later]) hstays.pending, ?_, hstays.spares⟩
      have howned : s₂.Owned := permitsReads_owning.reads s₁ s₂ rfl rfl rfl hkept.toOwned
      exact (hkept.later _).of_same howned (.of_eq rfl) rfl
    | failed =>
      obtain ⟨hkept', hpending, hspares⟩ := finish_kept hkept
      refine ⟨[], ?_, hkept', IsTrans.trans (r := Spares) s s₁ _ hstays.spares hspares⟩
      exact (hpending.trans hstays.pending).trans (List.append_nil _).symm
    | signaled =>
      -- The buffer of a good read is in its pool, so it is held when the bytes are fetched.
      have hbuffer : s₁.Has [(.buffer, read.buffer)] := by
        obtain ⟨p, hp, hlive⟩ := h.pooled.mem_live hvalid
        exact has_singleton (hstays.holds _ (h.buffer_held hp hlive))
      let s₂ := ((deliver read : StateM (Store State) Unit) s₁).2
      obtain ⟨hkept₂, hstays₂⟩ := deliver_gentle read s₁ hkept hbuffer
      obtain ⟨hkept', hpending, hspares⟩ := finish_kept hkept₂
      have hstays' := IsTrans.trans (r := Stays) s s₁ s₂ hstays hstays₂
      refine ⟨[], ?_, hkept', IsTrans.trans (r := Spares) s s₂ _ hstays'.spares hspares⟩
      exact (hpending.trans hstays'.pending).trans (List.append_nil _).symm

theorem steps_kept {due : List PendingRead} (n : Nat)
    (h : s.Kept P index (due ++ s.pending)) :
    let s' := (due.foldlM (fun n read => do
      return if ← step read then n + 1 else n : Nat → PendingRead → StateM (Store State) Nat) n s).2
    s'.Kept P index s'.pending ∧ Spares s s' := by
  induction due generalizing n s with
  | nil => exact ⟨h, refl (r := Spares) s⟩
  | cons read due ih =>
    obtain ⟨waiting, hpending, hkept, hspares⟩ := step_kept h
    have hkept' : (step read s).2.Kept P index (due ++ (step read s).2.pending) := by
      refine hkept.perm ?_
      rw [hpending, ← List.append_assoc]
      exact List.perm_append_comm
    obtain ⟨hlast, hspares'⟩ := ih (if (step read s).1 then n + 1 else n) hkept'
    exact ⟨hlast, IsTrans.trans (r := Spares) s _ _ hspares hspares'⟩

/-- A poll looks at every read that is due. -/
theorem poll_kept (h : s.Kept P index s.pending) :
    ((poll : StateM (Store State) Nat) s).2.Kept P index
        ((poll : StateM (Store State) Nat) s).2.pending ∧
      Spares s ((poll : StateM (Store State) Nat) s).2 := by
  have htaken : s.takeDue.2.Kept P index (s.takeDue.1 ++ s.takeDue.2.pending) :=
    (h.perm s.takeDue_perm).of_same
      (permitsReads_owning.reads s s.takeDue.2 rfl rfl rfl h.toOwned) (.of_eq rfl) rfl
  exact steps_kept 0 htaken

/-! ### Beginning a read -/

/-- A region that is copied into a buffer leaves its length as it is. -/
theorem Pooled.packed (h : s.Pooled index reads) (rect : Rect) (format type : UInt32)
    (buffer : Name) : (perform (.packPixels rect format type buffer) s).2.Pooled index reads := by
  refine h.of_lengths rfl rfl (Nat.le_refl _) fun key p b content hp hb hcontent => ?_
  have hget : (perform (.packPixels rect format type buffer) s).2.device.buffers.get? b =
      if buffer = b then (s.device.buffers.get? b).map fun b =>
        overwrite b (s.device.pixels rect format type) else s.device.buffers.get? b :=
    Table.get?_modify ..
  rw [hget, hcontent]
  split
  · exact ⟨_, rfl, length_overwrite ..⟩
  · exact ⟨content, rfl, rfl⟩

/-- A region is copied into a buffer that was taken for it, and a fence is set behind the copy. -/
theorem Kept.copied (h : s.Kept P index reads) (hpooled : s.Pooled index (read :: reads))
    (t : Target) (rect : Rect) (buffer : Name) (hfence : read.fence = s.device.lastName + 1) :
    (s.copied t rect buffer).Kept P index (read :: reads) := by
  let s₁ := (Gl.perform (.packPixels rect t.info.layout.format t.info.layout.type buffer) s).2
  let s₂ := (Gl.perform .fenceSync s₁).2
  have hkept₁ : s₁.Kept P index reads :=
    h.perform _ rfl rfl (State.names_nil P _ _) (h.pooled.packed rect _ _ buffer)
  have hpooled₁ : s₁.Pooled index (read :: reads) := hpooled.packed rect _ _ buffer
  have hkept₂ : s₂.Kept P index reads := hkept₁.perform _ rfl rfl (State.names_nil P _ _)
    (hkept₁.pooled.of_same rfl rfl (Nat.le_succ _) rfl)
  have hbegun : s₂.Kept P index (read :: reads) := by
    refine hkept₂.begun (hpooled₁.of_same rfl rfl (Nat.le_succ _) rfl) ?_ fun other hother e => ?_
    · rw [hfence]
      exact Table.mem_keys_insert.2 (.inl rfl)
    · have hle := hkept₁.tidy.numbered _ _ (hkept₁.fences other hother)
      rw [e, hfence] at hle
      exact Nat.not_succ_le_self _ hle
  have hflush : Moves (Gentle P index (read :: reads) [])
      (Gl.perform .flush : StateM (Store State) Unit) :=
    command_gentle _ rfl rfl (List.Subset.refl _)
  exact (hflush s₂ hbegun s₂.has_nil).1

theorem stays_copied (s : Store State) (t : Target) (rect : Rect) (buffer : Name) :
    Stays s (s.copied t rect buffer) :=
  IsTrans.trans (r := Stays) s _ _ (stays_perform rfl s)
    (IsTrans.trans (r := Stays) _ _ _ (stays_perform rfl _) (stays_perform rfl _))

/-- A read that does not wait names the framebuffer of its target, a buffer of the target's pool
and its own fence. -/
theorem read_kept (h : s.Kept P index s.pending) (hstray : ∀ id, s.Stray id → P id)
    (key : TargetKey) (label : String) (region : Option Rect) (destination : Option PixelData) :
    let s' := ((DrawPass.Store.read key label region destination).run s).2
    s'.Kept P index s'.pending ∧ Spares s s' := by
  dsimp only
  have hbound {e : Except ReadError Unit} {s₁ : Store State}
      (hbind : (bindForRead key).run s = (e, s₁)) :
      s₁.Kept P index s.pending ∧ Stays s s₁ := by
    have hgentle : Gentle P index s.pending [] s ((bindForRead key).run s).2 :=
      bindForRead_gentle hstray
    rw [hbind] at hgentle
    exact hgentle h s.has_nil
  -- A read that begins binds its target, takes a buffer, copies into it and is looked at once.
  have hspec := run_read_spec key label region destination s fun _ hbind => (hbound hbind).1.pooled
  generalize (DrawPass.Store.read key label region destination).run s = result at hspec ⊢
  cases hspec with
  | refused => exact ⟨h, refl (r := Spares) s⟩
  | unbound hbind =>
    obtain ⟨hkept₁, hstays₁⟩ := hbound hbind
    exact ⟨hstays₁.pending.symm ▸ hkept₁, hstays₁.spares⟩
  | @begun t rect s₁ s₂ s₃ p' buffer dead hbegun hp hlive htake htaken hgiven =>
    obtain ⟨hkept₁, hstays₁⟩ := hbound hbegun.bound
    let read := s₃.begun key label destination t rect buffer
    let s₄ := s₃.copied t rect buffer
    obtain ⟨hpending₃, hspares₃, hkept₃, hpooled₃⟩ : s₃.pending = s₁.pending ∧ Spares s₁ s₃ ∧
        s₃.Kept P index s.pending ∧ s₃.Pooled index (read :: s.pending) :=
      hgiven ▸ hkept₁.taken hp hlive htake htaken rfl rfl
    have hkept₄ : s₄.Kept P index (read :: s.pending) := hkept₃.copied hpooled₃ t rect buffer rfl
    have hpending₄ : s₄.pending = s.pending := hpending₃.trans hstays₁.pending
    have hspares₄ : Spares s s₄ := IsTrans.trans (r := Spares) s s₁ s₄ hstays₁.spares
      (IsTrans.trans (r := Spares) s₁ s₃ s₄ hspares₃ (stays_copied s₃ t rect buffer).spares)
    obtain ⟨waiting, hpending, hkept, hspares⟩ := step_kept hkept₄
    refine ⟨?_, IsTrans.trans (r := Spares) s s₄ _ hspares₄ hspares⟩
    rw [hpending, hpending₄]
    exact hkept.perm List.perm_append_comm

end Store

end DrawPass
