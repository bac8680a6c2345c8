/-
DrawPass/Proofs/Pooled.lean

No pixel buffer serves two reads.

`Store.Pooled` is the invariant of the pools.  A buffer belongs to at most one pool, has
the storage that its pool believes it has, and is either idle or used by at most one of
the reads under way, never both (`once`).  The list of reads is a parameter and not read
off the store, because a poll takes the reads that are due out of the store before it
looks at them.

What makes a read right is `Store.Holds`: as long as its buffer is good, the buffer holds
the bytes that were copied into it.  Nothing but the end of the read's own target makes
the buffer bad, and nothing writes to it: buffers are written only when they are taken,
and the buffer of the index array is in no pool.
-/
import DrawPass.Proofs.Attached
import DrawPass.Proofs.Pool

namespace DrawPass

open Gl Readback Software

/-- The read uses a buffer of a target's pool. -/
def Readback.PendingRead.uses (read : PendingRead) (key : TargetKey) (buffer : Name) : Bool :=
  decide (read.target = key ∧ read.buffer = buffer)

namespace Store

/-- How often a buffer is idle in the pool of a target. -/
def idleCount (s : Store State) (key : TargetKey) (buffer : Name) : Nat :=
  ((s.pool? key).map fun p => p.idle.count buffer).getD 0

/-- Every buffer of a pool serves one read at a time. -/
structure Pooled (index : Name) (reads : List PendingRead) (s : Store State) : Prop where
  index_le : index ≤ s.device.lastName
  numbered : ∀ key p b, s.pool? key = some p → b ∈ p.live → b ≤ s.device.lastName ∧ b ≠ index
  own : ∀ key key' p p' b, s.pool? key = some p → s.pool? key' = some p' → b ∈ p.live →
    b ∈ p'.live → key = key'
  stored : ∀ key p b, s.pool? key = some p → b ∈ p.live →
    ∃ content, s.device.buffers.get? b = some content ∧ content.length = p.capacity b
  valid : ∀ key p b, s.pool? key = some p → 0 < p.capacity b → b ∈ p.live
  idle : ∀ key p b, s.pool? key = some p → b ∈ p.idle → b ∈ p.live
  once : ∀ key b, s.idleCount key b + reads.countP (·.uses key b) ≤ 1
  reads : ∀ read ∈ reads, read.buffer ≤ s.device.lastName
  freed : ∀ key p, s.pool? key = some p → ¬ s.IsLive key → p.live = []

/-- As long as the buffer of a read is good, it holds these bytes. -/
def Holds (s : Store State) (read : PendingRead) (data : Bytes) : Prop :=
  s.bufferIsValid read = true →
    ∃ content, s.device.buffers.get? read.buffer = some content ∧
      content.take read.length = data

variable {s s' : Store State} {key : TargetKey} {t : Target} {index : Name}
  {reads reads' : List PendingRead} {read : PendingRead} {data : Bytes}

theorem bufferIsValid_iff : s.bufferIsValid read = true ↔
    ∃ p, s.pool? read.target = some p ∧ 0 < p.capacity read.buffer := by
  unfold bufferIsValid pool?
  cases s.target? read.target with
  | none => simp
  | some t => simp [PackPool.isValid]

theorem Pooled.mem_live (h : s.Pooled index reads) (hvalid : s.bufferIsValid read = true) :
    ∃ p, s.pool? read.target = some p ∧ read.buffer ∈ p.live := by
  obtain ⟨p, hp, hcapacity⟩ := bufferIsValid_iff.1 hvalid
  exact ⟨p, hp, h.valid _ p _ hp hcapacity⟩

/-- The buffer of a read of a freed target is not good. -/
theorem Pooled.isLive (h : s.Pooled index reads) (hvalid : s.bufferIsValid read = true) :
    s.IsLive read.target := by
  apply Classical.byContradiction
  intro hgone
  obtain ⟨p, hp, hmem⟩ := h.mem_live hvalid
  rw [h.freed _ p hp hgone] at hmem
  cases hmem

theorem Holds.of (h : s.Holds read data)
    (hvalid : s'.bufferIsValid read = true → s.bufferIsValid read = true)
    (hbuffers : s'.bufferIsValid read = true →
      s'.device.buffers.get? read.buffer = s.device.buffers.get? read.buffer) :
    s'.Holds read data := by
  intro hgood
  obtain ⟨content, hcontent, hdata⟩ := h (hvalid hgood)
  exact ⟨content, (hbuffers hgood).trans hcontent, hdata⟩

theorem bufferIsValid_congr (hpool : s'.pool? = s.pool?) :
    s'.bufferIsValid read = s.bufferIsValid read := by
  apply Bool.eq_iff_iff.2
  rw [bufferIsValid_iff, bufferIsValid_iff, hpool]

/-! ### Steps that leave the pools alone -/

/-- Buffers may be written, as long as those of pools keep their length. -/
theorem Pooled.of_lengths (h : s.Pooled index reads) (hpool : s'.pool? = s.pool?)
    (hlive : s'.IsLive = s.IsLive) (hname : s.device.lastName ≤ s'.device.lastName)
    (hbuffers : ∀ key p b content, s.pool? key = some p → b ∈ p.live →
      s.device.buffers.get? b = some content →
      ∃ content', s'.device.buffers.get? b = some content' ∧
        content'.length = content.length) : s'.Pooled index reads where
  index_le := Nat.le_trans h.index_le hname
  numbered key p b hp hb := by
    obtain ⟨hle, hne⟩ := h.numbered key p b (hpool ▸ hp) hb
    exact ⟨Nat.le_trans hle hname, hne⟩
  own := hpool ▸ h.own
  stored key p b hp hb := by
    rw [hpool] at hp
    obtain ⟨content, hcontent, hlength⟩ := h.stored key p b hp hb
    obtain ⟨content', hcontent', hlength'⟩ := hbuffers key p b content hp hb hcontent
    exact ⟨content', hcontent', hlength'.trans hlength⟩
  valid := hpool ▸ h.valid
  idle := hpool ▸ h.idle
  once key b := by
    rw [idleCount, hpool]
    exact h.once key b
  reads read hread := Nat.le_trans (h.reads read hread) hname
  freed key p hp hgone := h.freed key p (hpool ▸ hp) (hlive ▸ hgone)

theorem Pooled.of_same (h : s.Pooled index reads) (hpool : s'.pool? = s.pool?)
    (hlive : s'.IsLive = s.IsLive) (hname : s.device.lastName ≤ s'.device.lastName)
    (hbuffers : s'.device.buffers = s.device.buffers) : s'.Pooled index reads :=
  h.of_lengths hpool hlive hname fun _ _ _ content _ _ hcontent =>
    ⟨content, hbuffers ▸ hcontent, rfl⟩

theorem Holds.of_same (h : s.Holds read data) (hpool : s'.pool? = s.pool?)
    (hbuffers : s'.device.buffers = s.device.buffers) : s'.Holds read data :=
  h.of (bufferIsValid_congr hpool ▸ id) fun _ => by rw [hbuffers]

/-- Fewer reads. -/
theorem Pooled.of_reads (h : s.Pooled index reads)
    (hcount : ∀ key b, reads'.countP (·.uses key b) ≤ reads.countP (·.uses key b))
    (hbuffer : ∀ read ∈ reads', ∃ read' ∈ reads, read'.buffer = read.buffer) :
    s.Pooled index reads' where
  index_le := h.index_le
  numbered := h.numbered
  own := h.own
  stored := h.stored
  valid := h.valid
  idle := h.idle
  once key b := Nat.le_trans (Nat.add_le_add_left (hcount key b) _) (h.once key b)
  reads read hread := by
    obtain ⟨read', hread', hbuffer⟩ := hbuffer read hread
    exact hbuffer ▸ h.reads read' hread'
  freed := h.freed

theorem Pooled.perm (h : s.Pooled index reads) (hperm : reads'.Perm reads) :
    s.Pooled index reads' :=
  h.of_reads (fun _ _ => Nat.le_of_eq (hperm.countP_eq _)) fun read hread =>
    ⟨read, hperm.mem_iff.1 hread, rfl⟩

/-- A read that is over. -/
theorem Pooled.tail (h : s.Pooled index (read :: reads)) : s.Pooled index reads :=
  h.of_reads (fun _ _ => List.Sublist.countP_le (List.sublist_cons_self read reads))
    fun read' hread => ⟨read', List.mem_cons_of_mem _ hread, rfl⟩

/-- The index array may be written. -/
theorem Pooled.index_written (h : s.Pooled index reads) (target : UInt32) (bytes : Bytes)
    (usage : UInt32) :
    (perform (.bufferData target index bytes usage) s).2.Pooled index reads := by
  refine h.of_lengths rfl rfl (Nat.le_refl _) fun key p b content hp hb hcontent =>
    ⟨content, ?_, rfl⟩
  refine Eq.trans (Table.get?_modify ..) ?_
  rw [if_neg (h.numbered key p b hp hb).2.symm, hcontent]

theorem Pooled.holds_index_written (h : s.Pooled index reads) (target : UInt32) (bytes : Bytes)
    (usage : UInt32) (hholds : s.Holds read data) :
    (perform (.bufferData target index bytes usage) s).2.Holds read data := by
  refine hholds.of id fun hvalid => ?_
  obtain ⟨p, hp, hmem⟩ := h.mem_live (s := s) hvalid
  exact (Table.get?_modify ..).trans (if_neg (h.numbered _ p _ hp hmem).2.symm)

/-! ### The end of a target, and a new one -/

/-- One pool has no buffers, and those of the other pools are as they were. -/
theorem Pooled.of_empty (h : s.Pooled index reads) {empty : PackPool} (hempty : empty.live = [])
    (hidle : empty.idle = []) (hcapacity : ∀ b, empty.capacity b = 0)
    (hpool : ∀ key', s'.pool? key' = if key' = key then some empty else s.pool? key')
    (hname : s.device.lastName ≤ s'.device.lastName)
    (hbuffers : ∀ key' p b, key' ≠ key → s.pool? key' = some p → b ∈ p.live →
      s'.device.buffers.get? b = s.device.buffers.get? b)
    (hlive : ∀ key', key' ≠ key → s.IsLive key' → s'.IsLive key') : s'.Pooled index reads := by
  have hcases {key' : TargetKey} {p : PackPool} (hp : s'.pool? key' = some p) :
      p = empty ∨ key' ≠ key ∧ s.pool? key' = some p := by
    rw [hpool] at hp
    split at hp
    · exact .inl (Option.some.inj hp).symm
    · exact .inr ⟨‹_›, hp⟩
  -- A pool with a buffer that lives is the pool of another target.
  have hother {key' : TargetKey} {p : PackPool} {b : Name} (hp : s'.pool? key' = some p)
      (hb : b ∈ p.live) : key' ≠ key ∧ s.pool? key' = some p := by
    rcases hcases hp with rfl | hp
    · rw [hempty] at hb
      cases hb
    · exact hp
  constructor
  case index_le => exact Nat.le_trans h.index_le hname
  case numbered =>
    intro key' p b hp hb
    obtain ⟨hle, hne⟩ := h.numbered key' p b (hother hp hb).2 hb
    exact ⟨Nat.le_trans hle hname, hne⟩
  case own =>
    intro key₁ key₂ p₁ p₂ b h₁ h₂ hb₁ hb₂
    exact h.own key₁ key₂ p₁ p₂ b (hother h₁ hb₁).2 (hother h₂ hb₂).2 hb₁ hb₂
  case stored =>
    intro key' p b hp hb
    obtain ⟨hne, hp⟩ := hother hp hb
    rw [hbuffers key' p b hne hp hb]
    exact h.stored key' p b hp hb
  case valid =>
    intro key' p b hp hgood
    rcases hcases hp with rfl | ⟨-, hp⟩
    · exact absurd hgood (Nat.not_lt.2 (Nat.le_of_eq (hcapacity b)))
    · exact h.valid key' p b hp hgood
  case idle =>
    intro key' p b hp hb
    rcases hcases hp with rfl | ⟨-, hp⟩
    · rw [hidle] at hb
      cases hb
    · exact h.idle key' p b hp hb
  case once =>
    intro key' b
    refine Nat.le_trans (Nat.add_le_add_right ?_ _) (h.once key' b)
    rw [idleCount, idleCount, hpool]
    split
    · rw [Option.map_some, hidle]
      exact Nat.zero_le _
    · exact Nat.le_refl _
  case reads => exact fun read hread => Nat.le_trans (h.reads read hread) hname
  case freed =>
    intro key' p hp hgone
    rcases hcases hp with rfl | ⟨hne, hp⟩
    · exact hempty
    · exact h.freed key' p hp fun hl => hgone (hlive key' hne hl)

theorem Pooled.released (h : s.Pooled index reads) (hend : Released key t s s')
    (ht : s.target? key = some t) : s'.Pooled index reads := by
  obtain ⟨-, -, hpool, hlive⟩ := hend.targets ht
  have htpool := pool?_of_target? ht
  refine h.of_empty rfl rfl (fun b => ?_) hpool (Nat.le_of_eq hend.lastName.symm)
    (fun key' p b hne hp hb => ?_) fun key' hne hl => (hlive key').2 ⟨hne, hl⟩
  · rw [PackPool.capacity_emptied]
    split
    · rfl
    · rename_i hdead
      exact Nat.eq_zero_of_not_pos fun hcapacity => hdead (h.valid key t.pool b htpool hcapacity)
  · have hkept : b ∉ t.pool.live := fun hb' => hne (h.own key' key p t.pool b hp htpool hb hb')
    exact (hend.buffers b).trans (if_neg hkept)

theorem Pooled.holds_released (h : s.Pooled index reads) (hend : Released key t s s')
    (ht : s.target? key = some t) (hholds : s.Holds read data) : s'.Holds read data := by
  obtain ⟨-, -, hpool, -⟩ := hend.targets ht
  have hsame (hvalid : s'.bufferIsValid read = true) :
      s.bufferIsValid read = true ∧ read.buffer ∉ t.pool.live := by
    have hgood := (h.released hend ht).mem_live hvalid
    obtain ⟨p, hp, hcapacity⟩ := bufferIsValid_iff.1 hvalid
    obtain ⟨p', hp', hmem⟩ := hgood
    cases hp.symm.trans hp'
    rw [hpool] at hp
    split at hp
    · cases hp
      cases hmem
    · rename_i hne
      exact ⟨bufferIsValid_iff.2 ⟨p, hp, hcapacity⟩, fun hdead =>
        hne (h.own _ key p t.pool _ hp (pool?_of_target? ht) hmem hdead)⟩
  refine hholds.of (fun hvalid => (hsame hvalid).1) fun hvalid => ?_
  rw [hend.buffers, if_neg (hsame hvalid).2]

variable {d : TargetDescription} {companion : Companion}

/-- A new target has no buffers. -/
theorem Pooled.added (h : s.Pooled index reads) (hnew : Added d companion s s') :
    s'.Pooled index reads := by
  obtain ⟨-, -, hpool, hlive⟩ := hnew.targets
  exact h.of_empty rfl rfl (fun _ => rfl) hpool (hnew.lastName ▸ Nat.le_succ _)
    (fun _ _ _ _ _ _ => by rw [hnew.buffers]) fun key' _ hl => (hlive key').2 (.inr hl)

theorem Holds.added (h : s.Holds read data) (hnew : Added d companion s s') :
    s'.Holds read data := by
  obtain ⟨-, -, hpool, -⟩ := hnew.targets
  refine h.of (fun hvalid => ?_) fun _ => by rw [hnew.buffers]
  obtain ⟨p, hp, hcapacity⟩ := bufferIsValid_iff.1 hvalid
  rw [hpool] at hp
  split at hp
  · cases hp
    cases hcapacity
  · exact bufferIsValid_iff.2 ⟨p, hp, hcapacity⟩

/-! ### Taking a buffer and giving it back -/

/-- Only the pool of one target is another. -/
theorem modifyPool_targets (s : Store State) (key : TargetKey) (f : PackPool → PackPool) :
    (s.modifyPool key f).frame? = s.frame? ∧
      (s.modifyPool key f).framebuffer? = s.framebuffer? ∧
      (s.modifyPool key f).IsLive = s.IsLive ∧
      ∀ key', (s.modifyPool key f).pool? key' =
        if key = key' then (s.pool? key').map f else s.pool? key' := by
  have hlook (key' : TargetKey) : (s.modifyPool key f).target? key' =
      if key = key' then (s.target? key').map fun t => { t with pool := f t.pool }
      else s.target? key' := target?_modifyTarget ..
  -- One look-up after another: the pool is the only part of a target that differs.
  refine ⟨funext fun key' => ?_, funext fun key' => ?_, funext fun key' => ?_, fun key' => ?_⟩
  · rw [frame?, frame?, hlook]
    split
    · cases s.target? key' <;> rfl
    · rfl
  · rw [framebuffer?, framebuffer?, hlook]
    split
    · cases s.target? key' <;> rfl
    · rfl
  · rw [IsLive, IsLive, hlook]
    split
    · cases s.target? key' with
      | none => rfl
      | some t => simp only [Option.map_some, Option.some.injEq, exists_eq_left']
    · rfl
  · rw [pool?, pool?, hlook]
    split
    · cases s.target? key' <;> rfl
    · rfl

/-- A buffer is idle once or used by one read, not both. -/
theorem Pooled.count_idle_le (h : s.Pooled index reads) {p : PackPool}
    (hp : s.pool? key = some p) (b : Name) :
    p.idle.count b + reads.countP (·.uses key b) ≤ 1 := by
  have honce := h.once key b
  rwa [idleCount, hp, Option.map_some, Option.getD_some] at honce

section Taken

variable {p p' : PackPool} {bytes : Nat} {buffer : Name} {dead : List Name}
  (h : s.Pooled index reads) (hp : s.pool? key = some p)
  (htaken : PackPool.Taken p p' s s' bytes buffer dead)
include h hp htaken

/-- What is deleted was idle. -/
theorem Pooled.mem_of_dead {b : Name} (hb : b ∈ dead) : b ∈ p.live := by
  apply h.idle key p b hp
  rcases htaken.source with ⟨hidle, -⟩ | ⟨-, -, hdead, -⟩
  · rw [hidle]
    exact List.mem_cons_of_mem _ (List.mem_append_right _ hb)
  · rw [hdead] at hb
    cases hb

/-- No other pool has the buffer that is taken. -/
theorem Pooled.taken_own {key' : TargetKey} {p₀ : PackPool} (hp₀ : s.pool? key' = some p₀)
    (hb : buffer ∈ p₀.live) : key' = key ∧ buffer ∈ p.idle := by
  rcases htaken.source with ⟨hidle, -⟩ | ⟨-, -, -, hnew, -⟩
  · have hmem : buffer ∈ p.idle := hidle ▸ List.mem_cons_self
    exact ⟨h.own key' key p₀ p buffer hp₀ hp hb (h.idle key p buffer hp hmem), hmem⟩
  · exact absurd (hnew ▸ (h.numbered key' p₀ buffer hp₀ hb).1) (Nat.not_succ_le_self _)

/-- No read uses the buffer that is taken. -/
theorem Pooled.taken_unused : reads.countP (·.uses key buffer) = 0 := by
  rcases htaken.source with ⟨hidle, -⟩ | ⟨-, -, -, hnew, -⟩
  · have honce := h.count_idle_le hp buffer
    rw [hidle, List.count_cons_self] at honce
    omega
  · rw [List.countP_eq_zero]
    intro read hread huses
    have hbuffer : read.buffer = buffer := (of_decide_eq_true huses).2
    exact Nat.not_succ_le_self _ (hnew ▸ hbuffer ▸ h.reads read hread)

theorem Pooled.lastName_taken : s.device.lastName ≤ s'.device.lastName ∧
    buffer ≤ s'.device.lastName := by
  rcases htaken.source with ⟨hidle, hname⟩ | ⟨-, -, -, hnew, hname⟩
  · have hmem : buffer ∈ p.idle := hidle ▸ List.mem_cons_self
    rw [hname]
    exact ⟨Nat.le_refl _, (h.numbered key p buffer hp (h.idle key p buffer hp hmem)).1⟩
  · rw [hname, hnew]
    exact ⟨Nat.le_succ _, Nat.le_refl _⟩

theorem Pooled.taken_ne_index : buffer ≠ index := by
  rcases htaken.source with ⟨hidle, -⟩ | ⟨-, -, -, hnew, -⟩
  · have hmem : buffer ∈ p.idle := hidle ▸ List.mem_cons_self
    exact (h.numbered key p buffer hp (h.idle key p buffer hp hmem)).2
  · intro e
    exact Nat.not_succ_le_self _ (hnew ▸ e ▸ h.index_le)

/-- What is idle afterwards or has been deleted was idle before, and the buffer that was taken is
not idle. -/
theorem Pooled.idle_taken (b : Name) : p'.idle.count b + dead.count b ≤ p.idle.count b ∧
    (b = buffer → p'.idle.count b = 0) := by
  have honce := h.count_idle_le hp b
  rcases htaken.source with ⟨hidle, -⟩ | ⟨-, hidle, hdead, -⟩
  · rw [hidle, List.count_cons, List.count_append] at honce ⊢
    refine ⟨Nat.le_add_right .., fun e => ?_⟩
    rw [e, beq_self_eq_true, if_pos rfl] at honce
    rw [e]
    omega
  · rw [hidle, hdead]
    exact ⟨Nat.zero_le _, fun _ => rfl⟩

/-- A buffer that lives in the pool afterwards is in no other one. -/
theorem Pooled.own_taken {key' : TargetKey} {q : PackPool} {b : Name}
    (hq : s.pool? key' = some q) (hb : b ∈ p'.live) (hb' : b ∈ q.live) : key = key' := by
  rcases htaken.cases_live hb with ⟨⟨hb, -⟩ | rfl, -⟩
  · exact h.own key key' p q b hp hq hb hb'
  · exact (h.taken_own hp htaken hq hb').1.symm

omit h in
theorem pool?_taken (key' : TargetKey) : (s'.modifyPool key fun _ => p').pool? key' =
    if key = key' then some p' else s.pool? key' := by
  have hpool : s'.pool? = s.pool? := by
    obtain ⟨_, _, _, rfl⟩ := htaken.frame
    rfl
  obtain ⟨-, -, -, hlook⟩ := modifyPool_targets s' key fun _ => p'
  rw [hlook, hpool]
  split
  · rename_i e
    rw [← e, hp, Option.map_some]
  · rfl

/-- What is idle in the pool afterwards lives in it. -/
theorem Pooled.live_of_idle_taken {b : Name} (hb : b ∈ p'.idle) : b ∈ p'.live := by
  -- An idle buffer is idle once, so it is not also among those that were deleted.
  have honce := h.count_idle_le hp b
  have hcount := (h.idle_taken hp htaken b).1
  have hkept := List.count_pos_iff.2 hb
  have hmem : b ∈ p.idle := List.count_pos_iff.1 (by omega)
  refine (htaken.live b).2 ⟨.inl (h.idle key p b hp hmem), fun hdead => ?_⟩
  have hgone := List.count_pos_iff.2 hdead
  omega

/-- What lives in a pool afterwards is as long as the pool says. -/
theorem Pooled.stored_taken {key' : TargetKey} {q : PackPool} {b : Name}
    (hq : (s'.modifyPool key fun _ => p').pool? key' = some q) (hb : b ∈ q.live) :
    ∃ content, s'.device.buffers.get? b = some content ∧ content.length = q.capacity b := by
  rw [pool?_taken hp htaken] at hq
  split at hq
  · cases hq
    rcases htaken.cases_live hb with ⟨⟨hb, hne⟩ | rfl, hdead⟩
    · rw [htaken.contents b hne, if_neg hdead, htaken.capacity b hne, if_neg hdead]
      exact h.stored key p b hp hb
    · exact htaken.stored
  · rename_i hkeys
    -- Neither the buffer that was taken nor a deleted one is in another pool.
    have hne : b ≠ buffer := fun e => hkeys (h.taken_own hp htaken hq (e ▸ hb)).1.symm
    have hdead : b ∉ dead := fun hb' =>
      hkeys (h.own key key' p q b hp hq (h.mem_of_dead hp htaken hb') hb)
    rw [htaken.contents b hne, if_neg hdead]
    exact h.stored key' q b hq hb

/-- With the new read a buffer is still idle once or used by one read, not both. -/
theorem Pooled.once_taken (htarget : read.target = key) (hbuffer : read.buffer = buffer)
    (key' : TargetKey) (b : Name) :
    (s'.modifyPool key fun _ => p').idleCount key' b +
      (read :: reads).countP (·.uses key' b) ≤ 1 := by
  rw [List.countP_cons, idleCount, pool?_taken hp htaken]
  by_cases hkeys : key = key'
  · subst hkeys
    rw [if_pos rfl, Option.map_some, Option.getD_some]
    obtain ⟨hidle, hnone⟩ := h.idle_taken hp htaken b
    by_cases e : b = buffer
    · subst e
      rw [hnone rfl, h.taken_unused hp htaken]
      split <;> omega
    · have huses : read.uses key b = false :=
        decide_eq_false fun huses => e (huses.2.symm.trans hbuffer)
      have honce := h.count_idle_le hp b
      rw [huses, if_neg Bool.false_ne_true]
      omega
  · have huses : read.uses key' b = false :=
      decide_eq_false fun huses => hkeys (htarget.symm.trans huses.1)
    rw [if_neg hkeys, huses, if_neg Bool.false_ne_true]
    exact h.once key' b

/-- A buffer that has been taken serves the new read. -/
theorem Pooled.taken (hkey : s.IsLive key) (htarget : read.target = key)
    (hbuffer : read.buffer = buffer) :
    (s'.modifyPool key fun _ => p').Pooled index (read :: reads) := by
  obtain ⟨hname, hle⟩ := h.lastName_taken hp htaken
  have hpool := pool?_taken hp htaken
  have hlive : (s'.modifyPool key fun _ => p').IsLive = s.IsLive := by
    obtain ⟨-, -, hlive, -⟩ := modifyPool_targets s' key fun _ => p'
    rw [hlive]
    obtain ⟨_, _, _, rfl⟩ := htaken.frame
    rfl
  -- Pool by pool: that of the target gives up a buffer and perhaps more, the others are as they
  -- were.
  constructor
  case index_le => exact Nat.le_trans h.index_le hname
  case numbered =>
    intro key' q b hq hb
    rw [hpool] at hq
    split at hq
    · cases hq
      rcases htaken.cases_live hb with ⟨⟨hb, -⟩ | rfl, -⟩
      · obtain ⟨hle', hne⟩ := h.numbered key p b hp hb
        exact ⟨Nat.le_trans hle' hname, hne⟩
      · exact ⟨hle, h.taken_ne_index hp htaken⟩
    · obtain ⟨hle', hne⟩ := h.numbered key' q b hq hb
      exact ⟨Nat.le_trans hle' hname, hne⟩
  case own =>
    intro key₁ key₂ q₁ q₂ b h₁ h₂ hb₁ hb₂
    rw [hpool] at h₁ h₂
    split at h₁ <;> split at h₂
    · rename_i e₁ e₂
      exact e₁.symm.trans e₂
    · rename_i e₁ _
      cases h₁
      exact e₁.symm.trans (h.own_taken hp htaken h₂ hb₁ hb₂)
    · rename_i e₂
      cases h₂
      exact (h.own_taken hp htaken h₁ hb₂ hb₁).symm.trans e₂
    · exact h.own key₁ key₂ q₁ q₂ b h₁ h₂ hb₁ hb₂
  case stored => exact fun key' q b hq hb => h.stored_taken hp htaken hq hb
  case valid =>
    intro key' q b hq hcapacity
    rw [hpool] at hq
    split at hq
    · cases hq
      rw [htaken.live]
      by_cases e : b = buffer
      · exact ⟨.inr e, e ▸ htaken.notDead⟩
      · rw [htaken.capacity b e] at hcapacity
        split at hcapacity
        · cases hcapacity
        · rename_i hdead
          exact ⟨.inl (h.valid key p b hp hcapacity), hdead⟩
    · exact h.valid key' q b hq hcapacity
  case idle =>
    intro key' q b hq hb
    rw [hpool] at hq
    split at hq
    · cases hq
      exact h.live_of_idle_taken hp htaken hb
    · exact h.idle key' q b hq hb
  case once => exact h.once_taken hp htaken htarget hbuffer
  case reads =>
    intro read' hread'
    rcases List.mem_cons.1 hread' with rfl | hread'
    · exact hbuffer ▸ hle
    · exact Nat.le_trans (h.reads read' hread') hname
  case freed =>
    intro key' q hq hgone
    rw [hlive] at hgone
    rw [hpool] at hq
    split at hq
    · rename_i e
      exact absurd (e ▸ hkey) hgone
    · exact h.freed key' q hq hgone

/-- The reads that are under way keep their buffers. -/
theorem Pooled.holds_taken (hread : read ∈ reads) (hholds : s.Holds read data) :
    (s'.modifyPool key fun _ => p').Holds read data ∧
      ((s'.modifyPool key fun _ => p').bufferIsValid read = true → read.buffer ≠ buffer) := by
  have hpos : 0 < reads.countP (·.uses read.target read.buffer) :=
    List.countP_pos_iff.2 ⟨read, hread, decide_eq_true ⟨rfl, rfl⟩⟩
  -- A read under way uses neither the buffer that is taken nor one that is deleted.
  have hsame (hvalid : (s'.modifyPool key fun _ => p').bufferIsValid read = true) :
      s.bufferIsValid read = true ∧ read.buffer ≠ buffer ∧ read.buffer ∉ dead := by
    obtain ⟨q, hq, hcapacity⟩ := bufferIsValid_iff.1 hvalid
    rw [pool?_taken hp htaken] at hq
    split at hq
    · rename_i e
      cases hq
      have hne : read.buffer ≠ buffer := by
        intro e'
        rw [← e, e', h.taken_unused hp htaken] at hpos
        cases hpos
      rw [htaken.capacity _ hne] at hcapacity
      split at hcapacity
      · cases hcapacity
      · rename_i hdead
        exact ⟨bufferIsValid_iff.2 ⟨p, e ▸ hp, hcapacity⟩, hne, hdead⟩
    · rename_i hkeys
      have hmem := h.valid _ q _ hq hcapacity
      refine ⟨bufferIsValid_iff.2 ⟨q, hq, hcapacity⟩, fun e => ?_, fun hdead => ?_⟩
      · exact hkeys (h.taken_own hp htaken hq (e ▸ hmem)).1.symm
      · exact hkeys (h.own key _ p q _ hp hq (h.mem_of_dead hp htaken hdead) hmem)
  refine ⟨hholds.of (fun hvalid => (hsame hvalid).1) fun hvalid => ?_,
    fun hvalid => (hsame hvalid).2.1⟩
  obtain ⟨-, hne, hdead⟩ := hsame hvalid
  exact (htaken.contents _ hne).trans (if_neg hdead)

/-- The buffer of a read that is under way is neither taken nor deleted. -/
theorem Pooled.valid_taken (hread : read ∈ reads) (hvalid : s.bufferIsValid read = true) :
    (s'.modifyPool key fun _ => p').bufferIsValid read = true := by
  obtain ⟨q, hq, hcapacity⟩ := bufferIsValid_iff.1 hvalid
  rw [bufferIsValid_iff, pool?_taken hp htaken]
  by_cases hkeys : key = read.target
  · obtain rfl : p = q := Option.some.inj (hp.symm.trans (hkeys ▸ hq))
    have hpos : 0 < reads.countP (·.uses key read.buffer) :=
      List.countP_pos_iff.2 ⟨read, hread, decide_eq_true ⟨hkeys.symm, rfl⟩⟩
    have honce := h.count_idle_le hp read.buffer
    have hne : read.buffer ≠ buffer := by
      intro e
      rw [e, h.taken_unused hp htaken] at hpos
      cases hpos
    have hdead : read.buffer ∉ dead := by
      intro hmem
      have hcount := (h.idle_taken hp htaken read.buffer).1
      have hgone := List.count_pos_iff.2 hmem
      omega
    refine ⟨p', if_pos hkeys, ?_⟩
    rwa [htaken.capacity _ hne, if_neg hdead]
  · exact ⟨q, (if_neg hkeys).trans hq, hcapacity⟩

end Taken

/-- Of a read's buffer that goes back to its pool, only what is idle is another. -/
theorem exists_pool?_recycled {key : TargetKey} {q : PackPool}
    (hq : (s.modifyPool read.target (·.recycle read.buffer)).pool? key = some q) :
    ∃ p, s.pool? key = some p ∧ q.live = p.live ∧ q.capacity = p.capacity ∧
      q.idle = if read.target = key ∧ 0 < p.capacity read.buffer then p.idle ++ [read.buffer]
        else p.idle := by
  rw [(modifyPool_targets s read.target _).2.2.2] at hq
  split at hq
  · rename_i hkey
    obtain ⟨p, hp, rfl⟩ := Option.map_eq_some_iff.1 hq
    refine ⟨p, hp, p.live_recycle _, p.capacity_recycle _, ?_⟩
    rw [p.idle_recycle]
    simp only [hkey, true_and]
  · rename_i hkey
    exact ⟨q, hq, rfl, rfl, (if_neg fun h => hkey h.1).symm⟩

/-- The buffer of a read that is over can be used again. -/
theorem Pooled.recycled (h : s.Pooled index (read :: reads)) :
    (s.modifyPool read.target (·.recycle read.buffer)).Pooled index reads := by
  obtain ⟨-, -, hlive, -⟩ := modifyPool_targets s read.target (·.recycle read.buffer)
  constructor
  case index_le => exact h.index_le
  case numbered =>
    intro key' q b hq hb
    obtain ⟨p, hp, hlive', -⟩ := exists_pool?_recycled hq
    exact h.numbered key' p b hp (hlive' ▸ hb)
  case own =>
    intro key₁ key₂ q₁ q₂ b h₁ h₂ hb₁ hb₂
    obtain ⟨p₁, hp₁, hlive₁, -⟩ := exists_pool?_recycled h₁
    obtain ⟨p₂, hp₂, hlive₂, -⟩ := exists_pool?_recycled h₂
    exact h.own key₁ key₂ p₁ p₂ b hp₁ hp₂ (hlive₁ ▸ hb₁) (hlive₂ ▸ hb₂)
  case stored =>
    intro key' q b hq hb
    obtain ⟨p, hp, hlive', hcapacity, -⟩ := exists_pool?_recycled hq
    rw [hcapacity]
    exact h.stored key' p b hp (hlive' ▸ hb)
  case valid =>
    intro key' q b hq hpos
    obtain ⟨p, hp, hlive', hcapacity, -⟩ := exists_pool?_recycled hq
    rw [hlive']
    exact h.valid key' p b hp (hcapacity ▸ hpos)
  case idle =>
    intro key' q b hq hb
    obtain ⟨p, hp, hlive', -, hidle⟩ := exists_pool?_recycled hq
    rw [hlive']
    rw [hidle] at hb
    split at hb
    · rename_i hgood
      rcases List.mem_append.1 hb with hb | hb
      · exact h.idle key' p b hp hb
      · rw [List.mem_singleton.1 hb]
        exact h.valid key' p _ hp hgood.2
    · exact h.idle key' p b hp hb
  case once =>
    intro key' b
    rw [idleCount]
    cases hq : (s.modifyPool read.target (·.recycle read.buffer)).pool? key' with
    | none =>
      have honce := h.once key' b
      rw [List.countP_cons] at honce
      rw [Option.map_none, Option.getD_none]
      omega
    | some q =>
      obtain ⟨p, hp, -, -, hidle⟩ := exists_pool?_recycled hq
      have honce := h.count_idle_le hp b
      rw [List.countP_cons] at honce
      rw [Option.map_some, Option.getD_some, hidle]
      split
      · -- The buffer was in use by the read that is over.
        rename_i hgood
        rw [List.count_append, List.count_singleton]
        split
        · rename_i e
          have huses : read.uses key' b = true := decide_eq_true ⟨hgood.1, eq_of_beq e⟩
          rw [huses, if_pos rfl] at honce
          omega
        · omega
      · omega
  case reads => exact fun read' hread' => h.reads read' (List.mem_cons_of_mem _ hread')
  case freed =>
    intro key' q hq hgone
    rw [hlive] at hgone
    obtain ⟨p, hp, hlive', -⟩ := exists_pool?_recycled hq
    rw [hlive']
    exact h.freed key' p hp hgone

/-- Giving a buffer back makes no buffer good or bad. -/
theorem bufferIsValid_recycle (s : Store State) (key : TargetKey) (buffer : Name) :
    (s.modifyPool key (·.recycle buffer)).bufferIsValid read = s.bufferIsValid read := by
  obtain ⟨-, -, -, hlook⟩ := modifyPool_targets s key (·.recycle buffer)
  apply Bool.eq_iff_iff.2
  rw [bufferIsValid_iff, bufferIsValid_iff, hlook]
  split
  · cases s.pool? read.target with
    | none => rfl
    | some p =>
      simp only [Option.map_some, Option.some.injEq, exists_eq_left', PackPool.capacity_recycle]
  · rfl

end Store

end DrawPass
