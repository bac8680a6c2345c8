/-
DrawPass/Proofs/Stocked.lean

No pixel buffer of a pool is forgotten.

`Store.Pooled` says that a buffer of a pool is idle or serves a read, and never both.  The other
half is `Store.Stocked`: every buffer of a pool has storage, and it is idle or serves a read, so
none is lost between the two.  Together they say that the buffers of a pool are its idle ones and
those of the reads whose buffers are still good, each of them once (`Stocked.live_perm`), and that
no two of these reads have one buffer (`Stocked.nodup_held`).

Reads keep the name of their buffer when it has been deleted under them.  Such a read is not
counted: the pool does not list its buffer any more.
-/
import DrawPass.Proofs.ReadStep
import Mathlib.Data.List.Nodup

namespace DrawPass

open Gl Readback Software

namespace Readback.PackPool

/-- Giving a buffer storage changes nothing but its capacity. -/
theorem reserve_parts (p : PackPool) (buffer : Name) (bytes : Nat) (s : Store State) :
    let p' := ((p.reserve buffer bytes : StateM (Store State) PackPool) s).1
    p'.limit = p.limit ∧ p'.idle = p.idle := by
  unfold reserve
  split <;> exact ⟨rfl, rfl⟩

/-- When a buffer has just been taken, no more buffers are idle than the pool is allowed. -/
theorem length_idle_acquire {p p' : PackPool} {bytes : Nat} {buffer : Name} {s s' : Store State}
    (h : (p.acquire bytes : Attempt ReadError (Store State) _).run s = (.ok (buffer, p'), s')) :
    p'.limit = p.limit ∧ p'.idle.length ≤ p.limit := by
  unfold acquire at h
  split at h
  · rename_i rest hidle
    obtain ⟨p₁, hrun, hlimit, hkept, -⟩ := run_delete_all
      (rest.drop p.limit).reverse { p with idle := rest.take p.limit } s
    have htrim : (trim { p with idle := rest } : StateM (Store State) PackPool) s = (p₁, _) := hrun
    rw [Attempt.run_bind_ok (Attempt.run_lift_ok htrim),
      Attempt.run_bind_ok (Attempt.run_lift ..)] at h
    cases h
    obtain ⟨hlimit', hidle'⟩ := p₁.reserve_parts buffer bytes
      ((rest.drop p.limit).reverse.foldl (fun s buffer => (perform (.deleteBuffer buffer) s).2) s)
    rw [hlimit', hidle', hkept]
    exact ⟨hlimit, List.length_take_le ..⟩
  · rename_i hidle
    obtain ⟨new, s₁, -, h⟩ := Attempt.run_bind_eq_ok.1 h
    rw [Attempt.run_bind_ok (Attempt.run_lift ..)] at h
    cases h
    obtain ⟨hlimit', hidle'⟩ :=
      reserve_parts { p with live := p.live ++ [buffer] } buffer bytes s₁
    rw [hlimit', hidle', hidle]
    exact ⟨rfl, Nat.zero_le _⟩

end Readback.PackPool

namespace Store

variable {index : Name} {reads reads' : List PendingRead} {s s' : Store State} {key : TargetKey}
  {t : Target} {read : PendingRead}

/-- Every buffer of a pool has storage, and it is idle or serves a read. -/
structure Stocked (index : Name) (reads : List PendingRead) (s : Store State) : Prop where
  pooled : s.Pooled index reads
  distinct : ∀ key p, s.pool? key = some p → p.live.Nodup
  roomy : ∀ key p b, s.pool? key = some p → b ∈ p.live → 0 < p.capacity b
  used : ∀ key p b, s.pool? key = some p → b ∈ p.live →
    0 < p.idle.count b + reads.countP (·.uses key b)

/-! ### Steps that take no buffer -/

/-- Pools may lose all their buffers. -/
theorem Stocked.of_pooled (h : s.Stocked index reads) (hpooled : s'.Pooled index reads)
    (hpool : ∀ key p, s'.pool? key = some p → p.live = [] ∨ s.pool? key = some p) :
    s'.Stocked index reads where
  pooled := hpooled
  distinct key p hp := by
    rcases hpool key p hp with hnone | hp
    · rw [hnone]
      exact List.nodup_nil
    · exact h.distinct key p hp
  roomy key p b hp hb := by
    rcases hpool key p hp with hnone | hp
    · rw [hnone] at hb
      cases hb
    · exact h.roomy key p b hp hb
  used key p b hp hb := by
    rcases hpool key p hp with hnone | hp
    · rw [hnone] at hb
      cases hb
    · exact h.used key p b hp hb

theorem Stocked.of_same (h : s.Stocked index reads) (hpooled : s'.Pooled index reads)
    (hpool : s'.pool? = s.pool?) : s'.Stocked index reads :=
  h.of_pooled hpooled fun _ _ hp => .inr (hpool ▸ hp)

theorem Stocked.released (h : s.Stocked index reads) (hend : Released key t s s')
    (ht : s.target? key = some t) : s'.Stocked index reads := by
  refine h.of_pooled (h.pooled.released hend ht) fun key' p hp => ?_
  rw [(hend.targets ht).2.2.1] at hp
  split at hp
  · cases hp
    exact .inl rfl
  · exact .inr hp

theorem Stocked.added {d : TargetDescription} {companion : Companion} (h : s.Stocked index reads)
    (hnew : Added d companion s s') : s'.Stocked index reads := by
  refine h.of_pooled (h.pooled.added hnew) fun key' p hp => ?_
  rw [hnew.targets.2.2.1] at hp
  split at hp
  · cases hp
    exact .inl rfl
  · exact .inr hp

/-- The reads may be listed in another order, and be looked at again at other times. -/
theorem Stocked.of_reads (h : s.Stocked index reads) (hpooled : s.Pooled index reads')
    (hcount : ∀ key b, reads'.countP (·.uses key b) = reads.countP (·.uses key b)) :
    s.Stocked index reads' where
  pooled := hpooled
  distinct := h.distinct
  roomy := h.roomy
  used key p b hp hb := hcount key b ▸ h.used key p b hp hb

theorem Stocked.perm (h : s.Stocked index reads) (hperm : reads'.Perm reads) :
    s.Stocked index reads' :=
  h.of_reads (h.pooled.perm hperm) fun _ _ => hperm.countP_eq _

/-- A read goes on waiting. -/
theorem Stocked.later (h : s.Stocked index (read :: reads)) (nextPoll : Nat) :
    s.Stocked index ({ read with nextPoll } :: reads) := by
  have hcount (key : TargetKey) (b : Name) :
      ({ read with nextPoll } :: reads).countP (·.uses key b) =
        (read :: reads).countP (·.uses key b) := by
    rw [List.countP_cons, List.countP_cons]
    rfl
  refine h.of_reads (h.pooled.of_reads (fun key b => Nat.le_of_eq (hcount key b))
    fun other hother => ?_) hcount
  rcases List.mem_cons.1 hother with rfl | hother
  · exact ⟨read, List.mem_cons_self, rfl⟩
  · exact ⟨other, List.mem_cons_of_mem _ hother, rfl⟩

/-- A read that uses a buffer of a pool has a good buffer. -/
theorem Stocked.valid_of_uses (h : s.Stocked index reads) {p : PackPool} {b : Name}
    (hp : s.pool? key = some p) (hb : b ∈ p.live) (huses : read.uses key b = true) :
    s.bufferIsValid read = true := by
  obtain ⟨rfl, rfl⟩ : read.target = key ∧ read.buffer = b := of_decide_eq_true huses
  exact bufferIsValid_iff.2 ⟨p, hp, h.roomy _ p _ hp hb⟩

/-- A read whose buffer has been deleted leaves nothing behind. -/
theorem Stocked.dropped (h : s.Stocked index (read :: reads))
    (hbad : s.bufferIsValid read = false) : s.Stocked index reads where
  pooled := h.pooled.tail
  distinct := h.distinct
  roomy := h.roomy
  used key p b hp hb := by
    have hused := h.used key p b hp hb
    rw [List.countP_cons_of_neg] at hused
    · exact hused
    · intro huses
      rw [h.valid_of_uses hp hb huses] at hbad
      cases hbad

/-! ### Taking a buffer and giving it back -/

/-- A buffer that has been taken serves the new read. -/
theorem Stocked.taken {p p' : PackPool} {bytes : Nat} {buffer : Name} {dead : List Name}
    (h : s.Stocked index reads) (hp : s.pool? key = some p)
    (htaken : PackPool.Taken p p' s s' bytes buffer dead) (hkey : s.IsLive key)
    (hbytes : 0 < bytes) (htarget : read.target = key) (hbuffer : read.buffer = buffer) :
    (s'.modifyPool key fun _ => p').Stocked index (read :: reads) := by
  have hpooled := h.pooled.taken hp htaken hkey htarget hbuffer
  have hlook := pool?_taken hp htaken
  constructor
  case pooled => exact hpooled
  case distinct =>
    intro key' q hq
    rw [hlook] at hq
    split at hq
    · cases hq
      exact htaken.nodup_live (h.distinct key p hp) fun b hb => (h.pooled.numbered key p b hp hb).1
    · exact h.distinct key' q hq
  case roomy =>
    intro key' q b hq hb
    rw [hlook] at hq
    split at hq
    · cases hq
      rcases htaken.cases_live hb with ⟨⟨hb, hne⟩ | rfl, hdead⟩
      · rw [htaken.capacity b hne, if_neg hdead]
        exact h.roomy key p b hp hb
      · exact Nat.lt_of_lt_of_le hbytes htaken.enough
    · exact h.roomy key' q b hq hb
  case used =>
    intro key' q b hq hb
    rw [hlook] at hq
    rw [List.countP_cons]
    split at hq
    · rename_i e
      subst e
      cases hq
      rcases htaken.cases_live hb with ⟨⟨hb, hne⟩ | rfl, hdead⟩
      · -- What was idle and has not been deleted is idle.
        have hsame : p'.idle.count b = p.idle.count b := by
          rcases htaken.source with ⟨hidle, -⟩ | ⟨hidle, hidle', -⟩
          · rw [hidle, List.count_cons_of_ne hne.symm, List.count_append,
              List.count_eq_zero.2 hdead, Nat.add_zero]
          · rw [hidle, hidle']
        have hused := h.used key p b hp hb
        omega
      · have huses : read.uses key b = true := decide_eq_true ⟨htarget, hbuffer⟩
        rw [huses, if_pos rfl]
        omega
    · have hused := h.used key' q b hq hb
      omega

/-- The buffer of a read that is over is idle. -/
theorem Stocked.recycled (h : s.Stocked index (read :: reads)) :
    (s.modifyPool read.target (·.recycle read.buffer)).Stocked index reads := by
  constructor
  case pooled => exact h.pooled.recycled
  case distinct =>
    intro key' q hq
    obtain ⟨p, hp, hlive, -⟩ := exists_pool?_recycled hq
    rw [hlive]
    exact h.distinct key' p hp
  case roomy =>
    intro key' q b hq hb
    obtain ⟨p, hp, hlive, hcapacity, -⟩ := exists_pool?_recycled hq
    rw [hcapacity]
    exact h.roomy key' p b hp (hlive ▸ hb)
  case used =>
    intro key' q b hq hb
    obtain ⟨p, hp, hlive, -, hidle⟩ := exists_pool?_recycled hq
    have hused := h.used key' p b hp (hlive ▸ hb)
    rw [List.countP_cons] at hused
    by_cases huses : read.uses key' b = true
    · -- The buffer that lives is good, so it is idle now.
      obtain ⟨hkey, rfl⟩ : read.target = key' ∧ read.buffer = b := of_decide_eq_true huses
      rw [hidle, if_pos ⟨hkey, h.roomy key' p _ hp (hlive ▸ hb)⟩, List.count_append,
        List.count_singleton_self]
      rw [if_pos huses] at hused
      omega
    · have hcount : p.idle.count b ≤ q.idle.count b := by
        rw [hidle]
        split
        · rw [List.count_append]
          exact Nat.le_add_right ..
        · exact Nat.le_refl _
      rw [if_neg huses] at hused
      omega

/-! ### What a pool consists of -/

/-- The reads of a target whose buffers are good, by their buffers. -/
def heldBuffers (s : Store State) (key : TargetKey) : List Name :=
  (s.pending.filter fun read => read.target = key ∧ s.bufferIsValid read = true).map
    PendingRead.buffer

/-- The good buffers of all reads. -/
def held (s : Store State) : List Name :=
  (s.pending.filter s.bufferIsValid).map PendingRead.buffer

/-- How many of some reads have a buffer. -/
theorem count_buffers (test : PendingRead → Bool) (b : Name) :
    ((reads.filter test).map PendingRead.buffer).count b =
      reads.countP fun read => read.buffer == b && test read := by
  rw [List.count_eq_countP, List.countP_map, List.countP_filter]
  rfl

/-- The buffers of a pool are the idle ones and those of the reads, each of them once. -/
theorem Stocked.live_perm (h : s.Stocked index s.pending) {p : PackPool}
    (hp : s.pool? key = some p) : p.live.Perm (p.idle ++ s.heldBuffers key) := by
  refine List.perm_iff_count.2 fun b => ?_
  rw [List.count_append, heldBuffers, count_buffers]
  by_cases hb : b ∈ p.live
  · have hsame : (s.pending.countP fun read => read.buffer == b &&
        decide (read.target = key ∧ s.bufferIsValid read = true)) =
          s.pending.countP (·.uses key b) := by
      refine List.countP_congr fun read _ => ?_
      simp only [Bool.and_eq_true, beq_iff_eq, decide_eq_true_eq, PendingRead.uses]
      refine ⟨fun hread => ⟨hread.2.1, hread.1⟩, fun hread => ⟨hread.2, hread.1, ?_⟩⟩
      exact h.valid_of_uses hp hb (decide_eq_true hread)
    have honce := h.pooled.count_idle_le hp b
    have hused := h.used key p b hp hb
    rw [hsame, List.count_eq_one_of_mem (h.distinct key p hp) hb]
    omega
  · have hidle : p.idle.count b = 0 :=
      List.count_eq_zero.2 fun hmem => hb (h.pooled.idle key p b hp hmem)
    rw [List.count_eq_zero.2 hb, hidle, Nat.zero_add, eq_comm, List.countP_eq_zero]
    intro read _ hread
    simp only [Bool.and_eq_true, beq_iff_eq, decide_eq_true_eq] at hread
    obtain ⟨rfl, rfl, hvalid⟩ := hread
    obtain ⟨p', hp', hmem⟩ := h.pooled.mem_live hvalid
    cases hp.symm.trans hp'
    exact hb hmem

/-- No two reads have one good buffer. -/
theorem Stocked.nodup_held (h : s.Stocked index s.pending) : s.held.Nodup := by
  refine List.nodup_iff_count.2 fun b => ?_
  rw [held, count_buffers]
  by_cases hsome : ∃ read ∈ s.pending, s.bufferIsValid read = true ∧ read.buffer = b
  · obtain ⟨first, -, hvalid, rfl⟩ := hsome
    obtain ⟨p, hp, hmem⟩ := h.pooled.mem_live hvalid
    -- A buffer is in one pool, so all reads that have it are of one target.
    refine Nat.le_trans (List.countP_mono_left fun read _ hread => ?_)
      (Nat.le_trans (Nat.le_add_left ..) (h.pooled.once first.target first.buffer))
    simp only [Bool.and_eq_true, beq_iff_eq] at hread
    obtain ⟨hbuffer, hvalid'⟩ := hread
    obtain ⟨p', hp', hmem'⟩ := h.pooled.mem_live hvalid'
    exact decide_eq_true ⟨h.pooled.own _ _ p' p _ hp' hp (hbuffer ▸ hmem') hmem, hbuffer⟩
  · rw [List.countP_eq_zero.2 fun read hread hboth => hsome ?_]
    · exact Nat.zero_le _
    · simp only [Bool.and_eq_true, beq_iff_eq] at hboth
      exact ⟨read, hread, hboth.2, hboth.1⟩

end Store

end DrawPass
