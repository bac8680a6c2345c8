/-
DrawPass/Proofs/Pool.lean

Taking pixel buffers from a pool and giving them back.

What `PackPool.acquire` leaves is said by `Taken`: the buffer that was handed out, the idle
buffers that were deleted to keep to the pool's limit, and storage for as many bytes as
were asked for.  Everything else in the pool and among the buffers of the device is as it
was.  On the device in memory a buffer can always be had (`run_acquire`).
-/
import DrawPass.Proofs.Release

namespace DrawPass

open Gl Readback Software

namespace Readback.PackPool

theorem capacity_insert (p : PackPool) (buffer b : Name) (bytes : Nat) :
    ({ p with capacities := p.capacities.insert buffer bytes } : PackPool).capacity b =
      if b = buffer then bytes else p.capacity b := by
  unfold capacity
  rw [Table.get?_insert]
  by_cases h : b = buffer
  · rw [if_pos h, if_pos h.symm, Option.getD_some]
  · rw [if_neg h, if_neg (Ne.symm h)]

/-- A buffer that comes back was never taken out: only what is idle differs. -/
@[simp] theorem live_recycle (p : PackPool) (buffer : Name) :
    (p.recycle buffer).live = p.live := by
  unfold recycle
  split <;> rfl

@[simp] theorem capacities_recycle (p : PackPool) (buffer : Name) :
    (p.recycle buffer).capacities = p.capacities := by
  unfold recycle
  split <;> rfl

@[simp] theorem capacity_recycle (p : PackPool) (buffer : Name) :
    (p.recycle buffer).capacity = p.capacity := by
  unfold capacity
  rw [capacities_recycle]

theorem idle_recycle (p : PackPool) (buffer : Name) :
    (p.recycle buffer).idle = if 0 < p.capacity buffer then p.idle ++ [buffer] else p.idle := by
  unfold recycle isValid
  by_cases h : 0 < p.capacity buffer
  · rw [if_pos h, if_pos (decide_eq_true h)]
  · rw [if_neg h, if_neg (Bool.eq_false_iff.1 (decide_eq_false h))]

/-- Deleting buffers takes them out of the pool. -/
theorem run_delete_all {σ : Type} [Device σ] (dead : List Name) (p : PackPool) (s : σ) :
    ∃ p' : PackPool, (dead.foldlM delete p : StateM σ PackPool) s =
        (p', dead.foldl (fun s buffer => (perform (.deleteBuffer buffer) s).2) s) ∧
      p'.limit = p.limit ∧ p'.idle = p.idle ∧ p'.live.Sublist p.live ∧
      (∀ b, b ∈ p'.live ↔ b ∈ p.live ∧ b ∉ dead) ∧
      ∀ b, p'.capacity b = if b ∈ dead then 0 else p.capacity b := by
  induction dead generalizing p s with
  | nil => exact ⟨p, rfl, rfl, rfl, .refl _, fun b => by simp, fun b => by simp⟩
  | cons buffer dead ih =>
    obtain ⟨p', hrun, hlimit, hidle, horder, hlive, hcapacity⟩ := ih
      { p with
        live := p.live.filter (· != buffer)
        capacities := p.capacities.insert buffer 0 }
      (perform (.deleteBuffer buffer) s).2
    refine ⟨p', ?_, hlimit, hidle, horder.trans List.filter_sublist, fun b => ?_, fun b => ?_⟩
    · rw [List.foldlM_cons]
      exact hrun
    · simp only [hlive, List.mem_filter, bne_iff_ne, List.mem_cons, not_or, and_assoc]
    · have hdead : ({ p with
          live := p.live.filter (· != buffer)
          capacities := p.capacities.insert buffer 0 } : PackPool).capacity b =
            if b = buffer then 0 else p.capacity b := capacity_insert p buffer b 0
      rw [hcapacity, hdead]
      by_cases h : b = buffer <;> simp [h]

/-- What a pool asks of the device when a buffer is reserved. -/
def Reserved (buffer : Name) (d d' : State) : Prop := d' = d ∨ ∃ bytes,
  d' = (d.perform (.bufferReserve Constant.pixelPackBuffer buffer bytes Constant.streamRead)).2

/-- A buffer has been taken from a pool, and idle ones have been deleted. -/
structure Taken (p p' : PackPool) (s s' : Store State) (bytes : Nat) (buffer : Name)
    (dead : List Name) : Prop where
  /-- Either an idle buffer was there, or a new one has been made. -/
  source : (p.idle = buffer :: (p'.idle ++ dead) ∧ s'.device.lastName = s.device.lastName) ∨
    (p.idle = [] ∧ p'.idle = [] ∧ dead = [] ∧ buffer = s.device.lastName + 1 ∧
      s'.device.lastName = s.device.lastName + 1)
  notDead : buffer ∉ dead
  live : ∀ b, b ∈ p'.live ↔ (b ∈ p.live ∨ b = buffer) ∧ b ∉ dead
  order : p'.live.Sublist p.live ∨ buffer = s.device.lastName + 1 ∧ p'.live = p.live ++ [buffer]
  capacity : ∀ b ≠ buffer, p'.capacity b = if b ∈ dead then 0 else p.capacity b
  enough : bytes ≤ p'.capacity buffer
  contents : ∀ b ≠ buffer, s'.device.buffers.get? b =
    if b ∈ dead then none else s.device.buffers.get? b
  stored : ∃ content, s'.device.buffers.get? buffer = some content ∧
    content.length = p'.capacity buffer
  frame : ∃ buffers lastName log,
    s' = { s with device := { s.device with buffers, lastName, log } }
  device : ∃ d, (dead = [] ∧ buffer = s.device.lastName + 1 ∧
      d = (s.device.perform .createBuffer).2 ∨ d = s.device.deleteBuffers dead.reverse) ∧
    Reserved buffer d s'.device

/-- A buffer that has been made has a number that none of the pool had, so none is there twice. -/
theorem Taken.nodup_live {p p' : PackPool} {s s' : Store State} {bytes : Nat} {buffer : Name}
    {dead : List Name} (h : Taken p p' s s' bytes buffer dead) (hdistinct : p.live.Nodup)
    (hnumbered : ∀ b ∈ p.live, b ≤ s.device.lastName) : p'.live.Nodup := by
  rcases h.order with horder | ⟨hnew, horder⟩
  · exact hdistinct.sublist horder
  · rw [horder, List.nodup_append]
    refine ⟨hdistinct, by simp, fun b hb b' hb' e => ?_⟩
    rw [e, List.mem_singleton.1 hb', hnew] at hb
    exact Nat.not_succ_le_self _ (hnumbered _ hb)

/-- A buffer that lives afterwards is the one that was taken or lived before. -/
theorem Taken.cases_live {p p' : PackPool} {s s' : Store State} {bytes : Nat} {buffer : Name}
    {dead : List Name} (h : Taken p p' s s' bytes buffer dead) {b : Name} (hb : b ∈ p'.live) :
    (b ∈ p.live ∧ b ≠ buffer ∨ b = buffer) ∧ b ∉ dead := by
  obtain ⟨hb, hdead⟩ := (h.live b).1 hb
  by_cases e : b = buffer
  · exact ⟨.inr e, hdead⟩
  · exact ⟨.inl ⟨hb.resolve_right e, e⟩, hdead⟩

/-- A buffer has storage for the bytes asked for afterwards. -/
theorem run_reserve (p : PackPool) (buffer : Name) (bytes : Nat) (s : Store State)
    {content : Bytes} (hcontent : s.device.buffers.get? buffer = some content)
    (hlength : content.length = p.capacity buffer) :
    ∃ (p' : PackPool) (buffers : Table Name Bytes) (log : List Software.Call),
      (p.reserve buffer bytes : StateM (Store State) PackPool) s =
        (p', { s with device := { s.device with buffers, log } }) ∧
      p'.idle = p.idle ∧ p'.live = p.live ∧ bytes ≤ p'.capacity buffer ∧
      (∀ b ≠ buffer, p'.capacity b = p.capacity b ∧ buffers.get? b = s.device.buffers.get? b) ∧
      (∃ content', buffers.get? buffer = some content' ∧ content'.length = p'.capacity buffer) ∧
      Reserved buffer s.device { s.device with buffers, log } := by
  unfold reserve
  split
  · refine ⟨_, s.device.buffers.modify buffer fun _ => List.replicate bytes 0, _, rfl, rfl, rfl,
      ?_, fun b hb => ⟨?_, ?_⟩, ⟨List.replicate bytes 0, ?_, ?_⟩, .inr ⟨bytes, rfl⟩⟩
    · exact Nat.le_of_eq (by rw [capacity_insert, if_pos rfl])
    · rw [capacity_insert, if_neg hb]
    · rw [Table.get?_modify, if_neg hb.symm]
    · rw [Table.get?_modify, if_pos rfl, hcontent, Option.map_some]
    · rw [capacity_insert, if_pos rfl, List.length_replicate]
  · rename_i hcapacity
    exact ⟨p, s.device.buffers, s.device.log, rfl, rfl, rfl, Nat.not_lt.1 hcapacity,
      fun _ _ => ⟨rfl, rfl⟩, ⟨content, hcontent, hlength⟩, .inl rfl⟩

/-- An idle buffer is taken, and those beyond the limit are deleted. -/
theorem run_acquire_idle {p : PackPool} {s : Store State} {buffer : Name} {rest : List Name}
    {content : Bytes} (bytes : Nat) (hidle : p.idle = buffer :: rest) (hlive : buffer ∈ p.live)
    (hnew : buffer ∉ rest) (hcontent : s.device.buffers.get? buffer = some content)
    (hlength : content.length = p.capacity buffer) :
    ∃ p' s', (p.acquire bytes : Attempt ReadError (Store State) _).run s =
        (.ok (buffer, p'), s') ∧ Taken p p' s s' bytes buffer (rest.drop p.limit) := by
  -- Buffers are idle once, so the one that is taken is not among those that go.
  have hnotDead : buffer ∉ rest.drop p.limit := fun h => hnew (List.mem_of_mem_drop h)
  obtain ⟨p₁, hrun₁, -, hidle₁, horder₁, hlive₁, hcapacity₁⟩ := run_delete_all
    (rest.drop p.limit).reverse { p with idle := rest.take p.limit } s
  obtain ⟨buffers, log, hdeleted, hget⟩ := Store.foldl_deleteBuffer (rest.drop p.limit).reverse s
  have hdevice : { s.device with buffers, log } = s.device.deleteBuffers (rest.drop p.limit).reverse :=
    (congrArg Store.device hdeleted).symm.trans (Store.device_foldl_deleteBuffer ..)
  rw [hdeleted] at hrun₁
  simp only [List.mem_reverse] at hlive₁ hcapacity₁ hget
  have hcontent₁ : buffers.get? buffer = some content := by
    rw [hget, if_neg hnotDead, hcontent]
  have hlength₁ : content.length = p₁.capacity buffer := by
    rw [hcapacity₁, if_neg hnotDead, hlength]
    rfl
  obtain ⟨p', buffers', log', hrun', hidle', hlive', henough, hothers, hstored, hreserved⟩ :=
    run_reserve p₁ buffer bytes { s with device := { s.device with buffers, log } } hcontent₁ hlength₁
  refine ⟨p', _, ?_, ⟨?_, hnotDead, fun b => ?_, .inl (hlive' ▸ horder₁), fun b hb => ?_, henough,
    fun b hb => ?_, hstored, ⟨buffers', s.device.lastName, log', rfl⟩,
    ⟨_, .inr hdevice, hreserved⟩⟩⟩
  · unfold acquire
    split
    · rename_i buffer' rest' hidle₂
      rw [hidle] at hidle₂
      cases hidle₂
      refine Eq.trans (Attempt.run_bind_ok (Attempt.run_lift_ok hrun₁)) ?_
      exact Attempt.run_bind_ok (Attempt.run_lift_ok hrun')
    · rename_i hidle₂
      rw [hidle] at hidle₂
      cases hidle₂
  -- What was idle is the buffer that is taken, what stays idle, and what goes.
  · left
    rw [hidle, hidle', hidle₁, List.take_append_drop]
    exact ⟨rfl, rfl⟩
  · rw [hlive', hlive₁]
    constructor
    · exact fun h => ⟨.inl h.1, h.2⟩
    · rintro ⟨h | rfl, hdead⟩
      · exact ⟨h, hdead⟩
      · exact ⟨hlive, hdead⟩
  · rw [(hothers b hb).1, hcapacity₁]
    rfl
  · exact (hothers b hb).2.trans (hget b)

/-- Where no buffer is idle, a new one is made. -/
theorem run_acquire_new {p : PackPool} {s : Store State} (bytes : Nat) (hidle : p.idle = [])
    (hcapacity : p.capacity (s.device.lastName + 1) = 0) :
    ∃ p' s', (p.acquire bytes : Attempt ReadError (Store State) _).run s =
        (.ok (s.device.lastName + 1, p'), s') ∧
      Taken p p' s s' bytes (s.device.lastName + 1) [] := by
  let buffer := s.device.lastName + 1
  let s₁ : Store State := { s with device := { s.device with
    lastName := buffer
    buffers := s.device.buffers.insert buffer []
    log := .createBuffer buffer :: s.device.log } }
  -- The new buffer is empty and has no storage until it is reserved.
  have hget (b : Name) : s₁.device.buffers.get? b =
      if buffer = b then some [] else s.device.buffers.get? b := Table.get?_insert ..
  obtain ⟨p', buffers, log, hrun, hidle', hlive, henough, hothers, hstored, hreserved⟩ := run_reserve
    { p with live := p.live ++ [buffer] } buffer bytes s₁ ((hget buffer).trans (if_pos rfl))
    hcapacity.symm
  refine ⟨p', _, ?_, ⟨.inr ⟨hidle, hidle'.trans hidle, rfl, rfl, rfl⟩, List.not_mem_nil,
    fun b => ?_, .inr ⟨rfl, hlive⟩, fun b hb => ?_, henough, fun b hb => ?_, hstored,
    ⟨buffers, buffer, log, rfl⟩, ⟨s₁.device, .inl ⟨rfl, rfl, rfl⟩, hreserved⟩⟩⟩
  · have hcreate : (Attempt.create .gl .createBuffer :
        Attempt ReadError (Store State) Name).run s = (.ok buffer, s₁) := rfl
    unfold acquire
    split
    · rename_i hidle₂
      rw [hidle] at hidle₂
      cases hidle₂
    · refine Eq.trans (Attempt.run_bind_ok hcreate) ?_
      exact Attempt.run_bind_ok (Attempt.run_lift_ok hrun)
  · rw [hlive, List.mem_append, List.mem_singleton]
    exact ⟨fun h => ⟨h, List.not_mem_nil⟩, And.left⟩
  · rw [if_neg List.not_mem_nil]
    exact (hothers b hb).1
  · rw [if_neg List.not_mem_nil]
    exact (hothers b hb).2.trans ((hget b).trans (if_neg hb.symm))

end Readback.PackPool

end DrawPass
