/-
DrawPass/Proofs/Polled.lean

What one poll does.

A poll takes the reads that are due out of the queue and looks at each of them once, in their
order.  What a look does depends on two things (`Store.answer`): whether the buffer of the read is
still good, and if so what the device says about its fence.  A look finds what the looks before it
have left (`Store.dueLooks`), but it changes neither of the two for another read, unless the reads
have one fence.  So each look is the one that its read would have had alone (`LooksAt.answers`), and
what the poll does is what these looks do, one behind the other (`poll_fair`).

Nothing here asks how the queue has come about.
-/
import DrawPass.Proofs.ReadStep

namespace DrawPass

open Gl Readback Software

/-- The fence that a call waits for. -/
def Software.Call.awaited? : Software.Call → Option Name
  | .clientWaitSync fence => some fence
  | _ => none

namespace Store

variable {s s' s'' : Store State} {read : PendingRead} {looks looks' : List Look}

theorem answer_eq_none_iff : s.answer read = none ↔ s.bufferIsValid read = false := by
  unfold answer
  cases s.bufferIsValid read <;> simp

/-- What these looks do, one behind the other. -/
structure Polled (s : Store State) (looks : List Look) (s' : Store State) : Prop where
  calls : s'.device.calls = s.device.calls ++ looks.flatMap Look.calls
  pending : s'.pending = s.pending ++ (looks.filter Look.waits).map s.later
  delivered : s'.delivered = s.delivered ++ (looks.filter Look.delivers).map s.delivery
  /-- The fences of other reads are left alone. -/
  fences : ∀ fence ∉ looks.map (·.read.fence),
    s'.device.fences.get? fence = s.device.fences.get? fence
  /-- A fence that was waited for in vain comes one wait nearer. -/
  nearer : (looks.map (·.read.fence)).Nodup → ∀ look ∈ looks, look.waits →
    s'.device.fences.get? look.read.fence =
      (s.device.fences.get? look.read.fence).map (· - 1)
  valid : ∀ read, s'.bufferIsValid read = s.bufferIsValid read
  buffers : s'.device.buffers = s.device.buffers
  clock : s'.clock = s.clock
  pollInterval : s'.pollInterval = s.pollInterval
  failing : s'.device.failFenceWaits = s.device.failFenceWaits

namespace Polled

theorem refl (s : Store State) : Polled s [] s where
  calls := (List.append_nil _).symm
  pending := (List.append_nil _).symm
  delivered := (List.append_nil _).symm
  fences _ _ := rfl
  nearer _ := List.forall_mem_nil _
  valid _ := rfl
  buffers := rfl
  clock := rfl
  pollInterval := rfl
  failing := rfl

/-- What a look depends on, if the read has a fence of its own. -/
theorem answer_eq (h : Polled s looks s') (hfence : read.fence ∉ looks.map (·.read.fence)) :
    s'.answer read = s.answer read := by
  have hwait : (s'.device.waitFence read.fence).1 = (s.device.waitFence read.fence).1 := by
    have hfences : (s'.device.record (.clientWaitSync read.fence)).fences.get? read.fence =
        (s.device.record (.clientWaitSync read.fence)).fences.get? read.fence := h.fences _ hfence
    have hfailing : (s'.device.record (.clientWaitSync read.fence)).failFenceWaits =
        (s.device.record (.clientWaitSync read.fence)).failFenceWaits := h.failing
    unfold State.waitFence
    dsimp only
    rw [hfences, hfailing]
    split
    · rfl
    · split
      · rfl
      · split <;> rfl
  rw [answer, answer, h.valid, hwait]

theorem trans (h : Polled s looks s') (h' : Polled s' looks' s'') :
    Polled s (looks ++ looks') s'' where
  calls := by rw [h'.calls, h.calls, List.append_assoc, List.flatMap_append]
  pending := by
    -- No look changes the clock, so what waits is the same when it is looked at later.
    have hlater : s'.later = s.later := by
      funext look
      rw [later, later, h.clock, h.pollInterval]
    rw [h'.pending, h.pending, hlater, List.append_assoc, List.filter_append, List.map_append]
  delivered := by
    -- No look writes to a buffer, so what is delivered is the same as well.
    have hdelivery : s'.delivery = s.delivery := by
      funext look
      rw [delivery, delivery, received, received, h.buffers]
    rw [h'.delivered, h.delivered, hdelivery, List.append_assoc, List.filter_append,
      List.map_append]
  fences fence hfence := by
    rw [List.map_append, List.mem_append, not_or] at hfence
    exact (h'.fences fence hfence.2).trans (h.fences fence hfence.1)
  nearer hdistinct look hlook hwaits := by
    rw [List.map_append, List.nodup_append] at hdistinct
    obtain ⟨hfirst, hsecond, hapart⟩ := hdistinct
    rcases List.mem_append.1 hlook with hlook | hlook
    · have hmem := List.mem_map_of_mem (f := (·.read.fence)) hlook
      rw [h'.fences _ fun hmem' => hapart _ hmem _ hmem' rfl]
      exact h.nearer hfirst look hlook hwaits
    · have hmem := List.mem_map_of_mem (f := (·.read.fence)) hlook
      rw [h'.nearer hsecond look hlook hwaits, h.fences _ fun hmem' => hapart _ hmem' _ hmem rfl]
  valid read := (h'.valid read).trans (h.valid read)
  buffers := h'.buffers.trans h.buffers
  clock := h'.clock.trans h.clock
  pollInterval := h'.pollInterval.trans h.pollInterval
  failing := h'.failing.trans h.failing

end Polled

/-- One look. -/
theorem step_polled (read : PendingRead) (s : Store State) :
    (step read s).1 = (⟨read, s.answer read⟩ : Look).delivers ∧
      Polled s [⟨read, s.answer read⟩] (step read s).2 := by
  obtain ⟨fences, hrun, hothers, htimeout, -⟩ := run_step read s
  rw [hrun]
  refine ⟨rfl, ?_⟩
  -- The log has the newest call first, the calls of a look are in order.
  have hcalls (look : Look) : (look.calls.reverse ++ s.device.log).reverse =
      s.device.log.reverse ++ [look].flatMap Look.calls := by simp
  have hfences (look : Look) (hread : look.read = read) (fence : Name)
      (hfence : fence ∉ [look].map (·.read.fence)) :
      fences.get? fence = s.device.fences.get? fence :=
    hothers fence fun e => hfence (by simp [e, hread])
  -- A look without an answer asks nothing; of the answers only a timeout keeps the read waiting.
  cases hanswer : s.answer read with
  | none =>
    refine ⟨hcalls _, (List.append_nil _).symm, (List.append_nil _).symm, hfences _ rfl,
      fun _ look hlook hwaits => ?_, fun _ => rfl, rfl, rfl, rfl, rfl⟩
    rw [List.mem_singleton.1 hlook] at hwaits
    cases hwaits
  | some answer =>
    cases answer with
    | timeout =>
      refine ⟨hcalls _, rfl, (List.append_nil _).symm, hfences _ rfl, fun _ look hlook _ => ?_,
        fun _ => rfl, rfl, rfl, rfl, rfl⟩
      rw [List.mem_singleton.1 hlook]
      exact (htimeout hanswer).2
    | signaled =>
      refine ⟨hcalls _, (List.append_nil _).symm, rfl, hfences _ rfl,
        fun _ look hlook hwaits => ?_, fun _ => bufferIsValid_recycle _ _ _, rfl, rfl, rfl, rfl⟩
      rw [List.mem_singleton.1 hlook] at hwaits
      cases hwaits
    | failed =>
      refine ⟨hcalls _, (List.append_nil _).symm, (List.append_nil _).symm, hfences _ rfl,
        fun _ look hlook hwaits => ?_, fun _ => bufferIsValid_recycle _ _ _, rfl, rfl, rfl, rfl⟩
      rw [List.mem_singleton.1 hlook] at hwaits
      cases hwaits

/-! ### One poll -/

/-- Reads are looked at one behind the other; each look finds what those before it have left. -/
def looksInTurn (s : Store State) : List PendingRead → List Look
  | [] => []
  | read :: due => ⟨read, s.answer read⟩ :: (step read s).2.looksInTurn due

/-- Each read is looked at once: none is asked for its fence whose buffer is bad, and the device
says what it would have said before the first look if no two reads have one fence. -/
structure LooksAt (s : Store State) (due : List PendingRead) (looks : List Look) : Prop where
  reads : looks.map Look.read = due
  asked : ∀ look ∈ looks, look.answer = none ↔ s.bufferIsValid look.read = false
  answers : (due.map PendingRead.fence).Nodup →
    looks = due.map fun read => ⟨read, s.answer read⟩

/-- Reads are looked at one behind the other. -/
theorem steps_polled (due : List PendingRead) (n : Nat) (s : Store State) :
    let result := (due.foldlM (fun n read => do
      return if ← step read then n + 1 else n : Nat → PendingRead → StateM (Store State) Nat) n s)
    LooksAt s due (s.looksInTurn due) ∧ Polled s (s.looksInTurn due) result.2 ∧
      result.1 = n + (s.looksInTurn due).countP Look.delivers := by
  induction due generalizing n s with
  | nil => exact ⟨⟨rfl, List.forall_mem_nil _, fun _ => rfl⟩, .refl s, rfl⟩
  | cons read due ih =>
    obtain ⟨hdelivers, hfirst⟩ := step_polled read s
    let first : Look := ⟨read, s.answer read⟩
    obtain ⟨hlooks, hpolled, hcount⟩ :=
      ih (if (step read s).1 then n + 1 else n) (step read s).2
    refine ⟨⟨?_, ?_, fun hdistinct => ?_⟩, hfirst.trans hpolled, hcount.trans ?_⟩
    · rw [looksInTurn, List.map_cons, hlooks.reads]
    · rw [looksInTurn, List.forall_mem_cons]
      refine ⟨answer_eq_none_iff, fun look hlook => ?_⟩
      rw [← hfirst.valid]
      exact hlooks.asked look hlook
    · rw [List.map_cons, List.nodup_cons] at hdistinct
      rw [looksInTurn, hlooks.answers hdistinct.2, List.map_cons, List.cons.injEq]
      refine ⟨rfl, List.map_congr_left fun other hother => ?_⟩
      -- The look at the first read has not touched the fence of another one.
      rw [hfirst.answer_eq]
      intro hmem
      rw [List.map_singleton, List.mem_singleton] at hmem
      exact hdistinct.1 (hmem ▸ List.mem_map_of_mem hother)
    · rw [hdelivers, looksInTurn, List.countP_cons]
      cases first.delivers
      · simp
      · simp
        omega

/-- The fences that are waited for are those of the reads whose buffers are good. -/
theorem LooksAt.awaited {due : List PendingRead} (h : LooksAt s due looks) :
    (looks.flatMap Look.calls).filterMap Call.awaited? =
      (due.filter s.bufferIsValid).map PendingRead.fence := by
  have hone (look : Look) : look.calls.filterMap Call.awaited? =
      if look.answer.isSome then [look.read.fence] else [] := by
    obtain ⟨read, _ | _ | _ | _⟩ := look <;> rfl
  obtain ⟨rfl, hasked, -⟩ := h
  induction looks with
  | nil => rfl
  | cons look looks ih =>
    rw [List.forall_mem_cons] at hasked
    rw [List.flatMap_cons, List.filterMap_append, ih hasked.2, hone, List.map_cons,
      List.filter_cons]
    have hvalid : look.answer.isSome = s.bufferIsValid look.read := by
      rw [Bool.eq_iff_iff, Option.isSome_iff_ne_none, Ne, hasked.1, Bool.not_eq_false]
    rw [hvalid]
    cases s.bufferIsValid look.read <;> rfl

/-- The looks of a poll. -/
def dueLooks (s : Store State) : List Look := s.takeDue.2.looksInTurn s.takeDue.1

/-- What a poll does, and how many reads it says it has delivered. -/
structure Fair (s : Store State) (looks : List Look) (poll : Nat × Store State) : Prop
    extends LooksAt s (s.pending.filter fun read => read.nextPoll ≤ s.clock) looks where
  calls : poll.2.device.calls = s.device.calls ++ looks.flatMap Look.calls
  /-- Each good read that is due is waited for once. -/
  awaited : (looks.flatMap Look.calls).filterMap Call.awaited? =
    ((s.pending.filter fun read => read.nextPoll ≤ s.clock).filter s.bufferIsValid).map
      PendingRead.fence
  /-- What is not due is left as it is, in front of what goes on waiting. -/
  pending : poll.2.pending = (s.pending.filter fun read => s.clock < read.nextPoll) ++
    (looks.filter Look.waits).map s.later
  delivered : poll.2.delivered = s.delivered ++ (looks.filter Look.delivers).map s.delivery
  count : poll.1 = looks.countP Look.delivers
  /-- Reads that are not due keep their fences. -/
  others : ∀ fence ∉ looks.map (·.read.fence),
    poll.2.device.fences.get? fence = s.device.fences.get? fence
  /-- And no buffer becomes good or bad, or holds something else. -/
  valid : ∀ read, poll.2.bufferIsValid read = s.bufferIsValid read
  buffers : poll.2.device.buffers = s.device.buffers

/-- What a poll does to reads is what the looks at the reads that are due do. -/
theorem poll_polled (s : Store State) : LooksAt s s.takeDue.1 s.dueLooks ∧
    Polled s.takeDue.2 s.dueLooks (poll s).2 ∧ (poll s).1 = s.dueLooks.countP Look.delivers := by
  obtain ⟨hlooks, hpolled, hcount⟩ := steps_polled s.takeDue.1 0 s.takeDue.2
  exact ⟨⟨hlooks.reads, hlooks.asked, hlooks.answers⟩, hpolled, hcount.trans (Nat.zero_add _)⟩

/-- A poll is fair to every read, whatever the queue, the time and the fences are. -/
theorem poll_fair (s : Store State) : s.Fair s.dueLooks (poll s) := by
  obtain ⟨hlooks, hpolled, hcount⟩ := poll_polled s
  refine ⟨hlooks, hpolled.calls, hlooks.awaited, hpolled.pending.trans ?_, hpolled.delivered,
    hcount, hpolled.fences, hpolled.valid, hpolled.buffers⟩
  have hwaiting : s.takeDue.2.pending = s.pending.filter fun read => s.clock < read.nextPoll := by
    refine List.filter_congr fun read _ => ?_
    rw [← decide_not, decide_eq_decide, Nat.not_le]
  rw [hwaiting]
  rfl

end Store

end DrawPass
