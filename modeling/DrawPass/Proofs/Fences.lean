/-
DrawPass/Proofs/Fences.lean

What becomes of fences.

By a log a fence stands if a call has made it and no later call has deleted it.  Whatever a device
is asked to do, its fences are those that stand by its log (`State.FencesLogged`); and after every
act of a host they are those of the reads under way (`Store.Accounted`).

The end of a renderer deletes no fences.  The reset that begins it frees targets, whose reads stay
under way until a poll finds that their buffers are gone, and no poll follows.  So what the end of
a renderer leaves are the fences of the reads under way, and nothing is left if and only if there
were none (`fences_left_by_close`).
-/
import DrawPass.Proofs.Accounted

namespace DrawPass

open Gl Readback Software

/-! ### The log of fences -/

namespace Software

/-- By a log, whose first call is the newest, a fence has been made and has not been deleted
since. -/
def Stands (log : List Call) (fence : Name) : Prop :=
  ∃ newer older, log = newer ++ .fenceSync fence :: older ∧ .deleteSync fence ∉ newer

theorem stands_cons {call : Call} {log : List Call} {fence : Name} : Stands (call :: log) fence ↔
    call = .fenceSync fence ∨ call ≠ .deleteSync fence ∧ Stands log fence := by
  constructor
  · rintro ⟨newer, older, hlog, hkept⟩
    cases newer with
    | nil => exact .inl (List.cons.inj hlog).1
    | cons newest newer =>
      obtain ⟨rfl, hrest⟩ := List.cons.inj hlog
      obtain ⟨hnewest, hnewer⟩ := not_or.1 (mt List.mem_cons.2 hkept)
      exact .inr ⟨Ne.symm hnewest, newer, older, hrest, hnewer⟩
  · rintro (rfl | ⟨hother, newer, older, rfl, hkept⟩)
    · exact ⟨[], log, rfl, List.not_mem_nil⟩
    · exact ⟨call :: newer, older, rfl, List.not_mem_cons_of_ne_of_not_mem hother.symm hkept⟩

namespace State

variable {d d' : State}

/-- The fences of a device are those that stand by its log. -/
structure FencesLogged (d : State) : Prop where
  numbered : ∀ id ∈ d.fences.keys, id ≤ d.lastName
  stands : ∀ id, id ∈ d.fences.keys ↔ Stands d.log id

/-- The log of fences stays true. -/
def Logging (d d' : State) : Prop := d.FencesLogged → d'.FencesLogged

instance : IsPreorder State Logging where
  refl _ := id
  trans _ _ _ h h' := h' ∘ h

theorem logging_of_same (h : SameHolds d d') : Logging d d' := by
  intro hd
  have hkeys : d'.fences.keys = d.fences.keys := congrFun h.holds .fence
  refine ⟨fun id hid => ?_, fun id => ?_⟩
  · rw [hkeys] at hid
    exact Nat.le_trans (hd.numbered id hid) h.lastName
  · rw [hkeys, h.log]
    exact hd.stands id

/-- Where the fences stay and none is deleted, nothing about fences is written down. -/
theorem FencesLogged.of_effect {names : List (Kind × Name)} {deletes : Option (Kind × Name)}
    {attaches : Bool} (h : d.FencesLogged) (heffect : Effect d d' names deletes attaches)
    (hkeys : d'.fences.keys = d.fences.keys)
    (hdeletes : (deletes.map Prod.fst == some .fence) = false) : d'.FencesLogged := by
  have hcalled {call : Call} (hlast : d.lastName ≤ d'.lastName) (hlog : d'.log = call :: d.log)
      (hmade : ∀ id, call ≠ .fenceSync id) (hspares : ∀ id, call ≠ .deleteSync id) :
      d'.FencesLogged := by
    refine ⟨fun id hid => ?_, fun id => ?_⟩
    · rw [hkeys] at hid
      exact Nat.le_trans (h.numbered id hid) hlast
    · rw [hkeys, hlog, stands_cons, or_iff_right (hmade id), and_iff_right (hspares id)]
      exact h.stands id
  cases heffect with
  | silent hsame => exact logging_of_same hsame h
  | called call _ hlast hlog _ hmade hspares =>
    refine hcalled hlast hlog ?_ ?_ <;> rintro id rfl
    · cases hmade
    · cases hspares
  | deleted kind id call hdeleted hlog _ hmade hwhole =>
    refine hcalled (Nat.le_of_eq hdeleted.lastName.symm) hlog ?_ ?_ <;> rintro fence rfl
    · cases hmade
    · cases hwhole
      cases hdeletes
  | made kind call hmakes hlog _ hmade hspares =>
    refine hcalled (hmakes.lastName ▸ Nat.le_succ _) hlog ?_ ?_ <;> rintro id rfl
    · -- A fence that has just been made would have been there before.
      cases hmade _ rfl
      have hmem : d.lastName + 1 ∈ d'.fences.keys := (hmakes.holds .fence _).2 (.inr ⟨rfl, rfl⟩)
      rw [hkeys] at hmem
      exact Nat.not_succ_le_self _ (h.numbered _ hmem)
    · cases hspares

/-- No command makes or deletes a fence without writing it down, or writes down what it does
not do. -/
theorem logging_perform {α : Type} (command : Command α) (d : State) :
    Logging d (d.perform command).2 := by
  intro h
  have heffect := effect_perform command d
  have hne (made deleted : Name) : Call.fenceSync made ≠ .deleteSync deleted := by rintro ⟨⟩
  -- Two commands are about fences; the others leave them alone and write down no such call.
  cases command with
  | fenceSync =>
    have hkeys {id : Name} : id ∈ (d.perform .fenceSync).2.fences.keys ↔
        id = d.lastName + 1 ∨ id ∈ d.fences.keys := Table.mem_keys_insert
    refine ⟨fun id hid => ?_, fun id => ?_⟩
    · rcases hkeys.1 hid with rfl | hid
      · exact Nat.le_refl _
      · exact Nat.le_succ_of_le (h.numbered id hid)
    · have hlog : (d.perform .fenceSync).2.log = .fenceSync (d.lastName + 1) :: d.log := rfl
      rw [hkeys, hlog, stands_cons, h.stands, and_iff_right (hne _ _),
        Call.fenceSync.injEq, eq_comm]
  | deleteSync fence =>
    have hkeys {id : Name} : id ∈ (d.perform (.deleteSync fence)).2.fences.keys ↔
        id ∈ d.fences.keys ∧ id ≠ fence := Table.mem_keys_erase
    refine ⟨fun id hid => h.numbered id (hkeys.1 hid).1, fun id => ?_⟩
    have hlog : (d.perform (.deleteSync fence)).2.log = .deleteSync fence :: d.log := rfl
    rw [hkeys, hlog, stands_cons, h.stands, or_iff_right (hne _ _).symm, and_comm, Ne, Ne,
      Call.deleteSync.injEq, eq_comm]
  | clientWaitSync fence => exact h.of_effect heffect (d.keys_waitFence fence) rfl
  | framebufferTexture =>
    exact h.of_effect heffect (congrFun (sameHolds_attach ..).holds .fence) rfl
  | createTexture | createFramebuffer =>
    refine h.of_effect heffect ?_ rfl
    simp only [perform, createTexture, createFramebuffer]
    split <;> rfl
  | deleteTexture | deleteFramebuffer | createBuffer | deleteBuffer | bufferData | bufferReserve
  | packPixels => exact h.of_effect heffect rfl rfl
  | _ =>
    exact h.of_effect heffect (congrArg Table.keys (sameObjects_perform _ rfl d).fences) rfl

end State

end Software

/-! ### The end of a renderer -/

/-- Every act keeps the log of fences true. -/
theorem Act.after_logging (act : Act) (r : Renderer State) :
    Store.OnDevice State.Logging r.store (act.after r).store :=
  Act.onDevice_moves State.logging_perform
    (fun change d => State.logging_of_same (change.sameHolds d)) act r

namespace Renderer

/-- A new renderer has made no fence. -/
theorem fencesLogged_create {config : Config} {width height : UInt32} {r : Renderer State}
    (hr : create config { device := State.new width height } = .ok r) :
    r.store.device.FencesLogged := by
  have hnew : (State.new width height).FencesLogged := by
    refine ⟨nofun, fun id => ⟨nofun, ?_⟩⟩
    rintro ⟨newer, older, hlog, -⟩
    exact absurd hlog.symm (List.append_ne_nil_of_right_ne_nil newer (List.cons_ne_nil _ _))
  exact create_moves (Store.permitsParts_onDevice State.logging_perform) hr hnew

/-- The reset that ends a renderer is followed by deletions that have to do with no read. -/
theorem close_sameReads (r : Renderer State) : (reset r).2.store.SameReads (close r).1 := by
  rw [run_close]
  refine Store.after_moves (fun command hcommand _ => ?_) _
  rcases List.mem_append.1 hcommand with hcommand | hcommand
  · obtain ⟨id, -, rfl⟩ := List.mem_map.1 hcommand
    exact ⟨rfl, rfl, rfl⟩
  · rcases List.mem_pair.1 hcommand with rfl | rfl <;> exact ⟨rfl, rfl, rfl⟩

/-- The fences that the end of a renderer leaves are those of the reads under way. -/
theorem Accounted.fences_close {r : Renderer State} (h : r.Accounted) :
    (close r).1.device.fences.keys.Perm (r.store.pending.map PendingRead.fence) := by
  have hreset : Over r.geometry.buffer
      (Store.Accounting r.geometry.buffer r.store.pending) r (reset r).2 :=
    reset_moves Store.permits_accounting r
  obtain ⟨-, haccounting, -⟩ := hreset rfl
  rw [(close_sameReads r).fences]
  exact (haccounting h).1.fences

end Renderer

/-- After any run of a host, the fences that the end of the renderer leaves are those of the reads
under way, one each: they have been made and never deleted, and every other fence that has been
made has been deleted since.  So every fence has been deleted if and only if no read was under
way. -/
theorem fences_left_by_close {config : Config} {width height : UInt32} {r : Renderer State}
    (hr : Renderer.create config { device := State.new width height } = .ok r) (acts : List Act) :
    let reads := (Act.afterAll r acts).store.pending
    let left := (Renderer.close (Act.afterAll r acts)).1.device
    left.fences.keys.Perm (reads.map PendingRead.fence) ∧
    (∀ id, Stands left.log id ↔ id ∈ reads.map PendingRead.fence) ∧
    ((∀ id newer older, left.log = newer ++ .fenceSync id :: older → .deleteSync id ∈ newer) ↔
      reads = []) := by
  intro reads left
  have hreached : Reachable (Act.afterAll r acts) :=
    (ReachableBy.start hr).afterAll fun _ _ => trivial
  have hperm : left.fences.keys.Perm (reads.map PendingRead.fence) :=
    hreached.accounted.fences_close
  -- The log is followed to the end of the reset, which is an act, and then through the deletions.
  have hlogged : left.FencesLogged := by
    have hlast := Act.afterAll_moves Act.after_logging acts r (Renderer.fencesLogged_create hr)
    have hclose : Store.OnDevice State.Logging (Renderer.reset (Act.afterAll r acts)).2.store
        (Renderer.close (Act.afterAll r acts)).1 := by
      rw [Renderer.run_close]
      exact Store.after_moves (fun command _ s => State.logging_perform command s.device) _
    exact hclose ((Act.reset).after_logging _ hlast)
  have hstands (id : Name) : Stands left.log id ↔ id ∈ reads.map PendingRead.fence :=
    (hlogged.stands id).symm.trans hperm.mem_iff
  refine ⟨hperm, hstands, fun hdeleted => ?_, fun hnone id newer older hlog => ?_⟩
  · refine List.eq_nil_iff_forall_not_mem.2 fun read hread => ?_
    obtain ⟨newer, older, hlog, hkept⟩ := (hstands read.fence).2 (List.mem_map_of_mem hread)
    exact hkept (hdeleted read.fence newer older hlog)
  · by_contra hkept
    have hid := (hstands id).1 ⟨newer, older, hlog, hkept⟩
    rw [hnone] at hid
    cases hid

/-- A read whose fence takes one wait to be signalled is under way when the renderer ends: its fence
is still there, and no call has deleted it. -/
theorem fences_left_by_close_of_read :
    ∃ acts : List Act,
      (Renderer.close (Act.afterAll Renderer.onePixel acts)).1.device.fences.keys = [6] ∧
      Stands (Renderer.close (Act.afterAll Renderer.onePixel acts)).1.device.log 6 ∧
      ¬ ∀ id newer older, (Renderer.close (Act.afterAll Renderer.onePixel acts)).1.device.log =
        newer ++ .fenceSync id :: older → .deleteSync id ∈ newer := by
  let acts : List Act := [.control (.fenceLatency 1),
    .draw .empty (.spec { tag := "s", size := some (1, 1) }), .read ⟨0⟩ "a" none none]
  have hreads :
      (Act.afterAll Renderer.onePixel acts).store.pending.map PendingRead.fence = [6] := by
    decide +kernel
  obtain ⟨hperm, hstands, hall⟩ := fences_left_by_close Renderer.create_onePixel acts
  refine ⟨acts, List.perm_singleton.1 (hreads ▸ hperm), ?_, fun hdeleted => ?_⟩
  · rw [hstands, hreads]
    exact List.mem_singleton_self 6
  · rw [hall.1 hdeleted] at hreads
    cases hreads

end DrawPass
