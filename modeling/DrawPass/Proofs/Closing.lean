/-
DrawPass/Proofs/Closing.lean

A reset and the end of a renderer leave nothing behind.

Three accounts meet here.  Everything on the device is known to have an owner: textures,
framebuffers and pixel buffers have a target (`Renderer.Claimed`), programs are in the cache
(`Renderer.Remembers`), and so are sampler objects (`Renderer.Equipped`).  As long as the device
refuses no object to a draw, every target that is there is under a tag (`Registry.Covers`), so a
reset ends it and with it what it owns.  And what has been on the device and is no more has been
deleted once (`State.Booked`).  So a reset leaves the index array and the sampler objects, the
end of the renderer takes those as well, and each object is deleted exactly once
(`reset_and_close_release`).
-/
import DrawPass.Proofs.Claimed
import DrawPass.Proofs.Equipped
import DrawPass.Proofs.Registered
import DrawPass.Proofs.Sources

namespace DrawPass

open Gl Software

/-- What has been on a device and is no more has been deleted once. -/
theorem Software.State.Booked.deletions_eq_one {d : State} {kind : Kind} {id : Name}
    (h : d.Booked) (hthere : id ∈ d.holds kind ∨ 0 < d.deletions kind id)
    (hgone : id ∉ d.holds kind) : d.deletions kind id = 1 :=
  Nat.le_antisymm (h.once kind id) (hthere.resolve_left hgone)

namespace Store

variable {s : Store State} {index : Name}

/-! ### No object goes unnoticed -/

/-- What was on the device, or had been deleted, is there or has been deleted. -/
def Settling (s s' : Store State) : Prop := s.device.Settles s'.device

instance : IsPreorder (Store State) Settling where
  refl s := refl s.device
  trans s s' s'' h h' := IsTrans.trans s.device s'.device s''.device h h'

theorem command_settling {α : Type} (command : Command α) :
    Moves Settling (perform command : StateM (Store State) α) := fun s =>
  State.settles_perform command s.device

/-- What is held after some objects have been deleted. -/
theorem holds_after {commands : List (Command Unit)}
    (hdeletes : ∀ command ∈ commands, command.deletes?.isSome) {kind : Kind} {id : Name} :
    id ∈ (s.after commands).device.holds kind ↔
      id ∈ s.device.holds kind ∧ ∀ command ∈ commands, command.deletes? ≠ some (kind, id) := by
  induction commands generalizing s with
  | nil => simp [after]
  | cons command commands ih =>
    obtain ⟨hfirst, hrest⟩ := List.forall_mem_cons.1 hdeletes
    obtain ⟨⟨kind', id'⟩, hcommand⟩ := Option.isSome_iff_exists.1 hfirst
    have hgone : id ∈ (perform command s).2.device.holds kind ↔
        id ∈ s.device.holds kind ∧ ¬ (kind = kind' ∧ id = id') :=
      State.holds_delete hcommand s.device kind id
    have hother : command.deletes? ≠ some (kind, id) ↔ ¬ (kind = kind' ∧ id = id') := by
      rw [hcommand, Ne, Option.some_inj, Prod.mk.injEq, eq_comm, @eq_comm _ id']
    rw [List.forall_mem_cons, hother, ← and_assoc, ← hgone]
    exact ih hrest

/-! ### Where there are no targets -/

/-- Without targets there are no textures. -/
theorem Claimed.holds_texture (h : s.Claimed index) (hdead : ∀ key, ¬ s.IsLive key) :
    s.device.holds .texture = [] := by
  refine List.eq_nil_iff_forall_not_mem.2 fun id hid => ?_
  obtain ⟨key, -, -, -, hlive⟩ := h.ofTexture id hid
  exact hdead key hlive

/-- Without targets there are no framebuffers. -/
theorem Claimed.holds_framebuffer (h : s.Claimed index) (hdead : ∀ key, ¬ s.IsLive key) :
    s.device.holds .framebuffer = [] := by
  refine List.eq_nil_iff_forall_not_mem.2 fun id hid => ?_
  obtain ⟨key, hkey⟩ := h.ofFramebuffer id hid
  exact hdead key (h.live key id hkey)

/-- Without targets there is no buffer but that of the index array. -/
theorem Claimed.holds_buffer {P : Name → Prop} {reads : List Readback.PendingRead}
    (h : s.Claimed index) (hkept : s.Kept P index reads) (hdead : ∀ key, ¬ s.IsLive key) :
    s.device.holds .buffer = [index] := by
  refine List.perm_singleton.1 ((List.perm_ext_iff_of_nodup s.device.buffers.distinct
    (List.nodup_singleton index)).2 fun id => ⟨fun hid => ?_, fun hid => ?_⟩)
  · rcases h.ofBuffer id hid with rfl | ⟨key, p, hp, hmem⟩
    · exact List.mem_singleton_self _
    · rw [hkept.pooled.freed key p hp (hdead key)] at hmem
      cases hmem
  · cases List.mem_singleton.1 hid
    exact hkept.index

end Store

/-! ### Acts -/

theorem Act.after_settling (act : Act) (r : Renderer State) :
    r.store.Settling (act.after r).store :=
  Act.onDevice_moves State.settles_perform (fun change d => .of_same (change.sameHolds d)) act r

/-- The object has been on the device by the end of the acts: it was there after some of them, or
a call of the log has made it. -/
def Act.HaveHad (r : Renderer State) (acts : List Act) (kind : Kind) (id : Name) : Prop :=
  (∃ earlier, earlier <+: acts ∧ id ∈ (Act.afterAll r earlier).store.device.holds kind) ∨
    ∃ call ∈ (Act.afterAll r acts).store.device.log, call.made? = some (kind, id)

/-- What has been on the device is still there, or has been deleted. -/
theorem Act.HaveHad.settled {r : Renderer State} {acts : List Act} {kind : Kind} {id : Name}
    (h : Act.HaveHad r acts kind id) (hbooked : (Act.afterAll r acts).store.device.Booked) :
    id ∈ (Act.afterAll r acts).store.device.holds kind ∨
      0 < (Act.afterAll r acts).store.device.deletions kind id := by
  rcases h with ⟨earlier, ⟨later, rfl⟩, hid⟩ | ⟨call, hcall, hmade⟩
  · rw [Act.afterAll_append]
    exact Act.afterAll_moves Act.after_settling later _ kind id (.inl hid)
  · exact hbooked.made call hcall kind id hmade

/-- Everything has an owner after a run. -/
theorem Act.afterAll_claimed {acts : List Act} {r : Renderer State} (hr : r.Kept fun _ => True)
    (hgenuine : Act.AreGenuine r acts) (h : r.Claimed) : (Act.afterAll r acts).Claimed := by
  induction acts generalizing r with
  | nil => exact h
  | cons act acts ih =>
    have hkept := Act.after_kept hr hgenuine.1 (fun _ _ => trivial) fun _ _ => trivial
    exact ih hkept hgenuine.2 (Act.after_claimed hr (fun _ _ => trivial) h)

namespace Renderer

variable {r : Renderer State}

/-- What is on the device after a reset, if every target has been under a tag. -/
structure Bare (r : Renderer State) : Prop where
  textures : r.store.device.holds .texture = []
  framebuffers : r.store.device.holds .framebuffer = []
  programs : r.store.device.holds .program = []
  buffers : r.store.device.holds .buffer = [r.geometry.buffer]

theorem reset_bare {header : String} {founders : Shader.ProgramKey → Option Uniform.Values}
    (hlock : r.Lockstep) (hcovers : r.registry.Covers r.store) (hkept : r.Kept fun _ => True)
    (hclaimed : r.Claimed) (hremembers : r.Remembers header founders) : (reset r).2.Bare := by
  have hdead := reset_dead hlock hcovers
  have hclaimed' : ((Act.reset).after r).Claimed :=
    Act.after_claimed hkept (fun _ _ => trivial) hclaimed
  refine ⟨hclaimed'.holds_texture hdead, hclaimed'.holds_framebuffer hdead, ?_,
    hclaimed'.holds_buffer (reset_keeping r hkept).store hdead⟩
  refine List.eq_nil_iff_forall_not_mem.2 fun id hid => ?_
  have hsome := Table.mem_keys_iff.1 hid
  rw [hremembers.get?_reset] at hsome
  cases hsome

/-- The end of a renderer leaves nothing but fences. -/
theorem Bare.holds_close (h : (reset r).2.Bare) (hequipped : (reset r).2.Equipped) {kind : Kind}
    (hkind : kind ≠ .fence) : (close r).1.device.holds kind = [] := by
  refine List.eq_nil_iff_forall_not_mem.2 fun id hid => ?_
  rw [run_close] at hid
  obtain ⟨hheld, hspared⟩ := (Store.holds_after fun command hcommand => by
    rcases List.mem_append.1 hcommand with hcommand | hcommand
    · obtain ⟨id, -, rfl⟩ := List.mem_map.1 hcommand
      rfl
    · rcases List.mem_pair.1 hcommand with rfl | rfl <;> rfl).1 hid
  cases kind with
  | texture => exact List.not_mem_nil (h.textures ▸ hheld)
  | framebuffer => exact List.not_mem_nil (h.framebuffers ▸ hheld)
  | program => exact List.not_mem_nil (h.programs ▸ hheld)
  | buffer =>
    cases List.mem_singleton.1 (h.buffers ▸ hheld)
    exact hspared _ (List.mem_append_right _ (.tail _ (.head _))) rfl
  | sampler =>
    have hcached := hequipped.samplers hheld
    exact hspared (.deleteSampler id)
      (List.mem_append_left _ (List.mem_map_of_mem hcached)) rfl
  | vertexArray =>
    change id ∈ (reset r).2.store.device.vertexArrays at hheld
    rw [hequipped.vertexArrays] at hheld
    cases List.mem_singleton.1 hheld
    exact hspared _ (List.mem_append_right _ (.head _)) rfl
  | fence => exact hkind rfl

end Renderer

/-! ### Nothing is left -/

/-- After any run of a host that leaves it to resets to free targets, in which the device refuses
no object to a draw, a reset leaves no texture, no framebuffer and no program, and of the buffers
only that of the index array; the end of the renderer leaves no object but fences.  Whatever was
on the device by then has been deleted exactly once. -/
theorem reset_and_close_release {config : Config} {width height : UInt32} {r : Renderer State}
    (hr : Renderer.create config { device := State.new width height } = .ok r) {acts : List Act}
    (hacts : ∀ act ∈ acts, act.isHandsOff) (hgenuine : Act.AreGenuine r acts)
    (hgranted : Act.AreGranted r acts) :
    let last := Act.afterAll r acts
    let kept := (Renderer.reset last).2.store.device
    let left := (Renderer.close last).1.device
    (kept.holds .texture = [] ∧ kept.holds .framebuffer = [] ∧ kept.holds .program = [] ∧
      kept.holds .buffer = [last.geometry.buffer]) ∧
    (∀ kind, kind ≠ .fence → left.holds kind = []) ∧
    ∀ kind id, Act.HaveHad r acts kind id →
      (kind = .texture ∨ kind = .framebuffer ∨ kind = .program ∨
        kind = .buffer ∧ id ≠ last.geometry.buffer → kept.deletions kind id = 1) ∧
      (kind ≠ .fence → left.deletions kind id = 1) := by
  intro last kept left
  have hstart : ReachableBy (fun act => act.isHandsOff) r := .start hr
  have hreached : ReachableBy (fun act => act.isHandsOff) last := hstart.afterAll hacts
  have hkept : last.Kept fun _ => True :=
    Act.afterAll_kept (Renderer.kept_create hr) hgenuine fun _ _ _ _ => trivial
  -- Textures, framebuffers and buffers belong to a target or to the index array, and a reset keeps
  -- nothing but the latter.
  have hbare : (Renderer.reset last).2.Bare :=
    Renderer.reset_bare hreached.lockstep
      (Act.afterAll_covers hstart hacts hgranted (Renderer.covers_create hr)) hkept
      (Act.afterAll_claimed (Renderer.kept_create hr) hgenuine (Renderer.claimed_create hr))
      (Act.afterAll_remembers acts (Renderer.remembers_create hr))
  have hindex : (Renderer.reset last).2.geometry.buffer = last.geometry.buffer := by
    rw [Renderer.run_reset]
  have hbuffers : kept.holds .buffer = [last.geometry.buffer] := hindex ▸ hbare.buffers
  have hempty {kind : Kind} (hkind : kind ≠ .fence) : left.holds kind = [] :=
    hbare.holds_close (Renderer.reset_equipped hreached.equipped) hkind
  refine ⟨⟨hbare.textures, hbare.framebuffers, hbare.programs, hbuffers⟩, fun _ => hempty,
    fun kind id hhad => ?_⟩
  -- What was there once was made once; it is gone, so it has been deleted, and only once.
  have hsettled := hhad.settled hkept.store.tidy.toBooked
  have hreset : kept.Settles left := by
    show State.Settles _ (Renderer.close last).1.device
    rw [Renderer.run_close]
    exact Store.after_moves (fun command _ => Store.command_settling command) _
  replace hsettled := (Act.reset).after_settling last kind id hsettled
  refine ⟨fun hkind => ?_, fun hkind => ?_⟩
  · refine (Renderer.reset_keeping last hkept).store.tidy.toBooked.deletions_eq_one hsettled ?_
    show id ∉ kept.holds kind
    rcases hkind with rfl | rfl | rfl | ⟨rfl, hne⟩
    · exact hbare.textures ▸ List.not_mem_nil
    · exact hbare.framebuffers ▸ List.not_mem_nil
    · exact hbare.programs ▸ List.not_mem_nil
    · rw [hbuffers]
      exact fun hid => hne (List.mem_singleton.1 hid)
  · refine hkept.close_tidy.toBooked.deletions_eq_one (hreset kind id hsettled) ?_
    show id ∉ left.holds kind
    exact hempty hkind ▸ List.not_mem_nil

/-- A target with a depth companion, a read of it that is under way, and a draw with a program: the
two textures and the framebuffer are deleted once by a reset, and all that was made is deleted
once by the end of the renderer. -/
theorem reset_and_close_release_of_read :
    ∃ acts : List Act, (∀ act ∈ acts, act.isHandsOff) ∧ Act.AreGenuine Renderer.onePixel acts ∧
      Act.AreGranted Renderer.onePixel acts ∧
      (∃ earlier, earlier <+: acts ∧
        (Act.afterAll Renderer.onePixel earlier).store.pending.length = 1) ∧
      (∀ object ∈ [(Kind.texture, 3), (Kind.texture, 4), (Kind.framebuffer, 5)],
        (Renderer.reset (Act.afterAll Renderer.onePixel acts)).2.store.device.deletions
          object.1 object.2 = 1) ∧
      ∀ object ∈ [(Kind.texture, 3), (Kind.texture, 4), (Kind.framebuffer, 5), (Kind.buffer, 2),
          (Kind.buffer, 6)],
        (Renderer.close (Act.afterAll Renderer.onePixel acts)).1.device.deletions
          object.1 object.2 = 1 := by
  let spec : TargetSpec := { tag := "s", size := some (1, 1), format := some "rgba8+depth" }
  let earlier : List Act :=
    [.control (.fenceLatency 1), .draw .empty (.spec spec), .read ⟨1⟩ "a" none none]
  let acts : List Act := earlier ++ [.draw (.single (.float .one)) .screen]
  have hlink : (Act.afterAll Renderer.onePixel earlier).store.device.failNextLink = none := by
    decide +kernel
  have hmade : ((Renderer.draw .empty (.spec spec)).run
      ((Act.control (.fenceLatency 1)).after Renderer.onePixel)).1.toOption.isSome := by
    decide +kernel
  have hpending : (Act.afterAll Renderer.onePixel earlier).store.pending.length = 1 := by
    decide +kernel
  have hthere : ∀ object ∈ [(Kind.texture, 3), (Kind.texture, 4), (Kind.framebuffer, 5),
      (Kind.buffer, 2), (Kind.buffer, 6)],
      object.2 ∈ (Act.afterAll Renderer.onePixel earlier).store.device.holds object.1 := by
    decide +kernel
  obtain ⟨strip, moment, hrun, -⟩ := Renderer.exists_reach_single
    (Act.afterAll_remembers earlier (Renderer.remembers_create Renderer.create_onePixel))
    (.float .one) (.inr hlink)
  have hdrawn : ((Renderer.draw (.single (.float .one)) .screen).run
      (Act.afterAll Renderer.onePixel earlier)).1 = .ok .screen := by
    rw [Renderer.draw_eq_reach, Attempt.run_bind_ok hrun]
    rfl
  have hacts : ∀ act ∈ acts, act.isHandsOff := by simp [acts, earlier, Act.isHandsOff]
  have hgenuine : Act.AreGenuine Renderer.onePixel acts := by
    refine ⟨trivial, fun name sampler hbag => ?_, trivial, fun name sampler hbag => ?_, trivial⟩
    · cases hbag
    · have hpair : (name, Params.ParamValue.uniform (.sampler sampler)) ∈
          [("FP", .text "1.0"), ("a", .uniform (.float .one))] := Table.get?_eq_some_iff.1 hbag
      rcases List.mem_pair.1 hpair with hpair | hpair <;> cases hpair
  have hgranted : Act.AreGranted Renderer.onePixel acts := by
    refine ⟨trivial, fun cause hanswer => ?_, trivial, fun cause hanswer => ?_, trivial⟩
    · rw [hanswer] at hmade
      cases hmade
    · cases hdrawn.symm.trans hanswer
  obtain ⟨-, -, hdeleted⟩ :=
    reset_and_close_release Renderer.create_onePixel hacts hgenuine hgranted
  have hprefix : earlier <+: acts := List.prefix_append ..
  have htargets : ∀ object ∈ [(Kind.texture, 3), (Kind.texture, 4), (Kind.framebuffer, 5)],
      object ∈ [(Kind.texture, 3), (Kind.texture, 4), (Kind.framebuffer, 5), (Kind.buffer, 2),
        (Kind.buffer, 6)] ∧ (object.1 = .texture ∨ object.1 = .framebuffer) := by
    decide
  have hkinds : ∀ object ∈ [(Kind.texture, 3), (Kind.texture, 4), (Kind.framebuffer, 5),
      (Kind.buffer, 2), (Kind.buffer, 6)], object.1 ≠ .fence := by
    decide
  refine ⟨acts, hacts, hgenuine, hgranted, ⟨earlier, hprefix, hpending⟩, fun object hobject => ?_,
    fun object hobject => ?_⟩
  · obtain ⟨hmem, hkind⟩ := htargets object hobject
    exact (hdeleted _ _ (.inl ⟨earlier, hprefix, hthere object hmem⟩)).1 (hkind.imp_right .inl)
  · exact (hdeleted _ _ (.inl ⟨earlier, hprefix, hthere object hobject⟩)).2 (hkinds object hobject)

end DrawPass
