/-
DrawPass/Proofs/ReadStep.lean

How reads begin and how they are looked at.

A look at a read has four outcomes: the read was dropped because its buffer is no longer
good, it goes on waiting, it failed, or its pixels were handed over (`step_cases`).
Whichever it is, the store stays sound for the reads that are left (`step_sound`).

A read that begins takes a buffer, has the device copy the region into it, and sets a
fence.  After that the store is sound with one more read under way, and the buffer holds
what the device gave for the region (`run_read`), which is what a blocking read would have
been given as well (`run_readSync`).
-/
import DrawPass.Proofs.RegionBytes
import DrawPass.Proofs.Sound

namespace DrawPass

open Gl Readback Software

/-- A look at a read. -/
structure Look where
  read : PendingRead
  /-- What the device says about the fence; it is not asked if the buffer of the read is bad. -/
  answer : Option Wait

namespace Look

/-- Whether the read goes on waiting. -/
def waits (look : Look) : Bool := look.answer == some .timeout

/-- Whether the read is delivered. -/
def delivers (look : Look) : Bool := look.answer == some .signaled

/-- What is asked of the device. -/
def calls (look : Look) : List Software.Call :=
  match look.answer with
  | none => [.deleteSync look.read.fence]
  | some .timeout => [.clientWaitSync look.read.fence]
  | some .failed => [.clientWaitSync look.read.fence, .deleteSync look.read.fence]
  | some .signaled => [.clientWaitSync look.read.fence,
      .getBufferSubData look.read.buffer (look.read.array.bytes.take look.read.length).length,
      .deleteSync look.read.fence]

end Look

namespace Store

/-- What a read receives from its buffer. -/
def received (s : Store State) (read : PendingRead) : Bytes :=
  overwrite (read.array.bytes.take read.length)
    ((s.device.buffers.get? read.buffer).getD [])

variable {index : Name} {reads : List PendingRead} {s s' : Store State} {key : TargetKey}
  {t : Target} {read : PendingRead} {data : Bytes}

/-! ### Looking at a read -/

/-- What a look at a read depends on. -/
def answer (s : Store State) (read : PendingRead) : Option Wait :=
  if s.bufferIsValid read then some (s.device.waitFence read.fence).1 else none

/-- A read that was looked at in vain, to be looked at again after a while. -/
def later (s : Store State) (look : Look) : PendingRead :=
  { look.read with nextPoll := s.clock + s.pollInterval }

/-- What a read hands over. -/
def delivery (s : Store State) (look : Look) : Delivery :=
  ⟨look.read.label, look.read.array.writeBytes (s.received look.read)⟩

/-- The store after a look, with what the device has left of the fences. -/
def looked (s : Store State) (look : Look) (fences : Table Name UInt32) : Store State :=
  let device := { s.device with fences, log := look.calls.reverse ++ s.device.log }
  match look.answer with
  | none => { s with device }
  | some .timeout => { s with device, pending := s.pending ++ [s.later look] }
  | some .failed => { s with device }.modifyPool look.read.target (·.recycle look.read.buffer)
  | some .signaled => { s with device, delivered := s.delivered ++ [s.delivery look] }.modifyPool
      look.read.target (·.recycle look.read.buffer)

theorem run_step (read : PendingRead) (s : Store State) : ∃ fences : Table Name UInt32,
    step read s = ((⟨read, s.answer read⟩ : Look).delivers, s.looked ⟨read, s.answer read⟩ fences) ∧
    (∀ other ≠ read.fence, fences.get? other = s.device.fences.get? other) ∧
    (s.answer read = some .timeout → fences.keys = s.device.fences.keys ∧
      fences.get? read.fence = (s.device.fences.get? read.fence).map (· - 1)) ∧
    (s.answer read ≠ some .timeout →
      fences.keys = (s.device.fences.erase read.fence).keys) := by
  have hothers {fences : Table Name UInt32}
      (h : ∀ other ≠ read.fence, fences.get? other = s.device.fences.get? other) :
      ∀ other ≠ read.fence,
        (fences.erase read.fence).get? other = s.device.fences.get? other := by
    intro other hother
    rw [Table.get?_erase, if_neg hother, h other hother]
  unfold answer
  cases hvalid : s.bufferIsValid read with
  | false =>
    -- A read whose buffer is gone is dropped without a look at its fence.
    refine ⟨s.device.fences.erase read.fence, ?_, hothers fun _ _ => rfl, by simp, fun _ => rfl⟩
    unfold step look
    rw [bind_assoc, run_get_bind, hvalid]
    rfl
  | true =>
    obtain ⟨fences, hwait, hkeys, hget, htimeout⟩ := s.device.waitFence_spec read.fence
    have herased : (fences.erase read.fence).keys = (s.device.fences.erase read.fence).keys := by
      rw [Table.keys_erase, Table.keys_erase, hkeys]
    have hperform : (perform (.clientWaitSync read.fence 0) : StateM (Store State) Wait) s =
        ((s.device.waitFence read.fence).1, { s with device := { s.device with
          fences, log := .clientWaitSync read.fence :: s.device.log } }) :=
      congrArg (fun r : Wait × State => (r.1, ({ s with device := r.2 } : Store State))) hwait
    unfold step look
    rw [bind_assoc, run_get_bind, hvalid]
    simp only [Bool.not_true, Bool.false_eq_true, if_false, if_true]
    rw [bind_assoc, run_bind_eq hperform]
    rcases hanswer : (s.device.waitFence read.fence).1 with _ | _ | _
    · refine ⟨fences.erase read.fence, ?_, hothers hget, by simp, fun _ => herased⟩
      have hstored : s.received read = (s.device.perform (.getBufferSubData
          Constant.pixelPackBuffer read.buffer 0 (read.array.bytes.take read.length))).1 := by
        dsimp only [received, State.perform]
        cases s.device.buffers.get? read.buffer <;> rfl
      unfold looked delivery
      rw [hstored]
      rfl
    · exact ⟨fences, rfl, hget, fun _ => ⟨hkeys, htimeout hanswer⟩, fun h => absurd rfl h⟩
    · exact ⟨fences.erase read.fence, rfl, hothers hget, by simp, fun _ => herased⟩

theorem step_cases (read : PendingRead) (s : Store State) : ∃ fences log,
    let s₁ : Store State := { s with device := { s.device with fences, log } }
    (s.bufferIsValid read = false ∧ (step read s).2 = s₁) ∨
    s.bufferIsValid read = true ∧
      ((∃ nextPoll, (step read s).2 =
          { s₁ with pending := s.pending ++ [{ read with nextPoll }] }) ∨
        (step read s).2 = s₁.modifyPool read.target (·.recycle read.buffer) ∨
        (step read s).2 = ({ s₁ with delivered := s.delivered ++
            [⟨read.label, read.array.writeBytes (s.received read)⟩] } :
          Store State).modifyPool read.target (·.recycle read.buffer)) := by
  obtain ⟨fences, hrun, -⟩ := run_step read s
  rw [hrun]
  unfold answer looked
  cases s.bufferIsValid read with
  | false => exact ⟨fences, _, .inl ⟨rfl, rfl⟩⟩
  | true =>
    simp only [if_true]
    rcases (s.device.waitFence read.fence).1 with _ | _ | _
    · exact ⟨fences, _, .inr ⟨trivial, .inr (.inr rfl)⟩⟩
    · exact ⟨fences, _, .inr ⟨trivial, .inl ⟨_, rfl⟩⟩⟩
    · exact ⟨fences, _, .inr ⟨trivial, .inr (.inl rfl)⟩⟩

/-- A read receives the bytes that its buffer holds. -/
theorem received_eq (hvalid : s.bufferIsValid read = true) (hholds : s.Holds read data)
    (hlength : data.length = read.length) (hfits : read.length ≤ read.array.bytes.length) :
    s.received read = data := by
  obtain ⟨content, hcontent, rfl⟩ := hholds hvalid
  have hle : read.length ≤ content.length := by
    rw [List.length_take] at hlength
    omega
  rw [received, hcontent, Option.getD_some, overwrite, List.length_take, Nat.min_eq_left hfits,
    List.drop_of_length_le, List.append_nil]
  rw [List.length_take]
  exact Nat.le_trans (Nat.min_le_left ..) hle

/-- Nothing but the pool of one target has changed, and there no buffer became good or bad. -/
theorem Sound.of_recycled (hs : s.Sound index (read :: reads))
    (hkeeps : Keeps s s') (htargets : s'.targets =
      (s.modifyPool read.target (·.recycle read.buffer)).targets)
    (hdevice : s.device.SameObjects { s'.device with fences := s.device.fences }) :
    s'.Sound index reads ∧ (∀ key, s.IsFreed key → s'.IsFreed key) ∧
      ∀ other data, s.Holds other data → s'.Holds other data := by
  have hlook : s'.target? = (s.modifyPool read.target (·.recycle read.buffer)).target? := by
    funext key
    rw [target?, htargets, target?]
  obtain ⟨hframe, hframebuffer, hlive, -⟩ :=
    modifyPool_targets s read.target (·.recycle read.buffer)
  have hsame : SameTargets (s.modifyPool read.target (·.recycle read.buffer)) s' := .of_eq hlook
  refine ⟨⟨(hkeeps hs.wellFormed).1, ?_, ?_⟩, fun key hkey => ?_, fun other data hholds => ?_⟩
  · exact hs.attached.of_same ⟨hsame.frame.trans hframe, hsame.framebuffer.trans hframebuffer,
      hsame.live.trans hlive⟩ hdevice.textures hdevice.framebuffers hdevice.lastName
  · exact hs.pooled.recycled.of_same hsame.pool hsame.live hdevice.lastName hdevice.buffers
  · rw [isFreed_iff, hsame.frame, hframe, hsame.live, hlive, ← isFreed_iff]
    exact hkey
  · have hrecycled : (s.modifyPool read.target (·.recycle read.buffer)).Holds other data :=
      hholds.of (fun hvalid => bufferIsValid_recycle s .. ▸ hvalid) fun _ => rfl
    exact hrecycled.of_same hsame.pool hdevice.buffers

/-- What a look at a read does to the store and to the other reads. -/
theorem step_sound (hs : s.Sound index (read :: reads)) :
    ((∃ nextPoll, (step read s).2.Sound index (reads ++ [{ read with nextPoll }]) ∧
        (step read s).2.pending = s.pending ++ [{ read with nextPoll }] ∧
        (step read s).2.delivered = s.delivered) ∨
      (step read s).2.Sound index reads ∧ (step read s).2.pending = s.pending ∧
        ((step read s).2.delivered = s.delivered ∨ s.bufferIsValid read = true ∧
          (step read s).2.delivered = s.delivered ++
            [⟨read.label, read.array.writeBytes (s.received read)⟩])) ∧
    (∀ key, s.IsFreed key → (step read s).2.IsFreed key) ∧
    ∀ other data, s.Holds other data → (step read s).2.Holds other data := by
  have hkeeps : Keeps s (step read s).2 := step_moves permitsParts_keeps.toReads.toLooks read s
  obtain ⟨fences, log, hcases⟩ := step_cases read s
  have hdevice : s.device.SameObjects
      { s.device with fences := s.device.fences, log } := .of_eq rfl rfl rfl rfl (Nat.le_refl _)
  -- The read is dropped, waits, fails or is delivered, and only one that waits keeps its buffer.
  rcases hcases with ⟨-, hs'⟩ | ⟨hvalid, ⟨nextPoll, hs'⟩ | hs' | hs'⟩ <;> rw [hs'] at hkeeps ⊢
  · have hsame : SameTargets s { s with device := { s.device with fences, log } } := .of_eq rfl
    refine ⟨.inr ⟨⟨(hkeeps hs.wellFormed).1, hs.attached.of_same hsame.toSameFrames rfl rfl
      (Nat.le_refl _), hs.pooled.tail.of_same rfl rfl (Nat.le_refl _) rfl⟩, rfl, .inl rfl⟩,
      fun _ hkey => hkey, fun _ _ hholds => hholds.of_same rfl rfl⟩
  · have hsame : SameTargets s { s with
        device := { s.device with fences, log }
        pending := s.pending ++ [{ read with nextPoll }] } := .of_eq rfl
    have hpooled : s.Pooled index (reads ++ [{ read with nextPoll }]) := by
      have huses : ({ read with nextPoll } : PendingRead).uses = read.uses := rfl
      refine hs.pooled.of_reads (fun key b => ?_) fun other hother => ?_
      · exact Nat.le_of_eq (by
          rw [List.countP_append, List.countP_singleton, List.countP_cons, huses])
      · rcases List.mem_append.1 hother with hother | hother
        · exact ⟨other, List.mem_cons_of_mem _ hother, rfl⟩
        · exact ⟨read, List.mem_cons_self, (List.mem_singleton.1 hother).symm ▸ rfl⟩
    refine ⟨.inl ⟨nextPoll, ⟨(hkeeps hs.wellFormed).1, hs.attached.of_same hsame.toSameFrames rfl
      rfl (Nat.le_refl _), hpooled.of_same rfl rfl (Nat.le_refl _) rfl⟩, rfl, rfl⟩,
      fun _ hkey => hkey, fun _ _ hholds => hholds.of_same rfl rfl⟩
  · obtain ⟨hsound, hrest⟩ := hs.of_recycled hkeeps rfl hdevice
    exact ⟨.inr ⟨hsound, rfl, .inl rfl⟩, hrest⟩
  · obtain ⟨hsound, hrest⟩ := hs.of_recycled hkeeps rfl hdevice
    exact ⟨.inr ⟨hsound, rfl, .inr ⟨hvalid, rfl⟩⟩, hrest⟩

/-- The reads that are due are taken out of those under way. -/
def takeDue (s : Store State) : List PendingRead × Store State :=
  let isDue (read : PendingRead) : Bool := read.nextPoll ≤ s.clock
  (s.pending.filter isDue, { s with pending := s.pending.filter fun read => !isDue read })

theorem takeDue_perm (s : Store State) : (s.takeDue.1 ++ s.takeDue.2.pending).Perm s.pending :=
  List.filter_append_perm _ s.pending

/-! ### Binding a target that is going to be read -/

/-- A target that is going to be read is bound as it is for anything else. -/
theorem bindForRead_eq_ok : (bindForRead key).run s = (.ok (), s') ↔
    ∃ size, (bindTarget key true).run s = (.ok size, s') := by
  unfold bindForRead
  constructor
  · intro hrun
    obtain ⟨size, s₁, hadapt, hpure⟩ := Attempt.run_bind_eq_ok.1 hrun
    cases hpure
    rw [Attempt.run_adapt] at hadapt
    rcases hbind : (bindTarget key true).run s with ⟨e | size', s₁⟩ <;> rw [hbind] at hadapt
    · cases hadapt
    · cases hadapt
      exact ⟨size, rfl⟩
  · rintro ⟨size, hbind⟩
    rw [Attempt.run_bind, Attempt.run_adapt, hbind]
    rfl

/-- A target that is bound is bound by its own framebuffer. -/
theorem bindForRead_ok (hrun : (bindForRead key).run s = (.ok (), s')) :
    (∃ id, s'.device.boundFramebuffer = some id ∧ s'.framebuffer? key = some id) ∧
      s'.frame? = s.frame? ∧ s'.pool? = s.pool? ∧ s'.IsLive = s.IsLive := by
  obtain ⟨size, hbind⟩ := bindForRead_eq_ok.1 hrun
  obtain ⟨t, s₁, ht, -, -, hbound, rfl⟩ := run_bindTarget_eq_ok hbind
  obtain ⟨id, hid, rfl⟩ | hmade := hbound
  · exact ⟨⟨id, rfl, (framebuffer?_of_target? ht).trans hid⟩, rfl, rfl, rfl⟩
  · obtain ⟨hframe, hpool, hlive, hlook⟩ := hmade.targets ht
    exact ⟨⟨_, hmade.bound, (hlook key).trans (if_pos rfl)⟩, hframe, hpool, hlive⟩

/-- A blocking read is given what the device gives for the region. -/
theorem run_readSync {region : Option Rect} {rect : Rect} (ht : s.target? key = some t)
    (hfreed : t.freed = false) (hregion : t.region region = .ok rect)
    (hbind : (bindForRead key).run s = (.ok (), s')) :
    ∃ memory s'', memory.length = t.regionBytes rect ∧ (readSync key region).run s =
      (.ok (PixelData.ofBytes t.info.array (overwrite memory
        (s'.device.pixels rect t.info.layout.format t.info.layout.type))), s'') := by
  let memory := (t.staging ++ List.replicate (t.regionBytes rect - t.staging.length) 0).take
    (t.regionBytes rect)
  have hlength : memory.length = t.regionBytes rect := by
    rw [List.length_take, List.length_append, List.length_replicate]
    omega
  have hrun : ((readSync key region).run s).1 = .ok (PixelData.ofBytes t.info.array
      (overwrite memory (s'.device.pixels rect t.info.layout.format t.info.layout.type))) := by
    unfold readSync
    rw [Attempt.run_bind_ok (run_readable_eq_ok.2 ⟨rfl, ht, hfreed⟩),
      Attempt.run_bind_ok (Attempt.run_ofExcept_ok hregion s)]
    dsimp only
    rw [Attempt.run_bind_ok hbind, Attempt.run_bind_ok (Attempt.run_perform ..)]
    rfl
  exact ⟨memory, ((readSync key region).run s).2, hlength, Prod.ext hrun rfl⟩

/-! ### Beginning a read -/

/-- A buffer can always be had. -/
theorem run_acquire_ok (hs : s.Pooled index reads) {p : PackPool} (hp : s.pool? key = some p)
    (bytes : Nat) : ∃ buffer p' s' dead, (p.acquire bytes :
        Attempt ReadError (Store State) _).run s = (.ok (buffer, p'), s') ∧
      PackPool.Taken p p' s s' bytes buffer dead := by
  cases hidle : p.idle with
  | nil =>
    have hcapacity : p.capacity (s.device.lastName + 1) = 0 := by
      apply Nat.eq_zero_of_not_pos
      intro hpos
      have hmem := hs.valid key p _ hp hpos
      exact Nat.not_succ_le_self _ (hs.numbered key p _ hp hmem).1
    obtain ⟨p', s', hrun, htaken⟩ := PackPool.run_acquire_new bytes hidle hcapacity
    exact ⟨_, p', s', _, hrun, htaken⟩
  | cons buffer rest =>
    have hlive : buffer ∈ p.live :=
      hs.idle key p buffer hp (hidle ▸ List.mem_cons_self)
    have hnew : buffer ∉ rest := by
      intro hmem
      have honce := hs.once key buffer
      rw [idleCount, hp, Option.map_some, Option.getD_some, hidle, List.count_cons_self] at honce
      have := List.count_pos_iff.2 hmem
      omega
    obtain ⟨content, hcontent, hlength⟩ := hs.stored key p buffer hp hlive
    obtain ⟨p', s', hrun, htaken⟩ :=
      PackPool.run_acquire_idle bytes hidle hlive hnew hcontent hlength
    exact ⟨buffer, p', s', _, hrun, htaken⟩

theorem run_acquire {p' : PackPool} {bytes : Nat} {buffer : Name}
    (htake : (t.pool.acquire bytes).run s = (.ok (buffer, p'), s')) :
    (acquire key t bytes).run s = (.ok buffer, s'.modifyPool key fun _ => p') := by
  unfold acquire
  rw [Attempt.run_bind_ok htake]
  rfl

/-- A region has been copied into a buffer that was taken for it, and a fence set. -/
theorem Sound.packed {p p' : PackPool} {bytes : Nat} {buffer : Name} {dead : List Name}
    (hs : s.Sound index reads) (hp : s.pool? key = some p) (hlive : s.IsLive key)
    (htaken : PackPool.Taken p p' s s' bytes buffer dead) (rect : Rect) (format type : UInt32)
    {s'' : Store State} (hkeeps : Keeps s s'') (hs'' : ∃ fences log,
      s'' = { s'.modifyPool key fun _ => p' with device := { s'.device with
        buffers := s'.device.buffers.modify buffer fun b =>
          overwrite b (s.device.pixels rect format type)
        lastName := s'.device.lastName + 1
        fences
        log } })
    (htarget : read.target = key) (hbuffer : read.buffer = buffer) :
    s''.Sound index (read :: reads) ∧ Undisturbed reads s s'' ∧ ∃ content : Bytes,
      bytes ≤ content.length ∧ s''.Holds read
        ((overwrite content (s.device.pixels rect format type)).take read.length) := by
  obtain ⟨content, hcontent, hlength⟩ := htaken.stored
  obtain ⟨hframe, hframebuffer, hlives, hlook⟩ := modifyPool_targets s' key fun _ => p'
  have hpooled := hs.pooled.taken hp htaken hlive htarget hbuffer
  have hkept := fun other (hother : other ∈ reads) data (hdata : s.Holds other data) =>
    hs.pooled.holds_taken hp htaken hother hdata
  have hname := (hs.pooled.lastName_taken hp htaken).1
  have hfits : bytes ≤ content.length := hlength ▸ htaken.enough
  obtain ⟨buffers, lastName, log', rfl⟩ := htaken.frame
  obtain ⟨fences, log, rfl⟩ := hs''
  -- The copy changes what one buffer holds, and not its length.
  have hget (b : Name) : (buffers.modify buffer fun b =>
      overwrite b (s.device.pixels rect format type)).get? b = if buffer = b
        then some (overwrite content (s.device.pixels rect format type))
        else buffers.get? b := by
    have hold : buffers.get? buffer = some content := hcontent
    rw [Table.get?_modify]
    split
    · rename_i h
      rw [← h, hold, Option.map_some]
    · rfl
  refine ⟨⟨(hkeeps hs.wellFormed).1, ?_, ?_⟩, ⟨rfl, rfl, fun key' hkey' => ?_,
    fun other hother data hdata => ?_⟩, content, hfits, fun _ => ?_⟩
  · exact hs.attached.of_same ⟨hframe, hframebuffer, hlives⟩ rfl rfl (Nat.le_succ_of_le hname)
  · refine hpooled.of_lengths rfl rfl (Nat.le_succ _) fun key' q b old hq hb hold => ?_
    by_cases h : buffer = b
    · refine ⟨_, (hget b).trans (if_pos h), ?_⟩
      have hsame : content = old := Option.some.inj (hcontent.symm.trans (h ▸ hold))
      rw [length_overwrite, hsame]
    · exact ⟨old, ((hget b).trans (if_neg h)).trans hold, rfl⟩
  · exact isFreed_iff.2 (hframe.symm ▸ hlives.symm ▸ isFreed_iff.1 hkey')
  · obtain ⟨hholds, hother⟩ := hkept other hother data hdata
    exact hholds.of id fun hvalid => (hget _).trans (if_neg (hother hvalid).symm)
  · exact ⟨_, (hget _).trans (if_pos hbuffer.symm), rfl⟩

/-- How a read has begun: the target and the region that are read, and the store in which the
target has been bound. -/
structure Begun (key : TargetKey) (label : String) (region : Option Rect)
    (destination : Option PixelData) (s s₁ : Store State) (t : Target) (rect : Rect)
    (read : PendingRead) : Prop where
  target : s.target? key = some t
  live : t.freed = false
  region : t.region region = .ok rect
  fits : ∀ d, destination = some d → d.kind = t.info.array ∧ t.elements rect ≤ d.length
  bound : (bindForRead key).run s = (.ok (), s₁)
  read : ∃ fence buffer nextPoll, read =
    { label, fence, buffer, destination, nextPoll
      target := key
      length := t.regionBytes rect
      kind := t.info.array }

/-- The store after a region has been copied into a buffer, with a fence behind the copy. -/
def copied (s : Store State) (t : Target) (rect : Rect) (buffer : Name) : Store State :=
  (perform .flush (perform .fenceSync (perform (.packPixels rect t.info.layout.format
    t.info.layout.type buffer) s).2).2).2

/-- A read whose buffer has been taken is copied and then looked at for the first time. -/
theorem run_read_taken {label : String} {region : Option Rect} {destination : Option PixelData}
    {rect : Rect} {s₁ s₂ : Store State} {buffer : Name} (ht : s.target? key = some t)
    (hfreed : t.freed = false) (hregion : t.region region = .ok rect)
    (hfits : (destination.any fun d => d.kind != t.info.array || d.length < t.elements rect) = false)
    (hbind : (bindForRead key).run s = (.ok (), s₁))
    (hacquire : (acquire key t (t.regionBytes rect)).run s₁ = (.ok buffer, s₂)) :
    (DrawPass.Store.read key label region destination).run s = (.ok (), (step
      { label, buffer, destination
        target := key
        fence := s₂.device.lastName + 1
        length := t.regionBytes rect
        kind := t.info.array
        nextPoll := s₂.clock } (s₂.copied t rect buffer)).2) := by
  -- The copy is asked for first and the fence is set behind it.
  let s₃ := (perform (.packPixels rect t.info.layout.format t.info.layout.type buffer) s₂).2
  have hfence : (Attempt.perform .fenceSync :
      Attempt ReadError (Store State) (Except String Name)).run s₃ =
        (.ok (.ok (s₂.device.lastName + 1)), (perform .fenceSync s₃).2) := rfl
  unfold DrawPass.Store.read
  rw [Attempt.run_bind_ok (run_readable_eq_ok.2 ⟨rfl, ht, hfreed⟩),
    Attempt.run_bind_ok (Attempt.run_ofExcept_ok hregion s)]
  dsimp only
  rw [hfits]
  simp only [Bool.false_eq_true, if_false]
  rw [Attempt.run_bind_ok hbind, Attempt.run_bind_ok hacquire,
    Attempt.run_bind_ok (Attempt.run_perform ..), Attempt.run_bind_ok hfence]
  dsimp only
  rw [Attempt.run_bind_ok (Attempt.run_perform ..), Attempt.run_bind_ok (Attempt.run_get _),
    Attempt.run_bind_ok (Attempt.run_lift ..)]
  rfl

/-- A read is refused at once, or its target is bound. -/
theorem run_read_cases (key : TargetKey) (label : String) (region : Option Rect)
    (destination : Option PixelData) (s : Store State) :
    (∃ e, (DrawPass.Store.read key label region destination).run s = (.error e, s)) ∨
    ∃ t rect, s.target? key = some t ∧ t.freed = false ∧ t.region region = .ok rect ∧
      (destination.any fun d => d.kind != t.info.array || d.length < t.elements rect) = false ∧
      ∀ e s₁, (bindForRead key).run s = (.error e, s₁) →
        (DrawPass.Store.read key label region destination).run s = (.error e, s₁) := by
  unfold DrawPass.Store.read
  rcases hreadable : (readable key).run s with ⟨e | t, s'⟩
  · obtain rfl : s = s' := (readable_moves (R := Eq) key).of_run hreadable
    exact .inl ⟨e, Attempt.run_bind_error hreadable⟩
  obtain ⟨rfl, ht, hfreed⟩ := run_readable_eq_ok.1 hreadable
  rw [Attempt.run_bind_ok hreadable]
  rcases hregion : t.region region with e | rect
  · exact .inl ⟨e, Attempt.run_bind_error (Attempt.run_ofExcept_error rfl s')⟩
  rw [Attempt.run_bind_ok (Attempt.run_ofExcept_ok rfl s')]
  dsimp only
  cases hfits : destination.any fun d => d.kind != t.info.array || d.length < t.elements rect with
  | true => exact .inl ⟨_, rfl⟩
  | false =>
    exact .inr ⟨t, rect, ht, hfreed, hregion, hfits, fun e s₁ hbind => Attempt.run_bind_error hbind⟩

/-- The read that begins behind the copy of a region into a buffer. -/
def begun (s : Store State) (key : TargetKey) (label : String) (destination : Option PixelData)
    (t : Target) (rect : Rect) (buffer : Name) : PendingRead where
  label := label
  target := key
  fence := s.device.lastName + 1
  buffer := buffer
  length := t.regionBytes rect
  kind := t.info.array
  destination := destination
  nextPoll := s.clock

/-- How a read ends: it is refused, before or after its target has been bound, or it begins with a
buffer of the pool of its target and is looked at for the first time. -/
inductive ReadRun (key : TargetKey) (label : String) (region : Option Rect)
    (destination : Option PixelData) (s : Store State) :
    Except ReadError Unit × Store State → Prop where
  | refused (e : ReadError) : ReadRun key label region destination s (.error e, s)
  | unbound {e : ReadError} {s₁ : Store State} (hbind : (bindForRead key).run s = (.error e, s₁)) :
      ReadRun key label region destination s (.error e, s₁)
  | begun {t : Target} {rect : Rect} {s₁ s₂ s₃ : Store State} {p' : PackPool} {buffer : Name}
      {dead : List Name}
      (hbegun : Begun key label region destination s s₁ t rect
        (s₃.begun key label destination t rect buffer))
      (hp : s₁.pool? key = some t.pool) (hlive : s₁.IsLive key)
      (htake : (t.pool.acquire (t.regionBytes rect)).run s₁ = (.ok (buffer, p'), s₂))
      (htaken : PackPool.Taken t.pool p' s₁ s₂ (t.regionBytes rect) buffer dead)
      (hgiven : s₃ = s₂.modifyPool key fun _ => p') :
      ReadRun key label region destination s
        (.ok (), (step (s₃.begun key label destination t rect buffer) (s₃.copied t rect buffer)).2)

theorem run_read_spec (key : TargetKey) (label : String) (region : Option Rect)
    (destination : Option PixelData) (s : Store State)
    (hpooled : ∀ s₁, (bindForRead key).run s = (.ok (), s₁) → s₁.Pooled index reads) :
    ReadRun key label region destination s
      ((DrawPass.Store.read key label region destination).run s) := by
  rcases run_read_cases key label region destination s with ⟨e, hrun⟩ |
    ⟨t, rect, ht, hfreed, hregion, hfits, hrefused⟩
  · rw [hrun]
    exact .refused e
  rcases hbind : (bindForRead key).run s with ⟨e | _, s₁⟩
  · rw [hrefused e s₁ hbind]
    exact .unbound hbind
  obtain ⟨-, -, hpool, hlive⟩ := bindForRead_ok hbind
  have hp : s₁.pool? key = some t.pool := hpool ▸ pool?_of_target? ht
  obtain ⟨buffer, p', s₂, dead, htake, htaken⟩ :=
    run_acquire_ok (hpooled s₁ hbind) hp (t.regionBytes rect)
  rw [run_read_taken ht hfreed hregion hfits hbind (run_acquire htake)]
  refine .begun ⟨ht, hfreed, hregion, fun d hd => ?_, hbind, _, _, _, rfl⟩ hp
    (hlive ▸ (isLive_of_target? ht).2 hfreed) htake htaken rfl
  rw [hd, Option.any_some, Bool.or_eq_false_iff, bne_eq_false_iff_eq, decide_eq_false_iff_not,
    Nat.not_lt] at hfits
  exact hfits

/-- A read is refused, and all is as it was, or it begins and is looked at for the first time. -/
theorem run_read (hs : s.Sound index reads) (key : TargetKey) (label : String)
    (region : Option Rect) (destination : Option PixelData) :
    (∃ e s', (DrawPass.Store.read key label region destination).run s = (.error e, s') ∧
      s'.Sound index reads ∧ Undisturbed reads s s') ∨
    ∃ s₁ s₂ t rect read content, Begun key label region destination s s₁ t rect read ∧
      (DrawPass.Store.read key label region destination).run s = (.ok (), (step read s₂).2) ∧
      s₂.Sound index (read :: reads) ∧ Undisturbed reads s s₂ ∧
      read.length ≤ content.length ∧ s₂.Holds read ((overwrite content
        (s₁.device.pixels rect t.info.layout.format t.info.layout.type)).take read.length) := by
  have hbound {e : Except ReadError Unit} {s₁ : Store State}
      (hbind : (bindForRead key).run s = (e, s₁)) :
      s₁.Sound index reads ∧ Undisturbed reads s s₁ :=
    (bindForRead_moves permits_calm.toBinding key).of_run hbind hs
  generalize hrun : (DrawPass.Store.read key label region destination).run s = result
  have hspec := run_read_spec key label region destination s fun _ hbind => (hbound hbind).1.pooled
  rw [hrun] at hspec
  cases hspec with
  | refused e => exact .inl ⟨e, s, rfl, refl (r := Calm index reads) s hs⟩
  | unbound hbind => exact .inl ⟨_, _, rfl, hbound hbind⟩
  | @begun t rect s₁ s₂ s₃ p' buffer dead hbegun hp hlive htake htaken hgiven =>
    obtain ⟨hs₁, hsame₁⟩ := hbound hbegun.bound
    let read := s₃.begun key label destination t rect buffer
    let s₄ := s₃.copied t rect buffer
    -- No step between the binding and the first look takes a target away.
    have hkeeps : Keeps s₁ s₄ := by
      have hperform {α : Type} (command : Command α) (hcommand : command.keepsFixed)
          (s : Store State) : Keeps s (perform command s).2 :=
        permitsParts_keeps.command command hcommand s
      have htaken : Keeps s₁ s₂ := (acquirePackBuffer_moves permitsParts_keeps.toReads t.pool
        (t.regionBytes rect)).of_run htake
      have hgiven : Keeps s₂ s₃ :=
        hgiven ▸ permitsParts_keeps.toReads.modifyPool key (fun _ => p') s₂
      exact IsTrans.trans (r := Keeps) s₁ s₂ s₄ htaken
        (IsTrans.trans (r := Keeps) s₂ s₃ s₄ hgiven
          (IsTrans.trans (r := Keeps) s₃ _ s₄ (hperform _ rfl _)
            (IsTrans.trans (r := Keeps) _ _ s₄ (hperform _ rfl _) (hperform _ rfl _))))
    -- Taking a buffer draws nothing, so the pixels are those that were bound.
    have hcopied : s₂.device.pixels = s₁.device.pixels := by
      obtain ⟨_, _, _, rfl⟩ := htaken.frame
      rfl
    have hpacked : s₄.Sound index (read :: reads) ∧ Undisturbed reads s₁ s₄ ∧ ∃ content : Bytes,
        t.regionBytes rect ≤ content.length ∧ s₄.Holds read ((overwrite content
          (s₁.device.pixels rect t.info.layout.format t.info.layout.type)).take read.length) := by
      refine hs₁.packed hp hlive htaken rect t.info.layout.format t.info.layout.type hkeeps ?_
        rfl rfl
      subst hgiven
      exact hcopied ▸ ⟨_, _, rfl⟩
    obtain ⟨hs₄, hsame₄, content, hlength, hholds⟩ := hpacked
    exact .inr ⟨s₁, s₄, t, rect, read, content, hbegun, rfl, hs₄, hsame₁.trans hsame₄, hlength,
      hholds⟩

end Store

end DrawPass
