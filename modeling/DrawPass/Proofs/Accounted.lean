/-
DrawPass/Proofs/Accounted.lean

Pixel buffers and fences are accounted for.

`Store.Accounted` adds to what is known of the pools (`Store.Stocked`) that the fences on the
device are those of the reads, one each.  Every act keeps it, whatever it is given and whether or
not it is refused: a look at a read either keeps the read with its fence or ends both, and gives
the buffer back if that is still there (`step_accounted`); what is not a read leaves fences alone,
and takes buffers from a pool only when the pool's target ends.

The list of reads is a parameter, as in `Store.Pooled`, because a poll takes the reads that are
due out of the store before it looks at them.
-/
import DrawPass.Proofs.FramebufferHistory
import DrawPass.Proofs.Stocked

namespace DrawPass

open Gl Readback Software

namespace Store

variable {index : Name} {reads reads' : List PendingRead} {s s' : Store State} {key : TargetKey}
  {t : Target} {read : PendingRead}

/-- The buffers of the pools and the fences of the device are those of the reads, apart from
buffers that are idle. -/
structure Accounted (index : Name) (reads : List PendingRead) (s : Store State) : Prop
    extends s.Owned where
  stocked : s.Stocked index reads
  fences : s.device.fences.keys.Perm (reads.map PendingRead.fence)
  live : ∀ key id, s.framebuffer? key = some id → s.IsLive key

/-- The accounts stay in order, and no read begins or ends. -/
def Accounting (index : Name) (reads : List PendingRead) (s s' : Store State) : Prop :=
  s.Accounted index reads → s'.Accounted index reads ∧ s'.pending = s.pending

instance : IsPreorder (Store State) (Accounting index reads) where
  refl _ h := ⟨h, rfl⟩
  trans _ _ _ h h' hs := by
    obtain ⟨hs', hpending⟩ := h hs
    obtain ⟨hs'', hpending'⟩ := h' hs'
    exact ⟨hs'', hpending'.trans hpending⟩

/-! ### Steps that leave buffers and fences alone -/

/-- The pools and the reads may change together. -/
theorem Accounted.of_frames (h : s.Accounted index reads) (howned : s'.Owned)
    (hstocked : s'.Stocked index reads') (htargets : SameFrames s s')
    (hfences : s'.device.fences.keys.Perm (reads'.map PendingRead.fence)) :
    s'.Accounted index reads' where
  toOwned := howned
  stocked := hstocked
  fences := hfences
  live key id hid := by
    rw [htargets.framebuffer] at hid
    rw [htargets.live]
    exact h.live key id hid

theorem accounting_of_same (howned : Owning s s') (htargets : SameTargets s s')
    (hname : s.device.lastName ≤ s'.device.lastName)
    (hbuffers : s'.device.buffers = s.device.buffers)
    (hfences : s'.device.fences = s.device.fences) (hpending : s'.pending = s.pending) :
    Accounting index reads s s' := fun h =>
  ⟨h.of_frames (howned h.toOwned)
    (h.stocked.of_same (h.stocked.pooled.of_same htargets.pool htargets.live hname hbuffers)
      htargets.pool) htargets.toSameFrames (hfences ▸ h.fences), hpending⟩

theorem plain_accounting {α : Type} (command : Command α) (hobjects : command.keepsObjects) :
    Moves (Accounting index reads) (perform command : StateM (Store State) α) := fun s =>
  have hsame := State.sameObjects_perform command hobjects s.device
  accounting_of_same (command_owning command (command.keepsFrames_of_keepsObjects hobjects) s)
    (.of_eq rfl) hsame.lastName hsame.buffers hsame.fences rfl

theorem permitsContents_accounting : PermitsContents (Accounting index reads) where
  plain command _ hobjects := plain_accounting command hobjects
  contents s key f hf := accounting_of_same (permitsContents_owning.contents s key f hf)
    (sameTargets_modifyTarget s key hf) (Nat.le_refl _) rfl rfl rfl

theorem rotate_accounting (s : Store State) (key : StoryKey) :
    Accounting index reads s (s.rotate key) :=
  accounting_of_same (rotate_owning s key) (.of_eq rfl) (Nat.le_refl _) rfl rfl rfl

theorem control_accounting (s : Store State) (change : Control) :
    Accounting index reads s { s with device := change.apply s.device } := by
  have hsame := change.sameObjects s.device
  exact accounting_of_same (change.owning s) (.of_eq rfl) hsame.lastName hsame.buffers hsame.fences
    rfl

/-- The index array may be written. -/
theorem writeIndex_accounting (target : UInt32) (data : Bytes) (usage : UInt32) :
    Moves (Accounting index reads)
      (perform (.bufferData target index data usage) : StateM (Store State) Unit) := fun s h =>
  ⟨h.of_frames (command_owning (.bufferData target index data usage) rfl s h.toOwned)
    (h.stocked.of_same (h.stocked.pooled.index_written target data usage) rfl)
    (sameFrames_of_targets rfl) h.fences, rfl⟩

theorem ensure_accounting (vertexArray : Name) (capacity : UInt32) (needed : UInt32) :
    Moves (Accounting index reads)
      ((⟨vertexArray, index, capacity⟩ : Geometry.IndexArray).ensure needed :
        StateM (Store State) _) := by
  unfold Geometry.IndexArray.ensure
  split
  · exact .pure _
  · refine .bind (writeIndex_accounting _ _ _) fun _ => .bind (plain_accounting _ rfl) fun _ => ?_
    exact .bind (plain_accounting _ rfl) fun _ => .pure _

/-! ### The life of a target -/

theorem makeFramebuffer_accounting (ht : s.target? key = some t) (hfreed : t.freed = false) :
    Accounting index reads s ((makeFramebuffer key t).run s).2 := by
  have howned := makeFramebuffer_owning ht
  rcases run_makeFramebuffer key t s with ⟨e, hrun⟩ | ⟨s', hrun, hmade⟩ <;> rw [hrun] at howned ⊢
  · exact accounting_of_same howned (.of_eq rfl) (Nat.le_refl _) rfl rfl rfl
  intro h
  have hframebuffers := FramebuffersLive.framed h.live hmade ht hfreed
  obtain ⟨-, hpool, hlive, -⟩ := hmade.targets ht
  obtain ⟨framebuffers, log, rfl, -⟩ := hmade
  exact ⟨⟨howned h.toOwned, h.stocked.of_same
    (h.stocked.pooled.of_same hpool hlive (Nat.le_succ _) rfl) hpool, h.fences, hframebuffers⟩, rfl⟩

theorem released_accounting (hend : Released key t s s') (ht : s.target? key = some t) :
    Accounting index reads s s' := fun h =>
  ⟨⟨h.toOwned.released hend ht, h.stocked.released hend ht, hend.fences ▸ h.fences,
    FramebuffersLive.released h.live hend ht⟩, hend.pending⟩

theorem free_accounting (key : TargetKey) :
    Moves (Accounting index reads) (free key : StateM (Store State) Unit) := by
  intro s hs
  exact free_moves_at (R := Accounting index reads)
    (fun _ _ _ _ ht _ hend => released_accounting hend ht) (fun _ _ ht hown => hs.own_ne ht hown) hs

theorem added_accounting {d : TargetDescription} {companion : Companion}
    (hnew : Added d companion s s') (hkeeps : Keeps s s')
    (hcompanion : ∀ own, companion.ownedKey? = some own → own.index < s.targets.size) :
    Accounting index reads s s' := by
  intro h
  have hfences : s'.device.fences = s.device.fences := by
    rw [hnew.device]
    simp only [State.perform, State.createTexture]
    split <;> rfl
  exact ⟨⟨h.toOwned.added hnew hkeeps hcompanion, h.stocked.added hnew, hfences ▸ h.fences,
    FramebuffersLive.added h.live hnew⟩, hnew.pending⟩

theorem make_accounting (spec : TargetSpec) (d : TargetDescription) :
    Attempt.Moves (Accounting index reads) (Registry.make spec d :
      Attempt DrawError (Store State) Entry) := by
  intro s hs
  exact make_moves_at (R := Accounting index reads) (update_moves permitsContents_accounting)
    free_accounting
    (fun s => accounting_of_same (refuse_owning s) (.of_eq rfl) (Nat.le_refl _) rfl rfl rfl)
    (fun _ _ _ _ _ hnew hkeeps hown _ => added_accounting hnew hkeeps hown)
    (fun _ _ _ hwf hslots => accounting_of_same (fun h => h.addStory hwf hslots) (.of_eq rfl)
      (Nat.le_refl _) rfl rfl rfl) spec d hs.toWellFormed hs

theorem permits_accounting : Permits (Accounting index reads) fun _ => True where
  toPermitsContents := permitsContents_accounting
  makeFramebuffer _ _ _ ht hfreed _ := makeFramebuffer_accounting ht hfreed
  free := free_accounting
  make _ spec _ _ _ := make_accounting spec _

/-! ### Looking at reads -/

theorem permitsReads_sameFrames : PermitsReads SameFrames where
  command _ _ _ _ _ := sameFrames_of_targets rfl
  pool s key f := by
    obtain ⟨hframe, hframebuffer, hlive, -⟩ := modifyPool_targets s key f
    exact ⟨hframe, hframebuffer, hlive⟩
  reads _ _ _ htargets _ := sameFrames_of_targets htargets

/-- A look at a read keeps the read and its fence, or ends both. -/
theorem step_fences (read : PendingRead) (s : Store State) :
    ((∃ nextPoll, (step read s).2.pending = s.pending ++ [{ read with nextPoll }]) ∧
        (step read s).2.device.fences.keys = s.device.fences.keys) ∨
      (step read s).2.pending = s.pending ∧
        (step read s).2.device.fences.keys = (s.device.fences.erase read.fence).keys := by
  obtain ⟨fences, hrun, -, htimeout, hover⟩ := run_step read s
  rw [hrun]
  cases hanswer : s.answer read with
  | none => exact .inr ⟨rfl, hover (by simp [hanswer])⟩
  | some answer =>
    cases answer with
    | timeout => exact .inl ⟨⟨_, rfl⟩, (htimeout hanswer).1⟩
    | signaled | failed => exact .inr ⟨rfl, hover (by simp [hanswer])⟩

/-- The fences of the other reads stay. -/
theorem Accounted.fences_erase (h : s.Accounted index (read :: reads)) :
    (s.device.fences.erase read.fence).keys.Perm (reads.map PendingRead.fence) := by
  have hdistinct := h.fences.nodup_iff.1 s.device.fences.distinct
  rw [List.map_cons, List.nodup_cons] at hdistinct
  have hothers : (reads.map PendingRead.fence).filter (fun id => !decide (id = read.fence)) =
      reads.map PendingRead.fence := by
    refine List.filter_eq_self.2 fun id hid => ?_
    rw [decide_eq_false fun e : id = read.fence => hdistinct.1 (e ▸ hid)]
    rfl
  have hperm := h.fences.filter fun id => !decide (id = read.fence)
  rw [List.map_cons, List.filter_cons_of_neg (by simp), hothers] at hperm
  rwa [Table.keys_erase]

/-- What a look at a read leaves of it. -/
theorem step_accounted (h : s.Accounted index (read :: reads)) : ∃ waiting : List PendingRead,
    (step read s).2.pending = s.pending ++ waiting ∧
      (step read s).2.Accounted index (waiting ++ reads) := by
  have howned := step_moves permitsReads_owning.toLooks read s h.toOwned
  have hframes : SameFrames s (step read s).2 := step_moves permitsReads_sameFrames.toLooks read s
  have hfences := step_fences read s
  obtain ⟨fences, log, hcases⟩ := step_cases read s
  -- A read that is over is no longer under way.
  have hover (hpending : (step read s).2.pending = s.pending)
      (hstocked : (step read s).2.Stocked index reads) : ∃ waiting : List PendingRead,
      (step read s).2.pending = s.pending ++ waiting ∧
        (step read s).2.Accounted index (waiting ++ reads) := by
    refine ⟨[], hpending.trans (List.append_nil _).symm,
      h.of_frames howned hstocked hframes ?_⟩
    rcases hfences with ⟨⟨_, hwaits⟩, -⟩ | ⟨-, hkeys⟩
    · have hlength := congrArg List.length (hpending.symm.trans hwaits)
      rw [List.length_append] at hlength
      exact absurd hlength (Nat.ne_of_lt (Nat.lt_succ_self _))
    · rw [hkeys]
      exact h.fences_erase
  rcases hcases with ⟨hbad, hstep⟩ | ⟨-, ⟨nextPoll, hstep⟩ | hstep | hstep⟩
  · refine hover (hstep ▸ rfl) ?_
    rw [hstep]
    exact (h.stocked.dropped hbad).of_same
      (h.stocked.pooled.tail.of_same rfl rfl (Nat.le_refl _) rfl) rfl
  · -- A read that goes on waiting is put back with its fence, to be looked at later.
    have hlater := h.stocked.later nextPoll
    refine ⟨[{ read with nextPoll }], hstep ▸ rfl, h.of_frames howned ?_ hframes ?_⟩
    · rw [hstep]
      exact hlater.of_same (hlater.pooled.of_same rfl rfl (Nat.le_refl _) rfl) rfl
    · rcases hfences with ⟨-, hkeys⟩ | ⟨hnone, -⟩
      · rw [hkeys]
        exact h.fences
      · rw [hstep] at hnone
        have hlength := congrArg List.length hnone
        rw [List.length_append] at hlength
        exact absurd hlength.symm (Nat.ne_of_lt (Nat.lt_succ_self _))
  all_goals
    refine hover (hstep ▸ rfl) ?_
    rw [hstep]
    have hrecycled := h.stocked.recycled
    exact hrecycled.of_same (hrecycled.pooled.of_same rfl rfl (Nat.le_refl _) rfl) rfl

theorem Accounted.perm (h : s.Accounted index reads) (hperm : reads'.Perm reads) :
    s.Accounted index reads' :=
  { h with
    stocked := h.stocked.perm hperm
    fences := h.fences.trans (hperm.symm.map _) }

theorem steps_accounted {due : List PendingRead} (n : Nat)
    (h : s.Accounted index (due ++ s.pending)) :
    let s' := (due.foldlM (fun n read => do
      return if ← step read then n + 1 else n : Nat → PendingRead → StateM (Store State) Nat) n s).2
    s'.Accounted index s'.pending := by
  induction due generalizing n s with
  | nil => exact h
  | cons read due ih =>
    obtain ⟨waiting, hpending, haccounted⟩ := step_accounted h
    have hrest : (step read s).2.Accounted index (due ++ (step read s).2.pending) := by
      refine haccounted.perm ?_
      rw [hpending, ← List.append_assoc]
      exact List.perm_append_comm
    exact ih (if (step read s).1 then n + 1 else n) hrest

/-- A poll looks at every read that is due. -/
theorem poll_accounted (h : s.Accounted index s.pending) :
    ((poll : StateM (Store State) Nat) s).2.Accounted index
      ((poll : StateM (Store State) Nat) s).2.pending := by
  have hperm := h.perm s.takeDue_perm
  have htaken : s.takeDue.2.Accounted index (s.takeDue.1 ++ s.takeDue.2.pending) :=
    hperm.of_frames (permitsReads_owning.reads s s.takeDue.2 rfl rfl rfl h.toOwned)
      (hperm.stocked.of_same (hperm.stocked.pooled.of_same rfl rfl (Nat.le_refl _) rfl) rfl)
      (sameFrames_of_targets rfl) hperm.fences
  exact steps_accounted 0 htaken

/-! ### Beginning a read -/

/-- A buffer is taken for a read. -/
theorem Accounted.taken {p' : PackPool} {bytes : Nat} {buffer : Name} {dead : List Name}
    (h : s.Accounted index reads) (hp : s.pool? key = some t.pool) (hlive : s.IsLive key)
    (htake : (t.pool.acquire bytes).run s = (.ok (buffer, p'), s'))
    (htaken : PackPool.Taken t.pool p' s s' bytes buffer dead) (hbytes : 0 < bytes)
    (htarget : read.target = key) (hbuffer : read.buffer = buffer) :
    let given := s'.modifyPool key fun _ => p'
    given.pending = s.pending ∧ given.Owned ∧ SameFrames s given ∧
      given.device.fences = s.device.fences ∧ given.pool? key = some p' ∧
      p'.limit = t.pool.limit ∧ p'.idle.length ≤ p'.limit ∧ given.Stocked index (read :: reads) := by
  have howned : s'.Owned :=
    (acquirePackBuffer_moves permitsReads_owning t.pool bytes).of_run htake h.toOwned
  have hframes : SameFrames s s' :=
    (acquirePackBuffer_moves permitsReads_sameFrames t.pool bytes).of_run htake
  obtain ⟨hlimit, hidle⟩ := PackPool.length_idle_acquire htake
  refine ⟨?_, permitsReads_owning.pool s' key _ howned,
    IsTrans.trans (r := SameFrames) s s' _ hframes (permitsReads_sameFrames.pool s' key _), ?_,
    (pool?_taken hp htaken key).trans (if_pos rfl), hlimit, hlimit.symm ▸ hidle,
    h.stocked.taken hp htaken hlive hbytes htarget hbuffer⟩
  · obtain ⟨_, _, _, rfl⟩ := htaken.frame
    rfl
  · obtain ⟨_, _, _, rfl⟩ := htaken.frame
    rfl

/-- A region is copied into a buffer that was taken for it, and a fence is set behind the copy. -/
theorem Accounted.copied {s₀ : Store State} (h : s₀.Accounted index reads) (howned : s.Owned)
    (hframes : SameFrames s₀ s) (hfences : s.device.fences = s₀.device.fences)
    (hstocked : s.Stocked index (read :: reads)) (t : Target) (rect : Rect) (buffer : Name)
    (hfence : read.fence = s.device.lastName + 1) :
    (s.copied t rect buffer).Accounted index (read :: reads) := by
  have hcommand {α : Type} (command : Command α) (hcommand : command.keepsFrames) :
      Moves Owning (perform command : StateM (Store State) α) := command_owning command hcommand
  have hnew : s.device.lastName + 1 ∉ s.device.fences.keys := fun hmem =>
    Nat.not_succ_le_self _ (howned.numbered.fences _ hmem)
  refine h.of_frames ?_ ?_ (IsTrans.trans (r := SameFrames) s₀ s _ hframes
    (sameFrames_of_targets rfl)) ?_
  · exact hcommand .flush rfl _ (hcommand .fenceSync rfl _ (hcommand _ rfl s howned))
  · refine hstocked.of_same (.of_same (hstocked.pooled.packed rect t.info.layout.format
      t.info.layout.type buffer) rfl rfl (Nat.le_succ _) rfl) rfl
  · have hkeys : (s.copied t rect buffer).device.fences.keys =
        s.device.fences.keys ++ [s.device.lastName + 1] :=
      (Table.keys_insert ..).trans (if_neg hnew)
    rw [hkeys, List.map_cons, hfence]
    exact List.perm_append_comm.trans ((hfences ▸ h.fences).cons _)

/-- What a refused read leaves alone. -/
structure SameReads (s s' : Store State) : Prop where
  pool : s'.pool? = s.pool?
  fences : s'.device.fences = s.device.fences
  pending : s'.pending = s.pending

instance : IsPreorder (Store State) SameReads where
  refl _ := ⟨rfl, rfl, rfl⟩
  trans _ _ _ h h' :=
    ⟨h'.pool.trans h.pool, h'.fences.trans h.fences, h'.pending.trans h.pending⟩

theorem permitsBinding_sameReads : PermitsBinding SameReads where
  plain command _ hobjects _ s :=
    ⟨rfl, (State.sameObjects_perform command hobjects s.device).fences, rfl⟩
  mark s key f hf _ := ⟨(sameTargets_modifyTarget s key hf).pool, rfl, rfl⟩
  makeFramebuffer s key t ht _ _ := by
    rcases run_makeFramebuffer key t s with ⟨e, hrun⟩ | ⟨s', hrun, hmade⟩ <;> rw [hrun]
    · exact ⟨rfl, rfl, rfl⟩
    · obtain ⟨-, hpool, -⟩ := hmade.targets ht
      obtain ⟨_, _, rfl, -⟩ := hmade
      exact ⟨hpool, rfl, rfl⟩

/-- A buffer is taken from the pool of a target that has just been bound; no more buffers are idle
then than the pool is allowed. -/
def Acquires (key : TargetKey) (region : Option Rect) (s : Store State) : Prop :=
  ∃ t rect bound buffer taken p, s.target? key = some t ∧ t.region region = .ok rect ∧
    (bindForRead key).run s = (.ok (), bound) ∧
    (acquire key t (t.regionBytes rect)).run bound = (.ok buffer, taken) ∧
    taken.pool? key = some p ∧ p.limit = t.pool.limit ∧ p.idle.length ≤ p.limit

/-- A read leaves the accounts in order.  One that is refused changes nothing that reads are about,
and one that is not refused takes a buffer. -/
theorem read_accounted (h : s.Accounted index s.pending) (key : TargetKey) (label : String)
    (region : Option Rect) (destination : Option PixelData) :
    let result := (DrawPass.Store.read key label region destination).run s
    result.2.Accounted index result.2.pending ∧
      (∀ e, result.1 = .error e → SameReads s result.2) ∧
      (result.1 = .ok () → s.Acquires key region) := by
  dsimp only
  have hbound {e : Except ReadError Unit} {s₁ : Store State}
      (hbind : (bindForRead key).run s = (e, s₁)) :
      s₁.Accounted index s.pending ∧ s₁.pending = s.pending :=
    (bindForRead_moves permits_accounting.toBinding key).of_run hbind h
  -- The read is refused, fails to bind its target, or begins, and only then takes a buffer.
  have hspec := run_read_spec key label region destination s fun _ hbind =>
    (hbound hbind).1.stocked.pooled
  generalize (DrawPass.Store.read key label region destination).run s = result at hspec ⊢
  cases hspec with
  | refused e => exact ⟨h, fun _ _ => refl (r := SameReads) s, fun hok => by cases hok⟩
  | unbound hbind =>
    obtain ⟨h₁, hpending₁⟩ := hbound hbind
    exact ⟨hpending₁.symm ▸ h₁,
      fun _ _ => (bindForRead_moves permitsBinding_sameReads key).of_run hbind,
      fun hok => by cases hok⟩
  | @begun t rect s₁ s₂ s₃ p' buffer dead hbegun hp hlive htake htaken hgiven =>
    obtain ⟨h₁, hpending₁⟩ := hbound hbegun.bound
    let read := s₃.begun key label destination t rect buffer
    let s₄ := s₃.copied t rect buffer
    have hacquire : (acquire key t (t.regionBytes rect)).run s₁ = (.ok buffer, s₃) :=
      hgiven ▸ run_acquire htake
    obtain ⟨hpending₃, howned, hframes, hfences, hp', hlimit, hidle, hstocked⟩ :=
      h₁.taken hp hlive htake htaken (Target.regionBytes_pos hbegun.region)
        (rfl : read.target = key) rfl
    rw [← hgiven] at hpending₃ howned hframes hfences hp' hstocked
    have hcopied : s₄.Accounted index (read :: s.pending) :=
      h₁.copied howned hframes hfences hstocked t rect buffer rfl
    obtain ⟨waiting, hpending, haccounted⟩ := step_accounted hcopied
    have hacquires : Acquires key region s := ⟨t, rect, s₁, buffer, s₃, p', hbegun.target,
      hbegun.region, hbegun.bound, hacquire, hp', hlimit, hidle⟩
    refine ⟨?_, fun e herror => (by cases herror), fun _ => hacquires⟩
    have hpending₄ : s₄.pending = s.pending := hpending₃.trans hpending₁
    rw [hpending, hpending₄]
    exact haccounted.perm List.perm_append_comm

end Store

/-! ### Acts -/

namespace Renderer

/-- The buffers of all pools and the fences of the device are accounted for by the reads under
way. -/
def Accounted (r : Renderer State) : Prop := r.store.Accounted r.geometry.buffer r.store.pending

/-- A new renderer has no targets, and its only buffer is that of its index array. -/
theorem accounted_create {config : Config} {width height : UInt32} {r : Renderer State}
    (hr : create config { device := State.new width height } = .ok r) : r.Accounted := by
  have hs : (newStore config width height).Accounted 2 [] := by
    have hkept : (newStore config width height).Kept (fun _ => True) 2 [] :=
      kept_newDevice rfl rfl rfl
    exact ⟨hkept.toOwned, ⟨hkept.pooled, nofun, nofun, nofun⟩, .nil, nofun⟩
  obtain ⟨haccounted, -⟩ :=
    Store.ensure_accounting 1 0 (max config.indexCapacity 1) (newStore config width height) hs
  obtain ⟨capacity, buffers, log, hensure, rfl⟩ := create_eq hr
  rwa [hensure] at haccounted

end Renderer

/-- Every act leaves the accounts in order. -/
theorem Act.after_accounted (act : Act) {r : Renderer State} (h : r.Accounted) :
    (act.after r).Accounted := by
  have hover (hmoves : r.Over r.geometry.buffer
      (Store.Accounting r.geometry.buffer r.store.pending) (act.after r)) :
      (act.after r).Accounted := by
    obtain ⟨hbuffer, haccounting, -⟩ := hmoves rfl
    obtain ⟨haccounted, hpending⟩ := haccounting h
    unfold Renderer.Accounted
    rw [hbuffer, hpending]
    exact haccounted
  have hquiet (hact : act.isQuiet) : (act.after r).Accounted :=
    hover (Act.quiet_moves Store.permits_accounting
      (fun key _ s => Store.rotate_accounting s key)
      (fun change _ s => Store.control_accounting s change)
      (fun s _ => Store.accounting_of_same (Store.permitsReads_owning.reads s _ rfl rfl rfl)
        (.of_eq rfl) (Nat.le_refl _) rfl rfl rfl) hact r)
  cases act with
  | draw bag destination =>
    exact hover (Renderer.draw_moves Store.permits_accounting Store.writeIndex_accounting
      Store.plain_accounting Store.rotate_accounting bag (fun _ _ => trivial) r)
  | poll => exact Store.poll_accounted h
  | read key label region destination =>
    exact (Store.read_accounted h key label region destination).1
  | _ => exact hquiet rfl

/-- The accounts are in order throughout. -/
theorem ReachableBy.accounted {P : Act → Prop} {r : Renderer State} (hr : ReachableBy P r) :
    r.Accounted :=
  hr.invariant (fun _ _ _ _ h => Renderer.accounted_create h)
    fun act _ _ h => act.after_accounted h

/-- What has been freed has no buffers, and gets none. -/
theorem Act.afterAll_emptied {r : Renderer State} (h : r.Accounted) {key : TargetKey}
    (hkey : r.store.IsFreed key) (later : List Act) :
    ∃ p, (Act.afterAll r later).store.pool? key = some p ∧ p.live = [] ∧ p.idle = [] := by
  have hended : r.store.Ended key := by
    obtain ⟨hsome, hdead⟩ := Store.isFreed_iff.1 hkey
    refine ⟨Option.isSome_iff_exists.1 hsome, hdead, ?_⟩
    exact Option.eq_none_iff_forall_ne_some.2 fun id hid => hdead (h.live key id hid)
  have haging := Act.afterAll_moves (R := Store.Aging) Act.after_aging later r
  obtain ⟨⟨f, hf⟩, hdead, -⟩ := (haging h.toOwned).2.ended key hended
  -- It is the accounts that say that the pool of a dead target is empty.
  have hlater : (Act.afterAll r later).Accounted := by
    clear hended haging hf hdead hkey
    induction later generalizing r with
    | nil => exact h
    | cons act later ih => exact ih (act.after_accounted h)
  obtain ⟨t, ht, -⟩ := Option.map_eq_some_iff.1 hf
  have hp := Store.pool?_of_target? ht
  have hlive : t.pool.live = [] := hlater.stocked.pooled.freed key t.pool hp hdead
  refine ⟨t.pool, hp, hlive, List.eq_nil_iff_forall_not_mem.2 fun b hb => ?_⟩
  have hmem := hlater.stocked.pooled.idle key t.pool b hp hb
  rw [hlive] at hmem
  cases hmem

/-- After any run of a host, whatever the limit of the pools:

* the buffers that a pool lists are distinct; they are on the device with storage of the length
  that the pool has noted, which is not zero; and they are the idle ones and those of the target's
  reads whose buffers are still good, each once;
* no buffer is in two pools, and no two reads have one good buffer;
* a read that is accepted takes a buffer, and then no more are idle than the limit;
* a target that has been freed has an empty pool from then on;
* the fences on the device are those of the reads under way, one each;
* a read that is refused changes no pool, no fence and no read under way. -/
theorem buffers_and_fences_accounted {config : Config} {width height : UInt32} {r : Renderer State}
    (hr : Renderer.create config { device := State.new width height } = .ok r) (acts : List Act) :
    let s := (Act.afterAll r acts).store
    (∀ key p, s.pool? key = some p → p.live.Nodup ∧
      (∀ b ∈ p.live, 0 < p.capacity b ∧
        ∃ content, s.device.buffers.get? b = some content ∧ content.length = p.capacity b) ∧
      p.live.Perm (p.idle ++ s.heldBuffers key)) ∧
    (∀ key key' p p' b, s.pool? key = some p → s.pool? key' = some p' → b ∈ p.live → b ∈ p'.live →
      key = key') ∧
    s.held.Nodup ∧
    (∀ key label region destination,
      ((Store.read key label region destination).run s).1 = .ok () → s.Acquires key region) ∧
    (∀ key, s.IsFreed key → ∀ later, ∃ p,
      (Act.afterAll r (acts ++ later)).store.pool? key = some p ∧ p.live = [] ∧ p.idle = []) ∧
    s.device.fences.keys.Perm (s.pending.map PendingRead.fence) ∧
    ∀ key label region destination e s',
      (Store.read key label region destination).run s = (.error e, s') → s.SameReads s' := by
  intro s
  have hreached : Reachable (Act.afterAll r acts) :=
    (ReachableBy.start hr).afterAll fun _ _ => trivial
  have h := hreached.accounted
  -- One invariant says it all, except that a freed target stays empty: that is about later acts.
  refine ⟨fun key p hp => ⟨h.stocked.distinct key p hp, fun b hb => ?_, h.stocked.live_perm hp⟩,
    h.stocked.pooled.own, h.stocked.nodup_held, fun key label region destination hok => ?_,
    fun key hkey later => ?_, h.fences, fun key label region destination e s' hrun => ?_⟩
  · exact ⟨h.stocked.roomy key p b hp hb, h.stocked.pooled.stored key p b hp hb⟩
  · exact (Store.read_accounted h key label region destination).2.2 hok
  · rw [Act.afterAll_append]
    exact Act.afterAll_emptied h hkey later
  · have hsame := (Store.read_accounted h key label region destination).2.1 e
    rw [hrun] at hsame
    exact hsame rfl

/-- One read waits for its fence and another is handed over at once: the pool of their target has
two buffers, one that is held and one that is idle, and there is one fence. -/
theorem buffers_and_fences_accounted_of_two_reads :
    ∃ (acts : List Act) (p : PackPool),
      (Act.afterAll Renderer.onePixel acts).store.pool? ⟨0⟩ = some p ∧ p.live = [5, 7] ∧
      p.live.Perm (p.idle ++ (Act.afterAll Renderer.onePixel acts).store.heldBuffers ⟨0⟩) ∧
      p.idle = [7] ∧
      (Act.afterAll Renderer.onePixel acts).store.device.fences.keys.Perm
        ((Act.afterAll Renderer.onePixel acts).store.pending.map PendingRead.fence) ∧
      (Act.afterAll Renderer.onePixel acts).store.device.fences.keys = [6] := by
  let spec : TargetSpec := { tag := "s", size := some (1, 1) }
  let acts : List Act := [.control (.fenceLatency 1), .draw .empty (.spec spec),
    .read ⟨0⟩ "a" none none, .control (.fenceLatency 0), .read ⟨0⟩ "b" none none]
  have hpool : ∃ p, (Act.afterAll Renderer.onePixel acts).store.pool? ⟨0⟩ = some p ∧
      p.live = [5, 7] ∧ p.idle = [7] := by
    refine ⟨((Act.afterAll Renderer.onePixel acts).store.pool? ⟨0⟩).get (by decide +kernel), ?_⟩
    exact ⟨(Option.some_get _).symm, by decide +kernel, by decide +kernel⟩
  obtain ⟨p, hp, hlive, hidle⟩ := hpool
  obtain ⟨hpools, -, -, -, -, hfences, -⟩ :=
    buffers_and_fences_accounted Renderer.create_onePixel acts
  exact ⟨acts, p, hp, hlive, (hpools _ p hp).2.2, hidle, hfences, by decide +kernel⟩

end DrawPass
