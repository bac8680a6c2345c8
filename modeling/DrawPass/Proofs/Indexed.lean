/-
DrawPass/Proofs/Indexed.lean

Draws stay within the index array.

The buffer of the index array always holds the integers below the capacity of the array
(`Renderer.Indexed`).  It is written only by a draw that needs more of them, and then as a whole;
everything else leaves it alone (`Store.Sparing`), because pixel buffers are written and deleted
through the pools, and no pool has this one.  A draw makes the array long enough before it draws its
strip (`reach_lengthens`), so the device is never told to draw more vertices or instances than there
are integers (`draws_stay_within_indices`).
-/
import DrawPass.Proofs.Accounted
import DrawPass.Proofs.Counts
import DrawPass.Proofs.Sources

namespace DrawPass

open Readback Software
open Gl hiding Call

namespace Store

variable {index : Name} {reads : List PendingRead} {s s' : Store State} {key : TargetKey}
  {t : Target} {read : PendingRead}

/-- The accounts stay in order, no read begins or ends, and the buffer of the index array is left
alone. -/
def Sparing (index : Name) (reads : List PendingRead) (s s' : Store State) : Prop :=
  s.Accounted index reads → (s'.Accounted index reads ∧ s'.pending = s.pending) ∧
    s'.device.buffers.get? index = s.device.buffers.get? index

instance : IsPreorder (Store State) (Sparing index reads) where
  refl _ h := ⟨⟨h, rfl⟩, rfl⟩
  trans _ _ _ h h' hs := by
    obtain ⟨⟨hs', hpending⟩, hbuffer⟩ := h hs
    obtain ⟨⟨hs'', hpending'⟩, hbuffer'⟩ := h' hs'
    exact ⟨⟨hs'', hpending'.trans hpending⟩, hbuffer'.trans hbuffer⟩

/-! ### The life of a target -/

/-- No buffer is written or deleted. -/
theorem sparing_of_same (h : Accounting index reads s s')
    (hbuffers : s'.device.buffers = s.device.buffers) : Sparing index reads s s' := by
  intro hs
  rw [hbuffers]
  exact ⟨h hs, rfl⟩

theorem plain_sparing {α : Type} (command : Command α) (hobjects : command.keepsObjects) :
    Moves (Sparing index reads) (perform command : StateM (Store State) α) := fun s =>
  sparing_of_same (plain_accounting command hobjects s)
    (State.sameObjects_perform command hobjects s.device).buffers

theorem permitsContents_sparing : PermitsContents (Sparing index reads) where
  plain command _ hobjects := plain_sparing command hobjects
  contents s key f hf := sparing_of_same (permitsContents_accounting.contents s key f hf) rfl

theorem rotate_sparing (s : Store State) (key : StoryKey) :
    Sparing index reads s (s.rotate key) :=
  sparing_of_same (rotate_accounting s key) rfl

theorem control_sparing (s : Store State) (change : Control) :
    Sparing index reads s { s with device := change.apply s.device } :=
  sparing_of_same (control_accounting s change) (change.sameObjects s.device).buffers

theorem makeFramebuffer_sparing (ht : s.target? key = some t) (hfreed : t.freed = false) :
    Sparing index reads s ((makeFramebuffer key t).run s).2 := by
  refine sparing_of_same (makeFramebuffer_accounting ht hfreed) ?_
  rcases run_makeFramebuffer key t s with ⟨e, hrun⟩ | ⟨s', hrun, hmade⟩
  · rw [hrun]
  · obtain ⟨_, _, rfl, -⟩ := hmade
    rw [hrun]

/-- The end of a target deletes the buffers of its pool, and the index array has none of them. -/
theorem released_sparing (hend : Released key t s s') (ht : s.target? key = some t) :
    Sparing index reads s s' := by
  intro h
  refine ⟨released_accounting hend ht h, ?_⟩
  rw [hend.buffers, if_neg]
  exact fun hmem => (h.stocked.pooled.numbered key t.pool index (pool?_of_target? ht) hmem).2 rfl

theorem free_sparing (key : TargetKey) :
    Moves (Sparing index reads) (free key : StateM (Store State) Unit) := by
  intro s hs
  exact free_moves_at (R := Sparing index reads)
    (fun _ _ _ _ ht _ hend => released_sparing hend ht) (fun _ _ ht hown => hs.own_ne ht hown) hs

theorem make_sparing (spec : TargetSpec) (d : TargetDescription) :
    Attempt.Moves (Sparing index reads) (Registry.make spec d :
      Attempt DrawError (Store State) Entry) := by
  intro s hs
  refine make_moves_at (R := Sparing index reads) (update_moves permitsContents_sparing)
    free_sparing (fun s => ?_) (fun _ _ _ _ _ hnew hkeeps hown _ => ?_)
    (fun _ _ _ hwf hslots => ?_) spec d hs.toWellFormed hs
  · exact sparing_of_same (accounting_of_same (refuse_owning s) (.of_eq rfl) (Nat.le_refl _) rfl rfl
      rfl) rfl
  · exact sparing_of_same (added_accounting hnew hkeeps hown) hnew.buffers
  · exact sparing_of_same (accounting_of_same (fun h => h.addStory hwf hslots) (.of_eq rfl)
      (Nat.le_refl _) rfl rfl rfl) rfl

theorem permits_sparing : Permits (Sparing index reads) fun _ => True where
  toPermitsContents := permitsContents_sparing
  makeFramebuffer _ _ _ ht hfreed _ := makeFramebuffer_sparing ht hfreed
  free := free_sparing
  make _ spec _ _ _ := make_sparing spec _

/-! ### Reads -/

/-- The buffers hold what they held. -/
def SameBuffers (s s' : Store State) : Prop := s'.device.buffers = s.device.buffers

instance : IsPreorder (Store State) SameBuffers where
  refl _ := rfl
  trans _ _ _ h h' := Eq.trans h' h

/-- A look at a read takes bytes out of its buffer and writes none. -/
theorem step_sameBuffers (read : PendingRead) :
    Moves SameBuffers (step read : StateM (Store State) Bool) := by
  intro s
  obtain ⟨fences, log, ⟨-, hstep⟩ | ⟨-, ⟨nextPoll, hstep⟩ | hstep | hstep⟩⟩ := step_cases read s <;>
    rw [hstep] <;> rfl

theorem poll_sameBuffers : Moves SameBuffers (poll : StateM (Store State) Nat) := by
  intro s
  have hlook (n : Nat) (read : PendingRead) : Moves SameBuffers (do
      return if ← step read then n + 1 else n : StateM (Store State) Nat) :=
    .bind (step_sameBuffers read) fun _ => .pure _
  exact Moves.foldlM hlook _ 0 s.takeDue.2

/-- A read writes into a buffer of its target's pool. -/
theorem read_spares (h : s.Accounted index s.pending) (key : TargetKey) (label : String)
    (region : Option Rect) (destination : Option PixelData) :
    ((DrawPass.Store.read key label region destination).run s).2.device.buffers.get? index =
      s.device.buffers.get? index := by
  have hbound {e : Except ReadError Unit} {s₁ : Store State}
      (hbind : (bindForRead key).run s = (e, s₁)) :
      (s₁.Accounted index s.pending ∧ s₁.pending = s.pending) ∧
        s₁.device.buffers.get? index = s.device.buffers.get? index :=
    (bindForRead_moves permits_sparing.toBinding key).of_run hbind h
  have hspec := run_read_spec key label region destination s fun _ hbind =>
    (hbound hbind).1.1.stocked.pooled
  generalize (DrawPass.Store.read key label region destination).run s = result at hspec ⊢
  cases hspec with
  | refused => rfl
  | unbound hbind => exact (hbound hbind).2
  | @begun t rect s₁ s₂ s₃ p' buffer dead hbegun hp hlive htake htaken hgiven =>
    obtain ⟨⟨h₁, -⟩, hsame₁⟩ := hbound hbegun.bound
    have hpooled := h₁.stocked.pooled
    -- The pool may delete idle buffers and make a new one, and none of these is the array's.
    have hne : buffer ≠ index := hpooled.taken_ne_index hp htaken
    have hdead : index ∉ dead := fun hmem =>
      (hpooled.numbered key t.pool index hp (hpooled.mem_of_dead hp htaken hmem)).2 rfl
    subst hgiven
    refine (congrArg (·.get? index) (step_sameBuffers ..)).trans ?_
    refine (Table.get?_modify ..).trans ((if_neg hne).trans ?_)
    exact (htaken.contents index hne.symm).trans ((if_neg hdead).trans hsame₁)

/-! ### Making the index array longer -/

/-- The index array is long enough afterwards, and its buffer holds the integers below its
capacity. -/
theorem ensure_indexed {a a' : Geometry.IndexArray} {needed : UInt32}
    (hrun : (a.ensure needed : StateM (Store State) Geometry.IndexArray) s = (a', s'))
    (h : s.device.buffers.get? a.buffer = some (Geometry.indexBytes a.capacity)) :
    s'.device.buffers.get? a'.buffer = some (Geometry.indexBytes a'.capacity) ∧
      min needed.toNat Geometry.maxCount.toNat ≤ a'.capacity.toNat ∧
      (needed ≤ Geometry.maxCount → a.capacity.toNat ≤ a'.capacity.toNat) := by
  unfold Geometry.IndexArray.ensure at hrun
  split at hrun
  · rename_i henough
    cases hrun
    exact ⟨h, Nat.le_trans (Nat.min_le_left ..) (UInt32.le_iff_toNat_le.1 henough),
      fun _ => Nat.le_refl _⟩
  · rename_i hshort
    cases hrun
    have hneeded := Geometry.le_capacityFor needed
    refine ⟨?_, hneeded, fun hcount => ?_⟩
    · refine (Table.get?_modify ..).trans ?_
      rw [if_pos rfl, h, Option.map_some]
    · rw [Nat.min_eq_left (UInt32.le_iff_toNat_le.1 hcount)] at hneeded
      rw [UInt32.le_iff_toNat_le] at hshort
      exact Nat.le_trans (Nat.le_of_not_le hshort) hneeded

end Store

namespace Renderer

variable {r r' moment : Renderer State} {bag : Params.Bag} {destination : Destination}
  {resolved : Resolved} {strip : Strip}

/-- The buffer of the index array has the bytes that an array of its capacity is given. -/
def Indexed (r : Renderer State) : Prop :=
  r.store.device.buffers.get? r.geometry.buffer =
    some (Geometry.indexBytes r.geometry.capacity)

/-- The buffer of the index array holds the integers below its capacity and nothing else, each in
four bytes, lowest byte first. -/
def HoldsIntegers (r : Renderer State) : Prop :=
  ∃ bytes, r.store.device.buffers.get? r.geometry.buffer = some bytes ∧
    bytes.length = 4 * r.geometry.capacity.toNat ∧
    (Pixel.chunks 4 bytes).map Pixel.wordOf = List.range r.geometry.capacity.toNat

theorem Indexed.holdsIntegers (h : r.Indexed) : r.HoldsIntegers :=
  ⟨_, h, Geometry.length_indexBytes _, Geometry.words_indexBytes _⟩

/-- The index array holds what it should, and it may have become longer. -/
def Lengthens (r r' : Renderer State) : Prop :=
  r.Accounted → r.Indexed →
    r'.Accounted ∧ r'.Indexed ∧ r.geometry.capacity.toNat ≤ r'.geometry.capacity.toNat

instance : IsPreorder (Renderer State) Lengthens where
  refl _ h h' := ⟨h, h', Nat.le_refl _⟩
  trans _ _ _ h h' haccounted hindexed := by
    obtain ⟨haccounted', hindexed', hle⟩ := h haccounted hindexed
    obtain ⟨haccounted'', hindexed'', hle'⟩ := h' haccounted' hindexed'
    exact ⟨haccounted'', hindexed'', Nat.le_trans hle hle'⟩

/-- The relation of what leaves the index array alone. -/
abbrev Sparing (a : Geometry.IndexArray) (reads : List Readback.PendingRead) :
    Renderer State → Renderer State → Prop := Along (fun b => b = a) (Store.Sparing a.buffer reads)

theorem lengthens_of_sparing (h : Sparing r.geometry r.store.pending r r') : Lengthens r r' := by
  intro haccounted hindexed
  obtain ⟨hgeometry, hsparing, -⟩ := h rfl
  obtain ⟨⟨hstore, hpending⟩, hbuffer⟩ := hsparing haccounted
  refine ⟨?_, ?_, by rw [hgeometry]⟩
  · unfold Accounted
    rw [hgeometry, hpending]
    exact hstore
  · unfold Indexed
    rw [hgeometry, hbuffer]
    exact hindexed

/-! ### Draws -/

theorem perform_lengthens {α : Type} (command : Command α) (hobjects : command.keepsObjects) :
    Moves Lengthens (perform command : StateM (Renderer State) α) := fun r =>
  lengthens_of_sparing (perform_moves (Store.plain_sparing command hobjects) r)

theorem setting_lengthens (command : Command Unit) (h : command.isSetting) :
    Moves Lengthens (perform command : StateM (Renderer State) Unit) :=
  perform_lengthens command (command.keepsObjects_of_isSetting h)

theorem settle_lengthens (bag : Params.Bag) (destination : Destination) : Attempt.Moves Lengthens
    (settle bag destination : Attempt DrawError (Renderer State) _) := fun r =>
  lengthens_of_sparing (settle_moves Store.permits_sparing bag (fun _ _ => trivial) r)

theorem bind_lengthens (resolved : Resolved) : Attempt.Moves Lengthens
    (bind resolved : Attempt DrawError (Renderer State) (UInt32 × UInt32)) := fun r =>
  lengthens_of_sparing (bind_moves Store.permits_sparing.toBinding
    (fun key _ s => Store.rotate_sparing s key) r)

theorem wipe_lengthens (plan : Plan) (view : Rect) :
    Moves Lengthens (wipe plan view : StateM (Renderer State) Unit) :=
  wipe_moves setting_lengthens plan view

theorem program_lengthens (options : Params.Options) (uniforms : Uniform.Values) :
    Attempt.Moves Lengthens
      (program options uniforms : Attempt DrawError (Renderer State) Shader.Program) := fun r =>
  lengthens_of_sparing (program_moves Store.permits_sparing.toBinding options uniforms r)

theorem finish_lengthens (strip : Strip) :
    Moves Lengthens (strip.finish : StateM (Renderer State) Unit) :=
  finish_moves setting_lengthens (perform_lengthens _ rfl)

/-- A draw makes the index array as long as it needs it. -/
theorem ensure_lengthens {needed : UInt32} (h : needed ≤ Geometry.maxCount)
    {a : Geometry.IndexArray} {s : Store State}
    (hrun : (r.geometry.ensure needed : StateM (Store State) Geometry.IndexArray) r.store =
      (a, s)) :
    Lengthens r { r with store := s, geometry := a } ∧
      (r.Indexed → needed.toNat ≤ a.capacity.toNat) := by
  have hneeded := UInt32.le_iff_toNat_le.1 h
  refine ⟨fun haccounted hindexed => ?_, fun hindexed => ?_⟩
  · obtain ⟨hcontent, -, hmono⟩ := Store.ensure_indexed hrun hindexed
    have haccounted' := Store.ensure_accounting r.geometry.vertexArray r.geometry.capacity needed
      r.store haccounted
    obtain ⟨capacity, buffers, log, hsame⟩ := run_ensure r.geometry needed r.store
    cases hrun.symm.trans hsame
    rw [hrun] at haccounted'
    exact ⟨haccounted'.1, hcontent, hmono h⟩
  · obtain ⟨-, henough, -⟩ := Store.ensure_indexed hrun hindexed
    rwa [Nat.min_eq_left hneeded] at henough

/-- The index array is long enough for a strip. -/
structure Fits (strip : Strip) (r : Renderer State) : Prop where
  vertices : strip.plan.vertices.toNat ≤ r.geometry.capacity.toNat
  instances : strip.plan.instances.toNat ≤ r.geometry.capacity.toNat

/-- What is drawn after the array has been made long enough fits. -/
theorem upload_lengthens {strip : Strip} (hvertices : strip.plan.vertices ≤ Geometry.maxCount)
    (hinstances : strip.plan.instances ≤ Geometry.maxCount) (r : Renderer State) :
    Lengthens r (strip.upload r).2 ∧
      (r.Accounted → r.Indexed → Fits strip (strip.upload r).2) := by
  unfold Strip.upload
  generalize hneeded : max strip.plan.vertices strip.plan.instances = needed
  have hmax : needed.toNat = max strip.plan.vertices.toNat strip.plan.instances.toNat :=
    hneeded ▸ Geometry.toNat_max ..
  have hcount : needed ≤ Geometry.maxCount := by
    rw [UInt32.le_iff_toNat_le, hmax]
    exact Nat.max_le.2 ⟨UInt32.le_iff_toNat_le.1 hvertices, UInt32.le_iff_toNat_le.1 hinstances⟩
  rcases hrun : (r.geometry.ensure needed : StateM (Store State) Geometry.IndexArray) r.store
    with ⟨a, s⟩
  have hensure : (r.geometry.ensure needed : StateM (Renderer State) Geometry.IndexArray) r =
      (a, { r with store := s }) := by
    rw [ensure_eq_onStore, onStore, hrun]
  obtain ⟨hlonger, henough⟩ := ensure_lengthens hcount hrun
  -- Nothing behind the lengthening takes any of the array away.
  have hrest : Moves Lengthens (do
      a.bind
      let samplers ← onStore (strip.program.applyUniforms strip.values (← get).samplers)
      modify fun r => { r with samplers } : StateM (Renderer State) Unit) := by
    refine .bind (perform_lengthens _ rfl) fun _ => .bind .get fun r => .bind ?_ fun _ => ?_
    · exact fun r => lengthens_of_sparing
        (applyUniforms_moves Store.permits_sparing.toBinding.toUploads _ _ _ r)
    · exact .modify fun r => lengthens_of_sparing (along_of_eq rfl rfl id)
  rw [run_get_bind, run_bind_eq hensure]
  have hrest := hrest { r with store := s, geometry := a }
  refine ⟨IsTrans.trans r _ _ hlonger hrest, fun haccounted hindexed => ?_⟩
  obtain ⟨haccounted₁, hindexed₁, -⟩ := hlonger haccounted hindexed
  obtain ⟨-, -, hle⟩ := hrest haccounted₁ hindexed₁
  have hfits := Nat.le_trans (henough hindexed) hle
  rw [hmax] at hfits
  exact ⟨Nat.le_trans (Nat.le_max_left ..) hfits, Nat.le_trans (Nat.le_max_right ..) hfits⟩

theorem load_lengthens {strip : Strip} (hvertices : strip.plan.vertices ≤ Geometry.maxCount)
    (hinstances : strip.plan.instances ≤ Geometry.maxCount) (r : Renderer State) :
    Lengthens r (strip.load r).2 ∧ (r.Accounted → r.Indexed → Fits strip (strip.load r).2) := by
  let r₁ := (perform (.useProgram (some strip.program.name)) r).2
  let r₂ := (setState strip.plan strip.blend r₁).2
  let r₃ := (perform (.viewport strip.view) r₂).2
  have hready : Lengthens r r₃ := by
    refine IsTrans.trans r r₁ _ (perform_lengthens _ rfl r) (IsTrans.trans r₁ r₂ _ ?_ ?_)
    · exact setState_moves (fun command h _ => setting_lengthens command h) _ _ r₁
    · exact setting_lengthens _ rfl r₂
  obtain ⟨hupload, hfits⟩ := upload_lengthens hvertices hinstances r₃
  refine ⟨IsTrans.trans r r₃ _ hready hupload, fun haccounted hindexed => ?_⟩
  obtain ⟨haccounted₃, hindexed₃, -⟩ := hready haccounted hindexed
  exact hfits haccounted₃ hindexed₃

/-- What comes before a strip is loaded. -/
theorem Reached.lengthens {settled bound found : Renderer State}
    (h : Reached bag destination r resolved strip settled bound found) : Lengthens r found := by
  obtain ⟨size, hbind, -⟩ := h.bind
  have hsettled : Lengthens r settled := (settle_lengthens bag destination).of_run h.settle
  have hbound : Lengthens settled bound := (bind_lengthens resolved).of_run hbind
  have hfound : Lengthens (wipe strip.plan strip.view bound).2 found :=
    (program_lengthens _ _).of_run h.program
  refine IsTrans.trans r settled _ hsettled (IsTrans.trans settled bound _ hbound ?_)
  exact IsTrans.trans bound _ _ (wipe_lengthens strip.plan strip.view bound) hfound

/-- All that comes before the strip of a draw keeps the index array in order; if there is a strip,
it fits. -/
theorem reach_lengthens {result : Except DrawError (Resolved × Option Strip)}
    (hrun : (reach bag destination).run r = (result, moment)) : Lengthens r moment ∧
      ∀ resolved strip, result = .ok (resolved, some strip) → r.Accounted → r.Indexed →
        Fits strip moment := by
  by_cases hresult : ∃ resolved strip, result = .ok (resolved, some strip)
  · obtain ⟨resolved, strip, rfl⟩ := hresult
    obtain ⟨settled, bound, found, hreached, rfl⟩ := exists_reached hrun
    have hfound := hreached.lengthens
    obtain ⟨-, hvertices, hinstances⟩ := Plan.ofBag_eq_ok (run_settle_eq_ok hreached.settle).1
    obtain ⟨hload, hfits⟩ := load_lengthens (Geometry.vertexCount_eq_some hvertices).2
      (Geometry.instanceCount_eq_some hinstances).2 found
    refine ⟨IsTrans.trans r found _ hfound hload, fun _ _ heq haccounted hindexed => ?_⟩
    cases heq
    obtain ⟨haccounted', hindexed', -⟩ := hfound haccounted hindexed
    exact hfits haccounted' hindexed'
  · refine ⟨?_, fun resolved strip heq => absurd ⟨resolved, strip, heq⟩ hresult⟩
    refine unreached_rule (I := Lengthens r) (J := Lengthens r) hrun
      (fun resolved strip heq => hresult ⟨resolved, strip, heq⟩)
      (settle_lengthens bag destination r) ?_ ?_ ?_ ?_ ?_
    · exact fun resolved settled size bound h hbind =>
        IsTrans.trans r settled _ h ((bind_lengthens resolved).of_run hbind)
    · exact fun resolved settled e after h hbind =>
        IsTrans.trans r settled _ h ((bind_lengthens resolved).of_run hbind)
    · exact fun plan view bound h => IsTrans.trans r bound _ h (wipe_lengthens plan view bound)
    · exact fun options uniforms wiped e after h hprogram =>
        IsTrans.trans r wiped _ h ((program_lengthens options uniforms).of_run hprogram)
    · exact fun wiped h => IsTrans.trans r wiped _ h (setting_lengthens (.depthMask true) rfl wiped)

theorem draw_lengthens (bag : Params.Bag) (destination : Destination) : Attempt.Moves Lengthens
    (draw bag destination : Attempt DrawError (Renderer State) Resolved) := by
  intro r
  rw [draw_eq_reach]
  rcases hrun : (reach bag destination).run r with ⟨e | ⟨resolved, strip⟩, moment⟩ <;>
    obtain ⟨hreach, -⟩ := reach_lengthens hrun
  · rw [Attempt.run_bind_error hrun]
    exact hreach
  · rw [Attempt.run_bind_ok hrun]
    cases strip with
    | none => exact hreach
    | some strip => exact IsTrans.trans r moment _ hreach (finish_lengthens strip moment)

/-- A new renderer has written the integers into the buffer that it has made. -/
theorem indexed_create {config : Config} {width height : UInt32}
    (hr : create config { device := State.new width height } = .ok r) : r.Indexed := by
  obtain ⟨capacity, buffers, log, hensure, rfl⟩ := create_eq hr
  exact (Store.ensure_indexed hensure rfl).1

end Renderer

/-! ### Runs -/

/-- Every act keeps the index array in order, and none makes it shorter. -/
theorem Act.after_lengthens (act : Act) (r : Renderer State) : r.Lengthens (act.after r) := by
  have hquiet (hact : act.isQuiet) : r.Lengthens (act.after r) :=
    Renderer.lengthens_of_sparing (Act.quiet_moves Store.permits_sparing
      (fun key _ s => Store.rotate_sparing s key)
      (fun change _ s => Store.control_sparing s change)
      (fun s _ => Store.sparing_of_same (Store.accounting_of_same
        (Store.permitsReads_owning.reads s _ rfl rfl rfl) (.of_eq rfl) (Nat.le_refl _) rfl rfl rfl)
        rfl) hact r)
  cases act with
  | draw bag destination => exact Renderer.draw_lengthens bag destination r
  | poll =>
    intro haccounted hindexed
    refine ⟨Act.after_accounted .poll haccounted, ?_, Nat.le_refl _⟩
    have hbuffers : (Store.poll r.store).2.device.buffers = r.store.device.buffers :=
      Store.poll_sameBuffers r.store
    show (Store.poll r.store).2.device.buffers.get? r.geometry.buffer = _
    rw [hbuffers]
    exact hindexed
  | read key label region destination =>
    intro haccounted hindexed
    refine ⟨Act.after_accounted (.read key label region destination) haccounted, ?_,
      Nat.le_refl _⟩
    exact (Store.read_spares haccounted key label region destination).trans hindexed
  | _ => exact hquiet rfl

theorem Act.afterAll_lengthens (acts : List Act) (r : Renderer State) :
    r.Lengthens (Act.afterAll r acts) := by
  induction acts generalizing r with
  | nil => exact refl r
  | cons act acts ih => exact IsTrans.trans r (act.after r) _ (act.after_lengthens r) (ih _)

/-- The index array always holds the integers below its capacity, and it never becomes shorter.
Every instanced draw of a run has the vertices of the mesh of its draw and the instances of its
grid, counted exactly, and there are as many integers at the moment in which it is issued. -/
theorem draws_stay_within_indices {config : Config} {width height : UInt32} {r : Renderer State}
    (hr : Renderer.create config { device := State.new width height } = .ok r) (acts : List Act) :
    (Act.afterAll r acts).HoldsIntegers ∧
    (∀ later, (Act.afterAll r acts).geometry.capacity ≤
      (Act.afterAll r (acts ++ later)).geometry.capacity) ∧
    ∀ act : Act, ∃ calls, (act.after (Act.afterAll r acts)).store.device.calls =
        (Act.afterAll r acts).store.device.calls ++ calls ∧
      ∀ before mode count instances later,
        calls = before ++ .drawArraysInstanced mode count instances :: later →
        ∃ bag destination resolved strip moment, act = .draw bag destination ∧
          Plan.ofBag bag = .ok strip.plan ∧
          (Renderer.reach bag destination).run (Act.afterAll r acts) =
            (.ok (resolved, some strip), moment) ∧
          moment.store.device.calls = (Act.afterAll r acts).store.device.calls ++ before ∧
          moment.HoldsIntegers ∧
          (Act.afterAll r acts).geometry.capacity ≤ moment.geometry.capacity ∧
          strip.plan.options.Counted moment.geometry.capacity count instances := by
  have hreachable : Reachable (Act.afterAll r acts) := Reachable.afterAll (.start hr) acts
  obtain ⟨-, hindexed, -⟩ := Act.afterAll_lengthens acts r (Renderer.accounted_create hr)
    (Renderer.indexed_create hr)
  have haccounted : (Act.afterAll r acts).Accounted := hreachable.accounted
  refine ⟨hindexed.holdsIntegers, fun later => ?_, fun act => ?_⟩
  · obtain ⟨-, -, hle⟩ := Act.afterAll_lengthens later _ haccounted hindexed
    rw [Act.afterAll_append]
    exact UInt32.le_iff_toNat_le.2 hle
  obtain ⟨calls, hcalls, hstrip⟩ := Act.strip_of_call hreachable act
  refine ⟨calls, hcalls, fun before mode count instances later heq => ?_⟩
  obtain ⟨bag, destination, resolved, strip, moment, rfl, hrun, hmoment⟩ :=
    hstrip before mode count instances later heq
  obtain ⟨settled, bound, found, hreached, -⟩ := Renderer.exists_reached hrun
  have hplan := (Renderer.run_settle_eq_ok hreached.settle).1
  obtain ⟨-, hvertices, hinstances⟩ := Plan.ofBag_eq_ok hplan
  obtain ⟨hlonger, hfits⟩ := Renderer.reach_lengthens hrun
  obtain ⟨-, hindexed', hle⟩ := hlonger haccounted hindexed
  obtain ⟨hfitsVertices, hfitsInstances⟩ := hfits resolved strip rfl haccounted hindexed
  refine ⟨bag, destination, resolved, strip, moment, rfl, hplan, hrun, hmoment,
    hindexed'.holdsIntegers, UInt32.le_iff_toNat_le.2 hle, ?_⟩
  -- The call is that of the strip, since both follow the same calls.
  obtain ⟨_, after, -, hafter⟩ := Renderer.exists_call_of_reach hrun
  rw [hcalls, hmoment, heq, ← List.append_assoc] at hafter
  injection List.append_cancel_left hafter with hcall
  injection hcall with _ hcount hinstance
  rw [hcount, hinstance]
  exact .of_counts hvertices hinstances hfitsVertices hfitsInstances

/-- A bag with one snippet, a mesh of six cells and thirty instances. -/
def Params.Bag.meshed : Params.Bag :=
  .ofList [("FP", .text "1.0"), ("Mesh", .uniform (.intVector [2, 3])),
    ("Grid", .uniform (.int 30))]

/-- A draw of twenty vertices and thirty instances on an index array that was made for one integer:
it is longer when they are drawn. -/
theorem draws_stay_within_indices_of_mesh :
    ∃ (moment : Renderer State) (before : List Call) (mode : UInt32) (later : List Call),
      ((Act.draw .meshed .screen).after Renderer.onePixel).store.device.calls =
        Renderer.onePixel.store.device.calls ++
          (before ++ .drawArraysInstanced mode 20 30 :: later) ∧
      moment.store.device.calls = Renderer.onePixel.store.device.calls ++ before ∧
      moment.HoldsIntegers ∧ Renderer.onePixel.geometry.capacity = 2 ∧
      30 ≤ moment.geometry.capacity := by
  have hread : (Plan.ofBag .meshed).toOption.map Plan.options =
      some { fragment := "1.0", mesh := (2, 3), grid := (30, 1, 1) } := by
    decide +kernel
  obtain ⟨plan, hplan, hoptions⟩ := Option.map_eq_some_iff.1 hread
  replace hplan : Plan.ofBag .meshed = .ok plan := by
    rcases h : Plan.ofBag .meshed with e | plan' <;> rw [h] at hplan <;> cases hplan
    rfl
  have hkey : (⟨[], "", "1.0"⟩ : Shader.ProgramKey) =
      ⟨plan.options.includes, plan.options.vertex, plan.options.fragment⟩ := by
    rw [hoptions]
  obtain ⟨strip, moment, hrun, -⟩ := Renderer.exists_reach_screen
    (Renderer.remembers_create Renderer.create_onePixel) hplan (by rw [hoptions]; rfl)
    (by rw [hoptions]) (by rw [hoptions]) hkey (.inr (linkable_number rfl plan.uniforms))
  obtain ⟨before, later, hmoment, hafter⟩ := Renderer.exists_call_of_reach hrun
  rw [hmoment, List.append_assoc] at hafter
  obtain ⟨-, -, hdraws⟩ := draws_stay_within_indices Renderer.create_onePixel []
  obtain ⟨calls, hcalls, hdraws⟩ := hdraws (.draw .meshed .screen)
  have hnone : Act.afterAll Renderer.onePixel [] = Renderer.onePixel := rfl
  rw [hnone] at hcalls hdraws
  obtain ⟨_, _, _, strip', moment', hact, hplan', hrun', -, hintegers, -, hcounted⟩ :=
    hdraws before _ _ _ later (List.append_cancel_left (hcalls.symm.trans hafter))
  cases hact
  cases hrun.symm.trans hrun'
  cases hplan.symm.trans hplan'
  rw [hoptions] at hcounted
  obtain ⟨hcount, hinstances, -, -, -, hwithin⟩ := hcounted
  rw [hinstances] at hwithin
  have hcount' : strip.plan.vertices.toInt32 = 20 := Int32.toInt_inj.1 hcount
  have hinstances' : strip.plan.instances.toInt32 = 30 := Int32.toInt_inj.1 hinstances
  rw [hcount', hinstances'] at hafter
  exact ⟨moment, before, _, later, hafter, hmoment, hintegers, rfl,
    UInt32.le_iff_toNat_le.2 (Int.ofNat_le.1 hwithin)⟩

end DrawPass
