/-
DrawPass/Proofs/TargetCommands.lean

Which commands targets and reads give.

Targets and reads give commands about textures, framebuffers, pixel buffers and fences, and
no others (`Command.ofTargets`), and none of them makes mip levels, so those that are stale
stay so (`Store.KeepsStale`).  A relation between stores that permits these commands and looks
at nothing else is therefore respected by every function of the store that binds no sampler.
Specifying the storage of a texture is kept apart from the rest, because it alone writes a
texture.

The first such relation says that programs, sampler objects and vertex arrays are as they
were (`State.SamePrograms`).
-/
import DrawPass.Proofs.Creation

namespace DrawPass

open Gl Readback Software

/-- Whether a command is one of those that targets and reads give, but does not specify the
storage of a texture. -/
def Gl.Command.ofTargets {α : Type} : Command α → Bool
  | drawingBufferSize | createTexture | deleteTexture _ | createFramebuffer | deleteFramebuffer _
  | bindFramebuffer _ | framebufferTexture .. | drawBuffers _ | createBuffer | deleteBuffer _
  | bufferReserve .. | readPixels .. | packPixels .. | fenceSync | clientWaitSync .. | deleteSync _
  | flush | getBufferSubData .. => true
  | _ => false

namespace Store

variable {ε α : Type} {R : Store State → Store State → Prop}

/-- A target whose mip levels are not stale had them before. -/
def KeepsStale (s s' : Store State) : Prop :=
  ∀ key t', s'.target? key = some t' → t'.mipsStale = false →
    ∃ t, s.target? key = some t ∧ t.mipsStale = false

theorem keepsStale_of_targets {s s' : Store State} (h : s'.targets = s.targets) :
    s.KeepsStale s' := by
  intro key t ht hstale
  rw [target?, h] at ht
  exact ⟨t, ht, hstale⟩

theorem keepsStale_modifyTarget (s : Store State) (key : TargetKey) {f : Target → Target}
    (hf : ∀ t, (f t).mipsStale = false → t.mipsStale = false) :
    s.KeepsStale (s.modifyTarget key f) := by
  intro key' t' ht' hstale
  rw [target?_modifyTarget] at ht'
  split at ht'
  · obtain ⟨t, ht, rfl⟩ := Option.map_eq_some_iff.1 ht'
    exact ⟨t, ht, hf t hstale⟩
  · exact ⟨t', ht', hstale⟩

/-- New targets have no mip levels yet. -/
theorem keepsStale_addTarget (s : Store State) {t : Target} (ht : t.mipsStale = true) :
    s.KeepsStale (s.addTarget t) := by
  intro key t' ht' hstale
  rw [target?_addTarget] at ht'
  split at ht'
  · cases ht'
    rw [ht] at hstale
    cases hstale
  · exact ⟨t', ht', hstale⟩

instance : IsPreorder (Store State) KeepsStale where
  refl _ _ t ht hstale := ⟨t, ht, hstale⟩
  trans _ _ _ h h' key t'' ht'' hstale := by
    obtain ⟨t', ht', hstale'⟩ := h' key t'' ht'' hstale
    exact h key t' ht' hstale'

/-- The relation permits the commands that targets and reads give, and looks at the device and at
mip levels that are made. -/
structure PermitsTargets (R : Store State → Store State → Prop) : Prop where
  command : ∀ {α : Type} (command : Command α), command.ofTargets →
    Moves R (perform command : StateM (Store State) α)
  same : ∀ s s' : Store State, s'.device = s.device → s.KeepsStale s' → R s s'

variable [IsPreorder (Store State) R] (h : PermitsTargets R)
include h

namespace PermitsTargets

omit [IsPreorder (Store State) R] in
theorem perform (command : Command α) (hcommand : command.ofTargets) :
    Attempt.Moves R (Attempt.perform command : Attempt ε (Store State) α) :=
  .lift (h.command command hcommand)

omit [IsPreorder (Store State) R] in
theorem create {command : Command (Except String Name)} (refusal : String → ε)
    (hcommand : command.ofTargets) :
    Attempt.Moves R (Attempt.create refusal command : Attempt ε (Store State) Name) :=
  .create (h.command command hcommand)

omit [IsPreorder (Store State) R] in
/-- The reads under way and the time may change as they like. -/
theorem modify {f : Store State → Store State} (hf : ∀ s, (f s).device = s.device)
    (htargets : ∀ s, (f s).targets = s.targets) :
    Moves R (modify f : StateM (Store State) PUnit) :=
  .modify fun s => h.same s _ (hf s) (keepsStale_of_targets (htargets s))

omit [IsPreorder (Store State) R] in
/-- A target may change as it likes, as long as stale mip levels stay stale. -/
theorem modifyTarget (key : TargetKey) {f : Target → Target}
    (hf : ∀ t, (f t).mipsStale = false → t.mipsStale = false) :
    Moves R (MonadState.modifyGet fun s : Store State => (⟨⟩, s.modifyTarget key f) :
      StateM (Store State) PUnit) :=
  fun s => h.same s _ rfl (keepsStale_modifyTarget s key hf)

omit [IsPreorder (Store State) R] in
theorem changeTarget (key : TargetKey) {f : Target → Target}
    (hf : ∀ t, (f t).mipsStale = false → t.mipsStale = false) :
    Attempt.Moves R (MonadState.modifyGet fun s : Store State => (⟨⟩, s.modifyTarget key f) :
      Attempt ε (Store State) PUnit) :=
  .modify fun s => h.same s _ rfl (keepsStale_modifyTarget s key hf)

/-! ### The end of a target -/

theorem invalidateAll (pool : PackPool) :
    Moves R (pool.invalidateAll : StateM (Store State) PackPool) := by
  unfold PackPool.invalidateAll
  refine .bind (.forIn (fun buffer _ => ?_) _ _) fun _ => .pure _
  exact .bind (h.command _ rfl) fun _ => .pure _

theorem release (key : TargetKey) (t : Target) :
    Moves R (release key t : StateM (Store State) Unit) := by
  have hpool : Moves R (do
      let pool ← t.pool.invalidateAll
      MonadState.modifyGet fun s => (PUnit.unit, s.modifyPool key fun _ => pool)
      Gl.perform (.deleteTexture t.texture.name) : StateM (Store State) Unit) :=
    .bind (h.invalidateAll _) fun _ => .bind (h.modifyTarget key fun _ => id) fun _ =>
      h.command _ rfl
  unfold Store.release
  dsimp only
  split
  · exact .bind (h.modifyTarget key fun _ => id) fun _ => .bind (h.command _ rfl) fun _ => hpool
  · exact hpool

theorem freeAlone (key : TargetKey) : Moves R (freeAlone key : StateM (Store State) Unit) := by
  unfold Store.freeAlone
  refine .bind .get fun s => ?_
  split
  · split
    · exact .pure _
    · exact .bind (h.modifyTarget key fun _ => id) fun _ => h.release _ _
  · exact .pure _

theorem free (key : TargetKey) : Moves R (free key : StateM (Store State) Unit) := by
  unfold Store.free
  refine .bind .get fun s => ?_
  split
  · split
    · exact .pure _
    · refine .bind (h.modifyTarget key fun _ => id) fun _ => ?_
      dsimp only
      split
      · exact .bind (h.freeAlone _) fun _ => h.release _ _
      · exact h.release _ _
  · exact .pure _

/-! ### Making and specifying targets -/

section Image

variable (himage : ∀ name layout width height layers data, Moves R
  (Gl.perform (.texImage name layout width height layers data) : StateM (Store State) Unit))
include himage

theorem respecify (key : TargetKey) (size : UInt32 × UInt32) (data : Option PixelData) :
    Attempt.Moves R (respecify key size data : Attempt DrawError (Store State) Unit) := by
  unfold Store.respecify
  refine .bind (usable_moves key) fun t => .bind (.ofExcept _) fun _ => ?_
  exact .bind (.lift (himage _ _ _ _ _ _)) fun _ => h.changeTarget key fun _ => nofun

theorem update (key : TargetKey) (size : UInt32 × UInt32) (data : Option PixelData) :
    Attempt.Moves R (update key size data : Attempt DrawError (Store State) Unit) := by
  unfold Store.update
  refine .bind (usable_moves key) fun t => .bind (h.respecify himage _ _ _) fun _ => ?_
  split
  · exact h.respecify himage _ _ _
  · exact .pure _

theorem createWith (d : TargetDescription) (companion : Companion) :
    Attempt.Moves R (createWith d companion : Attempt DrawError (Store State) TargetKey) := by
  unfold Store.createWith
  refine .bind (h.perform _ rfl) fun reply => ?_
  split
  · dsimp only
    split
    · exact .bind (.lift (h.free _)) fun _ => .throw _
    · exact .throw _
  · refine .bind .get fun s => .bind (.modify fun s => ?_) fun _ => ?_
    · exact h.same s _ rfl (keepsStale_addTarget s rfl)
    refine .bind (.tryCatch (h.update himage _ _ _) fun refusal => ?_) fun _ => .pure _
    exact .bind (.lift (h.free _)) fun _ => .throw _

theorem createTarget (d : TargetDescription) :
    Attempt.Moves R (Store.create d : Attempt DrawError (Store State) TargetKey) := by
  unfold Store.create
  refine .bind (.ofExcept _) fun _ => ?_
  split
  · exact h.createWith himage _ _
  · split
    · exact .bind (h.createWith himage _ _) fun _ => h.createWith himage _ _
    · exact h.createWith himage _ _

theorem make (spec : TargetSpec) (d : TargetDescription) :
    Attempt.Moves R (Registry.make spec d : Attempt DrawError (Store State) Entry) := by
  unfold Registry.make
  split
  · refine .bind (h.createTarget himage d) fun current => ?_
    refine .bind (.mapM fun d _ => h.createTarget himage d) fun slots => ?_
    refine .bind (.modifyGet fun s => ?_) fun _ => .pure _
    exact h.same s _ rfl (keepsStale_of_targets rfl)
  · exact .bind (h.createTarget himage d) fun _ => .pure _

theorem prepare (r : Registry) (spec : TargetSpec) :
    Attempt.Moves R (r.prepare spec : Attempt DrawError (Store State) _) :=
  prepare_moves (h.update himage) (h.command _ rfl) r fun _ _ => h.make himage spec _

end Image

/-! ### Binding -/

theorem attach (t : Target) : Moves R (t.attach : StateM (Store State) Unit) := by
  unfold Target.attach
  split
  · exact h.command _ rfl
  · refine .bind (.forIn (fun layer _ => ?_) _ _) fun _ => h.command _ rfl
    exact .bind (h.command _ rfl) fun _ => .pure _

theorem makeFramebuffer (key : TargetKey) (t : Target) :
    Attempt.Moves R (makeFramebuffer key t : Attempt DrawError (Store State) Unit) := by
  have keep (framebuffer : Name) : Attempt.Moves R
      (MonadState.modifyGet fun s : Store State => (⟨⟩, s.modifyTarget key fun t =>
        { t with framebuffer := some framebuffer }) : Attempt DrawError (Store State) PUnit) :=
    h.changeTarget key fun _ => id
  unfold Store.makeFramebuffer
  refine .bind (h.create _ rfl) fun framebuffer => .bind (h.perform _ rfl) fun _ => ?_
  refine .bind (.lift (h.attach t)) fun _ => .bind .get fun s => ?_
  dsimp only
  split
  · exact .bind (.lift (h.attach _)) fun _ => keep framebuffer
  · exact keep framebuffer

theorem bindTarget (key : TargetKey) (readOnly : Bool) :
    Attempt.Moves R (bindTarget key readOnly : Attempt DrawError (Store State) _) := fun s =>
  bindTarget_moves_at (fun _ framebuffer _ _ => h.command (.bindFramebuffer (some framebuffer)) rfl
    s) (fun t _ _ _ => h.makeFramebuffer key t s) fun s =>
    h.same s _ rfl (keepsStale_modifyTarget s key fun _ => nofun)

theorem bindForRead (key : TargetKey) :
    Attempt.Moves R (bindForRead key : Attempt ReadError (Store State) Unit) := by
  unfold Store.bindForRead
  exact .bind (.adapt _ (h.bindTarget key true)) fun _ => .pure _

/-! ### Reading -/

theorem readSync (key : TargetKey) (region : Option Rect) :
    Attempt.Moves R (readSync key region : Attempt ReadError (Store State) PixelData) := by
  unfold Store.readSync
  refine .bind (readable_moves key) fun t => .bind (.ofExcept _) fun rect => ?_
  refine .bind (h.bindForRead key) fun _ => .bind (h.perform _ rfl) fun pixels => ?_
  exact .bind (h.changeTarget key fun _ => id) fun _ => .pure _

theorem step (read : PendingRead) : Moves R (step read : StateM (Store State) Bool) := by
  have finish : Moves R (finish read : StateM (Store State) Unit) := by
    unfold Store.finish
    exact .bind (h.command _ rfl) fun _ => h.modifyTarget _ fun _ => id
  have deliver : Moves R (deliver read : StateM (Store State) Unit) := by
    unfold Store.deliver
    exact .bind (h.command _ rfl) fun _ => h.modify (fun _ => rfl) fun _ => rfl
  have look : Moves R (look read : StateM (Store State) Outcome) := by
    unfold Store.look
    refine .bind .get fun s => ?_
    split
    · exact .bind (h.command _ rfl) fun _ => .pure _
    · refine .bind (h.command _ rfl) fun wait => ?_
      split
      · exact .bind .get fun s => .pure _
      · exact .bind finish fun _ => .pure _
      · exact .bind deliver fun _ => .bind finish fun _ => .pure _
  unfold Store.step
  refine .bind look fun outcome => ?_
  split
  · exact .bind (h.modify (fun _ => rfl) fun _ => rfl) fun _ => .pure _
  · exact .pure _
  · exact .pure _

theorem poll : Moves R (poll : StateM (Store State) Nat) := by
  unfold Store.poll
  refine .bind_get fun s => ?_
  refine Moves.bind_at (h.same s _ rfl (keepsStale_of_targets rfl)) fun _ => ?_
  refine .foldlM (fun n read => ?_) _ _
  exact .bind (h.step read) fun _ => .pure _

theorem acquire (key : TargetKey) (t : Target) (bytes : Nat) :
    Attempt.Moves R (acquire key t bytes : Attempt ReadError (Store State) Name) := by
  have delete (pool : PackPool) (buffer : Name) :
      Moves R (pool.delete buffer : StateM (Store State) PackPool) := by
    unfold PackPool.delete
    exact .bind (h.command _ rfl) fun _ => .pure _
  have reserve (pool : PackPool) (buffer : Name) :
      Moves R (pool.reserve buffer bytes : StateM (Store State) PackPool) := by
    unfold PackPool.reserve
    split
    · exact .bind (h.command _ rfl) fun _ => .pure _
    · exact .pure _
  have take : Attempt.Moves R (t.pool.acquire bytes : Attempt ReadError (Store State) _) := by
    unfold PackPool.acquire
    split
    · refine .bind (.lift ?_) fun pool => .bind (.lift (reserve _ _)) fun _ => .pure _
      exact .foldlM (fun _ _ => delete _ _) _ _
    · exact .bind (h.create _ rfl) fun buffer => .bind (.lift (reserve _ _)) fun _ => .pure _
  unfold Store.acquire
  exact .bind take fun _ => .bind (h.changeTarget key fun _ => id) fun _ => .pure _

theorem read (key : TargetKey) (label : String) (region : Option Rect)
    (destination : Option PixelData) :
    Attempt.Moves R (read key label region destination :
      Attempt ReadError (Store State) Unit) := by
  unfold Store.read
  refine .bind (readable_moves key) fun t => .bind (.ofExcept _) fun rect => ?_
  dsimp only
  split
  · exact .throw_bind _ _
  · refine .bind (h.bindForRead key) fun _ => .bind (h.acquire _ _ _) fun buffer => ?_
    refine .bind (h.perform _ rfl) fun _ => .bind (h.perform _ rfl) fun fence => ?_
    split
    · exact .bind (h.changeTarget key fun _ => id) fun _ => .throw _
    · refine .bind (h.perform _ rfl) fun _ => .bind .get fun s => ?_
      exact .bind (.lift (h.step _)) fun _ => .pure _

end PermitsTargets

end Store

/-! ### Acts that neither draw nor reset -/

/-- Whether an act neither draws nor resets. -/
def Act.isAside : Act → Bool
  | draw .. | reset => false
  | _ => true

/-- An act that neither draws nor resets changes the store and nothing else. -/
theorem Act.after_aside {act : Act} (hact : act.isAside) (r : Renderer State) :
    act.after r = { r with store := (act.after r).store } := by
  cases act <;> first | rfl | cases hact

/-- An act that neither draws nor resets moves along what permits targets, the storage of textures
and the settings of the device. -/
theorem Act.aside_moves {R : Store State → Store State → Prop} [IsPreorder (Store State) R]
    (h : Store.PermitsTargets R) (himage : ∀ name layout width height layers data, Moves R
      (perform (.texImage name layout width height layers data) : StateM (Store State) Unit))
    (hcontrol : ∀ (s : Store State) (change : Control),
      R s { s with device := change.apply s.device })
    {act : Act} (hact : act.isAside) (r : Renderer State) : R r.store (act.after r).store := by
  cases act with
  | draw | reset => cases hact
  | poll => exact h.poll r.store
  | read key label region destination => exact h.read key label region destination r.store
  | readSync key region => exact h.readSync key region r.store
  | update key size data => exact h.update himage key size data r.store
  | bindTarget key readOnly => exact h.bindTarget key readOnly r.store
  | free key => exact h.free key r.store
  | rotate key => exact h.same _ _ rfl (Store.keepsStale_of_targets rfl)
  | wait time => exact h.same _ _ rfl (Store.keepsStale_of_targets rfl)
  | control change => exact hcontrol r.store change

/-! ### What targets and reads leave alone -/

/-- Whether a command makes, deletes and writes neither programs nor sampler objects nor vertex
arrays, and leaves the program in use. -/
def Gl.Command.keepsPrograms {α : Type} : Command α → Bool
  | createSampler .. | deleteSampler _ | linkProgram .. | deleteProgram _ | useProgram _
  | uniformFloats .. | uniformInts .. | uniformUInts .. | uniformMatrix .. | createVertexArray
  | deleteVertexArray _ => false
  | _ => true

theorem Gl.Command.keepsPrograms_of_ofTargets {α : Type} (command : Command α)
    (h : command.ofTargets) : command.keepsPrograms := by
  cases command <;> first | rfl | cases h

theorem Gl.Command.keepsPrograms_of_isSetting {α : Type} (command : Command α)
    (h : command.isSetting) : command.keepsPrograms := by
  cases command <;> first | rfl | cases h

namespace Software.State

/-- Programs, sampler objects and vertex arrays are as they were, and so is the program in use. -/
structure SamePrograms (d d' : State) : Prop where
  programs : d'.programs = d.programs
  currentProgram : d'.currentProgram = d.currentProgram
  samplers : d'.samplers = d.samplers
  vertexArrays : d'.vertexArrays = d.vertexArrays
  lastName : d.lastName ≤ d'.lastName

instance : IsPreorder State SamePrograms where
  refl _ := ⟨rfl, rfl, rfl, rfl, Nat.le_refl _⟩
  trans _ _ _ h h' :=
    ⟨h'.programs.trans h.programs, h'.currentProgram.trans h.currentProgram,
      h'.samplers.trans h.samplers, h'.vertexArrays.trans h.vertexArrays,
      Nat.le_trans h.lastName h'.lastName⟩

variable {d d' : State}

theorem SamePrograms.of_eq (hprograms : d'.programs = d.programs)
    (huse : d'.currentProgram = d.currentProgram) (hsamplers : d'.samplers = d.samplers)
    (harrays : d'.vertexArrays = d.vertexArrays) (hname : d'.lastName = d.lastName) :
    SamePrograms d d' :=
  ⟨hprograms, huse, hsamplers, harrays, Nat.le_of_eq hname.symm⟩

theorem samePrograms_modifyTexture (d : State) (id : Option Name) (f : Texture → Texture) :
    SamePrograms d (d.modifyTexture id f) := by
  cases id <;> exact .of_eq rfl rfl rfl rfl rfl

theorem samePrograms_record (d : State) (call : Call) : SamePrograms d (d.record call) :=
  .of_eq rfl rfl rfl rfl rfl

/-- A command that is not about programs, sampler objects and vertex arrays leaves them alone. -/
theorem samePrograms_perform {α : Type} (command : Command α) (h : command.keepsPrograms)
    (d : State) : SamePrograms d (d.perform command).2 := by
  -- A new object of another kind takes the next number.
  have hnext {d' : State} (hprograms : d'.programs = d.programs)
      (huse : d'.currentProgram = d.currentProgram) (hsamplers : d'.samplers = d.samplers)
      (harrays : d'.vertexArrays = d.vertexArrays) (hname : d'.lastName = d.lastName + 1) :
      SamePrograms d d' :=
    ⟨hprograms, huse, hsamplers, harrays, Nat.le_of_lt (hname ▸ Nat.lt_succ_self _)⟩
  cases command with
  | createSampler | deleteSampler | linkProgram | deleteProgram | useProgram | uniformFloats
  | uniformInts | uniformUInts | uniformMatrix | createVertexArray | deleteVertexArray => cases h
  | createTexture =>
    simp only [perform, createTexture]
    split
    · exact .of_eq rfl rfl rfl rfl rfl
    · exact hnext rfl rfl rfl rfl rfl
  | createFramebuffer =>
    simp only [perform, createFramebuffer]
    split
    · exact .of_eq rfl rfl rfl rfl rfl
    · exact hnext rfl rfl rfl rfl rfl
  | compileShader =>
    simp only [perform, compileShader]
    split
    · exact .of_eq rfl rfl rfl rfl rfl
    · exact hnext rfl rfl rfl rfl rfl
  | createBuffer | fenceSync => exact hnext rfl rfl rfl rfl rfl
  | clientWaitSync fence =>
    obtain ⟨fences, hwait, -⟩ := d.waitFence_spec fence
    rw [perform, hwait]
    exact .of_eq rfl rfl rfl rfl rfl
  | framebufferTexture =>
    simp only [perform, attach]
    split <;> exact .of_eq rfl rfl rfl rfl rfl
  | clear =>
    exact IsTrans.trans d _ _ (clear_moves (fun s id f _ => samePrograms_modifyTexture s id f) ..)
      (samePrograms_record ..)
  | drawArraysInstanced =>
    exact IsTrans.trans d _ _ (runEmulator_moves (fun s id f _ => samePrograms_modifyTexture s id f) d)
      (samePrograms_record ..)
  | _ => exact .of_eq rfl rfl rfl rfl rfl

end Software.State

theorem Control.samePrograms (change : Control) (d : State) :
    d.SamePrograms (change.apply d) := by
  cases change <;> exact .of_eq rfl rfl rfl rfl rfl

namespace Store

/-- Programs, sampler objects and vertex arrays are as they were. -/
def SamePrograms (s s' : Store State) : Prop := s.device.SamePrograms s'.device

instance : IsPreorder (Store State) SamePrograms where
  refl s := refl s.device
  trans s s' s'' h h' := IsTrans.trans s.device s'.device s''.device h h'

theorem command_samePrograms {α : Type} (command : Command α) (h : command.keepsPrograms) :
    Moves SamePrograms (perform command : StateM (Store State) α) :=
  fun s => State.samePrograms_perform command h s.device

theorem permitsTargets_samePrograms : PermitsTargets SamePrograms where
  command command h := command_samePrograms command (command.keepsPrograms_of_ofTargets h)
  same s s' h _ := by
    unfold SamePrograms
    rw [h]
    exact refl s.device

end Store

/-- Only draws and resets change programs, sampler objects and vertex arrays. -/
theorem Act.aside_samePrograms {act : Act} (hact : act.isAside) (r : Renderer State) :
    r.store.SamePrograms (act.after r).store :=
  Act.aside_moves Store.permitsTargets_samePrograms
    (fun _ _ _ _ _ _ => Store.command_samePrograms _ rfl)
    (fun s change => change.samePrograms s.device) hact r

end DrawPass
