/-
DrawPass/Proofs/StoreMoves.lean

The functions of the store move along every preorder that permits what they are made of.

What they are made of is said at two levels.  `PermitsParts` goes down to single
commands and single changes of a target, and knows nothing of their order; it is all
that is needed for facts about the capabilities of the device or about the stories.
`Permits` takes the making of a target, the making of a framebuffer and the end of a
target as one step each, because the facts about pixel buffers and framebuffers hold
before and after such a step but not inside it.  The first implies the second
(`PermitsParts.permits`).
-/
import DrawPass.Proofs.Action
import DrawPass.Proofs.Command
import DrawPass.Shader.Upload
import DrawPass.Target.Read
import DrawPass.Target.Registry

namespace DrawPass

open Gl Readback

/-- Whether a change of a target leaves alone what it is drawn into and read through. -/
def Target.SameObjects (t t' : Target) : Prop :=
  t'.texture = t.texture ∧ t'.layers = t.layers ∧ t'.companion = t.companion ∧
    t'.framebuffer = t.framebuffer ∧ t'.pool = t.pool ∧ t'.freed = t.freed

/-- A program is looked at by five commands: it is put in use and out of use, and asked for its
uniforms and their locations, and each of its samplers is given a unit. -/
theorem Shader.Program.introspect_moves {σ : Type} [Device σ] {R : σ → σ → Prop} [IsPreorder σ R]
    {program : Name} (hin : Moves R (perform (.useProgram (some program)) : StateM σ Unit))
    (hout : Moves R (perform (.useProgram none) : StateM σ Unit))
    (hreported : Moves R (perform (.activeUniforms program) : StateM σ _))
    (hlocation : ∀ name, Moves R (perform (.uniformLocation program name) : StateM σ _))
    (hunit : ∀ location unit,
      Moves R (perform (.uniformInts location 1 [unit]) : StateM σ Unit)) :
    Moves R (Program.introspect program : StateM σ (List Setter)) := by
  have addSetter (setters : List Setter) (unit : UInt32) (u : ActiveUniform) :
      Moves R (Program.addSetter program setters unit u : StateM σ _) := by
    unfold Program.addSetter
    dsimp only
    split
    · exact .pure _
    · refine .bind (hlocation _) fun location => ?_
      split
      · exact .pure _
      · split
        · exact .bind (hunit _ _) fun _ => .pure _
        · exact .pure _
  unfold Program.introspect
  refine .bind hin fun _ => .bind hreported fun reported => ?_
  refine .bind (.foldlM (fun _ u => addSetter _ _ u) _ _) fun setters => ?_
  exact .bind hout fun _ => .pure _

namespace Store

variable {σ ε α : Type} [Device σ] {R : Store σ → Store σ → Prop}

/-- The relation permits what the uploading of uniforms takes: commands that leave all objects, the
storage of textures and the stages of programs alone, and changes of a target that keep its size. -/
structure PermitsUploads (R : Store σ → Store σ → Prop) : Prop where
  plain : ∀ {α : Type} (command : Command α), command.keepsFixed → command.keepsObjects →
    command.specifies = false → command.keepsShaders →
    Moves R (perform command : StateM (Store σ) α)
  mark : ∀ (s : Store σ) (key : TargetKey) (f : Target → Target),
    (∀ t : Target, t.SameObjects (f t)) → (∀ t : Target, (f t).size = t.size) →
    R s (s.modifyTarget key f)

/-- The relation permits the commands that leave all objects and the storage of textures alone, and
changes of a target that keep its size. -/
structure PermitsMarks (R : Store σ → Store σ → Prop) : Prop where
  plain : ∀ {α : Type} (command : Command α), command.keepsFixed → command.keepsObjects →
    command.specifies = false → Moves R (perform command : StateM (Store σ) α)
  mark : ∀ (s : Store σ) (key : TargetKey) (f : Target → Target),
    (∀ t : Target, t.SameObjects (f t)) → (∀ t : Target, (f t).size = t.size) →
    R s (s.modifyTarget key f)

/-- The relation permits in addition what the binding of a target takes. -/
structure PermitsBinding (R : Store σ → Store σ → Prop) : Prop extends PermitsMarks R where
  makeFramebuffer : ∀ (s : Store σ) (key : TargetKey) (t : Target), s.target? key = some t →
    t.freed = false → t.framebuffer = none → R s ((makeFramebuffer key t).run s).2

/-- The relation permits the commands that leave all objects alone, and changes of a target's
contents. -/
structure PermitsContents (R : Store σ → Store σ → Prop) : Prop where
  plain : ∀ {α : Type} (command : Command α), command.keepsFixed → command.keepsObjects →
    Moves R (perform command : StateM (Store σ) α)
  contents : ∀ (s : Store σ) (key : TargetKey) (f : Target → Target),
    (∀ t : Target, t.SameObjects (f t)) → R s (s.modifyTarget key f)

/-- The relation permits every command that is not about the fixed state, and every change of the
targets. -/
structure PermitsParts (R : Store σ → Store σ → Prop) : Prop where
  command : ∀ {α : Type} (command : Command α), command.keepsFixed →
    Moves R (perform command : StateM (Store σ) α)
  modifyTarget : ∀ (s : Store σ) (key : TargetKey) (f : Target → Target),
    (∀ t : Target, (f t).texture = t.texture) → R s (s.modifyTarget key f)
  addTarget : ∀ (s : Store σ) (t : Target), t.texture.key = s.nextTarget → R s (s.addTarget t)
  /-- The reads under way and the time may change as they like. -/
  reads : ∀ s s' : Store σ, s'.device = s.device → s'.targets = s.targets →
    s'.stories = s.stories → R s s'

/-- The relation permits what reads that do not wait are made of: commands that leave textures with
their storage and framebuffers alone, and every change of the pools. -/
structure PermitsReads (R : Store σ → Store σ → Prop) : Prop where
  command : ∀ {α : Type} (command : Command α), command.keepsFixed → command.keepsFrames →
    command.specifies = false → Moves R (perform command : StateM (Store σ) α)
  pool : ∀ (s : Store σ) (key : TargetKey) (f : PackPool → PackPool), R s (s.modifyPool key f)
  /-- The reads under way and the time may change as they like. -/
  reads : ∀ s s' : Store σ, s'.device = s.device → s'.targets = s.targets →
    s'.stories = s.stories → R s s'

/-- The relation permits what the making of a framebuffer takes: commands that give no buffer
storage, and changes of a target that keep its pool. -/
structure PermitsFramebuffers (R : Store σ → Store σ → Prop) : Prop where
  command : ∀ {α : Type} (command : Command α), command.keepsFixed → command.allocates = false →
    Moves R (perform command : StateM (Store σ) α)
  modifyTarget : ∀ (s : Store σ) (key : TargetKey) (f : Target → Target),
    (∀ t : Target, (f t).texture = t.texture) → (∀ t : Target, (f t).pool = t.pool) →
    R s (s.modifyTarget key f)

/-- The relation permits what looking at reads takes: commands that give no buffer storage, and
buffers that are given back. -/
structure PermitsLooks (R : Store σ → Store σ → Prop) : Prop where
  command : ∀ {α : Type} (command : Command α), command.keepsFixed → command.keepsFrames →
    command.specifies = false → command.allocates = false →
    Moves R (perform command : StateM (Store σ) α)
  recycle : ∀ (s : Store σ) (key : TargetKey) (buffer : Name),
    R s (s.modifyPool key fun pool => pool.recycle buffer)
  /-- The reads under way and the time may change as they like. -/
  reads : ∀ s s' : Store σ, s'.device = s.device → s'.targets = s.targets →
    s'.stories = s.stories → R s s'

/-- The relation permits the commands that leave all objects alone, changes of a target's
contents, and whole steps in the life of targets; targets are made for the specs of a kind. -/
structure Permits (R : Store σ → Store σ → Prop) (G : TargetSpec → Prop) : Prop extends
    PermitsContents R where
  makeFramebuffer : ∀ (s : Store σ) (key : TargetKey) (t : Target), s.target? key = some t →
    t.freed = false → t.framebuffer = none → R s ((makeFramebuffer key t).run s).2
  free : ∀ key : TargetKey, Moves R (free key : StateM (Store σ) Unit)
  make : ∀ (r : Registry) (spec : TargetSpec) (format : TargetFormat) (size : UInt32 × UInt32),
    G spec → Attempt.Moves R (Registry.make spec (r.describe spec format size) :
      Attempt DrawError (Store σ) Entry)

theorem PermitsMarks.toUploads (h : PermitsMarks R) : PermitsUploads R where
  plain command hfixed hobjects hspecifies _ := h.plain command hfixed hobjects hspecifies
  mark := h.mark

theorem PermitsContents.toMarks (h : PermitsContents R) : PermitsMarks R where
  plain command hfixed hobjects _ := h.plain command hfixed hobjects
  mark s key f hf _ := h.contents s key f hf

theorem Permits.toBinding {G : TargetSpec → Prop} (h : Permits R G) : PermitsBinding R where
  toPermitsMarks := h.toPermitsContents.toMarks
  makeFramebuffer := h.makeFramebuffer

theorem PermitsParts.toContents (h : PermitsParts R) : PermitsContents R where
  plain command hfixed _ := h.command command hfixed
  contents s key f hf := h.modifyTarget s key f fun t => (hf t).1

theorem PermitsParts.toReads (h : PermitsParts R) : PermitsReads R where
  command command hfixed _ _ := h.command command hfixed
  pool s key _ := h.modifyTarget s key _ fun _ => rfl
  reads := h.reads

theorem PermitsParts.toFramebuffers (h : PermitsParts R) : PermitsFramebuffers R where
  command command hfixed _ := h.command command hfixed
  modifyTarget s key f htexture _ := h.modifyTarget s key f htexture

theorem PermitsReads.toLooks (h : PermitsReads R) : PermitsLooks R where
  command command hfixed hframes hspecifies _ := h.command command hfixed hframes hspecifies
  recycle s key _ := h.pool s key _
  reads := h.reads

variable [IsPreorder (Store σ) R]

/-- What a target comes to that is looked up to be used: it must be there, and not freed. -/
def inUse (missing : ε) (gone : Target → ε) (found : Option Target) : Except ε Target :=
  match found with
  | none => .error missing
  | some t => if t.freed then .error (gone t) else .ok t

omit [Device σ] [IsPreorder (Store σ) R] in
theorem inUse_eq_ok {missing : ε} {gone : Target → ε} {found : Option Target} {t : Target} :
    inUse missing gone found = .ok t ↔ found = some t ∧ t.freed = false := by
  constructor
  · intro h
    cases found with
    | none => cases h
    | some t' =>
      dsimp only [inUse] at h
      split at h
      · cases h
      · cases h
        exact ⟨rfl, Bool.eq_false_iff.2 ‹_›⟩
  · rintro ⟨rfl, hfreed⟩
    exact if_neg (Bool.eq_false_iff.1 hfreed)

omit [Device σ] [IsPreorder (Store σ) R] in
theorem run_usable (key : TargetKey) (s : Store σ) :
    (usable key).run s = (inUse (.freedTarget "") (.freedTarget ·.tag) (s.target? key), s) := by
  unfold usable inUse
  rw [Attempt.run_bind_ok (Attempt.run_get s)]
  rcases s.target? key with - | t
  · rfl
  · cases h : t.freed <;> simp only [h] <;> rfl

omit [Device σ] [IsPreorder (Store σ) R] in
theorem run_readable (key : TargetKey) (s : Store σ) :
    (readable key).run s = (inUse .freed (fun _ => .freed) (s.target? key), s) := by
  unfold readable inUse
  rw [Attempt.run_bind_ok (Attempt.run_get s)]
  rcases s.target? key with - | t
  · rfl
  · cases h : t.freed <;> simp only [h] <;> rfl

omit [Device σ] [IsPreorder (Store σ) R] in
/-- A target can be used if there is one that has not been freed. -/
theorem run_usable_eq_ok {key : TargetKey} {s s' : Store σ} {t : Target} :
    (usable key).run s = (.ok t, s') ↔ s' = s ∧ s.target? key = some t ∧ t.freed = false := by
  rw [run_usable, Prod.mk.injEq, inUse_eq_ok, and_comm, eq_comm]

omit [Device σ] [IsPreorder (Store σ) R] in
/-- A target can be read if there is one that has not been freed. -/
theorem run_readable_eq_ok {key : TargetKey} {s s' : Store σ} {t : Target} :
    (readable key).run s = (.ok t, s') ↔ s' = s ∧ s.target? key = some t ∧ t.freed = false := by
  rw [run_readable, Prod.mk.injEq, inUse_eq_ok, and_comm, eq_comm]

omit [Device σ] in
theorem usable_moves (key : TargetKey) :
    Attempt.Moves R (usable key : Attempt DrawError (Store σ) Target) := by
  intro s
  rw [run_usable]
  exact refl s

/-! ### Contents -/

section Contents

variable (h : PermitsContents R)
include h

omit [IsPreorder (Store σ) R] in
theorem PermitsContents.perform {α : Type} (command : Command α)
    (hfixed : command.keepsFixed) (hobjects : command.keepsObjects) :
    Attempt.Moves R (Attempt.perform command : Attempt ε (Store σ) α) :=
  .lift (h.plain command hfixed hobjects)

theorem respecify_moves (key : TargetKey) (size : UInt32 × UInt32) (data : Option PixelData) :
    Attempt.Moves R (respecify key size data : Attempt DrawError (Store σ) Unit) := by
  unfold respecify
  refine .bind (usable_moves key) fun t => .bind (.ofExcept _) fun _ =>
    .bind (h.perform _ rfl rfl) fun _ => ?_
  exact .modify fun s => h.contents s key _ fun t => ⟨rfl, rfl, rfl, rfl, rfl, rfl⟩

theorem update_moves (key : TargetKey) (size : UInt32 × UInt32) (data : Option PixelData) :
    Attempt.Moves R (update key size data : Attempt DrawError (Store σ) Unit) := by
  unfold update
  refine .bind (usable_moves key) fun t => .bind (respecify_moves h _ _ _) fun _ => ?_
  split
  · exact respecify_moves h _ _ _
  · exact .pure _

end Contents

/-! ### Samplers and uniforms -/

section Uploads

variable (h : PermitsUploads R)
include h

theorem refreshMips_moves (sampler : Sampler) (stale : Bool) (unit : UInt32) :
    Moves R (sampler.refreshMips stale unit : StateM (Store σ) Unit) := by
  unfold Sampler.refreshMips
  split
  · refine .bind (h.plain _ rfl rfl rfl rfl) fun _ => .bind (h.plain _ rfl rfl rfl rfl) fun _ => ?_
    exact .modify fun s => h.mark s _ _ (fun t => ⟨rfl, rfl, rfl, rfl, rfl, rfl⟩) fun _ => rfl
  · exact .pure _

theorem getOrCreate_moves (cache : Sampling.Cache) (mode : Sampling.Mode) :
    Moves R (cache.getOrCreate mode : StateM (Store σ) _) := by
  unfold Sampling.Cache.getOrCreate
  split
  · exact .pure _
  · refine .bind (h.plain _ rfl rfl rfl rfl) fun reply => ?_
    split <;> exact .pure _

theorem bindSampler_moves (sampler : Sampler) (unit : UInt32) (cache : Sampling.Cache) :
    Moves R (sampler.bind unit cache : StateM (Store σ) _) := by
  unfold Sampler.bind
  refine .bind .get fun s => ?_
  split
  · exact .bind (h.plain _ rfl rfl rfl rfl) fun _ => .pure _
  · refine .bind (refreshMips_moves h _ _ _) fun _ => .bind (getOrCreate_moves h _ _) fun _ => ?_
    exact .bind (h.plain _ rfl rfl rfl rfl) fun _ => .pure _

omit [IsPreorder (Store σ) R] h in
/-- A value is written to a uniform by one of four commands. -/
theorem write?_cases {kind : Shader.UniformKind} {location : Location} {value : Uniform.Value}
    {command : Command Unit} (hc : kind.write? location value = some command) :
    (∃ n xs, command = .uniformFloats location n xs) ∨
      (∃ n xs, command = .uniformMatrix location n xs) ∨
      (∃ n ns, command = .uniformInts location n ns) ∨
      ∃ n ns, command = .uniformUInts location n ns := by
  unfold Shader.UniformKind.write? at hc
  split at hc
  · cases hc
  · cases kind with
    | sampler => cases hc
    | float | matrix | int | bool | uint =>
      obtain ⟨_, -, rfl⟩ := Option.map_eq_some_iff.1 hc
      simp

omit [IsPreorder (Store σ) R] h in
/-- Writing a uniform is a plain command. -/
theorem write?_plain {kind : Shader.UniformKind} {location : Location} {value : Uniform.Value}
    {command : Command Unit} (hc : kind.write? location value = some command) :
    command.keepsFixed ∧ command.keepsObjects ∧ command.specifies = false ∧
      command.keepsShaders := by
  obtain ⟨_, _, rfl⟩ | ⟨_, _, rfl⟩ | ⟨_, _, rfl⟩ | ⟨_, _, rfl⟩ := write?_cases hc <;>
    exact ⟨rfl, rfl, rfl, rfl⟩

theorem applySetter_moves (setter : Shader.Setter) (value : Option Uniform.Value)
    (cache : Sampling.Cache) :
    Moves R (setter.apply value cache : StateM (Store σ) _) := by
  unfold Shader.Setter.apply
  split
  · split
    · exact bindSampler_moves h _ _ _
    · exact .bind (h.plain _ rfl rfl rfl rfl) fun _ => .pure _
  · dsimp only
    split
    · rename_i command hc
      obtain ⟨v, -, hc⟩ := Option.bind_eq_some_iff.1 hc
      obtain ⟨hfixed, hobjects, hspecifies, hshaders⟩ := write?_plain hc
      exact .bind (h.plain command hfixed hobjects hspecifies hshaders) fun _ => .pure _
    · exact .pure _

theorem applyUniforms_moves (program : Shader.Program) (values : Uniform.Values)
    (cache : Sampling.Cache) :
    Moves R (program.applyUniforms values cache : StateM (Store σ) _) :=
  .foldlM (fun _ _ => applySetter_moves h _ _ _) _ _

end Uploads

/-! ### Pools -/

theorem deletePackBuffer_moves (h : PermitsLooks R) (pool : PackPool) (buffer : Name) :
    Moves R (pool.delete buffer : StateM (Store σ) PackPool) := by
  unfold PackPool.delete
  exact .bind (h.command _ rfl rfl rfl rfl) fun _ => .pure _

section Pools

variable (h : PermitsReads R)
include h

omit [IsPreorder (Store σ) R] in
theorem PermitsReads.perform {α : Type} (command : Command α) (hfixed : command.keepsFixed)
    (hframes : command.keepsFrames) (hspecifies : command.specifies = false) :
    Attempt.Moves R (Attempt.perform command : Attempt ε (Store σ) α) :=
  .lift (h.command command hfixed hframes hspecifies)

omit [IsPreorder (Store σ) R] in
theorem PermitsReads.modifyPool (key : TargetKey) (f : PackPool → PackPool) :
    Moves R (modify fun s => s.modifyPool key f : StateM (Store σ) PUnit) :=
  .modify fun s => h.pool s key f

theorem acquirePackBuffer_moves (pool : PackPool) (bytes : Nat) :
    Attempt.Moves R (pool.acquire bytes : Attempt ReadError (Store σ) _) := by
  have reserve (pool : PackPool) (buffer : Name) :
      Moves R (pool.reserve buffer bytes : StateM (Store σ) PackPool) := by
    unfold PackPool.reserve
    split
    · exact .bind (h.command _ rfl rfl rfl) fun _ => .pure _
    · exact .pure _
  unfold PackPool.acquire
  split
  · refine .bind (.lift ?_) fun pool => .bind (.lift (reserve _ _)) fun _ => .pure _
    exact .foldlM (fun _ _ => deletePackBuffer_moves h.toLooks _ _) _ _
  · exact .bind (.create (h.command _ rfl rfl rfl)) fun buffer =>
      .bind (.lift (reserve _ _)) fun _ => .pure _

end Pools

/-! ### The making of a framebuffer -/

section Framebuffers

variable (h : PermitsFramebuffers R)
include h

theorem attach_moves (t : Target) : Moves R (t.attach : StateM (Store σ) Unit) := by
  unfold Target.attach
  split
  · exact h.command _ rfl rfl
  · refine .bind (.forIn (fun _ _ => ?_) _ _) fun _ => h.command _ rfl rfl
    exact .bind (h.command _ rfl rfl) fun _ => .pure _

theorem makeFramebuffer_moves (key : TargetKey) (t : Target) :
    Attempt.Moves R (makeFramebuffer key t : Attempt DrawError (Store σ) Unit) := by
  have keep (framebuffer : Name) : Attempt.Moves R
      (modify fun s : Store σ => s.modifyTarget key fun t =>
        { t with framebuffer := some framebuffer } : Attempt DrawError (Store σ) Unit) :=
    .modify fun s => h.modifyTarget s key _ (fun _ => rfl) fun _ => rfl
  unfold makeFramebuffer
  refine .bind (.create (h.command _ rfl rfl)) fun framebuffer => ?_
  refine .bind (.lift (h.command _ rfl rfl)) fun _ => ?_
  refine .bind (.lift (attach_moves h t)) fun _ => .bind .get fun s => ?_
  dsimp only
  split
  · exact .bind (.lift (attach_moves h _)) fun _ => keep framebuffer
  · exact keep framebuffer

end Framebuffers

/-! ### The life of a target, by its parts -/

section Parts

variable (h : PermitsParts R)
include h

omit [IsPreorder (Store σ) R] in
theorem PermitsParts.perform {α : Type} (command : Command α)
    (hfixed : command.keepsFixed) :
    Attempt.Moves R (Attempt.perform command : Attempt ε (Store σ) α) :=
  .lift (h.command command hfixed)

omit [IsPreorder (Store σ) R] in
theorem PermitsParts.create {command : Command (Except String Name)} (refusal : String → ε)
    (hfixed : command.keepsFixed) :
    Attempt.Moves R (Attempt.create refusal command : Attempt ε (Store σ) Name) :=
  .create (h.command command hfixed)

theorem release_moves (key : TargetKey) (t : Target) :
    Moves R (release key t : StateM (Store σ) Unit) := by
  have invalidateAll : Moves R (t.pool.invalidateAll : StateM (Store σ) PackPool) := by
    unfold PackPool.invalidateAll
    refine .bind (.forIn (fun _ _ => ?_) _ _) fun _ => .pure _
    exact .bind (h.command _ rfl) fun _ => .pure _
  unfold release
  dsimp only
  split
  · refine .bind (.modify fun s => h.modifyTarget s key _ fun _ => rfl) fun _ => ?_
    refine .bind (h.command _ rfl) fun _ => .bind invalidateAll fun _ => ?_
    exact .bind (h.toReads.modifyPool key _) fun _ => h.command _ rfl
  · exact .bind invalidateAll fun _ => .bind (h.toReads.modifyPool key _) fun _ => h.command _ rfl

theorem freeAlone_moves (key : TargetKey) :
    Moves R (freeAlone key : StateM (Store σ) Unit) := by
  unfold freeAlone
  refine .bind .get fun s => ?_
  split
  · split
    · exact .pure _
    · refine .bind (.modify fun s => h.modifyTarget s key _ fun _ => rfl) fun _ => ?_
      exact release_moves h _ _
  · exact .pure _

theorem free_moves (key : TargetKey) : Moves R (free key : StateM (Store σ) Unit) := by
  unfold free
  refine .bind .get fun s => ?_
  split
  · split
    · exact .pure _
    · refine .bind (.modify fun s => h.modifyTarget s key _ fun _ => rfl) fun _ => ?_
      dsimp only
      split
      · exact .bind (freeAlone_moves h _) fun _ => release_moves h _ _
      · exact release_moves h _ _
  · exact .pure _

theorem createWith_moves (d : TargetDescription) (companion : Companion) :
    Attempt.Moves R (createWith d companion : Attempt DrawError (Store σ) TargetKey) := by
  unfold createWith
  refine .bind (h.perform _ rfl) fun reply => ?_
  split
  · dsimp only
    split
    · exact .bind (.lift (free_moves h _)) fun _ => .throw _
    · exact .throw _
  · refine .bind_get fun s => ?_
    -- The target is added to the very store whose next key it has been given.
    refine Attempt.Moves.bind_at (h.addTarget s _ rfl) fun _ => .bind ?_ fun _ => .pure _
    refine .tryCatch (update_moves h.toContents _ _ _) fun refusal => ?_
    exact .bind (.lift (free_moves h _)) fun _ => .throw _

theorem create_moves (d : TargetDescription) :
    Attempt.Moves R (create d : Attempt DrawError (Store σ) TargetKey) := by
  unfold create
  refine .bind (.ofExcept _) fun _ => ?_
  split
  · exact createWith_moves h _ _
  · split
    · exact .bind (createWith_moves h _ _) fun _ => createWith_moves h _ _
    · exact createWith_moves h _ _

theorem make_moves (hstory : ∀ (s : Store σ) (story : Story), R s (s.addStory story).2)
    (spec : TargetSpec) (d : TargetDescription) :
    Attempt.Moves R (Registry.make spec d : Attempt DrawError (Store σ) Entry) := by
  unfold Registry.make
  split
  · refine .bind (create_moves h d) fun current => ?_
    refine .bind (.mapM fun d _ => create_moves h d) fun slots => ?_
    exact .bind (.modifyGet fun s => hstory s _) fun _ => .pure _
  · exact .bind (create_moves h d) fun _ => .pure _

theorem PermitsParts.permits {G : TargetSpec → Prop}
    (hmake : ∀ (r : Registry) (spec : TargetSpec) (format : TargetFormat)
      (size : UInt32 × UInt32), G spec → Attempt.Moves R
        (Registry.make spec (r.describe spec format size) :
          Attempt DrawError (Store σ) Entry)) : Permits R G where
  toPermitsContents := h.toContents
  makeFramebuffer s key t _ _ _ := makeFramebuffer_moves h.toFramebuffers key t s
  free := free_moves h
  make := hmake

end Parts

/-! ### Targets by whole steps -/

section Steps

variable (h : PermitsBinding R)
include h

omit h in
/-- The framebuffer of a target is bound, or one is made for it, and unless it is only going to be
read its mip levels become stale. -/
theorem bindTarget_moves_at {key : TargetKey} {readOnly : Bool} {s : Store σ}
    (hbind : ∀ t framebuffer, s.target? key = some t → t.framebuffer = some framebuffer →
      R s ((perform (.bindFramebuffer (some framebuffer)) : StateM (Store σ) Unit) s).2)
    (hmake : ∀ t, s.target? key = some t → t.freed = false → t.framebuffer = none →
      R s ((makeFramebuffer key t).run s).2)
    (hmark : ∀ s : Store σ, R s (s.modifyTarget key fun t => { t with mipsStale := true })) :
    R s ((bindTarget key readOnly).run s).2 := by
  have stale (size : UInt32 × UInt32) : Attempt.Moves R
      (if readOnly = true then pure size
      else do
        modify fun s : Store σ => s.modifyTarget key fun t => { t with mipsStale := true }
        pure size : Attempt DrawError (Store σ) (UInt32 × UInt32)) := by
    split
    · exact .pure _
    · exact .bind (.modify hmark) fun _ => .pure _
  unfold bindTarget
  rcases hu : (usable key).run s with ⟨e | t, s'⟩
  · rw [Attempt.run_bind_error hu]
    exact (usable_moves (R := R) key).of_run hu
  · obtain ⟨rfl, ht, hfreed⟩ := run_usable_eq_ok.1 hu
    rw [Attempt.run_bind_ok hu]
    dsimp only
    rcases hf : t.framebuffer with - | framebuffer
    · exact Attempt.Moves.bind_at (hmake t ht hfreed hf) fun _ => stale _
    · exact Attempt.Moves.bind_at (hbind t framebuffer ht hf) fun _ => stale _

theorem bindTarget_moves (key : TargetKey) (readOnly : Bool) :
    Attempt.Moves R (bindTarget key readOnly : Attempt DrawError (Store σ) _) := fun s =>
  bindTarget_moves_at (fun _ framebuffer _ _ => h.plain (.bindFramebuffer (some framebuffer)) rfl
    rfl rfl s) (fun t => h.makeFramebuffer s key t) fun s =>
    h.mark s key _ (fun _ => ⟨rfl, rfl, rfl, rfl, rfl, rfl⟩) fun _ => rfl

theorem bindForRead_moves (key : TargetKey) :
    Attempt.Moves R (bindForRead key : Attempt ReadError (Store σ) Unit) := by
  unfold bindForRead
  exact .bind (.adapt _ (bindTarget_moves h key true)) fun _ => .pure _

omit [Device σ] h in
theorem readable_moves (key : TargetKey) :
    Attempt.Moves R (readable key : Attempt ReadError (Store σ) Target) := by
  unfold readable
  refine .bind .get fun s => ?_
  split
  · exact .throw _
  · split
    · exact .throw _
    · exact .pure _

theorem readSync_moves (key : TargetKey) (region : Option Rect) :
    Attempt.Moves R (readSync key region : Attempt ReadError (Store σ) PixelData) := by
  unfold readSync
  refine .bind (readable_moves key) fun t => .bind (.ofExcept _) fun rect => ?_
  refine .bind (bindForRead_moves h key) fun _ =>
    .bind (.lift (h.plain _ rfl rfl rfl)) fun pixels => ?_
  refine .bind (.modify fun s => h.mark s key _ (fun t => ?_) fun _ => rfl) fun _ => .pure _
  exact ⟨rfl, rfl, rfl, rfl, rfl, rfl⟩

end Steps

/-! ### The registry -/

theorem freeEntry_moves (hfree : ∀ key, Moves R (free key : StateM (Store σ) Unit))
    (entry : Entry) : Moves R (Registry.freeEntry entry : StateM (Store σ) Unit) := by
  unfold Registry.freeEntry
  split
  · exact hfree _
  · refine .bind .get fun s => ?_
    split
    · refine .bind (.forIn (fun slot _ => ?_) _ _) fun _ => .pure _
      exact .bind (hfree slot) fun _ => .pure _
    · exact .pure _

theorem freeAll_moves (hfree : ∀ key, Moves R (free key : StateM (Store σ) Unit))
    (r : Registry) : Moves R (r.freeAll : StateM (Store σ) Registry) := by
  unfold Registry.freeAll
  refine .bind (.forIn (fun entry _ => ?_) _ _) fun _ => .pure _
  exact .bind (freeEntry_moves hfree entry) fun _ => .pure _

section Registry

variable (hupdate : ∀ key size data, Attempt.Moves R
  (update key size data : Attempt DrawError (Store σ) Unit))
include hupdate

theorem refresh_moves (entry : Entry) (size : UInt32 × UInt32) (data : Option PixelData) :
    Attempt.Moves R (Registry.refresh entry size data :
      Attempt DrawError (Store σ) Unit) := by
  unfold Registry.refresh
  refine .bind .get fun s => ?_
  split
  · split
    · exact hupdate _ _ _
    · exact .pure _
  · exact .throw _

theorem prepare_moves (hsize : Moves R (perform .drawingBufferSize : StateM (Store σ) _))
    (r : Registry) {spec : TargetSpec} (hmake : ∀ format size, Attempt.Moves R
      (Registry.make spec (r.describe spec format size) :
        Attempt DrawError (Store σ) Entry)) :
    Attempt.Moves R (r.prepare spec : Attempt DrawError (Store σ) _) := by
  unfold Registry.prepare
  dsimp only
  split
  · exact .throw_bind _ _
  · refine .bind (.ofExcept _) fun format => .bind (.lift hsize) fun surface => ?_
    refine .bind (.ofExcept _) fun _ => ?_
    split
    · exact .bind (refresh_moves hupdate _ _ _) fun _ => .pure _
    · exact .bind (hmake format _) fun _ => .pure _

end Registry

/-! ### Reads, by their parts -/

section Looks

variable (h : PermitsLooks R)
include h

theorem look_moves (read : PendingRead) :
    Moves R (look read : StateM (Store σ) Outcome) := by
  have finish : Moves R (finish read : StateM (Store σ) Unit) := by
    unfold finish
    exact .bind (h.command _ rfl rfl rfl rfl) fun _ => .modify fun s => h.recycle s _ _
  have deliver : Moves R (deliver read : StateM (Store σ) Unit) := by
    unfold deliver
    exact .bind (h.command _ rfl rfl rfl rfl) fun _ => .modify fun s => h.reads s _ rfl rfl rfl
  unfold look
  refine .bind .get fun s => ?_
  split
  · exact .bind (h.command _ rfl rfl rfl rfl) fun _ => .pure _
  · refine .bind (h.command _ rfl rfl rfl rfl) fun wait => ?_
    split
    · exact .bind .get fun s => .pure _
    · exact .bind finish fun _ => .pure _
    · exact .bind deliver fun _ => .bind finish fun _ => .pure _

theorem step_moves (read : PendingRead) : Moves R (step read : StateM (Store σ) Bool) := by
  unfold step
  refine .bind (look_moves h read) fun outcome => ?_
  split
  · exact .bind (.modify fun s => h.reads s _ rfl rfl rfl) fun _ => .pure _
  · exact .pure _
  · exact .pure _

theorem poll_moves : Moves R (poll : StateM (Store σ) Nat) := by
  unfold poll
  refine .bind_get fun s => ?_
  refine Moves.bind_at (h.reads s _ rfl rfl rfl) fun _ => .foldlM (fun n read => ?_) _ _
  exact .bind (step_moves h read) fun _ => .pure _

end Looks

section Reads

variable (h : PermitsReads R)
include h

theorem read_moves (key : TargetKey) (label : String) (region : Option Rect)
    (destination : Option PixelData) (hbind : Attempt.Moves R
      (bindForRead key : Attempt ReadError (Store σ) Unit)) :
    Attempt.Moves R (read key label region destination :
      Attempt ReadError (Store σ) Unit) := by
  have acquire (t : Target) (bytes : Nat) : Attempt.Moves R
      (acquire key t bytes : Attempt ReadError (Store σ) Name) := by
    unfold acquire
    refine .bind (acquirePackBuffer_moves h _ _) fun _ => .bind ?_ fun _ => .pure _
    exact .lift (h.modifyPool key _)
  unfold read
  refine .bind (readable_moves key) fun t => .bind (.ofExcept _) fun rect => ?_
  dsimp only
  split
  · exact .throw_bind _ _
  · refine .bind hbind fun _ => .bind (acquire _ _) fun buffer => ?_
    refine .bind (h.perform _ rfl rfl rfl) fun _ => ?_
    refine .bind (h.perform _ rfl rfl rfl) fun fence => ?_
    split
    · exact .bind (.lift (h.modifyPool key _)) fun _ => .throw _
    · refine .bind (h.perform _ rfl rfl rfl) fun _ => .bind .get fun s => ?_
      exact .bind (.lift (step_moves h.toLooks _)) fun _ => .pure _

end Reads

end Store

end DrawPass
