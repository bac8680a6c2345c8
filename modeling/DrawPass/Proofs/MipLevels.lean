/-
DrawPass/Proofs/MipLevels.lean

Mip levels are made anew before they are sampled.

A draw marks what it binds, clears it, has the mip levels made of what it samples, and only
then draws its strip.  So the clear is made up for and the strip is not: a draw that samples
the very texture it draws into leaves mip levels behind that are not marked and not those of
what it has drawn.  This is followed from the binding to the strip: what is attached is stale,
or a companion, or sampled by the strip (`Store.Primed`).

At every draw of a run the mip levels of a texture that is sampled with them are those of what
was written last, unless the texture was sampled by the draw that wrote it, or is attached to
another target as its companion (`levels_follow_writes`).
-/
import DrawPass.Proofs.Current
import DrawPass.Proofs.Samplers

namespace DrawPass

open Shader Software
open Gl hiding Call

namespace Store

variable {P : Name → List Call → Prop} {S : Name → Prop} {s s' s'' : Store State}
  {key : TargetKey} {t : Target}

/-! ### Between the binding and the strip -/

/-- Of the textures that are attached, only those of a set may have mip levels that are not
stale, apart from companions. -/
structure Primed (P : Name → List Call → Prop) (S : Name → Prop) (s : Store State) : Prop
    extends s.Current P where
  attached : ∀ key t, s.target? key = some t → t.mipsStale = false → ¬ s.IsCompanion key →
    t.texture.name ∈ s.device.framing.attached → S t.texture.name

/-- What is primed stays primed, no target is freed or framed anew, and no mip levels go stale. -/
structure Priming (P : Name → List Call → Prop) (S : Name → Prop) (s s' : Store State) : Prop where
  frames : SameFrames s s'
  fresh : s'.KeepsStale s
  primed : s.Primed P S → s'.Primed P S

instance : IsPreorder (Store State) (Priming P S) where
  refl s := ⟨⟨rfl, rfl, rfl⟩, refl (r := KeepsStale) s, id⟩
  trans s s' s'' h h' :=
    ⟨⟨h'.frames.frame.trans h.frames.frame, h'.frames.framebuffer.trans h.frames.framebuffer,
      h'.frames.live.trans h.frames.live⟩,
      IsTrans.trans (r := KeepsStale) s'' s' s h'.fresh h.fresh, h'.primed ∘ h.primed⟩

theorem Primed.mono {S' : Name → Prop} (h : s.Primed P S) (hS : ∀ name, S name → S' name) :
    s.Primed P S' where
  toCurrent := h.toCurrent
  attached key t ht hstale hcompanion hmem :=
    hS _ (h.attached key t ht hstale hcompanion hmem)

/-- A command that has nothing to do with targets. -/
theorem command_priming {α : Type} (command : Command α) (h : command.sparesTargets) :
    Moves (Priming P S) (perform command : StateM (Store State) α) := by
  intro s
  refine ⟨sameFrames_of_targets rfl, keepsStale_of_targets rfl, fun hs => ?_⟩
  refine ⟨command_current command h s hs.toCurrent, fun key t ht hstale hcompanion hmem => ?_⟩
  have hframing : (perform command s).2.device.framing = s.device.framing :=
    State.framing_perform command h s.device
  rw [hframing] at hmem
  exact hs.attached key t ht hstale hcompanion hmem

/-- A clear writes what is attached. -/
theorem clear_priming (color : Color) (mask : UInt32) : Moves (Priming P fun _ => False)
    (perform (.clear color mask) : StateM (Store State) Unit) := by
  intro s
  refine ⟨sameFrames_of_targets rfl, keepsStale_of_targets rfl, fun hs => ?_⟩
  obtain ⟨hmounted, -⟩ := command_mounting (.clear color mask) rfl s hs.toMounted
  obtain ⟨hcalls, hframing⟩ := s.device.perform_clear color mask
  have hcalls' : (perform (.clear color mask) s).2.device.calls = _ := hcalls
  have hframing' : (perform (.clear color mask) s).2.device.framing = s.device.framing := hframing
  refine ⟨⟨hmounted, ?_, fun key t ht hstale hcompanion => ?_⟩,
    fun key t ht hstale hcompanion hmem => ?_⟩
  · rw [hcalls', hframing', Framing.replay_append, hs.framing]
    rfl
  · rw [hcalls']
    refine (hs.current key t ht hstale hcompanion).snoc fun hwrites => ?_
    rw [hs.framing] at hwrites
    exact (hs.attached key t ht hstale hcompanion (List.contains_iff_mem.1 hwrites)).elim
  · rw [hframing'] at hmem
    exact hs.attached key t ht hstale hcompanion hmem

theorem setting_priming {α : Type} (command : Command α) (h : command.isSetting) :
    Moves (Priming P fun _ => False) (perform command : StateM (Store State) α) := by
  cases command with
  | clear color mask => exact clear_priming color mask
  | _ => first | exact command_priming _ rfl | cases h

/-! ### Binding -/

/-- What has been bound to be drawn into is stale. -/
theorem bindTarget_stale {size : UInt32 × UInt32}
    (h : (bindTarget key false).run s = (.ok size, s')) (ht : s'.target? key = some t) :
    t.mipsStale = true := by
  obtain ⟨_, s₁, -, -, -, -, rfl⟩ := run_bindTarget_eq_ok h
  rw [if_neg Bool.false_ne_true, target?_modifyTarget, if_pos rfl] at ht
  obtain ⟨t', -, rfl⟩ := Option.map_eq_some_iff.1 ht
  rfl

/-- Once a target has been bound to be drawn into, what is attached is stale or a companion. -/
theorem bindTarget_primed (h : s.Current P) {size : UInt32 × UInt32}
    (hrun : (bindTarget key false).run s = (.ok size, s')) : s'.Primed P fun _ => False := by
  have hs' := (bindTarget_current key false).of_run hrun h
  obtain ⟨id, hid, hbound⟩ := run_bindTarget_ok hrun
  refine ⟨hs', fun key' t' ht' hstale hcompanion hmem => ?_⟩
  -- The framebuffer that is bound is that of the target, so what is attached belongs to the two of
  -- them.
  obtain ⟨t, ht⟩ : ∃ t, s'.target? key = some t := by
    obtain ⟨t, ht, -⟩ := Option.bind_eq_some_iff.1 hid
    exact ⟨t, ht⟩
  obtain ⟨fb, hfb, hname⟩ : ∃ fb, s'.device.framebuffers.get? id = some fb ∧
      t'.texture.name ∈ fb.textures := by
    have hattached : s'.device.framing.attached =
        ((s'.device.framebuffers.get? id).map Framebuffer.textures).getD [] := by
      show ((s'.device.boundFramebuffer.bind s'.device.framebuffers.get?).map _).getD [] = _
      rw [hbound, Option.bind_some]
    rw [hattached] at hmem
    cases hfb : s'.device.framebuffers.get? id with
    | none =>
      rw [hfb] at hmem
      cases hmem
    | some fb =>
      rw [hfb] at hmem
      exact ⟨fb, rfl, hmem⟩
  rcases hs'.toMounted.mem_textures (frame?_of_target? ht) hid hfb hname with
    hown | ⟨own, c, hown, hc, hsame⟩
  · cases hs'.ownTexture key' key _ _ (frame?_of_target? ht') (frame?_of_target? ht) hown
    rw [bindTarget_stale hrun ht'] at hstale
    cases hstale
  · cases hs'.ownTexture key' own _ _ (frame?_of_target? ht') hc hsame.symm
    exact hcompanion ⟨key, t.frame, frame?_of_target? ht, hown⟩

/-! ### Sampling -/

/-- The mip levels of a target are not stale. -/
def IsFresh (s : Store State) (key : TargetKey) : Prop :=
  ∃ t, s.target? key = some t ∧ t.mipsStale = false

theorem Priming.isFresh (h : Priming P S s s') (hkey : s.IsFresh key) : s'.IsFresh key := by
  obtain ⟨t, ht, hstale⟩ := hkey
  exact h.fresh key t ht hstale

theorem HasTexture.name_eq {sampler : Sampler} (h : s.HasTexture sampler)
    (ht : s.target? sampler.texture.key = some t) : t.texture.name = sampler.texture.name := by
  obtain ⟨f, hf, hname⟩ := h
  cases (frame?_of_target? ht).symm.trans hf
  exact hname

theorem HasTexture.of_frames {sampler : Sampler} (h : s.HasTexture sampler)
    (hframes : s.KeepsFrames s') : s'.HasTexture sampler := by
  obtain ⟨f, hf, hname⟩ := h
  exact ⟨f, hframes _ f hf, hname⟩

/-- Making the mip levels of a texture that may be attached. -/
theorem generate_priming {sampler : Sampler} (hsampler : s.HasTexture sampler)
    (hset : S sampler.texture.name) (unit : UInt32) :
    Priming P S s ((do
      perform (.bindTextureUnit unit sampler.texture.bindingPoint (some sampler.texture.name) none)
      perform (.generateMipmap sampler.texture.bindingPoint sampler.texture.name)
      modify fun s : Store State => s.modifyTarget sampler.texture.key fun t =>
        { t with mipsStale := false } : StateM (Store State) PUnit) s).2 := by
  let bind : Command Unit :=
    .bindTextureUnit unit sampler.texture.bindingPoint (some sampler.texture.name) none
  let generate : Command Unit := .generateMipmap sampler.texture.bindingPoint sampler.texture.name
  let s₁ := (perform bind s).2
  let s₂ := (perform generate s₁).2
  show Priming P S s (s₂.modifyTarget sampler.texture.key fun t => { t with mipsStale := false })
  have hcalls : s₂.device.calls = s.device.calls ++
      [.bindTextureUnit unit (some sampler.texture.name),
        .generateMipmap sampler.texture.name] := State.calls_of_log rfl
  have hnew : ∀ call ∈ [Call.bindTextureUnit unit (some sampler.texture.name),
      .generateMipmap sampler.texture.name], call.isWrite = false :=
    List.forall_mem_cons.2 ⟨rfl, List.forall_mem_cons.2 ⟨rfl, List.forall_mem_nil _⟩⟩
  have hname {t : Target} (ht : s₂.target? sampler.texture.key = some t) :
      t.texture.name = sampler.texture.name := hsampler.name_eq ht
  refine IsTrans.trans (r := Priming P S) s s₂ _ ?_ ?_
  · exact IsTrans.trans (r := Priming P S) s s₁ s₂ (command_priming bind rfl s)
      (command_priming generate rfl s₁)
  -- Of the device it only matters from here that the levels were made last.
  generalize s₂ = s₂ at hcalls hname
  have hobjects (t : Target) : t.SameObjects { t with mipsStale := false } :=
    ⟨rfl, rfl, rfl, rfl, rfl, rfl⟩
  have hframes := (sameTargets_modifyTarget s₂ sampler.texture.key hobjects).toSameFrames
  have hmounting := permitsContents_mounting.contents s₂ sampler.texture.key _ hobjects
  refine ⟨hframes, fun key t ht hstale => ?_, fun h => ?_⟩
  · rw [target?_modifyTarget, ht]
    split
    · exact ⟨_, rfl, rfl⟩
    · exact ⟨t, rfl, hstale⟩
  -- No target becomes a companion or stops being one.
  have hcompanion {key : TargetKey} (hnot : ¬ IsCompanion _ key) : ¬ s₂.IsCompanion key :=
    fun hkey => hnot (hframes.keepsFrames.isCompanion hkey)
  refine ⟨⟨(hmounting h.toMounted).1, h.framing, fun key t ht hstale hnot => ?_⟩,
    fun key t ht hstale hnot hmem => ?_⟩
  · rw [target?_modifyTarget] at ht
    split at ht
    · rename_i hkey
      obtain ⟨t', ht', rfl⟩ := Option.map_eq_some_iff.1 ht
      show LevelsFollow (P t'.texture.name) t'.texture.name s₂.device.calls
      rw [hname (hkey ▸ ht'), hcalls]
      exact .of_generated hnew (List.mem_cons_of_mem _ List.mem_cons_self)
    · exact h.current key t ht hstale (hcompanion hnot)
  · rw [target?_modifyTarget] at ht
    split at ht
    · rename_i hkey
      obtain ⟨t', ht', rfl⟩ := Option.map_eq_some_iff.1 ht
      show S t'.texture.name
      rw [hname (hkey ▸ ht')]
      exact hset
    · exact h.attached key t ht hstale (hcompanion hnot) hmem

/-- The mip levels that a sampler reads are not stale afterwards. -/
theorem refreshMips_priming {sampler : Sampler} (hsampler : s.HasTexture sampler)
    (hset : sampler.filter = .mipLinear → S sampler.texture.name)
    (ht : s.target? sampler.texture.key = some t) (unit : UInt32) :
    Priming P S s ((sampler.refreshMips t.mipsStale unit : StateM (Store State) Unit) s).2 ∧
      (sampler.filter = .mipLinear →
        ((sampler.refreshMips t.mipsStale unit : StateM (Store State) Unit) s).2.IsFresh
          sampler.texture.key) := by
  unfold Sampler.refreshMips
  by_cases hreads : sampler.filter = .mipLinear ∧ t.mipsStale = true
  · rw [if_pos hreads]
    refine ⟨generate_priming hsampler (hset hreads.1) unit, fun _ =>
      ⟨{ t with mipsStale := false }, ?_, rfl⟩⟩
    show (modifyTarget _ sampler.texture.key _).target? _ = _
    rw [target?_modifyTarget, if_pos rfl]
    exact congrArg (Option.map _) ht
  · rw [if_neg hreads]
    refine ⟨refl (r := Priming P S) s, fun hfilter => ⟨t, ht, ?_⟩⟩
    exact Bool.eq_false_iff.2 fun hstale => hreads ⟨hfilter, hstale⟩

/-- Binding a sampler makes the mip levels that it reads. -/
theorem bind_priming {sampler : Sampler} (hsampler : s.HasTexture sampler)
    (hset : sampler.filter = .mipLinear → S sampler.texture.name) (unit : UInt32)
    (cache : Sampling.Cache) :
    Priming P S s ((sampler.bind unit cache : StateM (Store State) _) s).2 ∧
      (sampler.filter = .mipLinear → s.IsLive sampler.texture.key →
        ((sampler.bind unit cache : StateM (Store State) _) s).2.IsFresh sampler.texture.key) := by
  unfold Sampler.bind
  rw [run_get_bind]
  cases hlook : (s.target? sampler.texture.key).filter fun t => !t.freed with
  | none =>
    let empty : Command Unit := .bindTextureUnit unit sampler.texture.bindingPoint none none
    show Priming P S s (perform empty s).2 ∧ (_ → _ → (perform empty s).2.IsFresh _)
    refine ⟨command_priming empty rfl s, fun _ hlive => ?_⟩
    obtain ⟨t, ht, hfreed⟩ := hlive
    rw [ht, Option.filter_some, hfreed] at hlook
    cases hlook
  | some t =>
    obtain ⟨ht, -⟩ := Option.filter_eq_some_iff.1 hlook
    let s₁ := ((sampler.refreshMips t.mipsStale unit : StateM (Store State) Unit) s).2
    let r₂ := (cache.getOrCreate sampler.mode : StateM (Store State) _) s₁
    let s₃ := (perform (.bindTextureUnit unit sampler.texture.bindingPoint
      (some sampler.texture.name) r₂.1.1) r₂.2).2
    show Priming P S s s₃ ∧ (_ → _ → s₃.IsFresh sampler.texture.key)
    obtain ⟨hrefresh, hfresh⟩ := refreshMips_priming hsampler hset ht unit
    -- Looking up the sampler object may make one, which writes to no texture.
    have hobject : Moves (Priming P S) (cache.getOrCreate sampler.mode :
        StateM (Store State) _) := by
      unfold Sampling.Cache.getOrCreate
      split
      · exact .pure _
      · refine .bind (command_priming _ rfl) fun reply => ?_
        split <;> exact .pure _
    have hrest : Priming P S s₁ s₃ := IsTrans.trans (r := Priming P S) s₁ r₂.2 s₃ (hobject s₁)
      (command_priming _ rfl r₂.2)
    exact ⟨IsTrans.trans (r := Priming P S) s s₁ s₃ hrefresh hrest, fun hfilter _ =>
      hrest.isFresh (hfresh hfilter)⟩

/-- Writing a uniform has nothing to do with targets. -/
theorem write?_spares {kind : UniformKind} {location : Location} {value : Uniform.Value}
    {command : Command Unit} (hc : kind.write? location value = some command) :
    command.sparesTargets := by
  obtain ⟨_, _, rfl⟩ | ⟨_, _, rfl⟩ | ⟨_, _, rfl⟩ | ⟨_, _, rfl⟩ := write?_cases hc <;> rfl

/-- A setter is given a sampler of a target, and if it is the setter of a sampler uniform, the mip
levels that the sampler reads may be attached. -/
def Suits (S : Name → Prop) (s : Store State) (setter : Setter) (value : Option Uniform.Value) :
    Prop :=
  ∀ sampler, value = some (.sampler sampler) → s.HasTexture sampler ∧
    (setter.unit?.isSome → sampler.filter = .mipLinear → S sampler.texture.name)

/-- The mip levels that a setter of a sampler uniform lets a program read are not stale. -/
def Serves (s : Store State) (setter : Setter) (value : Option Uniform.Value) : Prop :=
  ∀ sampler, value = some (.sampler sampler) → setter.unit?.isSome →
    sampler.filter = .mipLinear → s.IsLive sampler.texture.key → s.IsFresh sampler.texture.key

theorem Suits.of_frames {setter : Setter} {value : Option Uniform.Value}
    (h : s.Suits S setter value) (hframes : SameFrames s s') : s'.Suits S setter value := by
  intro sampler hvalue
  obtain ⟨hsampler, hset⟩ := h sampler hvalue
  exact ⟨hsampler.of_frames hframes.keepsFrames, hset⟩

theorem Serves.of_priming {setter : Setter} {value : Option Uniform.Value}
    (h : s.Serves setter value) (hmoved : Priming P S s s') : s'.Serves setter value := by
  intro sampler hvalue hunit hfilter hlive
  exact hmoved.isFresh (h sampler hvalue hunit hfilter (hmoved.frames.live ▸ hlive))

theorem apply_priming {setter : Setter} {value : Option Uniform.Value}
    (h : s.Suits S setter value) (cache : Sampling.Cache) :
    Priming P S s ((setter.apply value cache : StateM (Store State) _) s).2 ∧
      ((setter.apply value cache : StateM (Store State) _) s).2.Serves setter value := by
  -- Whatever is not a sampler unbinds the unit.
  have hempty (unit target : UInt32) : Priming P S s
      (perform (.bindTextureUnit unit target none none) s).2 := command_priming _ rfl s
  obtain ⟨name, location, slot⟩ := setter
  unfold Setter.apply
  cases slot with
  | sampler unit target =>
    cases value with
    | none => exact ⟨hempty unit target, fun _ hvalue => by cases hvalue⟩
    | some value =>
      cases value with
      | sampler sampler =>
        obtain ⟨hsampler, hset⟩ := h sampler rfl
        obtain ⟨hmoved, hfresh⟩ := bind_priming hsampler (hset rfl) unit cache
        refine ⟨hmoved, fun sampler' hvalue _ hfilter hlive => ?_⟩
        cases hvalue
        exact hfresh hfilter (hmoved.frames.live ▸ hlive)
      | _ => exact ⟨hempty unit target, fun _ hvalue => by cases hvalue⟩
  | value kind =>
    refine ⟨?_, fun _ _ hunit => absurd hunit Bool.false_ne_true⟩
    dsimp only
    cases hcommand : value.bind (kind.write? location) with
    | none => exact refl (r := Priming P S) s
    | some command =>
      obtain ⟨_, -, hwrite⟩ := Option.bind_eq_some_iff.1 hcommand
      exact command_priming command (write?_spares hwrite) s

/-- After the values of a draw have been written, no mip levels that it samples are stale. -/
theorem applyAll_priming {setters : List Setter} {values : Uniform.Values}
    (h : ∀ setter ∈ setters, s.Suits S setter (values.get? setter.name))
    (cache : Sampling.Cache) :
    Priming P S s ((setters.foldlM (fun cache setter =>
        setter.apply (values.get? setter.name) cache) cache : StateM (Store State) _) s).2 ∧
      ∀ setter ∈ setters, ((setters.foldlM (fun cache setter =>
        setter.apply (values.get? setter.name) cache) cache : StateM (Store State) _) s).2.Serves
          setter (values.get? setter.name) := by
  induction setters generalizing s cache with
  | nil => exact ⟨refl (r := Priming P S) s, List.forall_mem_nil _⟩
  | cons setter setters ih =>
    obtain ⟨hfirst, hrest⟩ := List.forall_mem_cons.1 h
    obtain ⟨hmoved, hserves⟩ := apply_priming (P := P) hfirst cache
    rw [List.foldlM_cons]
    obtain ⟨hmoved', hserves'⟩ := ih (fun other hother => (hrest other hother).of_frames
      hmoved.frames) ((setter.apply (values.get? setter.name) cache : StateM (Store State) _) s).1
    exact ⟨IsTrans.trans (r := Priming P S) s _ _ hmoved hmoved',
      List.forall_mem_cons.2 ⟨hserves.of_priming hmoved', hserves'⟩⟩

end Store

/-! ### Draws -/

/-- A strip is given a sampler for one of the sampler uniforms of its program. -/
def Strip.Samples (strip : Strip) (sampler : Sampler) : Prop :=
  ∃ setter ∈ strip.program.setters, setter.unit?.isSome ∧
    strip.values.get? setter.name = some (.sampler sampler)

/-- A strip reads the mip levels of a texture. -/
def Strip.ReadsLevels (strip : Strip) (name : Name) : Prop :=
  ∃ sampler, strip.Samples sampler ∧ sampler.filter = .mipLinear ∧ sampler.texture.name = name

namespace Renderer

variable {P : Name → List Call → Prop} {r bound : Renderer State} {bag : Params.Bag}
  {destination : Destination} {resolved : Resolved} {strip : Strip}

/-- Until a draw binds what it draws into, nothing is written but storage that is marked. -/
theorem settle_current (bag : Params.Bag) (destination : Destination) (r : Renderer State) :
    Store.KeepsCurrent P r.store ((settle bag destination).run r).2.store :=
  (settle_moves_by bag (resolve_moves_by fun spec _ registry =>
    Store.prepare_current registry spec) r rfl).2.1

theorem rotate_current (key : StoryKey) (s : Store State) :
    Store.KeepsCurrent P s (s.rotate key) :=
  Store.keepsCurrent_of_quiet (Store.rotate_mounting s key)
    ⟨refl s.device, Store.keepsStale_of_targets rfl⟩

theorem unbind_current : Moves (Store.KeepsCurrent P)
    (perform (.bindFramebuffer none) : StateM (Store State) Unit) := fun s =>
  Store.keepsCurrent_of_quiet (Store.command_mounting _ rfl s)
    (Store.permitsTargets_quiet.command _ rfl s)

theorem bind_current (resolved : Resolved) (r : Renderer State) :
    Store.KeepsCurrent P r.store ((bind resolved).run r).2.store := by
  have bindTarget (key : TargetKey) : Attempt.Moves
      (Over r.geometry.buffer (Store.KeepsCurrent P)) (tryOnStore (Store.bindTarget key false) :
        Attempt DrawError (Renderer State) (UInt32 × UInt32)) :=
    tryOnStore_moves (Store.bindTarget_current key false)
  have hmoves : Attempt.Moves (Over r.geometry.buffer (Store.KeepsCurrent P))
      (bind resolved : Attempt DrawError (Renderer State) (UInt32 × UInt32)) := by
    unfold bind
    split
    · refine .bind (.lift (perform_moves unbind_current)) fun _ => ?_
      exact .lift (perform_moves (Store.command_current _ rfl))
    · exact bindTarget _
    · rename_i key
      refine .bind (.modify fun r hr => ⟨hr, rotate_current key r.store, id⟩) fun _ => ?_
      refine .bind .get fun r => ?_
      split
      · exact bindTarget _
      · exact .throw _
  exact (hmoves r rfl).2.1

/-- Once a draw has bound what it draws into, what is attached is stale or a companion. -/
theorem bind_primed (h : r.store.Current P) {size : UInt32 × UInt32}
    (hrun : (bind resolved).run r = (.ok size, bound)) : bound.store.Primed P fun _ => False := by
  have bindTarget {key : TargetKey} {r : Renderer State} (h : r.store.Current P)
      (hrun : (tryOnStore (Store.bindTarget key false) :
        Attempt DrawError (Renderer State) (UInt32 × UInt32)).run r = (.ok size, bound)) :
      bound.store.Primed P fun _ => False := by
    rw [run_tryOnStore] at hrun
    injection hrun with hok hstore
    subst hstore
    exact Store.bindTarget_primed h (Prod.ext hok rfl)
  have hcurrent := bind_current resolved r h
  rw [hrun] at hcurrent
  unfold bind at hrun
  cases resolved with
  | screen =>
    cases hrun
    exact ⟨hcurrent, fun key t _ _ _ hmem => absurd hmem List.not_mem_nil⟩
  | texture key => exact bindTarget h hrun
  | story key =>
    rw [Attempt.run_bind_ok (Attempt.run_modify _ r), Attempt.run_bind_ok (Attempt.run_get _)]
      at hrun
    dsimp only at hrun
    split at hrun
    · exact bindTarget (rotate_current key r.store h) hrun
    · cases hrun

/-- A clear writes what has been bound, which is stale. -/
theorem wipe_priming (plan : Plan) (view : Rect) (r : Renderer State) :
    Store.Priming P (fun _ => False) r.store (wipe plan view r).2.store := by
  have hset (command : Command Unit) (h : command.isSetting) :
      Moves (Over r.geometry.buffer (Store.Priming P fun _ => False))
        (perform command : StateM (Renderer State) Unit) :=
    perform_moves (Store.setting_priming command h)
  exact (wipe_moves hset plan view r rfl).2.1

/-- Finding a program has nothing to do with targets. -/
theorem program_priming {S : Name → Prop} (options : Params.Options) (uniforms : Uniform.Values)
    (r : Renderer State) :
    Store.Priming P S r.store ((program options uniforms).run r).2.store :=
  (program_moves_by (fun command _ _ h => Store.command_priming command h) options uniforms r
    rfl).2.1

/-- Setting up a strip has nothing to do with targets. -/
theorem ready_priming {S : Name → Prop} (strip : Strip) (r : Renderer State) :
    Store.Priming P S r.store (strip.ready r).2.store := by
  have hplain {α : Type} (command : Command α) (h : command.sparesTargets) :
      Moves (Over r.geometry.buffer (Store.Priming P S))
        (perform command : StateM (Renderer State) α) :=
    perform_moves (Store.command_priming command h)
  have hmoves : Moves (Over r.geometry.buffer (Store.Priming P S))
      (strip.ready : StateM (Renderer State) Unit) := by
    unfold Strip.ready
    refine .bind (hplain _ rfl) fun _ => ?_
    refine .bind (setState_moves (fun command _ h => hplain command h) _ _) fun _ => ?_
    refine .bind (hplain _ rfl) fun _ => ?_
    exact ensure_moves_by (fun _ _ _ => Store.command_priming _ rfl)
      (fun _ _ _ _ => Store.command_priming _ rfl) _ fun _ => hplain _ rfl
  exact (hmoves r rfl).2.1

/-- From the binding of what a draw draws into to its strip no target is framed anew or freed; the
clear writes what has been bound, and the mip levels that the strip samples are made after it. -/
theorem Reached.priming (h : r.store.Current P) (hgenuine : (Act.draw bag destination).IsGenuine r)
    {settled found : Renderer State}
    (hreached : Reached bag destination r resolved strip settled bound found) :
    Store.Priming P (fun _ => False) bound.store found.store ∧
      Store.Priming P strip.ReadsLevels found.store (strip.load found).2.store ∧
      ∀ sampler, strip.Samples sampler → (strip.load found).2.store.HasTexture sampler ∧
        (sampler.filter = .mipLinear → (strip.load found).2.store.IsLive sampler.texture.key →
          (strip.load found).2.store.IsFresh sampler.texture.key) := by
  obtain ⟨size, hbind, -⟩ := hreached.bind
  have hsettled := settle_current (P := P) bag destination r h
  rw [hreached.settle] at hsettled
  have hframes : settled.store.KeepsFrames bound.store := by
    have hmoves : Over settled.geometry.buffer Store.Mounting settled bound :=
      (bind_moves Store.permits_mounting.toBinding
        fun key _ s => Store.rotate_mounting s key).of_run hbind
    exact ((hmoves rfl).2.1 hsettled.toMounted).2
  have hwiped := wipe_priming (P := P) strip.plan strip.view bound
  have hfound := program_priming (P := P) (S := fun _ => False) strip.plan.options strip.uniforms
    (wipe strip.plan strip.view bound).2
  rw [hreached.program] at hfound
  have hloading : Store.Priming P (fun _ => False) bound.store found.store :=
    IsTrans.trans (r := Store.Priming P fun _ => False) _ _ _ hwiped hfound
  have hready := ready_priming (P := P) (S := strip.ReadsLevels) strip found
  have htextures : settled.HasTextures strip.values := by
    have huniforms := (hasTextures_settled h.toWellFormed hgenuine hreached.settle).withSource
      hsettled.toWellFormed resolved
    rw [← hreached.uniforms] at huniforms
    exact huniforms.withBuiltins strip.plan strip.view
  -- The textures of the values are still there when the strip is loaded, since no target is framed
  -- anew.
  have hsuits : ∀ setter ∈ strip.program.setters, (strip.ready found).2.store.Suits
      strip.ReadsLevels setter (strip.values.get? setter.name) := by
    intro setter hsetter sampler hvalue
    refine ⟨?_, fun hunit hfilter => ⟨sampler, ⟨setter, hsetter, hunit, hvalue⟩, hfilter, rfl⟩⟩
    exact (((htextures setter.name sampler hvalue).of_frames hframes).of_frames
      hloading.frames.keepsFrames).of_frames hready.frames.keepsFrames
  obtain ⟨hupload, hserves⟩ := Store.applyAll_priming (P := P) hsuits (strip.ready found).2.samplers
  rw [load_eq]
  refine ⟨hloading, IsTrans.trans (r := Store.Priming P strip.ReadsLevels) _ _ _ hready hupload, ?_⟩
  rintro sampler ⟨setter, hsetter, hunit, hvalue⟩
  exact ⟨(hsuits setter hsetter sampler hvalue).1.of_frames hupload.frames.keepsFrames,
    hserves setter hsetter sampler hvalue hunit⟩

/-- When a draw comes to its strip, the mip levels that the strip samples are not stale, and of
what it is about to write only they may not be. -/
theorem reach_primed (h : r.store.Current P) (hgenuine : (Act.draw bag destination).IsGenuine r)
    {moment : Renderer State}
    (hrun : (reach bag destination).run r = (.ok (resolved, some strip), moment)) :
    moment.store.Primed P strip.ReadsLevels ∧
      ∀ sampler, strip.Samples sampler → moment.store.HasTexture sampler ∧
        (sampler.filter = .mipLinear → moment.store.IsLive sampler.texture.key →
          moment.store.IsFresh sampler.texture.key) := by
  obtain ⟨settled, bound, found, hreached, rfl⟩ := exists_reached hrun
  obtain ⟨size, hbind, -⟩ := hreached.bind
  have hsettled := settle_current (P := P) bag destination r h
  rw [hreached.settle] at hsettled
  have hbound : bound.store.Primed P fun _ => False := bind_primed hsettled hbind
  obtain ⟨hloading, hloaded, hserved⟩ := hreached.priming h hgenuine
  exact ⟨hloaded.primed ((hloading.primed hbound).mono fun _ h => h.elim), hserved⟩

/-- A draw on the screen frames no target anew, and frees none, before its strip. -/
theorem reach_screen_frames (h : r.store.Current P) (hgenuine : (Act.draw bag .screen).IsGenuine r)
    {moment : Renderer State}
    (hrun : (reach bag .screen).run r = (.ok (resolved, some strip), moment)) :
    Store.SameFrames r.store moment.store := by
  obtain ⟨settled, bound, found, hreached, rfl⟩ := exists_reached hrun
  obtain ⟨hloading, hloaded, -⟩ := hreached.priming h hgenuine
  obtain ⟨-, r₁, hstore, -, hresolve⟩ := run_settle_eq_ok hreached.settle
  cases hresolve
  obtain ⟨size, hbind, -⟩ := hreached.bind
  cases hbind
  have hbound : Store.SameFrames r.store (perform (.bindFramebuffer none) settled).2.store :=
    Store.sameFrames_of_targets (by rw [← hstore]; rfl)
  exact ⟨(hloaded.frames.frame.trans hloading.frames.frame).trans hbound.frame,
    (hloaded.frames.framebuffer.trans hloading.frames.framebuffer).trans hbound.framebuffer,
    (hloaded.frames.live.trans hloading.frames.live).trans hbound.live⟩

/-- What is current stays current until a draw comes to its strip. -/
theorem reach_current (h : r.store.Current P)
    (hgenuine : (Act.draw bag destination).IsGenuine r) :
    ((reach bag destination).run r).2.store.Current P := by
  have unreached {result : Except DrawError (Resolved × Option Strip)} {after : Renderer State}
      (hrun : (reach bag destination).run r = (result, after))
      (hresult : ∀ resolved strip, result ≠ .ok (resolved, some strip)) :
      after.store.Current P := by
    refine unreached_rule (I := fun r => r.store.Current P)
      (J := fun r => r.store.Primed P fun _ => False) hrun hresult
      (settle_current bag destination r h)
      (fun _ _ _ _ hsettled hbind => bind_primed hsettled hbind) ?_
      (fun plan view r => (wipe_priming plan view r).primed) ?_ ?_
    · intro resolved settled e after hsettled hbind
      have hafter := bind_current resolved settled hsettled
      rwa [hbind] at hafter
    · intro options uniforms wiped e after hwiped hprogram
      have hafter := (program_priming options uniforms wiped).primed hwiped
      rwa [hprogram] at hafter
    · intro wiped hwiped
      exact Store.command_current (.depthMask true) rfl wiped.store hwiped.toCurrent
  rcases hrun : (reach bag destination).run r with ⟨e | ⟨resolved, _ | strip⟩, after⟩
  · exact unreached hrun fun _ _ => nofun
  · exact unreached hrun fun _ _ => nofun
  · exact (reach_primed h hgenuine hrun).1.toCurrent

/-- A strip writes what is attached, and may be excused for it. -/
theorem finish_current (h : r.store.Primed P strip.ReadsLevels)
    (hexcused : ∀ name, strip.ReadsLevels name → P name r.store.device.calls) :
    (strip.finish r).2.store.Current P := by
  let draw : Command Unit := .drawArraysInstanced Constant.triangleStrip 0
    strip.plan.vertices.toInt32 strip.plan.instances.toInt32
  let r₁ := (perform draw r).2
  obtain ⟨hcalls, hframing⟩ := r.store.device.perform_draw Constant.triangleStrip 0
    strip.plan.vertices.toInt32 strip.plan.instances.toInt32
  have hcalls' : r₁.store.device.calls = _ := hcalls
  have hframing' : r₁.store.device.framing = r.store.device.framing := hframing
  have hdrawn : r₁.store.Current P := by
    obtain ⟨hmounted, -⟩ := Store.command_mounting draw rfl r.store h.toMounted
    refine ⟨hmounted, ?_, fun key t ht hstale hcompanion => ?_⟩
    · rw [hcalls', hframing', Framing.replay_append, h.framing]
      rfl
    · rw [hcalls']
      refine (h.current key t ht hstale hcompanion).snoc fun hwrites => hexcused _ ?_
      rw [h.framing] at hwrites
      exact h.attached key t ht hstale hcompanion (List.contains_iff_mem.1 hwrites)
  have hrevert : Store.KeepsCurrent P r₁.store (revertState strip.plan strip.blend r₁).2.store :=
    (revertState_moves (Q := Over r₁.geometry.buffer (Store.KeepsCurrent P))
      (fun command _ h => perform_moves (Store.command_current command h)) strip.plan strip.blend
      r₁ rfl).2.1
  exact hrevert hdrawn

/-- What is current stays current through a draw that is excused for what it writes and samples at
once. -/
theorem draw_current (h : r.store.Current P) (hgenuine : (Act.draw bag destination).IsGenuine r)
    (hexcused : ∀ resolved strip moment,
      (reach bag destination).run r = (.ok (resolved, some strip), moment) →
        ∀ name, strip.ReadsLevels name → P name moment.store.device.calls) :
    ((draw bag destination).run r).2.store.Current P := by
  have hreach := reach_current h hgenuine
  rw [draw_eq_reach]
  rcases hrun : (reach bag destination).run r with ⟨e | ⟨resolved, _ | strip⟩, moment⟩ <;>
    rw [hrun] at hreach
  · rw [Attempt.run_bind_error hrun]
    exact hreach
  · rw [Attempt.run_bind_ok hrun]
    exact hreach
  · rw [Attempt.run_bind_ok hrun]
    exact finish_current (reach_primed h hgenuine hrun).1 (hexcused resolved strip moment hrun)

end Renderer

/-! ### A draw that samples a target -/

/-- A draw of one sampler whose program is new samples it. -/
theorem Renderer.Remembers.exists_sampling {r : Renderer State}
    {founders : ProgramKey → Option Uniform.Values} (h : r.Remembers embeddedHeader founders)
    (hnew : founders ⟨[], "", "1.0"⟩ = none) (hlink : r.store.device.failNextLink = none)
    {sampler : Sampler}
    (htype : (Uniform.Value.sampler sampler).shape.declaredType? = some "sampler2D") :
    ∃ strip moment, (reach (.single (.sampler sampler)) .screen).run r =
        (.ok (.screen, some strip), moment) ∧ strip.Samples sampler := by
  obtain ⟨strip, moment, program, hrun, hvalue, hprogram, huniforms⟩ :=
    h.exists_single hnew hlink htype rfl
  refine ⟨strip, moment, hrun, ?_⟩
  obtain ⟨program', hprogram', hcompiled⟩ := h.exists_reached_program hrun
  cases hprogram.symm.trans hprogram'
  obtain ⟨hsamplers, hascii⟩ := samplers_single huniforms
  have hfirst : program.samplers[0]? = some "a" := by
    rw [hsamplers]
    rfl
  obtain ⟨setter, hsetter, hname, hunit⟩ := hcompiled.exists_setter hascii hfirst
  refine ⟨setter, hsetter, by rw [hunit]; rfl, ?_⟩
  rw [hname]
  exact Strip.get?_values (hvalue ▸ List.mem_singleton_self _) undeclared_single

/-! ### Runs -/

/-- One of the draws of a run comes, after some calls, to a strip that reads the mip levels of a
texture. -/
def Act.SampledAt (r : Renderer State) (acts : List Act) (name : Name) (calls : List Call) :
    Prop :=
  ∃ before bag destination resolved strip moment, before ++ [.draw bag destination] <+: acts ∧
    (Renderer.reach bag destination).run (Act.afterAll r before) =
      (.ok (resolved, some strip), moment) ∧
    moment.store.device.calls = calls ∧ strip.ReadsLevels name

/-- What is current stays current throughout a run, if its draws are excused. -/
theorem Act.afterAll_current {P : Name → List Call → Prop} {acts : List Act} {r : Renderer State}
    (h : r.store.Current P) (hgenuine : Act.AreGenuine r acts)
    (hexcused : ∀ name calls, Act.SampledAt r acts name calls → P name calls) :
    (Act.afterAll r acts).store.Current P := by
  induction acts generalizing r with
  | nil => exact h
  | cons act acts ih =>
    refine ih ?_ hgenuine.2 fun name calls => ?_
    · by_cases hact : ∃ bag destination, act = .draw bag destination
      · obtain ⟨bag, destination, rfl⟩ := hact
        exact Renderer.draw_current h hgenuine.1 fun resolved strip moment hrun name hname =>
          hexcused name _ ⟨[], bag, destination, resolved, strip, moment, ⟨acts, rfl⟩, hrun, rfl,
            hname⟩
      · exact Act.after_current (fun bag destination heq => hact ⟨bag, destination, heq⟩) r h
    · rintro ⟨before, bag, destination, resolved, strip, moment, hbefore, hrun, hcalls, hname⟩
      exact hexcused name calls ⟨act :: before, bag, destination, resolved, strip, moment,
        (List.prefix_cons_inj act).2 hbefore, hrun, hcalls, hname⟩

/-- At every instanced draw of a run the mip levels of every texture that is sampled with them have
been made after all that has been written to the texture, except what a draw wrote to it while
sampling them; unless the target of the texture has been freed, or has been attached to another one
as its companion. -/
theorem levels_follow_writes {config : Config} {width height : UInt32} {r : Renderer State}
    (hr : Renderer.create config { device := State.new width height } = .ok r) (acts : List Act)
    (act : Act) (hacts : Act.AreGenuine r acts) (hact : act.IsGenuine (Act.afterAll r acts)) :
    ∃ calls, (act.after (Act.afterAll r acts)).store.device.calls =
        (Act.afterAll r acts).store.device.calls ++ calls ∧
      ∀ before mode count instances later,
        calls = before ++ .drawArraysInstanced mode count instances :: later →
        ∃ bag destination resolved strip moment, act = .draw bag destination ∧
          (Renderer.reach bag destination).run (Act.afterAll r acts) =
            (.ok (resolved, some strip), moment) ∧
          moment.store.device.calls = (Act.afterAll r acts).store.device.calls ++ before ∧
          ∀ sampler, strip.Samples sampler → sampler.filter = .mipLinear →
            moment.store.IsLive sampler.texture.key →
            ¬ moment.store.IsCompanion sampler.texture.key →
            LevelsFollow (Act.SampledAt r acts sampler.texture.name) sampler.texture.name
              moment.store.device.calls := by
  have hcurrent : (Act.afterAll r acts).store.Current (Act.SampledAt r acts) :=
    Act.afterAll_current (Renderer.current_create hr) hacts fun _ _ hsampled => hsampled
  obtain ⟨calls, hcalls, hstrip⟩ := Act.strip_of_call (Reachable.afterAll (.start hr) acts) act
  refine ⟨calls, hcalls, fun before mode count instances later heq => ?_⟩
  obtain ⟨bag, destination, resolved, strip, moment, rfl, hrun, hmoment⟩ :=
    hstrip before mode count instances later heq
  refine ⟨bag, destination, resolved, strip, moment, rfl, hrun, hmoment,
    fun sampler hsamples hfilter hlive hcompanion => ?_⟩
  obtain ⟨hprimed, hserved⟩ := Renderer.reach_primed hcurrent hact hrun
  obtain ⟨htexture, hfresh⟩ := hserved sampler hsamples
  obtain ⟨t, ht, hstale⟩ := hfresh hfilter hlive
  have hlevels := hprimed.current sampler.texture.key t ht hstale hcompanion
  rwa [htexture.name_eq ht] at hlevels

/-- A draw on the screen that samples a target made just before with its mip levels. -/
theorem levels_follow_writes_of_target :
    ∃ (acts : List Act) (sampler : Sampler) (strip : Strip) (moment : Renderer State)
      (later : List Software.Call),
      ((Act.afterAll Renderer.onePixel acts).store.target? ⟨0⟩).map Target.sampler = some sampler ∧
      sampler.filter = .mipLinear ∧ strip.Samples sampler ∧
      ((Act.draw (.single (.sampler sampler)) .screen).after
          (Act.afterAll Renderer.onePixel acts)).store.device.calls =
        moment.store.device.calls ++ .drawArraysInstanced Constant.triangleStrip
          strip.plan.vertices.toInt32 strip.plan.instances.toInt32 :: later ∧
      LevelsFollow (Act.SampledAt Renderer.onePixel acts sampler.texture.name)
        sampler.texture.name moment.store.device.calls := by
  let acts : List Act := [.draw .empty (.spec { tag := "s", filter := some .mipLinear })]
  have hlink : (Act.afterAll Renderer.onePixel acts).store.device.failNextLink = none := by
    decide +kernel
  have hempty : (Act.afterAll Renderer.onePixel acts).programs.programs.get? ⟨[], "", "1.0"⟩ =
      none := by
    decide +kernel
  have htarget : ((Act.afterAll Renderer.onePixel acts).store.target? ⟨0⟩).map (fun t =>
      ((Uniform.Value.sampler t.sampler).shape.declaredType?, t.sampler.filter, t.texture.key,
        t.freed)) = some (some "sampler2D", .mipLinear, ⟨0⟩, false) := by
    decide +kernel
  have halone : (Act.afterAll Renderer.onePixel acts).store.targets.values.all
      (·.companion.key?.isNone) = true := by
    decide +kernel
  have hgenuine : Act.AreGenuine Renderer.onePixel acts := by
    refine ⟨fun name sampler hbag => ?_, trivial⟩
    cases hbag
  have hremembers := Act.afterAll_remembers acts
    (Renderer.remembers_create Renderer.create_onePixel)
  have hcurrent : (Act.afterAll Renderer.onePixel acts).store.Current fun _ _ => True :=
    Act.afterAll_current (Renderer.current_create Renderer.create_onePixel) hgenuine
      fun _ _ _ => trivial
  have hfollow := levels_follow_writes Renderer.create_onePixel acts
  refine ⟨acts, ?_⟩
  generalize Act.afterAll Renderer.onePixel acts = r at *
  generalize Act.foundersAll (fun _ => none) Renderer.onePixel acts = founders at hremembers
  have hnew : founders ⟨[], "", "1.0"⟩ = none := hremembers.unfounded hempty
  obtain ⟨t, ht, hparts⟩ := Option.map_eq_some_iff.1 htarget
  injection hparts with htype hparts
  injection hparts with hfilter hparts
  injection hparts with hkey hfreed
  have hact : (Act.draw (.single (.sampler t.sampler)) .screen).IsGenuine r := by
    intro name sampler hbag
    have hpair : (name, Params.ParamValue.uniform (.sampler sampler)) ∈
        [("FP", .text "1.0"), ("a", .uniform (.sampler t.sampler))] :=
      Table.get?_eq_some_iff.1 hbag
    rcases List.mem_cons.1 hpair with hfirst | hsecond
    · cases hfirst
    · cases List.mem_singleton.1 hsecond
      exact ⟨⟨0⟩, t, ht, rfl⟩
  obtain ⟨strip, moment, hrun, hsamples⟩ := hremembers.exists_sampling hnew hlink htype
  have hframes := Renderer.reach_screen_frames hcurrent hact hrun
  obtain ⟨before, later, hmoment, hafter⟩ := Renderer.exists_call_of_reach hrun
  obtain ⟨calls, hcalls, hdraws⟩ := hfollow (.draw (.single (.sampler t.sampler)) .screen)
    hgenuine hact
  rw [hcalls, hmoment, List.append_assoc] at hafter
  obtain ⟨_, _, _, strip', _, hsame, hrun', -, hlevels⟩ :=
    hdraws before _ _ _ later (List.append_cancel_left hafter)
  cases hsame
  cases hrun.symm.trans hrun'
  have hlive : moment.store.IsLive t.sampler.texture.key := by
    rw [hframes.live]
    exact ⟨t, hkey ▸ ht, hfreed⟩
  have hcompanion : ¬ moment.store.IsCompanion t.sampler.texture.key := by
    rintro ⟨owner, f, hf, hown⟩
    rw [hframes.frame] at hf
    obtain ⟨t', ht', rfl⟩ := Store.frame?_eq_some hf
    have hmem := List.mem_map_of_mem (f := Prod.snd) (Table.get?_eq_some_iff.1 ht')
    have hnone : t'.companion.key? = none := Option.isNone_iff_eq_none.1
      (List.all_eq_true.1 halone t' hmem)
    cases hnone.symm.trans hown
  rw [← List.append_assoc, ← hmoment] at hafter
  exact ⟨t.sampler, strip, moment, later, congrArg (Option.map Target.sampler) ht, hfilter,
    hsamples, hcalls.trans hafter, hlevels t.sampler hsamples hfilter hlive hcompanion⟩

end DrawPass
