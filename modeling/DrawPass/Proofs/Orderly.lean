/-
DrawPass/Proofs/Orderly.lean

The functions of the store name what is there.

Each function is walked through once.  Those that draw, read and bind are gentle: nothing
goes.  Making and freeing targets is orderly: what goes is not named again.  The one
exception is the companion of a target, which is attached when the target's framebuffer is
made: nothing looks whether it has been freed, so its texture has to be excepted if it is a
stray one (`Store.Stray`).
-/
import DrawPass.Proofs.Kept

namespace DrawPass

open Gl Readback Sampling Shader Software

namespace Store

variable {ε α : Type} {P : Name → Prop} {index : Name} {reads : List PendingRead}
  {objects : List (Kind × Name)} {s s' : Store State} {key : TargetKey} {t : Target}

/-! ### Storage -/

theorem respecify_gentle (key : TargetKey) (size : UInt32 × UInt32) (data : Option PixelData) :
    Attempt.Moves (Gentle P index reads objects)
      (respecify key size data : Attempt DrawError (Store State) Unit) := by
  intro s
  by_cases h : ∃ t, s.target? key = some t ∧ t.freed = false ∧
      checkData t.tag t.info size t.layers data = .ok ()
  · obtain ⟨t, ht, hfreed, hdata⟩ := h
    rw [respecify_ok ht hfreed hdata]
    have himage : Moves (Gentle P index reads [(.texture, t.texture.name)])
        (perform (.texImage t.texture.name t.info.layout size.1 size.2 t.layers
          (data.map PixelData.bytes)) : StateM (Store State) Unit) :=
      command_gentle _ rfl rfl (List.Subset.refl _)
    refine IsTrans.trans (r := Gentle P index reads objects) _ _ _
      ((himage s).of_has fun h _ => has_singleton (h.texture_held ht hfreed)) ?_
    exact contents_gentle _ key _ fun t => ⟨rfl, rfl, rfl, rfl, rfl, rfl⟩
  · obtain ⟨e, hrun⟩ := respecify_error h
    rw [hrun]
    exact refl s

theorem update_gentle (key : TargetKey) (size : UInt32 × UInt32) (data : Option PixelData) :
    Attempt.Moves (Gentle P index reads objects)
      (update key size data : Attempt DrawError (Store State) Unit) := by
  unfold update
  refine .bind (usable_moves key) fun t => .bind (respecify_gentle _ _ _) fun _ => ?_
  split
  · exact respecify_gentle _ _ _
  · exact .pure _

theorem make_orderly (spec : TargetSpec) (d : TargetDescription) :
    Attempt.Moves (Orderly P index reads)
      (Registry.make spec d : Attempt DrawError (Store State) Entry) := by
  intro s h
  refine make_moves_at (R := Orderly P index reads)
    (fun key size data s => (update_gentle key size data s).orderly) free_orderly refuse_orderly
    (fun _ _ _ _ _ hnew hkeeps hown _ => added_orderly hnew hkeeps hown)
    (fun s story _ hwf hslots => ?_) spec d h.toWellFormed h
  exact fun h => ⟨h.of_same (h.toOwned.addStory hwf hslots) (.of_eq rfl) rfl, rfl,
    fun _ _ => List.Subset.refl _⟩

theorem prepare_orderly (r : Registry) (spec : TargetSpec) :
    Attempt.Moves (Orderly P index reads)
      (r.prepare spec : Attempt DrawError (Store State) _) :=
  prepare_moves (fun key size data s => (update_gentle key size data s).orderly)
    ((command_gentle _ rfl rfl (List.nil_subset _)).mono fun _ _ h => h.orderly) r
    fun _ _ => make_orderly spec _

/-! ### Samplers -/

/-- The texture of a sampler is that of the target that the sampler names. -/
def HasTexture (s : Store State) (sampler : Sampler) : Prop :=
  ∃ f, s.frame? sampler.texture.key = some f ∧ f.name = sampler.texture.name

theorem Stays.hasTexture {sampler : Sampler} (h : Stays s s') (ht : s.HasTexture sampler) :
    s'.HasTexture sampler := by
  unfold HasTexture
  rw [h.frame]
  exact ht

/-- The sampler objects are on the device, each for one mode. -/
structure HasSamplers (s : Store State) (cache : Cache) : Prop where
  held : ∀ id ∈ cache.objects.values, id ∈ s.device.holds .sampler
  distinct : cache.objects.values.Nodup

theorem Stays.hasSamplers {cache : Cache} (h : Stays s s') (hs : s.HasSamplers cache) :
    s'.HasSamplers cache where
  held id hid := h.holds _ (hs.held id hid)
  distinct := hs.distinct

/-- What is kept is kept together with the sampler objects of a cache. -/
structure Sampled (P : Name → Prop) (index : Name) (reads : List PendingRead) (s s' : Store State)
    (cache : Cache) : Prop where
  kept : s'.Kept P index reads
  stays : Stays s s'
  samplers : s'.HasSamplers cache

theorem refreshMips_gentle (sampler : Sampler) (stale : Bool) (unit : UInt32) :
    Moves (Gentle P index reads [(.texture, sampler.texture.name)])
      (sampler.refreshMips stale unit : StateM (Store State) Unit) := by
  unfold Sampler.refreshMips
  split
  · refine .bind (command_gentle _ rfl rfl (List.Subset.refl _)) fun _ => ?_
    refine .bind (command_gentle _ rfl rfl (List.Subset.refl _)) fun _ => ?_
    exact .modify fun s => contents_gentle s _ _ fun t => ⟨rfl, rfl, rfl, rfl, rfl, rfl⟩
  · exact .pure _

/-- A new sampler object has a number of its own. -/
theorem getOrCreate_sampled (h : s.Kept P index reads) {cache : Cache}
    (hcache : s.HasSamplers cache) (mode : Mode) : Sampled P index reads s
      ((cache.getOrCreate mode : StateM (Store State) _) s).2
      ((cache.getOrCreate mode : StateM (Store State) _) s).1.2 := by
  unfold Cache.getOrCreate
  cases hmode : cache.objects.get? mode with
  | some id => exact ⟨h, refl (r := Stays) s, hcache⟩
  | none =>
    let command := Command.createSampler mode.filter.minConstant mode.filter.magConstant
      mode.wrap.constant
    show Sampled P index reads s (perform command s).2
      ⟨cache.objects.insert mode (s.device.lastName + 1)⟩
    have hmodes : mode ∉ cache.objects.keys := by
      rw [Table.mem_keys_iff, hmode]
      exact Bool.false_ne_true
    have hcommand : Moves (Gentle P index reads []) (perform command : StateM (Store State) _) :=
      command_gentle _ rfl rfl (List.Subset.refl _)
    obtain ⟨hkept, hstays⟩ := hcommand s h s.has_nil
    refine ⟨hkept, hstays, fun id hid => ?_, ?_⟩
    · rw [Table.values_insert hmodes, List.mem_append, List.mem_singleton] at hid
      rcases hid with hid | rfl
      · exact (hstays.hasSamplers hcache).held id hid
      · exact List.mem_cons_self
    · rw [Table.values_insert hmodes, List.nodup_append]
      refine ⟨hcache.distinct, by simp, fun id hid id' hid' e => ?_⟩
      rw [e, List.mem_singleton.1 hid'] at hid
      exact Nat.not_succ_le_self _ (h.tidy.numbered _ _ (hcache.held _ hid))

/-- A sampler is bound by the texture that it was taken from, unless that has been freed. -/
theorem bind_sampled (h : s.Kept P index reads) {cache : Cache} (hcache : s.HasSamplers cache)
    {sampler : Sampler} (hsampler : s.HasTexture sampler) (unit : UInt32) :
    Sampled P index reads s ((sampler.bind unit cache : StateM (Store State) _) s).2
      ((sampler.bind unit cache : StateM (Store State) _) s).1 := by
  unfold Sampler.bind
  rw [run_get_bind]
  cases hlook : (s.target? sampler.texture.key).filter fun t => !t.freed with
  | none =>
    have hempty : Moves (Gentle P index reads []) (perform (.bindTextureUnit unit
        sampler.texture.bindingPoint none none) : StateM (Store State) _) :=
      command_gentle _ rfl rfl (List.Subset.refl _)
    obtain ⟨hkept, hstays⟩ := hempty s h s.has_nil
    exact ⟨hkept, hstays, hstays.hasSamplers hcache⟩
  | some t =>
    obtain ⟨ht, hfreed⟩ := Option.filter_eq_some_iff.1 hlook
    -- A target that has not been freed still has the texture that the sampler was taken from.
    have hheld : s.Has [(.texture, sampler.texture.name)] := by
      obtain ⟨f, hf, hname⟩ := hsampler
      rw [frame?_of_target? ht] at hf
      cases hf
      exact has_singleton (hname ▸ h.texture_held ht (by simpa using hfreed))
    let s₁ := ((sampler.refreshMips t.mipsStale unit : StateM (Store State) Unit) s).2
    let r₂ := (cache.getOrCreate sampler.mode : StateM (Store State) _) s₁
    show Sampled P index reads s (perform (.bindTextureUnit unit sampler.texture.bindingPoint
      (some sampler.texture.name) r₂.1.1) r₂.2).2 r₂.1.2
    obtain ⟨hkept₁, hstays₁⟩ := refreshMips_gentle sampler t.mipsStale unit s h hheld
    obtain ⟨hkept₂, hstays₂, hsamplers₂⟩ :=
      getOrCreate_sampled hkept₁ (hstays₁.hasSamplers hcache) sampler.mode
    have hbind : Moves (Gentle P index reads [(.texture, sampler.texture.name)])
        (perform (.bindTextureUnit unit sampler.texture.bindingPoint
          (some sampler.texture.name) r₂.1.1) : StateM (Store State) _) :=
      command_gentle _ rfl rfl (List.Subset.refl _)
    obtain ⟨hkept₃, hstays₃⟩ := hbind r₂.2 hkept₂ (hstays₂.has (hstays₁.has hheld))
    have hstays := IsTrans.trans (r := Stays) s s₁ _ hstays₁
      (IsTrans.trans (r := Stays) s₁ r₂.2 _ hstays₂ hstays₃)
    exact ⟨hkept₃, hstays, hstays₃.hasSamplers hsamplers₂⟩

/-- A uniform is written without an object being named. -/
theorem write?_names {kind : UniformKind} {location : Location} {value : Uniform.Value}
    {command : Command Unit} (hc : kind.write? location value = some command) :
    command.deletes? = none ∧ command.names = [] := by
  obtain ⟨_, _, rfl⟩ | ⟨_, _, rfl⟩ | ⟨_, _, rfl⟩ | ⟨_, _, rfl⟩ := write?_cases hc <;>
    exact ⟨rfl, rfl⟩

theorem apply_sampled (h : s.Kept P index reads) {cache : Cache} (hcache : s.HasSamplers cache)
    (setter : Setter) {value : Option Uniform.Value}
    (hvalue : ∀ sampler, value = some (.sampler sampler) → s.HasTexture sampler) :
    Sampled P index reads s ((setter.apply value cache : StateM (Store State) _) s).2
      ((setter.apply value cache : StateM (Store State) _) s).1 := by
  have hcommand (command : Command Unit) (hobjects : command.keepsObjects)
      (hdeletes : command.deletes? = none) (hnames : command.names = []) :
      Sampled P index reads s (perform command s).2 cache := by
    have hgentle : Moves (Gentle P index reads []) (perform command : StateM (Store State) _) :=
      command_gentle _ hobjects hdeletes (hnames ▸ List.Subset.refl _)
    obtain ⟨hkept, hstays⟩ := hgentle s h s.has_nil
    exact ⟨hkept, hstays, hstays.hasSamplers hcache⟩
  unfold Setter.apply
  rcases setter.slot with ⟨unit, target⟩ | kind <;> dsimp only
  · split
    · exact bind_sampled h hcache (hvalue _ rfl) unit
    · exact hcommand (.bindTextureUnit unit target none none) rfl rfl rfl
  · cases hc : value.bind (kind.write? setter.location) with
    | none => exact ⟨h, refl (r := Stays) s, hcache⟩
    | some command =>
      obtain ⟨v, -, hwrite⟩ := Option.bind_eq_some_iff.1 hc
      exact hcommand command (write?_plain hwrite).2.1 (write?_names hwrite).1 (write?_names hwrite).2

/-- The uniforms of a program are written one after the other. -/
theorem applyUniforms_sampled (program : Shader.Program) {values : Uniform.Values} {cache : Cache}
    (h : s.Kept P index reads) (hcache : s.HasSamplers cache)
    (hvalues : ∀ name sampler, values.get? name = some (.sampler sampler) → s.HasTexture sampler) :
    Sampled P index reads s
      ((program.applyUniforms values cache : StateM (Store State) _) s).2
      ((program.applyUniforms values cache : StateM (Store State) _) s).1 := by
  unfold Program.applyUniforms
  generalize program.setters = setters
  induction setters generalizing s cache with
  | nil => exact ⟨h, refl (r := Stays) s, hcache⟩
  | cons setter setters ih =>
    rw [List.foldlM_cons]
    obtain ⟨hkept, hstays, hsamplers⟩ := apply_sampled h hcache setter (hvalues setter.name)
    obtain ⟨hkept', hstays', hsamplers'⟩ := ih hkept hsamplers fun name sampler hvalue =>
      hstays.hasTexture (hvalues name sampler hvalue)
    exact ⟨hkept', IsTrans.trans (r := Stays) s _ _ hstays hstays', hsamplers'⟩

/-! ### Binding and reading -/

/-- The target is bound by its framebuffer, which is made if it has none. -/
theorem bindTarget_gentle (hstray : ∀ id, s.Stray id → P id)
    (readOnly : Bool) : Gentle P index reads objects s ((bindTarget key readOnly).run s).2 := by
  refine bindTarget_moves_at (fun t framebuffer ht hf => ?_)
    (fun t ht hfreed _ => makeFramebuffer_gentle ht hfreed hstray)
    fun s => contents_gentle s key _ fun t => ⟨rfl, rfl, rfl, rfl, rfl, rfl⟩
  have hbind : Moves (Gentle P index reads [(.framebuffer, framebuffer)])
      (perform (.bindFramebuffer (some framebuffer)) : StateM (Store State) Unit) :=
    command_gentle _ rfl rfl (List.Subset.refl _)
  exact (hbind s).of_has fun h _ => has_singleton (h.framebuffer_held ht hf)

theorem bindForRead_gentle (hstray : ∀ id, s.Stray id → P id) :
    Gentle P index reads objects s ((bindForRead key).run s).2 := by
  unfold bindForRead
  refine Attempt.Moves.bind_at ?_ fun _ => .pure _
  rw [Attempt.run_adapt]
  exact bindTarget_gentle hstray true

theorem readSync_gentle (hstray : ∀ id, s.Stray id → P id)
    (region : Option Rect) :
    Gentle P index reads objects s ((readSync key region).run s).2 := by
  unfold readSync
  rcases hu : (readable key).run s with ⟨e | t, s'⟩
  · rw [Attempt.run_bind_error hu]
    exact (readable_moves (R := Gentle P index reads objects) key).of_run hu
  obtain ⟨rfl, -, -⟩ := run_readable_eq_ok.1 hu
  rw [Attempt.run_bind_ok hu]
  rcases hregion : t.region region with e | rect
  · rw [Attempt.run_bind_error (Attempt.run_ofExcept_error rfl s')]
    exact refl s'
  rw [Attempt.run_bind_ok (Attempt.run_ofExcept_ok rfl s')]
  refine Attempt.Moves.bind_at (bindForRead_gentle hstray) fun _ => ?_
  refine .bind (.lift (command_gentle _ rfl rfl (List.nil_subset _))) fun pixels => ?_
  refine .bind (.modify fun s => contents_gentle s key _ fun t => ?_) fun _ => .pure _
  exact ⟨rfl, rfl, rfl, rfl, rfl, rfl⟩

end Store

end DrawPass
