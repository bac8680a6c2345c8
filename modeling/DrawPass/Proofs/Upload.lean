/-
DrawPass/Proofs/Upload.lean

What writing the values of a draw does to the uniforms and to the texture units.

A setter changes one thing only: a value setter the uniform of its own name, if the value fits
(`Setter.store`), and a sampler setter its own texture unit (`SparesUnits`), which is left
with the texture of the sampler that was supplied or, if none was or its target has been
freed, with nothing (`Store.boundTexture?`).  So when the setters of a program have distinct
units, each unit is left as its own setter wants it, whatever the others do and whatever was
bound before (`applyUniforms_unit`).
-/
import DrawPass.Proofs.Setters
import DrawPass.Proofs.TargetCommands

namespace DrawPass

open Gl Sampling Shader Software

namespace Shader

/-- What a uniform of a kind holds once a value has been written to it, if the value fits. -/
def UniformKind.holds? (kind : UniformKind) (value : Uniform.Value) : Option UniformValue :=
  if value.length = 0 ∨ value.length % kind.components ≠ 0 then none
  else
    match kind with
    | float _ | matrix _ => value.floats?.map .floats
    | int _ | bool _ => value.ints?.map .ints
    | uint _ => value.ints?.map fun ns => .uints (ns.map fun m => (max m 0).toUInt32)
    | sampler _ => none

namespace Setter

/-- What the uniform of a setter holds once a value, which may be missing, has been written. -/
def written? (s : Setter) (value : Option Uniform.Value) : Option UniformValue :=
  match s.slot with
  | .sampler .. => none
  | .value kind => value.bind kind.holds?

/-- The values that uniforms hold after a setter has written its value. -/
def store (values : Uniform.Values) :
    Table String UniformValue → Setter → Table String UniformValue :=
  hold fun s => s.written? (values.get? s.name)

end Setter

/-- The command for a value sets the uniform to what it then holds. -/
theorem UniformKind.perform_write? {kind : UniformKind} {value : Uniform.Value}
    {command : Command Unit} {location : Location}
    (h : kind.write? location value = some command) (d : State) :
    ∃ held, kind.holds? value = some held ∧ (d.perform command).2 = d.setUniform location held := by
  unfold UniformKind.write? at h
  unfold UniformKind.holds?
  split at h
  · cases h
  · rename_i hfits
    rw [if_neg hfits]
    cases kind with
    | sampler => cases h
    | float | matrix | int | bool | uint =>
      obtain ⟨components, hcomponents, rfl⟩ := Option.map_eq_some_iff.1 h
      exact ⟨_, congrArg (Option.map _) hcomponents, rfl⟩

/-- A value that is not written fits nothing. -/
theorem UniformKind.holds?_eq_none {kind : UniformKind} {value : Uniform.Value}
    {location : Location} (h : kind.write? location value = none) : kind.holds? value = none := by
  unfold UniformKind.write? at h
  unfold UniformKind.holds?
  split at h
  · rename_i hunfit
    rw [if_pos hunfit]
  · rename_i hfits
    rw [if_neg hfits]
    cases kind with
    | sampler => rfl
    | float | matrix | int | bool | uint =>
      exact congrArg (Option.map _) (Option.map_eq_none_iff.1 h)

end Shader

namespace Store

variable {s s' s'' : Store State} {id : Name} {unit : UInt32} {values : Uniform.Values}

/-- The texture that a value is to be read from: that of a sampler whose target has not been
freed. -/
def boundTexture? (s : Store State) (value : Option Uniform.Value) : Option Name :=
  match value with
  | some (.sampler sampler) =>
    if (s.target? sampler.texture.key).any fun t => !t.freed then some sampler.texture.name
    else none
  | _ => none

/-! ### Binding one sampler -/

/-- Apart from one texture unit, the device is left alone as far as draws see it, and no target is
freed. -/
structure SparesUnits (unit : UInt32) (s s' : Store State) : Prop where
  programs : s'.device.programs = s.device.programs
  currentProgram : s'.device.currentProgram = s.device.currentProgram
  vertexArrays : s'.device.vertexArrays = s.device.vertexArrays
  lastName : s.device.lastName ≤ s'.device.lastName
  freed : ∀ key, (s'.target? key).map Target.freed = (s.target? key).map Target.freed
  units : ∀ unit', unit' ≠ unit → s'.device.units.get? unit' = s.device.units.get? unit'

instance : IsPreorder (Store State) (SparesUnits unit) where
  refl _ := ⟨rfl, rfl, rfl, Nat.le_refl _, fun _ => rfl, fun _ _ => rfl⟩
  trans _ _ _ h h' :=
    ⟨h'.programs.trans h.programs, h'.currentProgram.trans h.currentProgram,
      h'.vertexArrays.trans h.vertexArrays, Nat.le_trans h.lastName h'.lastName,
      fun key => (h'.freed key).trans (h.freed key),
      fun unit' hne => (h'.units unit' hne).trans (h.units unit' hne)⟩

theorem bindTextureUnit_spares (target : UInt32) (texture sampler : Option Name) :
    Moves (SparesUnits unit) (perform (.bindTextureUnit unit target texture sampler) :
      StateM (Store State) Unit) := by
  intro s
  refine ⟨rfl, rfl, rfl, Nat.le_refl _, fun _ => rfl, fun unit' hne => ?_⟩
  cases texture with
  | none => exact (Table.get?_erase ..).trans (if_neg hne)
  | some texture => exact (Table.get?_insert ..).trans (if_neg (Ne.symm hne))

/-- What a unit is left with when it is bound. -/
theorem get?_bindTextureUnit (target : UInt32) (texture sampler : Option Name)
    (s : Store State) : (perform (.bindTextureUnit unit target texture sampler) s).2.device.units.get?
      unit = texture := by
  cases texture with
  | none => exact (Table.get?_erase ..).trans (if_pos rfl)
  | some texture => exact (Table.get?_insert ..).trans (if_pos rfl)

theorem refreshMips_spares (sampler : Sampler) (stale : Bool) :
    Moves (SparesUnits unit) (sampler.refreshMips stale unit : StateM (Store State) Unit) := by
  have hmips : Moves (SparesUnits unit)
      (perform (.generateMipmap sampler.texture.bindingPoint sampler.texture.name) :
        StateM (Store State) Unit) := fun s =>
    ⟨rfl, rfl, rfl, Nat.le_refl _, fun _ => rfl, fun _ _ => rfl⟩
  have hfresh : Moves (SparesUnits unit) (modify fun s : Store State =>
      s.modifyTarget sampler.texture.key fun t => { t with mipsStale := false } :
        StateM (Store State) PUnit) := by
    refine .modify fun s => ⟨rfl, rfl, rfl, Nat.le_refl _, fun key => ?_, fun _ _ => rfl⟩
    rw [target?_modifyTarget]
    split
    · cases s.target? key <;> rfl
    · rfl
  unfold Sampler.refreshMips
  split
  · exact .bind (bindTextureUnit_spares _ _ _) fun _ => .bind hmips fun _ => hfresh
  · exact .pure _

theorem getOrCreate_spares (cache : Cache) (mode : Mode) :
    Moves (SparesUnits unit) (cache.getOrCreate mode : StateM (Store State) _) := by
  unfold Cache.getOrCreate
  split
  · exact .pure _
  · refine .bind (fun s => ?_) fun reply => ?_
    · exact ⟨rfl, rfl, rfl, Nat.le_succ _, fun _ => rfl, fun _ _ => rfl⟩
    · split <;> exact .pure _

/-- A sampler is bound by its texture, unless its target has been freed. -/
theorem bind_spares (unit : UInt32) (sampler : Sampler) (cache : Cache) (s : Store State) :
    SparesUnits unit s ((sampler.bind unit cache : StateM (Store State) _) s).2 ∧
      ((sampler.bind unit cache : StateM (Store State) _) s).2.device.units.get? unit =
        s.boundTexture? (some (.sampler sampler)) := by
  have hbound : s.boundTexture? (some (.sampler sampler)) =
      ((s.target? sampler.texture.key).filter fun t => !t.freed).map fun _ =>
        sampler.texture.name := by
    show (if (s.target? sampler.texture.key).any fun t => !t.freed then _ else none) = _
    cases s.target? sampler.texture.key with
    | none => rfl
    | some t => cases hfreed : t.freed <;> simp [Option.filter, hfreed]
  have hbind (texture object : Option Name) {s₁ : Store State} (hs₁ : SparesUnits unit s s₁) :
      SparesUnits unit s (perform (.bindTextureUnit unit sampler.texture.bindingPoint texture
          object) s₁).2 ∧
        (perform (.bindTextureUnit unit sampler.texture.bindingPoint texture
          object) s₁).2.device.units.get? unit = texture :=
    ⟨IsTrans.trans s s₁ _ hs₁ (bindTextureUnit_spares _ _ _ s₁), get?_bindTextureUnit ..⟩
  unfold Sampler.bind
  rw [run_get_bind, hbound]
  cases hlook : (s.target? sampler.texture.key).filter fun t => !t.freed with
  | none => exact hbind none none (refl (r := SparesUnits unit) s)
  | some t =>
    let s₁ := ((sampler.refreshMips t.mipsStale unit : StateM (Store State) Unit) s).2
    let r₂ := (cache.getOrCreate sampler.mode : StateM (Store State) _) s₁
    have hmoved : SparesUnits unit s r₂.2 := IsTrans.trans (r := SparesUnits unit) s s₁ _
      (refreshMips_spares sampler t.mipsStale s) (getOrCreate_spares cache sampler.mode s₁)
    exact hbind (some sampler.texture.name) r₂.1.1 hmoved

/-! ### Writing the values of a draw -/

/-- Some setters of one program have written their values. -/
structure Uploaded (id : Name) (values : Uniform.Values) (setters : List Setter)
    (s s' : Store State) : Prop where
  program : s'.device.programs.get? id = (s.device.programs.get? id).map fun p =>
    { p with values := setters.foldl (Setter.store values) p.values }
  others : ∀ id', id' ≠ id → s'.device.programs.get? id' = s.device.programs.get? id'
  currentProgram : s'.device.currentProgram = s.device.currentProgram
  vertexArrays : s'.device.vertexArrays = s.device.vertexArrays
  lastName : s.device.lastName ≤ s'.device.lastName
  freed : ∀ key, (s'.target? key).map Target.freed = (s.target? key).map Target.freed
  units : ∀ unit, (∀ setter ∈ setters, setter.unit? ≠ some unit) →
    s'.device.units.get? unit = s.device.units.get? unit

theorem Uploaded.refl (id : Name) (values : Uniform.Values) (s : Store State) :
    Uploaded id values [] s s where
  program := by cases s.device.programs.get? id <;> rfl
  others _ _ := rfl
  currentProgram := rfl
  vertexArrays := rfl
  lastName := Nat.le_refl _
  freed _ := rfl
  units _ _ := rfl

theorem Uploaded.trans {first rest : List Setter} (h : Uploaded id values first s s')
    (h' : Uploaded id values rest s' s'') : Uploaded id values (first ++ rest) s s'' where
  program := by
    rw [h'.program, h.program, Option.map_map]
    simp only [List.foldl_append, Function.comp_def]
  others id' hne := (h'.others id' hne).trans (h.others id' hne)
  currentProgram := h'.currentProgram.trans h.currentProgram
  vertexArrays := h'.vertexArrays.trans h.vertexArrays
  lastName := Nat.le_trans h.lastName h'.lastName
  freed key := (h'.freed key).trans (h.freed key)
  units unit hunit := by
    rw [List.forall_mem_append] at hunit
    exact (h'.units unit hunit.2).trans (h.units unit hunit.1)

/-- The same targets are there to be read. -/
theorem Uploaded.boundTexture?_eq {setters : List Setter} (h : Uploaded id values setters s s')
    (value : Option Uniform.Value) : s'.boundTexture? value = s.boundTexture? value := by
  have hfreed (t : Option Target) : (t.any fun t => !t.freed) = (t.map Target.freed).any (!·) := by
    cases t <;> rfl
  have hany (key : TargetKey) :
      ((s'.target? key).any fun t => !t.freed) = (s.target? key).any fun t => !t.freed := by
    rw [hfreed, h.freed, ← hfreed]
  cases value with
  | none => rfl
  | some value =>
    cases value with
    | sampler sampler => simp only [boundTexture?, hany]
    | _ => rfl

/-- The setter of a sampler binds its unit, to nothing if the value is not one of a sampler. -/
theorem apply_sampler_uploaded (name : String) (unit target : UInt32)
    (values : Uniform.Values) (value : Option Uniform.Value) (cache : Cache) (s : Store State) :
    Uploaded id values [⟨name, .named id name, .sampler unit target⟩] s
        ((Setter.apply ⟨name, .named id name, .sampler unit target⟩ value cache :
          StateM (Store State) _) s).2 ∧
      ((Setter.apply ⟨name, .named id name, .sampler unit target⟩ value cache :
        StateM (Store State) _) s).2.device.units.get? unit = s.boundTexture? value := by
  have hspares {s' : Store State} (h : SparesUnits unit s s') :
      Uploaded id values [⟨name, .named id name, .sampler unit target⟩] s s' := by
    refine ⟨?_, fun _ _ => by rw [h.programs], h.currentProgram, h.vertexArrays, h.lastName,
      h.freed, fun unit' hunit => h.units unit' fun e => ?_⟩
    · rw [h.programs]
      cases s.device.programs.get? id <;> rfl
    · exact hunit _ (List.mem_singleton_self _) (congrArg some e.symm)
  have hempty := hspares (bindTextureUnit_spares target none none s)
  have hbound : (perform (.bindTextureUnit unit target none none) s).2.device.units.get? unit =
      none := get?_bindTextureUnit target none none s
  unfold Setter.apply
  cases value with
  | none => exact ⟨hempty, hbound⟩
  | some value =>
    cases value with
    | sampler sampler =>
      obtain ⟨hmoved, hunit⟩ := bind_spares unit sampler cache s
      exact ⟨hspares hmoved, hunit⟩
    | _ => exact ⟨hempty, hbound⟩

/-- The setter of a value writes it down if it has the kind of the uniform. -/
theorem apply_value_uploaded (name : String) (kind : UniformKind) {values : Uniform.Values}
    {value : Option Uniform.Value} (hvalue : values.get? name = value) (cache : Cache)
    (s : Store State) :
    Uploaded id values [⟨name, .named id name, .value kind⟩] s
      ((Setter.apply ⟨name, .named id name, .value kind⟩ value cache :
        StateM (Store State) _) s).2 := by
  let setter : Setter := ⟨name, .named id name, .value kind⟩
  have hrevalued {d : State}
      (h : State.Revalued id (fun held => setter.store values held) s.device d) :
      Uploaded id values [setter] s { s with device := d } := by
    obtain ⟨programs, log, hd⟩ := h.device
    rw [hd] at h ⊢
    exact ⟨h.program, h.others, rfl, rfl, Nat.le_refl _, fun _ => rfl, fun _ _ => rfl⟩
  have happly : ((setter.apply value cache : StateM (Store State) _) s).2 =
      match value.bind (kind.write? (.named id name)) with
      | some command => (perform command s).2
      | none => s := by
    unfold Setter.apply
    dsimp only [setter]
    cases value.bind (kind.write? (.named id name)) <;> rfl
  rw [happly]
  cases hwrite : value.bind (kind.write? (.named id name)) with
  | none =>
    -- A value of another kind is not written, and the uniform holds what it held.
    have hnone : value.bind kind.holds? = none := by
      cases value with
      | none => rfl
      | some value => exact UniformKind.holds?_eq_none hwrite
    have hstore : (fun held => setter.store values held) = fun held => held := by
      funext held
      simp only [setter, Setter.store, Setter.hold, Setter.written?, hvalue, hnone]
    exact hrevalued (hstore ▸ State.Revalued.refl id s.device)
  | some command =>
    obtain ⟨value', rfl, hcommand⟩ := Option.bind_eq_some_iff.1 hwrite
    obtain ⟨new, hnew, hperform⟩ := UniformKind.perform_write? hcommand s.device
    have hstore : (fun held => setter.store values held) = fun held => held.insert name new := by
      funext held
      simp only [setter, Setter.store, Setter.hold, Setter.written?, hvalue, Option.bind_some,
        hnew]
    have hset := State.revalued_setUniform s.device id name new
    rw [← hperform, ← hstore] at hset
    exact hrevalued hset

/-- One setter has written its value, and if it is one of a sampler, its unit is bound. -/
theorem apply_uploaded {setter : Setter} (hlocation : setter.location = .named id setter.name)
    (values : Uniform.Values) (cache : Cache) (s : Store State) :
    Uploaded id values [setter] s
        ((setter.apply (values.get? setter.name) cache : StateM (Store State) _) s).2 ∧
      ∀ unit, setter.unit? = some unit →
        ((setter.apply (values.get? setter.name) cache : StateM (Store State) _)
          s).2.device.units.get? unit = s.boundTexture? (values.get? setter.name) := by
  obtain ⟨name, location, slot⟩ := setter
  obtain rfl : location = .named id name := hlocation
  cases slot with
  | sampler unit target =>
    refine (apply_sampler_uploaded name unit target values (values.get? name) cache s).imp_right
      fun hunit unit' hunit' => ?_
    cases hunit'
    exact hunit
  | value kind => exact ⟨apply_value_uploaded name kind rfl cache s, nofun⟩

/-- Setters write their values one after the other. -/
theorem applyAll_uploaded {setters : List Setter}
    (hlocations : ∀ setter ∈ setters, setter.location = .named id setter.name)
    (values : Uniform.Values) (cache : Cache) (s : Store State) :
    Uploaded id values setters s
      ((setters.foldlM (fun cache setter => setter.apply (values.get? setter.name) cache) cache :
        StateM (Store State) _) s).2 := by
  induction setters generalizing s cache with
  | nil => exact .refl id values s
  | cons setter setters ih =>
    obtain ⟨hown, hrest⟩ := List.forall_mem_cons.1 hlocations
    obtain ⟨hfirst, -⟩ := apply_uploaded hown values cache s
    rw [List.foldlM_cons]
    exact hfirst.trans (ih hrest _ _)

/-- Each unit is left as its own setter wants it, if no two setters have the same. -/
theorem applyUniforms_unit {program : Shader.Program}
    (hlocations : ∀ setter ∈ program.setters, setter.location = .named id setter.name)
    (hdistinct : (program.setters.filterMap Setter.unit?).Nodup)
    (values : Uniform.Values) (cache : Cache) (s : Store State) {setter : Setter}
    (hsetter : setter ∈ program.setters) (hunit : setter.unit? = some unit) :
    ((program.applyUniforms values cache : StateM (Store State) _) s).2.device.units.get? unit =
      s.boundTexture? (values.get? setter.name) := by
  obtain ⟨first, last, hsplit⟩ := List.append_of_mem hsetter
  -- No later setter has the unit, so it stays as this one leaves it.
  have hlater : ∀ later ∈ last, later.unit? ≠ some unit := by
    rw [hsplit, List.filterMap_append, List.filterMap_cons_some hunit] at hdistinct
    intro later hmem hsame
    have hlast := (List.nodup_append.1 hdistinct).2.1
    exact (List.nodup_cons.1 hlast).1 (List.mem_filterMap.2 ⟨later, hmem, hsame⟩)
  rw [hsplit, List.forall_mem_append, List.forall_mem_cons] at hlocations
  obtain ⟨hfirst, hown, hlast⟩ := hlocations
  let write (setters : List Setter) (cache : Cache) : StateM (Store State) Cache :=
    setters.foldlM (fun cache setter => setter.apply (values.get? setter.name) cache) cache
  let r₁ := write first cache s
  let r₂ := (setter.apply (values.get? setter.name) r₁.1 : StateM (Store State) _) r₁.2
  have hwrite : ((program.applyUniforms values cache : StateM (Store State) _) s) =
      write last r₂.1 r₂.2 := by
    unfold Program.applyUniforms
    rw [hsplit, List.foldlM_append]
    simp only [List.foldlM_cons]
    rfl
  rw [hwrite, (applyAll_uploaded hlast values r₂.1 r₂.2).units unit hlater,
    (apply_uploaded hown values r₁.1 r₁.2).2 unit hunit]
  exact (applyAll_uploaded hfirst values cache s).boundTexture?_eq _

end Store

end DrawPass
