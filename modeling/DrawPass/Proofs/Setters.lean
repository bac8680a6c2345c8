/-
DrawPass/Proofs/Setters.lean

Which setters a program gets when it is linked, and what linking leaves on the device.

Linking looks at the uniforms that the device reports, one after the other.  Each of a known
type gets a setter, and a sampler uniform is given the next texture unit, which it holds from
then on.  `settersFrom` says this without a device: it lists the setters for the reported
uniforms from a unit on, and `assigned` gives the values that the uniforms hold afterwards.

Linking adds one program under a number that has not been given out before, and leaves all
others alone (`run_link_ok`).
-/
import DrawPass.Proofs.OrderlyDraws
import Mathlib.Data.List.Nodup

namespace DrawPass

open Gl Shader Software

namespace Shader

/-- Where the value of a uniform of a kind goes if the next unit is the given one. -/
def UniformKind.slot (unit : UInt32) : UniformKind → Slot
  | .sampler target => .sampler unit target
  | kind => .value kind

/-- The unit after a uniform of a kind. -/
def UniformKind.next (unit : UInt32) : UniformKind → UInt32
  | .sampler _ => unit + 1
  | _ => unit

/-- The setters for reported uniforms, if the program has places for some names and the next unit
is the given one. -/
def settersFrom (program : Name) (known : String → Bool) (unit : UInt32) :
    List ActiveUniform → List Setter
  | [] => []
  | u :: us =>
    match UniformKind.ofType? u.type with
    | none => settersFrom program known unit us
    | some kind =>
      let name := leadingIdentifier u.name
      if known name then
        ⟨name, .named program name, kind.slot unit⟩ :: settersFrom program known (kind.next unit) us
      else settersFrom program known unit us

/-- Whether a program with some uniforms has a place for a name. -/
def hasPlace (uniforms : List ActiveUniform) (name : String) : Bool :=
  uniforms.any fun u => baseName u.name == name

/-- The setters of a program with some uniforms. -/
def settersOf (program : Name) (uniforms : List ActiveUniform) : List Setter :=
  settersFrom program (hasPlace uniforms) 0 uniforms

namespace Setter

/-- The texture unit of a setter, if it is one of a sampler. -/
def unit? (s : Setter) : Option UInt32 :=
  match s.slot with
  | .sampler unit _ => some unit
  | .value _ => none

/-- The values that uniforms hold after a setter has written one, or none. -/
def hold (written? : Setter → Option UniformValue) (held : Table String UniformValue)
    (s : Setter) : Table String UniformValue :=
  match written? s with
  | some value => held.insert s.name value
  | none => held

variable {written? : Setter → Option UniformValue} {setters : List Setter} {name : String}

/-- A uniform that no setter writes keeps what it holds. -/
theorem get?_foldl_hold_of_none (held : Table String UniformValue)
    (h : ∀ s ∈ setters, s.name = name → written? s = none) :
    (setters.foldl (hold written?) held).get? name = held.get? name := by
  induction setters generalizing held with
  | nil => rfl
  | cons s setters ih =>
    obtain ⟨hown, hrest⟩ := List.forall_mem_cons.1 h
    rw [List.foldl_cons, ih _ hrest]
    unfold hold
    split
    · rename_i value hvalue
      rw [Table.get?_insert, if_neg]
      intro hname
      rw [hown hname] at hvalue
      cases hvalue
    · rfl

/-- A uniform holds what every setter of its name writes that writes anything. -/
theorem get?_foldl_hold_of_some (held : Table String UniformValue) {value : UniformValue}
    (h : ∀ s ∈ setters, s.name = name → written? s = none ∨ written? s = some value)
    (hthere : ∃ s ∈ setters, s.name = name ∧ written? s = some value) :
    (setters.foldl (hold written?) held).get? name = some value := by
  induction setters generalizing held with
  | nil =>
    obtain ⟨s, hs, -⟩ := hthere
    cases hs
  | cons s setters ih =>
    obtain ⟨-, hrest⟩ := List.forall_mem_cons.1 h
    rw [List.foldl_cons]
    by_cases hlater : ∃ s ∈ setters, s.name = name ∧ written? s = some value
    · exact ih _ hrest hlater
    · have hnone : ∀ s ∈ setters, s.name = name → written? s = none := fun s hs hname =>
        (hrest s hs hname).resolve_right fun hwritten => hlater ⟨s, hs, hname, hwritten⟩
      obtain ⟨s', hs', hname, hwritten⟩ := hthere
      rcases List.mem_cons.1 hs' with rfl | hs'
      · rw [get?_foldl_hold_of_none _ hnone]
        simp only [hold, hwritten, Table.get?_insert, hname, if_true]
      · exact absurd ⟨s', hs', hname, hwritten⟩ hlater

end Setter

/-- The values that uniforms hold once every sampler has its unit. -/
def assigned (held : Table String UniformValue) (setters : List Setter) :
    Table String UniformValue :=
  setters.foldl (Setter.hold fun s => s.unit?.map fun unit => .ints [unit.toInt32]) held

/-- A sampler holds its unit if no other setter has its name. -/
theorem get?_assigned (held : Table String UniformValue) {setters : List Setter} {s : Setter}
    {unit : UInt32} (hs : s ∈ setters) (honly : ∀ other ∈ setters, other.name = s.name → other = s)
    (hunit : s.unit? = some unit) :
    (assigned held setters).get? s.name = some (.ints [unit.toInt32]) := by
  have hwritten : s.unit?.map (fun unit => UniformValue.ints [unit.toInt32]) =
      some (.ints [unit.toInt32]) := by
    rw [hunit, Option.map_some]
  exact Setter.get?_foldl_hold_of_some held
    (fun other hother hname => .inr (honly other hother hname ▸ hwritten)) ⟨s, hs, rfl, hwritten⟩

/-- Every setter is made for a uniform of a known type. -/
theorem exists_of_mem_settersFrom {program : Name} {known : String → Bool} {unit : UInt32}
    {uniforms : List ActiveUniform} {s : Setter}
    (h : s ∈ settersFrom program known unit uniforms) :
    ∃ u ∈ uniforms, ∃ kind unit', UniformKind.ofType? u.type = some kind ∧
      s = ⟨leadingIdentifier u.name, .named program (leadingIdentifier u.name),
        kind.slot unit'⟩ := by
  induction uniforms generalizing unit with
  | nil => cases h
  | cons u us ih =>
    have hlater {unit : UInt32} (h : s ∈ settersFrom program known unit us) :
        ∃ u' ∈ u :: us, ∃ kind unit', UniformKind.ofType? u'.type = some kind ∧
          s = ⟨leadingIdentifier u'.name, .named program (leadingIdentifier u'.name),
            kind.slot unit'⟩ := by
      obtain ⟨u', hu', hmade⟩ := ih h
      exact ⟨u', List.mem_cons_of_mem u hu', hmade⟩
    unfold settersFrom at h
    split at h
    · exact hlater h
    · rename_i kind hkind
      dsimp only at h
      split at h
      · rcases List.mem_cons.1 h with rfl | h
        · exact ⟨u, List.mem_cons_self, kind, unit, hkind, rfl⟩
        · exact hlater h
      · exact hlater h

/-- Every setter writes to the uniform of its own name. -/
theorem location_of_mem_settersFrom {program : Name} {known : String → Bool} {unit : UInt32}
    {uniforms : List ActiveUniform} {s : Setter}
    (h : s ∈ settersFrom program known unit uniforms) : s.location = .named program s.name := by
  obtain ⟨u, -, kind, unit', -, rfl⟩ := exists_of_mem_settersFrom h
  rfl

end Shader

/-! ### Giving samplers their units -/

namespace Software.State

/-- One program may hold other values, and nothing else that is kept has changed. -/
structure Revalued (id : Name) (f : Table String UniformValue → Table String UniformValue)
    (d d' : State) : Prop where
  device : ∃ programs log, d' = { d with programs, log }
  program : d'.programs.get? id = (d.programs.get? id).map fun p => { p with values := f p.values }
  others : ∀ id', id' ≠ id → d'.programs.get? id' = d.programs.get? id'

variable {id : Name} {f g : Table String UniformValue → Table String UniformValue}
  {d d' d'' : State}

theorem Revalued.refl (id : Name) (d : State) : Revalued id (fun values => values) d d where
  device := ⟨_, _, rfl⟩
  program := by cases d.programs.get? id <;> rfl
  others _ _ := rfl

theorem Revalued.trans (h : Revalued id f d d') (h' : Revalued id g d' d'') :
    Revalued id (fun values => g (f values)) d d'' where
  device := by
    obtain ⟨_, _, rfl⟩ := h.device
    obtain ⟨programs, log, rfl⟩ := h'.device
    exact ⟨programs, log, rfl⟩
  program := by
    rw [h'.program, h.program]
    cases d.programs.get? id <;> rfl
  others id' hne := (h'.others id' hne).trans (h.others id' hne)

theorem revalued_setUniform (d : State) (id : Name) (name : String) (value : UniformValue) :
    Revalued id (fun values => values.insert name value) d
      (d.setUniform (.named id name) value) where
  device := ⟨_, _, rfl⟩
  program := (Table.get?_modify ..).trans (if_pos rfl)
  others _ hne := (Table.get?_modify ..).trans (if_neg (Ne.symm hne))

/-- The uniforms of a program stay the same, whatever they hold. -/
theorem Revalued.uniforms (h : Revalued id f d d') :
    (d'.programs.get? id).map Program.uniforms = (d.programs.get? id).map Program.uniforms := by
  rw [h.program]
  cases d.programs.get? id <;> rfl

end Software.State

namespace Renderer

variable {r r' : Renderer State} {id : Name}

/-- The renderer with another device under its store. -/
def withDevice (r : Renderer State) (d : State) : Renderer State :=
  { r with store := { r.store with device := d } }

/-- The device has a place for the names that the program's uniforms have. -/
theorem run_uniformLocation {p : Software.Program} (hp : r.store.device.programs.get? id = some p)
    (name : String) : (perform (.uniformLocation id name) : StateM (Renderer State) _) r =
      (if hasPlace p.uniforms name then some (.named id name) else none, r) := by
  show ((if ((r.store.device.programs.get? id).map fun p =>
    p.uniforms.any fun u => baseName u.name == name).getD false then some (Location.named id name)
      else none), r) = _
  rw [hp]
  rfl

/-- One reported uniform makes at most one setter. -/
theorem run_addSetter {p : Software.Program} (hp : r.store.device.programs.get? id = some p)
    (setters : List Setter) (unit : UInt32) (u : ActiveUniform) :
    ∃ d' new unit', (Program.addSetter id setters unit u : StateM (Renderer State) _) r =
        ((setters ++ new, unit'), r.withDevice d') ∧
      State.Revalued id (fun values => assigned values new) r.store.device d' ∧
      ∀ us, settersFrom id (hasPlace p.uniforms) unit (u :: us) =
        new ++ settersFrom id (hasPlace p.uniforms) unit' us := by
  unfold Program.addSetter
  cases hkind : UniformKind.ofType? u.type with
  | none =>
    refine ⟨r.store.device, [], unit, ?_, .refl id _, fun us => ?_⟩
    · rw [List.append_nil]
      rfl
    · rw [settersFrom, hkind, List.nil_append]
  | some kind =>
    dsimp only
    rw [run_bind_eq (run_uniformLocation hp _)]
    -- A name that the device does not know makes no setter and takes no unit.
    cases hplace : hasPlace p.uniforms (leadingIdentifier u.name) with
    | false =>
      refine ⟨r.store.device, [], unit, ?_, .refl id _, fun us => ?_⟩
      · rw [List.append_nil]
        rfl
      · simp only [settersFrom, hkind, hplace, List.nil_append]
        rfl
    | true =>
      have hnew (us : List ActiveUniform) : settersFrom id (hasPlace p.uniforms) unit (u :: us) =
          [⟨leadingIdentifier u.name, .named id (leadingIdentifier u.name), kind.slot unit⟩] ++
            settersFrom id (hasPlace p.uniforms) (kind.next unit) us := by
        simp only [settersFrom, hkind, hplace, if_true, List.singleton_append]
      cases kind with
      | sampler target =>
        exact ⟨_, _, _, rfl, State.revalued_setUniform r.store.device id _ _, hnew⟩
      | _ => exact ⟨r.store.device, _, _, rfl, .refl id _, hnew⟩

/-- The reported uniforms make their setters one after the other. -/
theorem run_addSetters {p : Software.Program} (uniforms : List ActiveUniform)
    (hp : (r.store.device.programs.get? id).map Software.Program.uniforms = some p.uniforms)
    (setters : List Setter) (unit : UInt32) :
    ∃ d' unit', (uniforms.foldlM (fun (setters, unit) u => Program.addSetter id setters unit u)
        (setters, unit) : StateM (Renderer State) _) r =
        ((setters ++ settersFrom id (hasPlace p.uniforms) unit uniforms, unit'),
          r.withDevice d') ∧
      State.Revalued id (fun values =>
        assigned values (settersFrom id (hasPlace p.uniforms) unit uniforms)) r.store.device d' := by
  induction uniforms generalizing r setters unit with
  | nil =>
    refine ⟨r.store.device, unit, ?_, .refl id _⟩
    rw [settersFrom, List.append_nil]
    rfl
  | cons u us ih =>
    obtain ⟨p', hp', heq⟩ := Option.map_eq_some_iff.1 hp
    obtain ⟨d₁, new, unit₁, hrun, hvalued, hsetters⟩ := run_addSetter hp' setters unit u
    rw [heq] at hsetters
    have hp₁ : ((r.withDevice d₁).store.device.programs.get? id).map Software.Program.uniforms =
        some p.uniforms := hvalued.uniforms.trans hp
    obtain ⟨d₂, unit₂, hrun₂, hvalued₂⟩ := ih hp₁ (setters ++ new) unit₁
    refine ⟨d₂, unit₂, ?_, ?_⟩
    · rw [List.foldlM_cons, run_bind_eq hrun]
      refine hrun₂.trans ?_
      rw [hsetters, List.append_assoc]
      rfl
    · have hboth := hvalued.trans hvalued₂
      rw [hsetters]
      unfold assigned at hboth ⊢
      simpa only [List.foldl_append] using hboth

/-- A program is looked at while it is in use, and none is in use afterwards. -/
theorem run_introspect {p : Software.Program} (hp : r.store.device.programs.get? id = some p) :
    ∃ d', (Program.introspect id : StateM (Renderer State) _) r =
        (settersOf id p.uniforms, r.withDevice d') ∧
      State.Revalued id (fun values => assigned values (settersOf id p.uniforms))
        { r.store.device with currentProgram := none } d' := by
  let r₁ := (perform (.useProgram (some id)) r).2
  have hp₁ : (r₁.store.device.programs.get? id).map Software.Program.uniforms = some p.uniforms :=
    congrArg (Option.map Software.Program.uniforms) hp
  have hreported : (perform (.activeUniforms id) : StateM (Renderer State) _) r₁ =
      (p.uniforms, r₁) := by
    show (((r₁.store.device.programs.get? id).map Software.Program.uniforms).getD [], r₁) = _
    rw [hp₁, Option.getD_some]
  obtain ⟨d₂, unit, hrun, hvalued⟩ := run_addSetters p.uniforms hp₁ [] 0
  refine ⟨(d₂.perform (.useProgram none)).2, ?_, ?_, hvalued.program, hvalued.others⟩
  · unfold Program.introspect
    have huse : (perform (.useProgram (some id)) : StateM (Renderer State) Unit) r = ((), r₁) := rfl
    rw [run_bind_eq huse, run_bind_eq hreported, run_bind_eq hrun]
    rfl
  · obtain ⟨programs, log, rfl⟩ := hvalued.device
    exact ⟨programs, _, rfl⟩

/-! ### Linking -/

/-- A stage that compiles is taken in under the next number; one that does not is not taken in. -/
theorem run_compile (stage : Stage) (source : String) (r : Renderer State) :
    (Program.compile stage source : Attempt DrawError (Renderer State) Name).run r =
      match State.compileError? source with
      | some log =>
        (.error (.shaderCompile stage (String.ofList (Text.numberLines source.toList)) log),
          r.withDevice (r.store.device.record (.compileShader stage)))
      | none => (.ok (r.store.device.lastName + 1), r.withDevice { r.store.device with
          lastName := r.store.device.lastName + 1
          shaders := r.store.device.shaders.insert (r.store.device.lastName + 1) (stage, source)
          log := .compileShader stage :: r.store.device.log }) := by
  have hperform : (perform (.compileShader stage source) : StateM (Renderer State) _) r =
      ((r.store.device.compileShader stage source).1,
        r.withDevice (r.store.device.compileShader stage source).2) := rfl
  unfold Program.compile
  rw [Attempt.run_create, hperform]
  unfold State.compileShader
  cases State.compileError? source <;> rfl

theorem run_compile_ok {stage : Stage} {source : String} {shader : Name}
    (h : (Program.compile stage source : Attempt DrawError (Renderer State) Name).run r =
      (.ok shader, r')) :
    shader = r.store.device.lastName + 1 ∧ ∃ log, r' = r.withDevice { r.store.device with
      lastName := r.store.device.lastName + 1
      shaders := r.store.device.shaders.insert shader (stage, source)
      log } := by
  rw [run_compile] at h
  cases herror : State.compileError? source <;> rw [herror] at h <;> cases h
  exact ⟨rfl, _, rfl⟩

/-- Two stages that have been compiled one after the other are both on the device. -/
theorem run_compile_both {vertexSource fragmentSource : String} {vertex fragment : Name}
    {r₁ r₂ : Renderer State}
    (hvertex : (Program.compile .vertex vertexSource :
      Attempt DrawError (Renderer State) Name).run r = (.ok vertex, r₁))
    (hfragment : (Program.compile .fragment fragmentSource :
      Attempt DrawError (Renderer State) Name).run r₁ = (.ok fragment, r₂)) :
    r₂.store.device.shaders.get? vertex = some (.vertex, vertexSource) ∧
      (r₂.store.device.shaders.erase vertex).get? fragment =
        some (.fragment, fragmentSource) := by
  obtain ⟨hvertexName, log₁, hr₁⟩ := run_compile_ok hvertex
  obtain ⟨hfragmentName, log₂, hr₂⟩ := run_compile_ok hfragment
  have hshaders : r₂.store.device.shaders =
      (r.store.device.shaders.insert vertex (.vertex, vertexSource)).insert fragment
        (.fragment, fragmentSource) := by
    rw [hr₂, hr₁]
    rfl
  have hne : vertex ≠ fragment := by
    rw [hvertexName, hfragmentName, hr₁]
    exact Nat.ne_of_lt (Nat.lt_succ_self _)
  constructor
  · rw [hshaders, Table.get?_insert, if_neg hne.symm, Table.get?_insert, if_pos rfl]
  · rw [hshaders, Table.get?_erase, if_neg hne.symm, Table.get?_insert, if_pos rfl]

/-- A program that has been linked has the next number and the uniforms of its sources, and holds
no values. -/
theorem run_linkProgram_ok {vertex fragment name : Name} {v f : Stage × String}
    (hvertex : r.store.device.shaders.get? vertex = some v)
    (hfragment : (r.store.device.shaders.erase vertex).get? fragment = some f)
    (h : (Attempt.create .programLink (.linkProgram vertex fragment) :
      Attempt DrawError (Renderer State) Name).run r = (.ok name, r')) :
    name = r.store.device.lastName + 1 ∧ ∃ shaders log, r' = r.withDevice { r.store.device with
      lastName := name
      programs := r.store.device.programs.insert name
        { vertexSource := v.2, fragmentSource := f.2, uniforms := scanUniforms [v.2, f.2] }
      shaders
      log } := by
  rw [Attempt.run_create] at h
  obtain ⟨hname, hstate⟩ := Prod.mk.inj h
  have hreply : (r.store.device.linkProgram vertex fragment).1.mapError DrawError.programLink =
      .ok name := hname
  have hdevice : r.withDevice (r.store.device.linkProgram vertex fragment).2 = r' := hstate
  cases hfail : r.store.device.failNextLink with
  | some log =>
    have hrefused : (r.store.device.linkProgram vertex fragment).1 = .error log := by
      simp only [State.linkProgram, hfail]
    rw [hrefused] at hreply
    cases hreply
  | none =>
    have hlinked : r.store.device.linkProgram vertex fragment = (.ok (r.store.device.lastName + 1),
        { r.store.device with
          lastName := r.store.device.lastName + 1
          programs := r.store.device.programs.insert (r.store.device.lastName + 1)
            { vertexSource := v.2, fragmentSource := f.2, uniforms := scanUniforms [v.2, f.2] }
          shaders := (r.store.device.shaders.erase vertex).erase fragment
          log := .linkProgram (r.store.device.lastName + 1) :: r.store.device.log }) := by
      simp only [State.linkProgram, hfail, hvertex, hfragment, State.fresh, State.record]
    rw [hlinked] at hreply hdevice
    cases hreply
    exact ⟨rfl, _, _, hdevice.symm⟩

/-- A program has been linked from sources: the device has it under a new number, with every
sampler at its unit. -/
structure Links (sources : Sources) (program : Shader.Program) (d d' : State) : Prop where
  device : ∃ programs shaders lastName log, d.lastName < lastName ∧
    d' = { d with programs, shaders, lastName, log, currentProgram := none }
  fresh : d.lastName < program.name
  numbered : program.name ≤ d'.lastName
  setters : program.setters =
    settersOf program.name (scanUniforms [sources.vertex, sources.fragment])
  linked : d'.programs.get? program.name = some
    { vertexSource := sources.vertex
      fragmentSource := sources.fragment
      uniforms := scanUniforms [sources.vertex, sources.fragment]
      values := assigned .empty program.setters }
  others : ∀ id, id ≠ program.name → d'.programs.get? id = d.programs.get? id

theorem run_link_ok {sources : Sources} {program : Shader.Program}
    (h : (Program.link sources : Attempt DrawError (Renderer State) Shader.Program).run r =
      (.ok program, r')) :
    ∃ d', r' = r.withDevice d' ∧ Links sources program r.store.device d' := by
  unfold Program.link at h
  obtain ⟨vertex, r₁, hvertex, h⟩ := Attempt.run_bind_eq_ok.1 h
  obtain ⟨fragment, r₂, hfragment, h⟩ := Attempt.run_bind_eq_ok.1 h
  obtain ⟨name, r₃, hlink, h⟩ := Attempt.run_bind_eq_ok.1 h
  obtain ⟨setters, r₄, hintrospect, h⟩ := Attempt.run_bind_eq_ok.1 h
  cases h
  obtain ⟨-, log₁, hr₁⟩ := run_compile_ok hvertex
  obtain ⟨-, log₂, hr₂⟩ := run_compile_ok hfragment
  obtain ⟨hhasVertex, hhasFragment⟩ := run_compile_both hvertex hfragment
  obtain ⟨hname, shaders, log₃, hr₃⟩ := run_linkProgram_ok hhasVertex hhasFragment hlink
  have hlinked : r₃.store.device.programs.get? name = some
      { vertexSource := sources.vertex
        fragmentSource := sources.fragment
        uniforms := scanUniforms [sources.vertex, sources.fragment] } := by
    rw [hr₃]
    exact (Table.get?_insert ..).trans (if_pos rfl)
  -- Looking at the program binds it and gives every sampler its unit, and nothing else.
  obtain ⟨d₄, hrun, hvalued⟩ := run_introspect hlinked
  cases (Attempt.run_lift_ok hrun).symm.trans hintrospect
  obtain ⟨programs, log₄, hd₄⟩ := hvalued.device
  have hfresh : r.store.device.lastName < name := by
    rw [hname, hr₂, hr₁]
    exact Nat.lt_of_lt_of_le (Nat.lt_succ_self _) (Nat.le_add_right _ 2)
  have hlast : r₃.store.device.lastName = name := by
    rw [hr₃]
    rfl
  refine ⟨d₄, ?_, ⟨programs, shaders, name, log₄, hfresh, ?_⟩, hfresh, ?_, rfl, ?_, fun id hne => ?_⟩
  · rw [hr₃, hr₂, hr₁]
    rfl
  · rw [hd₄, hr₃, hr₂, hr₁]
    rfl
  · rw [hd₄]
    exact Nat.le_of_eq hlast.symm
  · rw [hvalued.program]
    exact congrArg (Option.map _) hlinked
  · rw [hvalued.others id hne, hr₃]
    refine (Table.get?_insert ..).trans ((if_neg (Ne.symm hne)).trans ?_)
    rw [hr₂, hr₁]
    rfl

end Renderer

end DrawPass
