/-
DrawPass/Proofs/Programs.lean

What a renderer remembers of programs.

A program is linked by the first draw that comes to its snippets, and from then on every draw
with these snippets uses it, until a reset.  The sources depend on the uniforms of the draw as
well as on the snippets, so they are those of the draw that linked the program, its founder
(`Act.foundersAll`).

`Renderer.Remembers` says so of a renderer: the programs in its cache are those that have a
founder; each of them is on the device, from the sources that assembling the founder's snippets
and uniforms gives, with a setter for each of its uniforms and every sampler at its unit; and
no other program is on the device.  Every act keeps it.
-/
import DrawPass.Proofs.Strip
import DrawPass.Proofs.Upload
import DrawPass.Proofs.UseAfterDelete

namespace DrawPass

open Gl DrawPass.Geometry Shader Software

/-! ### Assembling from memory -/

namespace Shader.Assembler

/-- What is remembered of snippets is what expanding them gives. -/
def Sound (a : Assembler) : Prop :=
  ∀ stage code text, a.expanded.get? (stage, code) = some text →
    text = String.ofList (Shader.expand code.toList stage)

/-- The sources that an assembler gives which remembers nothing. -/
def fresh (header : String) (key : ProgramKey) (uniforms : Uniform.Values) : Sources :=
  (assemble { header } key.includes key.vertex key.fragment uniforms).1

variable {a : Assembler}

/-- A snippet is expanded the same way from memory as it was at first. -/
theorem Sound.expand (h : a.Sound) (code : String) (stage : Stage) :
    (a.expand code stage).1 = String.ofList (Shader.expand code.toList stage) ∧
      (a.expand code stage).2.Sound ∧ (a.expand code stage).2.header = a.header := by
  unfold Assembler.expand
  cases hcode : a.expanded.get? (stage, code) with
  | some text => exact ⟨h stage code text hcode, h, rfl⟩
  | none =>
    refine ⟨rfl, fun stage' code' text htext => ?_, rfl⟩
    rw [Table.get?_insert] at htext
    split at htext
    · rename_i hsame
      cases htext
      cases hsame
      rfl
    · exact h stage' code' text htext

/-- Remembering changes no source. -/
theorem Sound.assemble (h : a.Sound) (key : ProgramKey) (uniforms : Uniform.Values) :
    (a.assemble key.includes key.vertex key.fragment uniforms).1 = fresh a.header key uniforms ∧
      (a.assemble key.includes key.vertex key.fragment uniforms).2.Sound ∧
      (a.assemble key.includes key.vertex key.fragment uniforms).2.header = a.header := by
  have hnone : ({ header := a.header } : Assembler).Sound := nofun
  let body := String.ofList (stripVaryings key.vertex.toList)
  obtain ⟨hvertex, h₁, hheader₁⟩ := h.expand body .vertex
  obtain ⟨hfragment, h₂, hheader₂⟩ := h₁.expand key.fragment .fragment
  obtain ⟨hvertex', h₁', hheader₁'⟩ := hnone.expand body .vertex
  obtain ⟨hfragment', -, hheader₂'⟩ := h₁'.expand key.fragment .fragment
  refine ⟨?_, h₂, hheader₂.trans hheader₁⟩
  unfold fresh Assembler.assemble
  dsimp only
  rw [hvertex, hfragment, hvertex', hfragment', hheader₂, hheader₁, hheader₂', hheader₁']

end Shader.Assembler

namespace Renderer

variable {r r' : Renderer State} {ε α : Type}

/-! ### Stages that leave programs alone -/

/-- Programs, sampler objects and the index array are the same ones as before. -/
structure Idle (r r' : Renderer State) : Prop where
  store : r.store.SamePrograms r'.store
  programs : r'.programs = r.programs
  assembler : r'.assembler = r.assembler
  samplers : r'.samplers = r.samplers
  vertexArray : r'.geometry.vertexArray = r.geometry.vertexArray
  buffer : r'.geometry.buffer = r.geometry.buffer

instance : IsPreorder (Renderer State) Idle where
  refl r := ⟨refl r.store, rfl, rfl, rfl, rfl, rfl⟩
  trans _ _ _ h h' :=
    ⟨IsTrans.trans (r := Store.SamePrograms) _ _ _ h.store h'.store,
      h'.programs.trans h.programs, h'.assembler.trans h.assembler, h'.samplers.trans h.samplers,
      h'.vertexArray.trans h.vertexArray, h'.buffer.trans h.buffer⟩

theorem perform_idle (command : Command α) (h : command.keepsPrograms) :
    Moves Idle (perform command : StateM (Renderer State) α) := fun r =>
  ⟨Store.command_samePrograms command h r.store, rfl, rfl, rfl, rfl, rfl⟩

theorem setting_idle (command : Command Unit) (h : command.isSetting) :
    Moves Idle (perform command : StateM (Renderer State) Unit) :=
  perform_idle command (command.keepsPrograms_of_isSetting h)

theorem tryOnStore_idle {act : Attempt ε (Store State) α}
    (h : Attempt.Moves Store.SamePrograms act) : Attempt.Moves Idle (tryOnStore act) := fun r =>
  ⟨h r.store, rfl, rfl, rfl, rfl, rfl⟩

theorem settle_idle (bag : Params.Bag) (destination : Destination) :
    Attempt.Moves Idle (settle bag destination : Attempt DrawError (Renderer State) _) := by
  have same {r r' : Renderer State} (hstore : r'.store = r.store)
      (hprograms : r'.programs = r.programs) (hassembler : r'.assembler = r.assembler)
      (hsamplers : r'.samplers = r.samplers) (hgeometry : r'.geometry = r.geometry) :
      Idle r r' := by
    refine ⟨?_, hprograms, hassembler, hsamplers, by rw [hgeometry], by rw [hgeometry]⟩
    rw [hstore]
    exact refl r.store
  refine settle_moves_of (fun _ _ => same rfl rfl rfl rfl rfl) bag
    (resolve_moves_of (fun _ _ => same rfl rfl rfl rfl rfl) fun spec _ registry => ?_)
  exact tryOnStore_idle (Store.permitsTargets_samePrograms.prepare
    (fun _ _ _ _ _ _ => Store.command_samePrograms _ rfl) registry spec)

theorem bind_idle (resolved : Resolved) : Attempt.Moves Idle
    (bind resolved : Attempt DrawError (Renderer State) (UInt32 × UInt32)) := by
  have bindTarget (key : TargetKey) : Attempt.Moves Idle (tryOnStore (Store.bindTarget key false) :
      Attempt DrawError (Renderer State) (UInt32 × UInt32)) :=
    tryOnStore_idle (Store.permitsTargets_samePrograms.bindTarget key false)
  unfold Renderer.bind
  split
  · exact .bind (.lift (perform_idle _ rfl)) fun _ => .lift (perform_idle _ rfl)
  · exact bindTarget _
  · refine .bind (.modify fun r => ?_) fun _ => .bind .get fun r => ?_
    · exact ⟨refl r.store.device, rfl, rfl, rfl, rfl, rfl⟩
    · split
      · exact bindTarget _
      · exact .throw _

theorem wipe_idle (plan : Plan) (view : Rect) :
    Moves Idle (wipe plan view : StateM (Renderer State) Unit) :=
  wipe_moves setting_idle plan view

/-- Once its strip has been reached, a draw leaves programs alone. -/
theorem finish_idle (strip : Strip) :
    Moves Idle (strip.finish : StateM (Renderer State) Unit) :=
  finish_moves setting_idle (perform_idle _ rfl)

theorem ensure_idle (a : IndexArray) (needed : UInt32) :
    Moves Idle (a.ensure needed : StateM (Renderer State) IndexArray) := by
  unfold IndexArray.ensure
  split
  · exact .pure _
  · refine .bind (perform_idle _ rfl) fun _ => .bind (perform_idle _ rfl) fun _ => ?_
    exact .bind (perform_idle _ rfl) fun _ => .pure _

/-- The index array stays the same one, however long it is made. -/
theorem ensure_same {σ : Type} [Device σ] (a : IndexArray) (needed : UInt32) (s : σ) :
    ((a.ensure needed : StateM σ IndexArray) s).1.vertexArray = a.vertexArray ∧
      ((a.ensure needed : StateM σ IndexArray) s).1.buffer = a.buffer := by
  unfold IndexArray.ensure
  split <;> exact ⟨rfl, rfl⟩

/-! ### What a renderer remembers -/

/-- A program of the device has been compiled for some snippets and the uniforms of its founder,
and these are its setters. -/
structure Compiled (header : String) (key : ProgramKey) (founder : Uniform.Values)
    (program : Shader.Program) (p : Software.Program) : Prop where
  sources : (⟨p.vertexSource, p.fragmentSource⟩ : Sources) = Assembler.fresh header key founder
  uniforms : p.uniforms = scanUniforms [p.vertexSource, p.fragmentSource]
  setters : program.setters = settersOf program.name p.uniforms
  /-- A sampler keeps its unit, unless another setter has its name. -/
  units : ∀ setter ∈ program.setters,
    (∀ other ∈ program.setters, other.name = setter.name → other = setter) → ∀ unit,
      setter.unit? = some unit → p.values.get? setter.name = some (.ints [unit.toInt32])

/-- The programs of a renderer are those that have a founder. -/
structure Remembers (header : String) (founders : ProgramKey → Option Uniform.Values)
    (r : Renderer State) : Prop where
  front : r.assembler.header = header
  sound : r.assembler.Sound
  numbered : ∀ id p, r.store.device.programs.get? id = some p → id ≤ r.store.device.lastName
  owned : ∀ id p, r.store.device.programs.get? id = some p →
    ∃ key program, r.programs.programs.get? key = some program ∧ program.name = id
  unknown : ∀ key, founders key = none → r.programs.programs.get? key = none
  known : ∀ key founder, founders key = some founder → ∃ program p,
    r.programs.programs.get? key = some program ∧
    r.store.device.programs.get? program.name = some p ∧ Compiled header key founder program p

variable {header : String} {founders : ProgramKey → Option Uniform.Values}

theorem Remembers.of_same (h : r.Remembers header founders)
    (hprograms : r'.store.device.programs = r.store.device.programs)
    (hname : r.store.device.lastName ≤ r'.store.device.lastName)
    (hcache : r'.programs = r.programs) (hassembler : r'.assembler = r.assembler) :
    r'.Remembers header founders := by
  refine ⟨hassembler ▸ h.front, hassembler ▸ h.sound, fun id p hp => ?_, fun id p hp => ?_,
    fun key hkey => ?_, fun key founder hkey => ?_⟩
  · exact Nat.le_trans (h.numbered id p (hprograms ▸ hp)) hname
  · rw [hcache]
    exact h.owned id p (hprograms ▸ hp)
  · rw [hcache]
    exact h.unknown key hkey
  · rw [hcache, hprograms]
    exact h.known key founder hkey

/-- What leaves programs alone keeps what is remembered of them. -/
theorem Remembers.of_idle (h : r.Remembers header founders) (hsame : Idle r r') :
    r'.Remembers header founders :=
  h.of_same hsame.store.programs hsame.store.lastName hsame.programs hsame.assembler

/-- A program in the cache has a founder. -/
theorem Remembers.exists_founder (h : r.Remembers header founders) {key : ProgramKey}
    {program : Shader.Program} (hkey : r.programs.programs.get? key = some program) :
    ∃ founder p, founders key = some founder ∧
      r.store.device.programs.get? program.name = some p ∧
      Compiled header key founder program p := by
  cases hfounder : founders key with
  | none =>
    rw [h.unknown key hfounder] at hkey
    cases hkey
  | some founder =>
    obtain ⟨program', p, hprogram, hp, hcompiled⟩ := h.known key founder hfounder
    cases hkey.symm.trans hprogram
    exact ⟨founder, p, rfl, hp, hcompiled⟩

/-- A program that is not in the cache has no founder. -/
theorem Remembers.unfounded (h : r.Remembers header founders) {key : ProgramKey}
    (hkey : r.programs.programs.get? key = none) : founders key = none := by
  rw [Option.eq_none_iff_forall_ne_some]
  intro founder hfounder
  obtain ⟨_, _, hcached, -⟩ := h.known key founder hfounder
  rw [hkey] at hcached
  cases hcached

/-! ### Writing values -/

/-- Writing values leaves every sampler at its unit. -/
theorem Compiled.stored {key : ProgramKey} {founder : Uniform.Values} {program : Shader.Program}
    {p : Software.Program} (h : Compiled header key founder program p) (values : Uniform.Values) :
    Compiled header key founder program
      { p with values := program.setters.foldl (Setter.store values) p.values } where
  sources := h.sources
  uniforms := h.uniforms
  setters := h.setters
  units setter hsetter honly unit hunit := by
    refine (Setter.get?_foldl_hold_of_none p.values fun s hs hname => ?_).trans
      (h.units setter hsetter honly unit hunit)
    rw [honly s hs hname]
    unfold Setter.written?
    unfold Setter.unit? at hunit
    split at hunit <;> simp_all

/-- Writing the values of a draw to a program that is remembered. -/
theorem Remembers.uploaded (h : r.Remembers header founders) {key : ProgramKey}
    {program : Shader.Program} (hkey : r.programs.programs.get? key = some program)
    {values : Uniform.Values}
    (huploaded : Store.Uploaded program.name values program.setters r.store r'.store)
    (hcache : r'.programs = r.programs) (hassembler : r'.assembler = r.assembler) :
    r'.Remembers header founders := by
  have hback (id : Name) (p' : Software.Program) (hp' : r'.store.device.programs.get? id = some p') :
      ∃ p, r.store.device.programs.get? id = some p := by
    by_cases hid : id = program.name
    · rw [hid, huploaded.program] at hp'
      obtain ⟨p, hp, -⟩ := Option.map_eq_some_iff.1 hp'
      exact ⟨p, hid ▸ hp⟩
    · exact ⟨p', (huploaded.others id hid).symm.trans hp'⟩
  refine ⟨hassembler ▸ h.front, hassembler ▸ h.sound, fun id p' hp' => ?_, fun id p' hp' => ?_,
    fun key' hkey' => hcache ▸ h.unknown key' hkey', fun key' founder hkey' => ?_⟩
  · obtain ⟨p, hp⟩ := hback id p' hp'
    exact Nat.le_trans (h.numbered id p hp) huploaded.lastName
  · obtain ⟨p, hp⟩ := hback id p' hp'
    rw [hcache]
    exact h.owned id p hp
  · obtain ⟨program', p, hprogram', hp, hcompiled⟩ := h.known key' founder hkey'
    rw [hcache]
    by_cases hname : program'.name = program.name
    · -- The same program of the device has the same setters, under whatever snippets it is known.
      obtain ⟨_, p₀, _, hp₀, hcompiled₀⟩ := h.exists_founder hkey
      have hsetters : program.setters = program'.setters := by
        rw [hname, hp₀] at hp
        cases hp
        rw [hcompiled.setters, hcompiled₀.setters, hname]
      refine ⟨program', _, hprogram', ?_, hcompiled.stored values⟩
      rw [hname, huploaded.program, ← hname, hp, hsetters]
      rfl
    · exact ⟨program', p, hprogram', (huploaded.others _ hname).trans hp, hcompiled⟩

/-- The setters of a program that is remembered write to the uniforms of their names. -/
theorem Remembers.locations (h : r.Remembers header founders) {key : ProgramKey}
    {program : Shader.Program} (hkey : r.programs.programs.get? key = some program) :
    ∀ setter ∈ program.setters, setter.location = .named program.name setter.name := by
  obtain ⟨_, p, _, _, hcompiled⟩ := h.exists_founder hkey
  intro setter hsetter
  rw [hcompiled.setters] at hsetter
  exact location_of_mem_settersFrom hsetter

/-- Before the values of a strip are written its program has been put to use, and programs are as
they were. -/
structure Readied (strip : Strip) (r before : Renderer State) : Prop where
  programs : before.store.device.programs = r.store.device.programs
  lastName : r.store.device.lastName ≤ before.store.device.lastName
  use : before.store.device.currentProgram = some strip.program.name
  cache : before.programs = r.programs
  assembler : before.assembler = r.assembler
  samplers : before.samplers = r.samplers
  objects : before.store.device.samplers = r.store.device.samplers
  arrays : before.store.device.vertexArrays = r.store.device.vertexArrays
  vertexArray : before.geometry.vertexArray = r.geometry.vertexArray
  buffer : before.geometry.buffer = r.geometry.buffer

/-- The renderer after the values of a strip have been written. -/
def afterUpload (strip : Strip) (before : Renderer State) : Renderer State :=
  { before with
    store := (strip.program.applyUniforms strip.values before.samplers before.store).2
    samplers := (strip.program.applyUniforms strip.values before.samplers before.store).1 }

theorem load_eq (strip : Strip) (r : Renderer State) :
    (strip.load r).2 = afterUpload strip (strip.ready r).2 := rfl

theorem exists_readied (strip : Strip) (r : Renderer State) :
    ∃ before, Readied strip r before ∧ (strip.load r).2 = afterUpload strip before := by
  let r₁ := (perform (.useProgram (some strip.program.name)) r).2
  let r₂ := (setState strip.plan strip.blend r₁).2
  let r₃ := (perform (.viewport strip.view) r₂).2
  let needed := max strip.plan.vertices strip.plan.instances
  let a := (r₃.geometry.ensure needed r₃).1
  let r₄ : Renderer State := { (r₃.geometry.ensure needed r₃).2 with geometry := a }
  let r₅ := (perform (.bindVertexArray (some a.vertexArray)) r₄).2
  have h₃ : Idle r₁ r₃ := IsTrans.trans (r := Idle) r₁ r₂ r₃
    (setState_moves (fun command hset _ => setting_idle command hset) strip.plan strip.blend r₁)
    (setting_idle _ rfl r₂)
  have h₄ : Idle r₃ r₄ := by
    have hidle := ensure_idle r₃.geometry needed r₃
    obtain ⟨harray, hbuffer⟩ := ensure_same r₃.geometry needed r₃
    exact ⟨hidle.store, hidle.programs, hidle.assembler, hidle.samplers, harray, hbuffer⟩
  have h₅ : Idle r₁ r₅ := IsTrans.trans (r := Idle) r₁ r₃ r₅ h₃
    (IsTrans.trans (r := Idle) r₃ r₄ r₅ h₄ (perform_idle _ rfl r₄))
  exact ⟨(strip.ready r).2, ⟨h₅.store.programs, h₅.store.lastName, h₅.store.currentProgram,
    h₅.programs, h₅.assembler, h₅.samplers, h₅.store.samplers, h₅.store.vertexArrays,
    h₅.vertexArray, h₅.buffer⟩, load_eq strip r⟩

/-- Loading a strip whose program is remembered. -/
theorem Remembers.loaded {strip : Strip} (h : r.Remembers header founders)
    (hkey : r.programs.programs.get? strip.key = some strip.program) :
    (strip.load r).2.Remembers header founders ∧
      (strip.load r).2.programs.programs.get? strip.key = some strip.program ∧
      (strip.load r).2.store.device.currentProgram = some strip.program.name := by
  obtain ⟨before, hready, hload⟩ := exists_readied strip r
  have huploaded := Store.applyAll_uploaded (h.locations hkey) strip.values before.samplers
    before.store
  have hbefore : before.Remembers header founders :=
    h.of_same hready.programs hready.lastName hready.cache hready.assembler
  have hkey' : before.programs.programs.get? strip.key = some strip.program := by
    rw [hready.cache]
    exact hkey
  rw [hload]
  exact ⟨hbefore.uploaded hkey' huploaded rfl rfl, hkey',
    huploaded.currentProgram.trans hready.use⟩

/-! ### Finding a program -/

/-- A program that is refused leaves those that were there alone. -/
theorem link_error_idle {sources : Sources} {e : DrawError}
    (h : (Program.link sources : Attempt DrawError (Renderer State) Shader.Program).run r =
      (.error e, r')) : Idle r r' := by
  have compile (stage : Stage) (source : String) : Attempt.Moves Idle
      (Program.compile stage source : Attempt DrawError (Renderer State) Name) :=
    .create (perform_idle _ rfl)
  -- A link that is refused makes no program.
  have hlink (vertex fragment : Name) (r r' : Renderer State) (e : DrawError)
      (h : (Attempt.create .programLink (.linkProgram vertex fragment) :
        Attempt DrawError (Renderer State) Name).run r = (.error e, r')) : Idle r r' := by
    rw [Attempt.run_create] at h
    obtain ⟨hreply, hstate⟩ := Prod.mk.inj h
    have hreply' : (r.store.device.linkProgram vertex fragment).1.mapError DrawError.programLink =
        .error e := hreply
    have hdevice : r.withDevice (r.store.device.linkProgram vertex fragment).2 = r' := hstate
    suffices hsame : r.store.device.SamePrograms
        (r.store.device.linkProgram vertex fragment).2 from
      hdevice ▸ ⟨hsame, rfl, rfl, rfl, rfl, rfl⟩
    unfold State.linkProgram at hreply' ⊢
    dsimp only at hreply' ⊢
    split at hreply'
    · exact .of_eq rfl rfl rfl rfl rfl
    · split at hreply'
      · cases hreply'
      · exact .of_eq rfl rfl rfl rfl rfl
  unfold Program.link at h
  rcases Attempt.run_bind_eq_error.1 h with h | ⟨vertex, r₁, hvertex, h⟩
  · exact (compile _ _).of_run h
  have h₁ := (compile _ _).of_run hvertex
  rcases Attempt.run_bind_eq_error.1 h with h | ⟨fragment, r₂, hfragment, h⟩
  · exact IsTrans.trans (r := Idle) _ _ _ h₁ ((compile _ _).of_run h)
  have h₂ := IsTrans.trans (r := Idle) _ _ _ h₁ ((compile _ _).of_run hfragment)
  rcases Attempt.run_bind_eq_error.1 h with h | ⟨name, r₃, hname, h⟩
  · exact IsTrans.trans (r := Idle) _ _ _ h₂ (hlink _ _ _ _ _ h)
  · cases h

/-- The founders once a draw with some uniforms has come to some snippets. -/
def found (founders : ProgramKey → Option Uniform.Values) (key : ProgramKey)
    (uniforms : Uniform.Values) : ProgramKey → Option Uniform.Values :=
  fun key' => (founders key').or (if key' = key then some uniforms else none)

theorem found_eq_self {key : ProgramKey} {founder : Uniform.Values}
    (h : founders key = some founder) (uniforms : Uniform.Values) :
    found founders key uniforms = founders := by
  funext key'
  unfold found
  split
  · subst_vars
    rw [h]
    rfl
  · exact Option.or_none

theorem found_self (founders : ProgramKey → Option Uniform.Values) (key : ProgramKey)
    (uniforms : Uniform.Values) :
    found founders key uniforms key = some ((founders key).getD uniforms) := by
  unfold found
  rw [if_pos rfl]
  cases founders key <;> rfl

/-- A program that has just been linked is remembered, with the uniforms of its founder. -/
theorem Remembers.linked (h : r.Remembers header founders) {key : ProgramKey}
    (hkey : founders key = none) {uniforms : Uniform.Values} {program : Shader.Program}
    (hlinks : Links (Assembler.fresh header key uniforms) program r.store.device
      r'.store.device)
    (hcache : r'.programs = ⟨r.programs.programs.insert key program⟩)
    (hassembler : r'.assembler = r.assembler) :
    r'.Remembers header (found founders key uniforms) := by
  -- The program has a number that no other had, so the others keep theirs and their uniforms.
  have hnew : r.store.device.programs.get? program.name = none := by
    cases hget : r.store.device.programs.get? program.name with
    | none => rfl
    | some p => exact absurd (h.numbered _ p hget) (Nat.not_le.2 hlinks.fresh)
  have hget (key' : ProgramKey) : r'.programs.programs.get? key' =
      if key = key' then some program else r.programs.programs.get? key' := by
    rw [hcache]
    exact Table.get?_insert ..
  refine ⟨hassembler ▸ h.front, hassembler ▸ h.sound, fun id p hp => ?_, fun id p hp => ?_,
    fun key' hkey' => ?_, fun key' founder hkey' => ?_⟩
  · by_cases hid : id = program.name
    · exact hid ▸ hlinks.numbered
    · rw [hlinks.others id hid] at hp
      obtain ⟨_, _, lastName, _, hlast, hdevice⟩ := hlinks.device
      rw [hdevice]
      exact Nat.le_trans (h.numbered id p hp) (Nat.le_of_lt hlast)
  · by_cases hid : id = program.name
    · exact ⟨key, program, (hget key).trans (if_pos rfl), hid.symm⟩
    · rw [hlinks.others id hid] at hp
      obtain ⟨key', program', hprogram', hname⟩ := h.owned id p hp
      have hne : key ≠ key' := by
        rintro rfl
        rw [h.unknown key hkey] at hprogram'
        cases hprogram'
      exact ⟨key', program', (hget key').trans ((if_neg hne).trans hprogram'), hname⟩
  · obtain ⟨hnone, hne⟩ := Option.or_eq_none_iff.1 hkey'
    have hne : key ≠ key' := fun e => by
      rw [if_pos e.symm] at hne
      cases hne
    exact (hget key').trans ((if_neg hne).trans (h.unknown key' hnone))
  -- What is known of the others holds for the same programs as before.
  · by_cases hsame : key = key'
    · subst hsame
      have hfounder : founder = uniforms := by
        unfold found at hkey'
        rw [hkey, if_pos rfl] at hkey'
        exact (Option.some.inj hkey').symm
      refine ⟨program, _, (hget key).trans (if_pos rfl), hlinks.linked, ?_⟩
      rw [hfounder]
      exact ⟨rfl, rfl, hlinks.setters, fun setter hsetter honly unit hunit =>
        get?_assigned .empty hsetter honly hunit⟩
    · have hknown : founders key' = some founder := by
        unfold found at hkey'
        rwa [if_neg (Ne.symm hsame), Option.or_none] at hkey'
      obtain ⟨program', p, hprogram', hp, hcompiled⟩ := h.known key' founder hknown
      have hname : program'.name ≠ program.name := by
        intro e
        rw [e, hnew] at hp
        cases hp
      exact ⟨program', p, (hget key').trans ((if_neg hsame).trans hprogram'),
        (hlinks.others _ hname).trans hp, hcompiled⟩

/-- What is assembled for a program are the sources of a fresh start; nothing is forgotten for it. -/
theorem Remembers.run_assemble (h : r.Remembers header founders) (key : ProgramKey)
    (uniforms : Uniform.Values) :
    ∃ r₁ : Renderer State, (assemble key uniforms : StateM (Renderer State) Sources) r =
        (Assembler.fresh header key uniforms, r₁) ∧ r₁.Remembers header founders ∧
      r₁.store = r.store ∧ r₁.programs = r.programs := by
  obtain ⟨hsources, hsound, hfront⟩ := h.sound.assemble key uniforms
  refine ⟨{ r with
    assembler := (r.assembler.assemble key.includes key.vertex key.fragment uniforms).2 }, ?_,
    ⟨hfront.trans h.front, hsound, h.numbered, h.owned, h.unknown, h.known⟩, rfl, rfl⟩
  rw [← h.front, ← hsources]
  rfl

/-- The program of a draw is found under its snippets, or linked from its own uniforms. -/
theorem Remembers.program (h : r.Remembers header founders) (options : Params.Options)
    (uniforms : Uniform.Values) {result : Except DrawError Shader.Program}
    (hrun : (program options uniforms).run r = (result, r')) :
    match result with
    | .error _ => r'.Remembers header founders
    | .ok p => r'.Remembers header
          (found founders ⟨options.includes, options.vertex, options.fragment⟩ uniforms) ∧
        r'.programs.programs.get? ⟨options.includes, options.vertex, options.fragment⟩ =
          some p := by
  let key : ProgramKey := ⟨options.includes, options.vertex, options.fragment⟩
  cases hkey : r.programs.programs.get? key with
  | some p =>
    rw [program_known hkey] at hrun
    cases hrun
    obtain ⟨founder, _, hfounder, _, _⟩ := h.exists_founder hkey
    dsimp only
    rw [found_eq_self hfounder]
    exact ⟨h, hkey⟩
  | none =>
    -- What is not in the cache has no founder yet.
    have hunknown : founders key = none := by
      cases hfounder : founders key with
      | none => rfl
      | some founder =>
        obtain ⟨p, _, hp, _, _⟩ := h.known key founder hfounder
        rw [hkey] at hp
        cases hp
    obtain ⟨r₁, hassemble, h₁, -, hprograms⟩ := h.run_assemble key uniforms
    rw [program_new rfl hkey hassemble] at hrun
    rcases hlink : (Program.link (Assembler.fresh header key uniforms) :
        Attempt DrawError (Renderer State) _).run r₁ with ⟨e | p, r₂⟩
    · rw [hlink] at hrun
      cases hrun
      exact h₁.of_idle (link_error_idle hlink)
    · rw [hlink, ← hprograms] at hrun
      cases hrun
      obtain ⟨d, rfl, hlinks⟩ := run_link_ok hlink
      exact ⟨h₁.linked hunknown hlinks rfl rfl, (Table.get?_insert ..).trans (if_pos rfl)⟩

/-! ### Whole draws -/

variable {bag : Params.Bag} {destination : Destination} {resolved : Resolved} {strip : Strip}
  {moment : Renderer State}

/-- Before a draw loads its strip it has found the program. -/
theorem Remembers.found_program (h : r.Remembers header founders)
    {settled bound after : Renderer State}
    (hreached : Reached bag destination r resolved strip settled bound after) :
    after.Remembers header (found founders strip.key strip.uniforms) ∧
      after.programs.programs.get? strip.key = some strip.program := by
  obtain ⟨size, hbind, -⟩ := hreached.bind
  have hsettled := h.of_idle ((settle_idle bag destination).of_run hreached.settle)
  have hbound := hsettled.of_idle ((bind_idle resolved).of_run hbind)
  have hwiped := hbound.of_idle (wipe_idle strip.plan strip.view bound)
  exact hwiped.program strip.plan.options strip.uniforms hreached.program

/-- A draw that comes to its strip remembers its program, and has it in use. -/
theorem Remembers.reached (h : r.Remembers header founders)
    (hrun : (reach bag destination).run r = (.ok (resolved, some strip), moment)) :
    moment.Remembers header (found founders strip.key strip.uniforms) ∧
      moment.programs.programs.get? strip.key = some strip.program ∧
      moment.store.device.currentProgram = some strip.program.name := by
  obtain ⟨settled, bound, after, hreached, rfl⟩ := exists_reached hrun
  obtain ⟨hfound, hkey⟩ := h.found_program hreached
  exact hfound.loaded hkey

/-- The program in use when a draw comes to its strip is the one that its snippets were compiled to,
with the uniforms of the draw that had it linked. -/
theorem Remembers.exists_reached_program (h : r.Remembers header founders)
    (hrun : (reach bag destination).run r = (.ok (resolved, some strip), moment)) :
    ∃ program, moment.store.device.program? = some program ∧
      Compiled header strip.key ((founders strip.key).getD strip.uniforms) strip.program
        program := by
  obtain ⟨hfound, hkey, huse⟩ := h.reached hrun
  obtain ⟨founder, program, hfounder, hprogram, hcompiled⟩ := hfound.exists_founder hkey
  cases hfounder.symm.trans (found_self ..)
  refine ⟨program, ?_, hcompiled⟩
  rw [State.program?, huse]
  exact hprogram

/-- A draw that does not come to a strip remembers what it did before. -/
theorem Remembers.unreached (h : r.Remembers header founders) {result : Except DrawError _}
    (hrun : (reach bag destination).run r = (result, r'))
    (hresult : ∀ resolved strip, result ≠ .ok (resolved, some strip)) :
    r'.Remembers header founders := by
  have idle {r₁ r₂ : Renderer State} (hidle : Idle r₁ r₂) (h₁ : r₁.Remembers header founders) :
      r₂.Remembers header founders := h₁.of_idle hidle
  refine unreached_rule (I := fun r => r.Remembers header founders)
    (J := fun r => r.Remembers header founders) hrun hresult
    (idle (settle_idle bag destination r) h)
    (fun resolved _ _ _ hsettled hbind => idle ((bind_idle resolved).of_run hbind) hsettled)
    (fun resolved _ _ _ hsettled hbind => idle ((bind_idle resolved).of_run hbind) hsettled)
    (fun plan view r₁ h₁ => idle (wipe_idle plan view r₁) h₁)
    (fun options uniforms _ _ _ h₁ hprogram => h₁.program options uniforms hprogram)
    (fun r₁ h₁ => idle (setting_idle (.depthMask true) rfl r₁) h₁)

/-! ### Resets -/

/-- Programs are deleted one after the other, and nothing else is. -/
theorem after_deletePrograms (ids : List Name) (s : Store State) :
    (∀ id, (s.after (ids.map .deleteProgram)).device.programs.get? id =
      if id ∈ ids then none else s.device.programs.get? id) ∧
    (s.after (ids.map .deleteProgram)).device.lastName = s.device.lastName ∧
    (s.after (ids.map .deleteProgram)).device.samplers = s.device.samplers ∧
    (s.after (ids.map .deleteProgram)).device.vertexArrays = s.device.vertexArrays := by
  induction ids generalizing s with
  | nil => exact ⟨fun _ => rfl, rfl, rfl, rfl⟩
  | cons id ids ih =>
    obtain ⟨hget, hname, hsamplers, harrays⟩ := ih (perform (.deleteProgram id) s).2
    refine ⟨fun id' => (hget id').trans ?_, hname, hsamplers, harrays⟩
    by_cases hmem : id' ∈ ids
    · rw [if_pos hmem, if_pos (List.mem_cons_of_mem _ hmem)]
    · rw [if_neg hmem]
      refine (Table.get?_erase ..).trans ?_
      simp only [List.mem_cons, hmem, or_false]

/-- A reset deletes every program. -/
theorem Remembers.get?_reset (h : r.Remembers header founders) (id : Name) :
    (reset r).2.store.device.programs.get? id = none := by
  obtain ⟨hget, -, -, -⟩ := after_deletePrograms (r.programs.programs.values.map Program.name) r.store
  have hsame : r.cleared.SamePrograms
      ((r.registry.freeAll : StateM (Store State) Registry) r.cleared).2 :=
    Store.freeAll_moves Store.permitsTargets_samePrograms.free r.registry r.cleared
  rw [run_reset, hsame.programs, cleared, hget id]
  split
  · rfl
  · rename_i hid
    cases hp : r.store.device.programs.get? id with
    | none => rfl
    | some p =>
      obtain ⟨key, program, hkey, hprogram⟩ := h.owned id p hp
      refine absurd (List.mem_map.2 ⟨program, ?_, hprogram⟩) hid
      exact List.mem_map.2 ⟨_, Table.get?_eq_some_iff.1 hkey, rfl⟩

/-- After a reset no program is remembered, and there is none. -/
theorem Remembers.forgets (h : r.Remembers header founders) :
    (reset r).2.Remembers header fun _ => none := by
  refine ⟨?_, ?_, fun id p hp => ?_, fun id p hp => ?_, fun key _ => ?_, fun _ _ h => ?_⟩
  · rw [run_reset]
    exact h.front
  · rw [run_reset]
    intro _ _ _ h
    cases h
  · rw [h.get?_reset] at hp
    cases hp
  · rw [h.get?_reset] at hp
    cases hp
  · rw [run_reset]
    rfl
  · cases h

/-- A new renderer remembers no program. -/
theorem remembers_create {config : Config} {width height : UInt32}
    (hr : create config { device := State.new width height } = .ok r) :
    r.Remembers config.header fun _ => none := by
  obtain ⟨capacity, buffers, log, -, rfl⟩ := create_eq hr
  exact ⟨rfl, nofun, nofun, nofun, fun _ _ => rfl, nofun⟩

end Renderer

/-! ### Runs -/

/-- The strip that a draw comes to, if it comes to one. -/
def Renderer.strip? (bag : Params.Bag) (destination : Destination) (r : Renderer State) :
    Option Strip :=
  ((Renderer.reach bag destination).run r).1.toOption.bind Prod.snd

theorem Renderer.strip?_of_run {bag : Params.Bag} {destination : Destination}
    {r moment : Renderer State} {resolved : Resolved} {strip : Option Strip}
    (hrun : (Renderer.reach bag destination).run r = (.ok (resolved, strip), moment)) :
    Renderer.strip? bag destination r = strip := by
  unfold Renderer.strip?
  rw [hrun]
  rfl

theorem Renderer.strip?_of_error {bag : Params.Bag} {destination : Destination}
    {r moment : Renderer State} {e : DrawError}
    (hrun : (Renderer.reach bag destination).run r = (.error e, moment)) :
    Renderer.strip? bag destination r = none := by
  unfold Renderer.strip?
  rw [hrun]
  rfl

/-- Which uniforms the programs of a renderer have been linked with after an act: a reset forgets
them all, and a draw that comes to its strip adds its own if its snippets are new. -/
def Act.founders (r : Renderer State) (known : Shader.ProgramKey → Option Uniform.Values) :
    Act → Shader.ProgramKey → Option Uniform.Values
  | reset => fun _ => none
  | draw bag destination =>
    (Renderer.strip? bag destination r).elim known fun strip =>
      Renderer.found known strip.key strip.uniforms
  | _ => known

/-- Which uniforms the programs of a renderer have been linked with after several acts. -/
def Act.foundersAll (known : Shader.ProgramKey → Option Uniform.Values) :
    Renderer State → List Act → Shader.ProgramKey → Option Uniform.Values
  | _, [] => known
  | r, act :: acts => foundersAll (act.founders r known) (act.after r) acts

/-- An act that neither draws nor resets founds no program. -/
theorem Act.founders_aside {act : Act} (hact : act.isAside) (r : Renderer State)
    (known : Shader.ProgramKey → Option Uniform.Values) : act.founders r known = known := by
  cases act <;> first | rfl | cases hact

/-- An act that neither draws nor resets leaves programs alone. -/
theorem Act.aside_idle {act : Act} (hact : act.isAside) (r : Renderer State) :
    Renderer.Idle r (act.after r) := by
  have haside := Act.after_aside hact r
  exact ⟨Act.aside_samePrograms hact r, by rw [haside], by rw [haside], by rw [haside],
    by rw [haside], by rw [haside]⟩

/-- A draw that comes to its strip founds the program of its snippets, if they are new. -/
theorem Act.founders_draw {bag : Params.Bag} {destination : Destination} {r moment : Renderer State}
    {resolved : Resolved} {strip : Strip}
    (hrun : (Renderer.reach bag destination).run r = (.ok (resolved, some strip), moment))
    (known : Shader.ProgramKey → Option Uniform.Values) :
    (draw bag destination).founders r known = Renderer.found known strip.key strip.uniforms := by
  show (Renderer.strip? bag destination r).elim known _ = _
  rw [Renderer.strip?_of_run hrun]
  rfl

/-- After a draw the programs are those that have a founder. -/
theorem Renderer.Remembers.draw {r : Renderer State} {header : String}
    {founders : Shader.ProgramKey → Option Uniform.Values} (h : r.Remembers header founders)
    (bag : Params.Bag) (destination : Destination) :
    ((Renderer.draw bag destination).run r).2.Remembers header
      ((Act.draw bag destination).founders r founders) := by
  show Renderer.Remembers header ((Renderer.strip? bag destination r).elim founders _) _
  rw [Renderer.draw_eq_reach]
  rcases hrun : (Renderer.reach bag destination).run r with ⟨e | ⟨resolved, strip⟩, moment⟩
  · rw [Attempt.run_bind_error hrun, Renderer.strip?_of_error hrun]
    exact h.unreached hrun fun _ _ heq => nomatch heq
  rw [Attempt.run_bind_ok hrun, Renderer.strip?_of_run hrun]
  cases strip with
  | none => exact h.unreached hrun fun _ _ heq => nomatch heq
  | some strip => exact (h.reached hrun).1.of_idle (Renderer.finish_idle strip moment)

/-- After every act the programs are those that have a founder. -/
theorem Act.after_remembers (act : Act) {r : Renderer State} {header : String}
    {founders : Shader.ProgramKey → Option Uniform.Values} (h : r.Remembers header founders) :
    (act.after r).Remembers header (act.founders r founders) := by
  by_cases hact : act.isAside
  · rw [Act.founders_aside hact]
    exact h.of_idle (Act.aside_idle hact r)
  · cases act with
    | reset => exact h.forgets
    | draw bag destination => exact h.draw bag destination
    | _ => exact absurd rfl hact

/-- After every run the programs are those that have a founder. -/
theorem Act.afterAll_remembers (acts : List Act) {r : Renderer State} {header : String}
    {founders : Shader.ProgramKey → Option Uniform.Values} (h : r.Remembers header founders) :
    (Act.afterAll r acts).Remembers header (Act.foundersAll founders r acts) := by
  induction acts generalizing r founders with
  | nil => exact h
  | cons act acts ih =>
    have hafter := act.after_remembers h
    unfold Act.foundersAll
    exact ih hafter

end DrawPass
