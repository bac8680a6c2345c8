/-
DrawPass/Proofs/ParameterErrors.lean

Draws that are refused for their parameters.

What is wrong with a bag or a spec is found out at different depths: while the bag is
split and counted, while the blend spec is read, while a tag is looked up, and in two
looks at the data of a spec, one against the format that the spec names and one against
the target that the tag stands for, which may be of another.  Each of them comes before
the first command of its draw.  The proof has two halves: up to the point where the
target is settled on, a refusal for a parameter leaves everything as it was
(`settle_refused`), and from there on no refusal is for a parameter (`paint_refusedFor`).

Only the blend specs that were read are remembered; that is not seen by any later draw,
for which a spec means the same from memory as when it is read.
-/
import DrawPass.Proofs.FailedPreparation

namespace DrawPass

open Gl DrawPass.Geometry Shader Software

/-- The refusals that a parameter is to blame for: one of the bag, or one of the spec. -/
def DrawError.isOfParameters : DrawError → Bool
  | invalidOption .. | invalidUniform .. | unknownAspect _ | invalidBlend _ | unknownFormat _
  | missingTag | dataSizeMismatch .. => true
  | _ => false

/-! ### Reasons for refusals -/

namespace Attempt

variable {ε σ α β : Type} {P : ε → Prop}

/-- Whenever the action is refused, it is for a reason of this kind. -/
def RefusedFor (P : ε → Prop) (act : Attempt ε σ α) : Prop :=
  ∀ s e s', act.run s = (.error e, s') → P e

namespace RefusedFor

theorem pure (a : α) : RefusedFor P (Pure.pure a : Attempt ε σ α) := by
  intro s e s' h
  cases h

theorem throw {e : ε} (h : P e) : RefusedFor P (MonadExcept.throw e : Attempt ε σ α) := by
  intro s e' s' hrun
  cases hrun
  exact h

theorem throw_bind {e : ε} (h : P e) (next : α → Attempt ε σ β) :
    RefusedFor P (MonadExcept.throw e >>= next) := by
  intro s e' s' hrun
  cases hrun
  exact h

theorem lift (act : StateM σ α) : RefusedFor P (ExceptT.lift act : Attempt ε σ α) := by
  intro s e s' h
  cases h

theorem modify (f : σ → σ) : RefusedFor P (modify f : Attempt ε σ PUnit) := by
  intro s e s' h
  cases h

theorem perform [Device σ] (command : Command α) :
    RefusedFor P (Attempt.perform command : Attempt ε σ α) := lift _

theorem create [Device σ] {refusal : String → ε} (h : ∀ cause, P (refusal cause))
    (command : Command (Except String Name)) :
    RefusedFor P (Attempt.create refusal command : Attempt ε σ Name) := by
  intro s e s' hrun
  rw [run_create] at hrun
  rcases hperform : (Gl.perform command : StateM σ _) s with ⟨cause | name, s₁⟩ <;>
    rw [hperform] at hrun <;> cases hrun
  exact h cause

theorem bind {act : Attempt ε σ α} {next : α → Attempt ε σ β} (h : RefusedFor P act)
    (h' : ∀ a, RefusedFor P (next a)) : RefusedFor P (act >>= next) := by
  intro s e s' hrun
  rcases run_bind_eq_error.1 hrun with hrun | ⟨a, s₁, -, hrun⟩
  · exact h s e s' hrun
  · exact h' a s₁ e s' hrun

theorem bind_get {next : σ → Attempt ε σ α} (h : ∀ s, RefusedFor P (next s)) :
    RefusedFor P (MonadState.get >>= next) :=
  fun s e s' hrun => h s s e s' hrun

/-- A handler that passes the refusal on. -/
theorem tryCatch {act : Attempt ε σ α} {handle : ε → Attempt ε σ α} (h : RefusedFor P act)
    (h' : ∀ e, P e → RefusedFor P (handle e)) : RefusedFor P (tryCatch act handle) := by
  intro s e s' hrun
  rw [run_tryCatch] at hrun
  rcases hact : act.run s with ⟨e' | a, s₁⟩ <;> rw [hact] at hrun
  · exact h' e' (h s e' s₁ hact) s₁ e s' hrun
  · cases hrun

theorem mapM {f : α → Attempt ε σ β} {l : List α} (h : ∀ a ∈ l, RefusedFor P (f a)) :
    RefusedFor P (l.mapM f) := by
  induction l with
  | nil =>
    rw [List.mapM_nil]
    exact pure _
  | cons a l ih =>
    obtain ⟨ha, hl⟩ := List.forall_mem_cons.1 h
    rw [List.mapM_cons]
    exact bind ha fun b => bind (ih hl) fun bs => pure _

end RefusedFor

end Attempt

/-- The action is never refused for a parameter. -/
abbrev Attempt.Blameless {σ α : Type} (act : Attempt DrawError σ α) : Prop :=
  act.RefusedFor fun e => e.isOfParameters = false

/-- The device, the compiler and the linker do not blame parameters. -/
theorem Attempt.Blameless.create {σ : Type} [Device σ] {refusal : String → DrawError}
    (h : ∀ cause, (refusal cause).isOfParameters = false)
    (command : Command (Except String Name)) :
    Attempt.Blameless (Attempt.create refusal command : Attempt DrawError σ Name) :=
  RefusedFor.create h command

/-! ### Targets -/

/-- Only data can be at fault where data is checked. -/
theorem checkData_none (tag : String) (info : FormatInfo) (size : UInt32 × UInt32)
    (layers : Option UInt32) : checkData tag info size layers none = .ok () := rfl

namespace Store

variable {s s' : Store State} {key : TargetKey} {size : UInt32 × UInt32}
  {data : Option PixelData} {d : TargetDescription} {e : DrawError}

/-- A target that is not usable has been freed, or never was. -/
theorem usable_refusedFor {P : DrawError → Prop} (hfreed : ∀ tag, P (.freedTarget tag))
    (key : TargetKey) : (usable key : Attempt DrawError (Store State) Target).RefusedFor P := by
  refine .bind_get fun s => ?_
  split
  · exact .throw (hfreed _)
  · split
    · exact .throw (hfreed _)
    · exact .pure _

theorem usable_blameless (key : TargetKey) :
    Attempt.Blameless (usable key : Attempt DrawError (Store State) Target) :=
  usable_refusedFor (fun _ => rfl) key

/-- Where new storage is refused for a parameter, the data does not fit and nothing is done. -/
theorem respecify_refused (h : (respecify key size data).run s = (.error e, s'))
    (he : e.isOfParameters) : s' = s ∧
      ∃ t, s.target? key = some t ∧ checkData t.tag t.info size t.layers data = .error e := by
  unfold respecify at h
  rw [Attempt.run_bind_eq_error] at h
  rcases h with h | ⟨t, s₁, husable, h⟩
  · exact absurd he (Bool.eq_false_iff.1 (usable_blameless key s e s' h))
  obtain ⟨rfl, ht, -⟩ := run_usable_eq_ok.1 husable
  rw [Attempt.run_bind_eq_error] at h
  rcases h with h | ⟨⟨⟩, s₂, -, h⟩
  · have hcheck : (checkData t.tag t.info size t.layers data, s₁) = (.error e, s') :=
      (Attempt.run_ofExcept _ s₁).symm.trans h
    exact ⟨(congrArg Prod.snd hcheck).symm, t, ht, congrArg Prod.fst hcheck⟩
  · cases h

theorem update_refused (h : (update key size data).run s = (.error e, s'))
    (he : e.isOfParameters) : s' = s ∧
      ∃ t, s.target? key = some t ∧ checkData t.tag t.info size t.layers data = .error e := by
  unfold update at h
  rw [Attempt.run_bind_eq_error] at h
  rcases h with h | ⟨t, s₁, husable, h⟩
  · exact absurd he (Bool.eq_false_iff.1 (usable_blameless key s e s' h))
  obtain ⟨rfl, -, -⟩ := run_usable_eq_ok.1 husable
  rw [Attempt.run_bind_eq_error] at h
  rcases h with h | ⟨⟨⟩, s₂, -, h⟩
  · exact respecify_refused h he
  -- The companion is given no data, so nothing can be wrong with it.
  split at h
  · obtain ⟨-, c, -, hcheck⟩ := respecify_refused h he
    rw [checkData_none] at hcheck
    cases hcheck
  · cases h

/-- What a new target is checked against is the description that it was added from. -/
theorem update_new_blameless
    (hdata : checkData d.tag d.format.info d.size d.layers d.data = .ok ()) {name : Name}
    {companion : Companion}
    (h : (update key d.size d.data).run (s.addTarget (d.target key name companion)) =
      (.error e, s')) : e.isOfParameters = false := by
  refine Bool.eq_false_iff.2 fun he => ?_
  obtain ⟨-, t, ht, hcheck⟩ := update_refused h he
  have hkey : (d.target key name companion).texture.key = key := rfl
  rw [target?_addTarget, if_pos hkey] at ht
  cases ht
  cases hdata.symm.trans hcheck

/-- A target that is made from data that fits is not refused for a parameter. -/
theorem createWith_blameless
    (hdata : checkData d.tag d.format.info d.size d.layers d.data = .ok ())
    (companion : Companion) :
    Attempt.Blameless (createWith d companion : Attempt DrawError (Store State) TargetKey) := by
  unfold createWith
  refine .bind (.perform _) fun answer => ?_
  cases answer with
  | error cause =>
    dsimp only
    split
    · exact .bind (.lift _) fun _ => .throw rfl
    · exact .throw rfl
  | ok name =>
    refine .bind_get fun s₁ => ?_
    intro s e s' hrun
    rw [Attempt.run_bind_ok (Attempt.run_modify _ s), Attempt.run_bind_eq_error] at hrun
    rcases hrun with hrun | ⟨_, s₂, -, hrun⟩
    · change (ExceptT.run _ : StateM (Store State) _)
        (s.addTarget (d.target s₁.nextTarget name companion)) = _ at hrun
      rw [Attempt.run_tryCatch] at hrun
      split at hrun
      · cases hrun
      · rename_i hupdate
        rw [Attempt.run_bind_ok (Attempt.run_lift _ _)] at hrun
        cases hrun
        exact update_new_blameless hdata hupdate
    · cases hrun

theorem create_blameless
    (hdata : checkData d.tag d.format.info d.size d.layers d.data = .ok ()) :
    Attempt.Blameless (create d : Attempt DrawError (Store State) TargetKey) := by
  intro s e s' hrun
  rw [run_create hdata] at hrun
  split at hrun
  · exact createWith_blameless hdata _ s e s' hrun
  · split at hrun
    · exact Attempt.RefusedFor.bind (createWith_blameless (d := d.companion) rfl _)
        (fun own => createWith_blameless hdata (.owned own)) s e s' hrun
    · exact createWith_blameless hdata _ s e s' hrun

end Store

/-! ### Tags -/

namespace Registry

variable {registry : Registry} {spec : TargetSpec} {d : TargetDescription}
  {s s' : Store State} {e : DrawError}

/-- An entry is refused for a parameter before the first of its targets is made. -/
theorem make_refused (h : (make spec d).run s = (.error e, s')) (he : e.isOfParameters) :
    s' = s := by
  by_cases hdata : checkData d.tag d.format.info d.size d.layers d.data = .ok ()
  · rw [run_make_error] at h
    have hblameless : Attempt.Blameless ((List.replicate spec.slots d).mapM
        (Store.create : TargetDescription → Attempt DrawError (Store State) TargetKey)) := by
      refine .mapM fun d' hd' => ?_
      rw [List.eq_of_mem_replicate hd']
      exact Store.create_blameless hdata
    exact absurd he (Bool.eq_false_iff.1 (hblameless s e s' h))
  · exact make_refused_data h hdata

/-- A target that is there already is checked against its own format, before it is changed. -/
theorem refresh_refused {entry : Entry} {size : UInt32 × UInt32} {data : Option PixelData}
    (h : (refresh entry size data).run s = (.error e, s')) (he : e.isOfParameters) : s' = s := by
  unfold refresh at h
  rw [Attempt.run_bind_ok (Attempt.run_get s)] at h
  split at h
  · split at h
    · exact (Store.update_refused h he).1
    · cases h
  · exact (congrArg Prod.snd h).symm

theorem prepare_refused_for (h : (registry.prepare spec).run s = (.error e, s'))
    (he : e.isOfParameters) : s' = s := by
  rcases prepare_error h with h | ⟨format, -, ⟨entry, -, h⟩ | ⟨-, h⟩⟩
  · exact h
  · exact refresh_refused h he
  · exact make_refused h he

end Registry

/-! ### Draws -/

namespace Renderer

variable {r r' : Renderer State} {bag : Params.Bag} {destination : Destination} {e : DrawError}

/-- Reading a blend spec changes nothing but what is remembered of blend specs. -/
theorem blendState_kept {spec : Option String} {result : Except DrawError (Option Blend.State)}
    (h : (blendState spec).run r = (result, r')) : r' = { r with blends := r'.blends } := by
  unfold blendState at h
  split at h
  · cases h
    rfl
  · rw [Attempt.run_bind_ok (Attempt.run_get r), Attempt.run_bind_ok (Attempt.run_modify _ r)] at h
    split at h <;> cases h <;> rfl

/-- Up to the point where a draw has its target, a refusal for a parameter has changed nothing
but what is remembered of blend specs. -/
theorem settle_refused (h : (settle bag destination).run r = (.error e, r'))
    (he : e.isOfParameters) : r' = { r with blends := r'.blends } := by
  have hbag := Attempt.run_ofExcept (Plan.ofBag bag) r
  unfold settle at h
  rw [Attempt.run_bind_eq_error] at h
  rcases h with h | ⟨plan, r₁, hplan, h⟩
  · have hr' : r = r' := congrArg Prod.snd (hbag.symm.trans h)
    rw [← hr']
  have hr₁ : r = r₁ := congrArg Prod.snd (hbag.symm.trans hplan)
  rw [← hr₁, Attempt.run_bind_eq_error] at h
  rcases h with h | ⟨blend, r₂, hblend, h⟩
  · exact blendState_kept h
  have hr₂ := blendState_kept hblend
  rw [Attempt.run_bind_eq_error] at h
  rcases h with h | ⟨resolved, r₃, -, h⟩
  · cases destination with
    | screen | texture | story => cases h
    | spec spec =>
      obtain ⟨s', hprepare, rfl⟩ := resolve_error h
      rw [Registry.prepare_refused_for hprepare he]
      exact hr₂
  · cases h

section Binding

variable {P : DrawError → Prop} (hfreed : ∀ tag, P (.freedTarget tag)) (hgl : ∀ cause, P (.gl cause))

theorem tryOnStore_refusedFor {α : Type} {act : Attempt DrawError (Store State) α}
    (h : act.RefusedFor P) : (tryOnStore act).RefusedFor P := by
  intro r e r' hrun
  rw [run_tryOnStore] at hrun
  have hfst : (act.run r.store).1 = .error e := congrArg Prod.fst hrun
  exact h r.store e (act.run r.store).2 (Prod.ext hfst rfl)

include hfreed hgl

/-- Binding is refused for a target that has been freed or for want of a framebuffer. -/
theorem bindTarget_refusedFor (key : TargetKey) (readOnly : Bool) :
    (Store.bindTarget key readOnly :
      Attempt DrawError (Store State) (UInt32 × UInt32)).RefusedFor P := by
  unfold Store.bindTarget
  have hmake (t : Target) :
      (Store.makeFramebuffer key t : Attempt DrawError (Store State) Unit).RefusedFor P := by
    refine .bind (.create hgl _) fun framebuffer => .bind (.perform _) fun _ => ?_
    refine .bind (.lift _) fun _ => .bind_get fun s => ?_
    split
    · exact .bind (.lift _) fun _ => .modify _
    · exact .modify _
  refine .bind (Store.usable_refusedFor hfreed key) fun t => ?_
  cases readOnly <;> dsimp only <;> split
  · exact .bind (.perform _) fun _ => .bind (.modify _) fun _ => .pure _
  · exact .bind (hmake t) fun _ => .bind (.modify _) fun _ => .pure _
  · exact .bind (.perform _) fun _ => .pure _
  · exact .bind (hmake t) fun _ => .pure _

theorem bind_refusedFor (resolved : Resolved) :
    (bind resolved : Attempt DrawError (Renderer State) (UInt32 × UInt32)).RefusedFor P := by
  unfold bind
  cases resolved with
  | screen => exact .bind (.perform _) fun _ => .perform _
  | texture key => exact tryOnStore_refusedFor (bindTarget_refusedFor hfreed hgl key false)
  | story key =>
    refine .bind (.modify _) fun _ => .bind_get fun r => ?_
    split
    · exact tryOnStore_refusedFor (bindTarget_refusedFor hfreed hgl _ false)
    · exact .throw (hfreed _)

end Binding

/-- A program is refused for what the compiler and the linker say of it. -/
theorem program_blameless (options : Params.Options) (uniforms : Uniform.Values) :
    Attempt.Blameless (program options uniforms : Attempt DrawError (Renderer State) _) := by
  unfold program
  refine .bind_get fun r => .bind ?_ fun _ => .bind (.modify _) fun _ => .pure _
  unfold ProgramCache.resolve
  split
  · exact .pure _
  · refine .bind (.lift _) fun sources => .bind ?_ fun _ => .pure _
    exact .bind (Attempt.Blameless.create (fun _ => rfl) _) fun vertex =>
      .bind (Attempt.Blameless.create (fun _ => rfl) _) fun fragment =>
      .bind (Attempt.Blameless.create (fun _ => rfl) _) fun name => .bind (.lift _) fun _ => .pure _

theorem render_blameless (plan : Plan) (blend : Option Blend.State) (uniforms : Uniform.Values)
    (size : UInt32 × UInt32) :
    Attempt.Blameless (render plan blend uniforms size : Attempt DrawError (Renderer State) _) := by
  have hstages : Attempt.Blameless (if plan.options.hasStages then
      runStages plan blend uniforms (plan.options.viewRect size.1 size.2)
      else Attempt.perform (.depthMask true) : Attempt DrawError (Renderer State) Unit) := by
    split
    · refine .bind (.tryCatch (program_blameless _ _) fun e he => ?_) fun _ => .lift _
      exact .bind (.perform _) fun _ => .throw he
    · exact .perform _
  refine .bind (.perform _) fun _ => ?_
  dsimp only
  split
  · exact .bind (.lift _) fun _ => hstages
  · exact hstages

/-- Once a draw has its target, it is refused for no parameter. -/
theorem paint_blameless (plan : Plan) (blend : Option Blend.State) (resolved : Resolved) :
    Attempt.Blameless (paint plan blend resolved : Attempt DrawError (Renderer State) Unit) :=
  .bind (.lift _) fun _ => .bind (bind_refusedFor (fun _ => rfl) (fun _ => rfl) resolved) fun _ =>
    render_blameless _ _ _ _

theorem draw_refused (h : (draw bag destination).run r = (.error e, r'))
    (he : e.isOfParameters) : r' = { r with blends := r'.blends } := by
  rw [draw_eq, Attempt.run_bind_eq_error] at h
  rcases h with h | ⟨⟨plan, blend, resolved⟩, r₁, -, h⟩
  · exact settle_refused h he
  · have hblameless : Attempt.Blameless (do
        unless onlyPrepares plan destination do paint plan blend resolved
        return resolved : Attempt DrawError (Renderer State) Resolved) := by
      dsimp only
      split
      · exact .pure _
      · exact .bind (paint_blameless plan blend resolved) fun _ => .pure _
    exact absurd he (Bool.eq_false_iff.1 (hblameless r₁ e r' h))

end Renderer

/-- A draw that is refused for a parameter has made no call and has changed nothing: the device,
the targets with their sizes, the stories with the order of their slots and the reads under way are
those of the store, and the tags, the programs, the index array and the samplers are as they were.
This holds of whatever renderer the draw is made on. -/
theorem parameter_error_touches_nothing {r r' : Renderer State} {bag : Params.Bag}
    {destination : Destination} {e : DrawError}
    (hdraw : (Renderer.draw bag destination).run r = (.error e, r')) (he : e.isOfParameters) :
    (recorded (Renderer.draw bag destination).run r).1.2 = [] ∧ r'.store = r.store ∧
      r'.registry = r.registry ∧ r'.programs = r.programs ∧ r'.geometry = r.geometry ∧
      r'.samplers = r.samplers := by
  obtain ⟨blends, rfl⟩ : ∃ blends, r' = { r with blends } := ⟨_, Renderer.draw_refused hdraw he⟩
  refine ⟨?_, rfl, rfl, rfl, rfl, rfl⟩
  unfold recorded
  rw [hdraw]
  exact List.drop_length

/-- A story of two slots that is given the four bytes of its pixel as one float. -/
theorem parameter_error_touches_nothing_of_story :
    ∃ r r' : Renderer State, ∃ spec e, Reachable r ∧
      r.registry.entries.get? spec.tag = some (.story ⟨0⟩) ∧
      (Renderer.draw .empty (.spec spec)).run r = (.error e, r') ∧ e.isOfParameters ∧
      r'.store = r.store := by
  have hr := ReachableBy.onePixel [.draw .empty (.spec { tag := "s", story := some 2 })]
  have hentry : (Act.afterAll .onePixel [.draw .empty (.spec { tag := "s", story := some 2 })]
      ).registry.entries.get? "s" = some (.story ⟨0⟩) := by
    decide +kernel
  have hrefused : (match ((Renderer.draw .empty (.spec
      { tag := "s", data := some (.f32 [.one]) })).run (Act.afterAll .onePixel
        [.draw .empty (.spec { tag := "s", story := some 2 })])).1 with
      | .error e => e.isOfParameters
      | .ok _ => false) = true := by
    decide +kernel
  generalize Act.afterAll .onePixel [.draw .empty (.spec { tag := "s", story := some 2 })] = r at *
  rcases hrun : (Renderer.draw .empty (.spec { tag := "s", data := some (.f32 [.one]) })).run r
    with ⟨e | _, r'⟩ <;> rw [hrun] at hrefused
  · exact ⟨r, r', _, e, hr, hentry, hrun, hrefused,
      (parameter_error_touches_nothing hrun hrefused).2.1⟩
  · cases hrefused

end DrawPass
