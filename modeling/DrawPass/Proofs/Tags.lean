/-
DrawPass/Proofs/Tags.lean

Who touches the tags.

A renderer learns a tag when a draw prepares the target of its spec, and forgets all tags
when it is reset.  Nothing else has to do with them: what comes after the preparation of a
draw looks at the store and at what the renderer remembers of programs, samplers and the
index array (`paint_sameTags`), and the other acts change the store alone.  So a tag stands
for the same entry until the next reset (`Act.entry_afterAll`).
-/
import DrawPass.Proofs.ParameterErrors
import DrawPass.Proofs.StoryHistory
import DrawPass.Proofs.TargetCommands

namespace DrawPass

open Gl DrawPass.Geometry Shader Software

namespace Renderer

variable {ε α : Type}

/-! ### Painting leaves the tags alone -/

/-- The tags stand for what they did. -/
def SameTags (r r' : Renderer State) : Prop := r'.registry = r.registry

instance : IsPreorder (Renderer State) SameTags where
  refl _ := rfl
  trans _ _ _ h h' := h'.trans h

theorem perform_sameTags (command : Command α) :
    Moves SameTags (perform command : StateM (Renderer State) α) := fun _ => rfl

theorem tryOnStore_sameTags (act : Attempt ε (Store State) α) :
    Attempt.Moves SameTags (tryOnStore act) := fun _ => rfl

theorem ensure_sameTags (a : IndexArray) (needed : UInt32) :
    Moves SameTags (a.ensure needed : StateM (Renderer State) IndexArray) := by
  intro r
  unfold IndexArray.ensure
  split <;> rfl

theorem bind_sameTags (resolved : Resolved) : Attempt.Moves SameTags
    (bind resolved : Attempt DrawError (Renderer State) (UInt32 × UInt32)) := by
  unfold bind
  split
  · exact .bind (.lift (perform_sameTags _)) fun _ => .lift (perform_sameTags _)
  · exact tryOnStore_sameTags _
  · refine .bind (.modify fun r => rfl) fun _ => .bind .get fun r => ?_
    split
    · exact tryOnStore_sameTags _
    · exact .throw _

theorem introspect_sameTags (name : Name) :
    Moves SameTags (Program.introspect name : StateM (Renderer State) (List Setter)) :=
  Program.introspect_moves (perform_sameTags _) (perform_sameTags _) (perform_sameTags _)
    (fun _ => perform_sameTags _) fun _ _ => perform_sameTags _

theorem program_sameTags (options : Params.Options) (uniforms : Uniform.Values) :
    Attempt.Moves SameTags
      (program options uniforms : Attempt DrawError (Renderer State) Shader.Program) := by
  have assemble (key : ProgramKey) :
      Moves SameTags (assemble key uniforms : StateM (Renderer State) Sources) :=
    .modifyGet fun r => rfl
  have make (refusal : String → DrawError) (command : Command (Except String Name)) :
      Attempt.Moves SameTags
        (Attempt.create refusal command : Attempt DrawError (Renderer State) Name) :=
    .create (perform_sameTags command)
  unfold program
  dsimp only
  refine .bind .get fun r => .bind ?_ fun _ => .bind (.modify fun r => rfl) fun _ => .pure _
  unfold ProgramCache.resolve
  split
  · exact .pure _
  · refine .bind (.lift (assemble _)) fun sources => .bind ?_ fun _ => .pure _
    refine .bind (make _ _) fun vertex => .bind (make _ _) fun fragment => ?_
    exact .bind (make _ _) fun name => .bind (.lift (introspect_sameTags name)) fun _ => .pure _

theorem drawStrip_sameTags (plan : Plan) (program : Shader.Program) (uniforms : Uniform.Values) :
    Moves SameTags (drawStrip plan program uniforms : StateM (Renderer State) Unit) := by
  unfold drawStrip
  refine .bind .get fun r => .bind (ensure_sameTags _ _) fun geometry => ?_
  refine .bind (.modify fun r => rfl) fun _ => .bind (perform_sameTags _) fun _ => ?_
  refine .bind .get fun r => .bind (fun _ => rfl) fun samplers => ?_
  exact .bind (.modify fun r => rfl) fun _ => perform_sameTags _

theorem render_sameTags (plan : Plan) (blend : Option Blend.State) (uniforms : Uniform.Values)
    (size : UInt32 × UInt32) : Attempt.Moves SameTags
      (render plan blend uniforms size : Attempt DrawError (Renderer State) Unit) := by
  have set (command : Command Unit) (_ : command.isSetting) :
      Moves SameTags (perform command : StateM (Renderer State) Unit) := perform_sameTags command
  have switch (command : Command Unit) (_ : command.isSetting) (_ : command.sparesTargets) :
      Moves SameTags (perform command : StateM (Renderer State) Unit) := perform_sameTags command
  refine render_moves_of set (fun view => ?_) size
  refine runStages_moves_of set (program_sameTags _ _) fun program => ?_
  refine .bind (perform_sameTags _) fun _ => .bind (setState_moves switch _ _) fun _ => ?_
  refine .bind (perform_sameTags _) fun _ => .bind (drawStrip_sameTags _ _ _) fun _ => ?_
  exact revertState_moves switch _ _

/-- What comes after the preparation of a draw leaves the tags alone. -/
theorem paint_sameTags (plan : Plan) (blend : Option Blend.State) (resolved : Resolved) :
    Attempt.Moves SameTags
      (paint plan blend resolved : Attempt DrawError (Renderer State) Unit) := by
  unfold paint
  refine .bind (.lift fun r => ?_) fun uniforms => .bind (bind_sameTags resolved) fun size =>
    render_sameTags plan blend uniforms size
  rw [withSource_state]
  rfl

/-! ### Preparing -/

/-- The preparation of a target leaves the tags that are there alone, and adds none but its own. -/
theorem entry_prepare {registry registry' : Registry} {spec : TargetSpec} {resolved : Resolved}
    {s s' : Store State} {tag : String} {entry : Entry}
    (h : (registry.prepare spec).run s = (.ok (resolved, registry'), s'))
    (hentry : registry.entries.get? tag = some entry) :
    registry'.entries.get? tag = some entry := by
  cases Registry.prepare_prepared h with
  | found => exact hentry
  | made _ hnew =>
    refine (Table.get?_insert ..).trans ((if_neg ?_).trans hentry)
    rintro rfl
    rw [hnew] at hentry
    cases hentry

/-! ### Settling -/

/-- How a draw can settle on its target: what becomes of the store and of the tags. -/
inductive Settled (destination : Destination) (r r' : Renderer State) :
    Except DrawError (Plan × Option Blend.State × Resolved) → Prop
  /-- No target is prepared, or the draw has been refused before that. -/
  | apart {result : Except DrawError (Plan × Option Blend.State × Resolved)}
      (hstore : r'.store = r.store) (htags : r'.registry = r.registry)
      (hresult : (∀ spec, destination ≠ .spec spec) ∨ ∃ e, result = .error e) :
      Settled destination r r' result
  | refused {spec : TargetSpec} {e : DrawError} (hspec : destination = .spec spec)
      (hprepare : (r.registry.prepare spec).run r.store = (.error e, r'.store))
      (htags : r'.registry = r.registry) : Settled destination r r' (.error e)
  | prepared {spec : TargetSpec} {plan : Plan} {blend : Option Blend.State} {resolved : Resolved}
      (hspec : destination = .spec spec)
      (hprepare : (r.registry.prepare spec).run r.store =
        (.ok (resolved, r'.registry), r'.store)) :
      Settled destination r r' (.ok (plan, blend, resolved))

variable {r r' : Renderer State} {bag : Params.Bag} {destination : Destination}

/-- The preparation of a target, as a stage of a draw. -/
theorem run_resolve_spec (spec : TargetSpec) (r : Renderer State) :
    (resolve (.spec spec)).run r = match (r.registry.prepare spec).run r.store with
      | (.ok (resolved, registry), store) => (.ok resolved, { r with store, registry })
      | (.error e, store) => (.error e, { r with store }) := by
  have htry := run_tryOnStore (r.registry.prepare spec) r
  unfold resolve
  rw [Attempt.run_bind_ok (Attempt.run_get r)]
  rcases hrun : (r.registry.prepare spec).run r.store with ⟨e | ⟨resolved, registry⟩, s'⟩ <;>
    rw [hrun] at htry
  · exact Attempt.run_bind_error htry
  · rw [Attempt.run_bind_ok htry]
    rfl

theorem settle_settled {result : Except DrawError (Plan × Option Blend.State × Resolved)}
    (h : (settle bag destination).run r = (result, r')) : Settled destination r r' result := by
  have hbag := Attempt.run_ofExcept (Plan.ofBag bag) r
  unfold settle at h
  rcases hplan : Plan.ofBag bag with e | plan <;> rw [hplan] at hbag h
  · rw [Attempt.run_bind_error hbag] at h
    cases h
    exact .apart rfl rfl (.inr ⟨e, rfl⟩)
  rw [Attempt.run_bind_ok hbag] at h
  rcases hblend : (blendState plan.options.blend).run r with ⟨e | blend, r₁⟩
  · rw [Attempt.run_bind_error hblend] at h
    cases h
    rw [blendState_kept hblend]
    exact .apart rfl rfl (.inr ⟨e, rfl⟩)
  rw [Attempt.run_bind_ok hblend] at h
  obtain ⟨hstore, hregistry⟩ : r₁.store = r.store ∧ r₁.registry = r.registry := by
    rw [blendState_kept hblend]
    exact ⟨rfl, rfl⟩
  cases destination with
  | spec spec =>
    have hresolve := run_resolve_spec spec r₁
    rw [hstore, hregistry] at hresolve
    rcases hrun : (r.registry.prepare spec).run r.store with ⟨e | ⟨resolved, registry⟩, s'⟩ <;>
      rw [hrun] at hresolve
    · rw [Attempt.run_bind_error hresolve] at h
      cases h
      exact .refused rfl hrun rfl
    · rw [Attempt.run_bind_ok hresolve] at h
      cases h
      exact .prepared rfl hrun
  | screen | texture | story =>
    -- What is there already is found without the tags.
    rw [Attempt.run_bind_ok (show (resolve _).run r₁ = (.ok _, r₁) from rfl)] at h
    cases h
    exact .apart hstore hregistry (.inl fun _ => by simp)

/-- What painting keeps is as it was when the draw had settled. -/
theorem settle_draw {R : Renderer State → Renderer State → Prop} [IsPreorder (Renderer State) R]
    (hpaint : ∀ plan blend resolved, Attempt.Moves R
      (paint plan blend resolved : Attempt DrawError (Renderer State) Unit))
    (bag : Params.Bag) (destination : Destination) (r : Renderer State) :
    R ((settle bag destination).run r).2 ((draw bag destination).run r).2 := by
  have hrest (plan : Plan) (blend : Option Blend.State) (resolved : Resolved) :
      Attempt.Moves R (do
        unless onlyPrepares plan destination do paint plan blend resolved
        return resolved : Attempt DrawError (Renderer State) Resolved) := by
    dsimp only
    split
    · exact .pure _
    · exact .bind (hpaint plan blend resolved) fun _ => .pure _
  rw [draw_eq]
  rcases hsettle : (settle bag destination).run r with ⟨e | ⟨plan, blend, resolved⟩, r₁⟩
  · rw [Attempt.run_bind_error hsettle]
    exact refl r₁
  · rw [Attempt.run_bind_ok hsettle]
    exact hrest plan blend resolved r₁

/-! ### Tags last -/

/-- Settling on a target leaves the tags that are there alone. -/
theorem Settled.entry {result : Except DrawError (Plan × Option Blend.State × Resolved)}
    (h : Settled destination r r' result) {tag : String} {entry : Entry}
    (hentry : r.registry.entries.get? tag = some entry) :
    r'.registry.entries.get? tag = some entry := by
  cases h with
  | apart _ htags => rwa [htags]
  | refused _ _ htags => rwa [htags]
  | prepared _ hprepare => exact entry_prepare hprepare hentry

end Renderer

variable {r : Renderer State} {tag : String} {entry : Entry}

/-- Only a reset makes a renderer forget a tag. -/
theorem Act.entry_after {act : Act} (hact : act ≠ .reset)
    (hentry : r.registry.entries.get? tag = some entry) :
    (act.after r).registry.entries.get? tag = some entry := by
  cases act with
  | reset => exact absurd rfl hact
  | draw bag destination =>
    have hsame := Renderer.settle_draw Renderer.paint_sameTags bag destination r
    rcases hsettle : (Renderer.settle bag destination).run r with ⟨result, r₁⟩
    rw [hsettle] at hsame
    change ((Renderer.draw bag destination).run r).2.registry.entries.get? tag = some entry
    rw [hsame]
    exact (Renderer.settle_settled hsettle).entry hentry
  | _ =>
    rw [Act.after_aside rfl]
    exact hentry

/-- A tag stands for the same entry until the next reset. -/
theorem Act.entry_afterAll {acts : List Act} (hacts : ∀ act ∈ acts, act ≠ .reset)
    (hentry : r.registry.entries.get? tag = some entry) :
    (Act.afterAll r acts).registry.entries.get? tag = some entry := by
  induction acts generalizing r with
  | nil => exact hentry
  | cons act acts ih =>
    rw [List.forall_mem_cons] at hacts
    exact ih hacts.2 (Act.entry_after hacts.1 hentry)

end DrawPass
