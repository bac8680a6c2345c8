/-
DrawPass/Proofs/Refusals.lean

Which refusals are for a stage.

A draw goes a long way before it comes to its program: the bag is read, a blend spec is read, a
target is looked up, made or given new storage, and bound.  Each of these steps can be refused, for
reasons of its own, but never because a stage does not compile (`Renderer.settle_unstaged`).  So a
draw that is refused for a stage has come to its program.
-/
import DrawPass.Proofs.ParameterErrors

namespace DrawPass

open Gl DrawPass.Geometry Software

/-- The stage that a refusal is for. -/
def DrawError.stage? : DrawError → Option Stage
  | shaderCompile stage .. => some stage
  | _ => none

/-! ### Reading a bag -/

/-- If there is no result, it is for a reason of this kind. -/
def FailsFor {ε α : Type} (P : ε → Prop) : Except ε α → Prop
  | .ok _ => True
  | .error e => P e

theorem FailsFor.bind {ε α β : Type} {P : ε → Prop} {first : Except ε α} {next : α → Except ε β}
    (h : FailsFor P first) (h' : ∀ a, FailsFor P (next a)) : FailsFor P (first >>= next) := by
  cases first with
  | error e => exact h
  | ok a => exact h' a

theorem FailsFor.map {ε α β : Type} {P : ε → Prop} {result : Except ε α} (h : FailsFor P result)
    (f : α → β) : FailsFor P (result.map f) := by
  cases result with
  | error e => exact h
  | ok a => exact trivial

theorem Attempt.RefusedFor.ofExcept {ε σ α : Type} {P : ε → Prop} {result : Except ε α}
    (h : FailsFor P result) : RefusedFor P (liftM result : Attempt ε σ α) := by
  intro s e s' hrun
  rw [Attempt.run_ofExcept] at hrun
  cases hrun
  exact h

/-- If there is no result, it is not because of a stage. -/
abbrev Unstaged {α : Type} (result : Except DrawError α) : Prop :=
  FailsFor (fun e => e.stage? = none) result

namespace Params

theorem unstaged_expect {α : Type} (name : OptionName) (expected : String) (value : Option α) :
    Unstaged (expect name expected value) := by
  cases value with
  | none => exact rfl
  | some a => exact trivial

theorem unstaged_readOption (o : Options) (name : OptionName) (value : ParamValue) :
    Unstaged (readOption o name value) := by
  cases name with
  | inc =>
    unfold readOption
    cases value with
    | uniform v => exact rfl
    | text | texts => exact trivial
  | aspect =>
    refine .bind (unstaged_expect ..) fun mode => .bind ?_ fun _ => trivial
    unfold Aspect.parse
    split
    · exact trivial
    · exact rfl
  | depthTest =>
    unfold readOption
    dsimp only
    split
    · exact trivial
    · exact .bind (unstaged_expect ..) fun _ => trivial
  | _ => exact .bind (unstaged_expect ..) fun _ => trivial

theorem unstaged_readEntry (read : Options × Uniform.Values) (name : String) (value : ParamValue) :
    Unstaged (readEntry read name value) := by
  unfold readEntry
  split
  · exact (unstaged_readOption ..).map _
  · split
    · exact trivial
    · exact rfl

theorem unstaged_split (bag : Bag) : Unstaged (split bag) := by
  unfold split
  generalize (({}, .empty) : Options × Uniform.Values) = read
  induction bag.entries generalizing read with
  | nil => exact trivial
  | cons entry entries ih => exact .bind (unstaged_readEntry read entry.1 entry.2) ih

end Params

theorem Plan.unstaged_ofBag (bag : Params.Bag) : Unstaged (ofBag bag) :=
  .bind (Params.unstaged_split bag) fun _ => .bind (Params.unstaged_expect ..) fun _ =>
    .bind (Params.unstaged_expect ..) fun _ => trivial

/-! ### Targets -/

/-- The action is never refused for a stage. -/
abbrev Attempt.Unstaged {σ α : Type} (act : Attempt DrawError σ α) : Prop :=
  act.RefusedFor fun e => e.stage? = none

theorem unstaged_checkData (tag : String) (info : FormatInfo) (size : UInt32 × UInt32)
    (layers : Option UInt32) (data : Option PixelData) :
    Unstaged (checkData tag info size layers data) := by
  unfold checkData
  cases data with
  | none => exact trivial
  | some d =>
    dsimp only
    split
    · exact rfl
    · exact trivial

namespace Store

variable {d : TargetDescription}

theorem usable_unstaged (key : TargetKey) :
    (usable key : Attempt DrawError (Store State) Target).Unstaged :=
  usable_refusedFor (fun _ => rfl) key

theorem respecify_unstaged (key : TargetKey) (size : UInt32 × UInt32) (data : Option PixelData) :
    (respecify key size data : Attempt DrawError (Store State) Unit).Unstaged := by
  unfold respecify
  refine .bind (usable_unstaged key) fun t => .bind (.ofExcept (unstaged_checkData ..)) fun _ => ?_
  exact .bind (.perform _) fun _ => .modify _

theorem update_unstaged (key : TargetKey) (size : UInt32 × UInt32) (data : Option PixelData) :
    (update key size data : Attempt DrawError (Store State) Unit).Unstaged := by
  unfold update
  refine .bind (usable_unstaged key) fun t => .bind (respecify_unstaged _ _ _) fun _ => ?_
  split
  · exact respecify_unstaged _ _ _
  · exact .pure _

theorem createWith_unstaged (d : TargetDescription) (companion : Companion) :
    (createWith d companion : Attempt DrawError (Store State) TargetKey).Unstaged := by
  unfold createWith
  refine .bind (.perform _) fun answer => ?_
  split
  · dsimp only
    split
    · exact .bind (.lift _) fun _ => .throw rfl
    · exact .throw rfl
  · refine .bind_get fun s => .bind (.modify _) fun _ => ?_
    refine .bind (.tryCatch (update_unstaged _ _ _) fun e he => ?_) fun _ => .pure _
    exact .bind (.lift _) fun _ => .throw he

theorem create_unstaged (d : TargetDescription) :
    (create d : Attempt DrawError (Store State) TargetKey).Unstaged := by
  unfold create
  refine .bind (.ofExcept (unstaged_checkData ..)) fun _ => ?_
  split
  · exact createWith_unstaged _ _
  · split
    · exact .bind (createWith_unstaged _ _) fun _ => createWith_unstaged _ _
    · exact createWith_unstaged _ _

end Store

namespace Registry

theorem refresh_unstaged (entry : Entry) (size : UInt32 × UInt32) (data : Option PixelData) :
    (refresh entry size data : Attempt DrawError (Store State) Unit).Unstaged := by
  unfold refresh
  refine .bind_get fun s => ?_
  split
  · split
    · exact Store.update_unstaged _ _ _
    · exact .pure _
  · exact .throw rfl

theorem make_unstaged (spec : TargetSpec) (d : TargetDescription) :
    (make spec d : Attempt DrawError (Store State) Entry).Unstaged := by
  unfold make
  split
  · refine .bind (Store.create_unstaged d) fun current => ?_
    refine .bind (.mapM fun d _ => Store.create_unstaged d) fun slots => ?_
    exact .bind (.lift _) fun _ => .pure _
  · exact .bind (Store.create_unstaged d) fun _ => .pure _

theorem prepare_unstaged (registry : Registry) (spec : TargetSpec) :
    (registry.prepare spec : Attempt DrawError (Store State) (Resolved × Registry)).Unstaged := by
  -- No stage is compiled in a preparation, so no refusal is about one.
  have hformat : Unstaged (registry.formatOf spec) := by
    unfold formatOf
    split
    · exact trivial
    · split
      · exact trivial
      · exact rfl
  have hbytes (format : TargetFormat) (size : UInt32 × UInt32) :
      Unstaged (checkBytes spec format size) := by
    unfold checkBytes
    split
    · exact trivial
    · dsimp only
      split
      · exact rfl
      · exact trivial
  unfold prepare
  dsimp only
  split
  · refine .throw_bind ?_ _
    rfl
  · refine .bind (.ofExcept hformat) fun format => .bind (.perform _) fun surface => ?_
    refine .bind (.ofExcept (hbytes _ _)) fun _ => ?_
    split
    · exact .bind (refresh_unstaged _ _ _) fun _ => .pure _
    · exact .bind (make_unstaged _ _) fun _ => .pure _

end Registry

/-! ### Draws -/

namespace Renderer

theorem blendState_unstaged (spec : Option String) :
    (blendState spec : Attempt DrawError (Renderer State) (Option Blend.State)).Unstaged := by
  unfold blendState
  split
  · exact .pure _
  · refine .bind_get fun r => .bind (.modify _) fun _ => ?_
    split
    · exact .pure _
    · exact .throw rfl

theorem resolve_unstaged (destination : Destination) :
    (resolve destination : Attempt DrawError (Renderer State) Resolved).Unstaged := by
  cases destination with
  | screen | texture | story => exact .pure _
  | spec spec =>
    refine .bind_get fun r => .bind ?_ fun _ => .bind (.modify _) fun _ => .pure _
    exact tryOnStore_refusedFor (Registry.prepare_unstaged r.registry spec)

/-- Before a draw is bound, nothing is refused for a stage. -/
theorem settle_unstaged (bag : Params.Bag) (destination : Destination) :
    (settle bag destination : Attempt DrawError (Renderer State) _).Unstaged := by
  unfold settle
  refine .bind (.ofExcept (Plan.unstaged_ofBag bag)) fun plan => ?_
  exact .bind (blendState_unstaged _) fun _ => .bind (resolve_unstaged _) fun _ => .pure _

theorem bind_unstaged (resolved : Resolved) :
    (bind resolved : Attempt DrawError (Renderer State) (UInt32 × UInt32)).Unstaged :=
  bind_refusedFor (fun _ => rfl) (fun _ => rfl) resolved

end Renderer

end DrawPass
