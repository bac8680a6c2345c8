/-
DrawPass/Proofs/Action.lean

Reasoning about actions by what they do to their state.

An action *moves* its state along a relation if the state before and the state after
are related however the action ends.  For a preorder this is closed under sequencing,
choice and loops, so a function of the library moves along a preorder as soon as the
commands it gives and the fields it sets do.  A refused action has moved its state as
well: what it did up to the refusal is not taken back.

Where more is to be said than a preorder can say, `Attempt.run_bind` and its
companions carry an action out step by step.
-/
import DrawPass.Error
import Mathlib.Order.Defs.Unbundled

namespace DrawPass

variable {ε ε' σ α β : Type} {R R' : σ → σ → Prop}

/-! ### Actions that are not refused -/

/-- However the action goes, the states before and after are related. -/
def Moves (R : σ → σ → Prop) (act : StateM σ α) : Prop := ∀ s, R s (act s).2

namespace Moves

theorem mono {act : StateM σ α} (h : Moves R act) (hR : ∀ s s', R s s' → R' s s') :
    Moves R' act := fun s => hR s _ (h s)

theorem modify {f : σ → σ} (h : ∀ s, R s (f s)) : Moves R (modify f : StateM σ PUnit) := h

theorem modifyGet {f : σ → α × σ} (h : ∀ s, R s (f s).2) :
    Moves R (modifyGet f : StateM σ α) := h

variable [IsPreorder σ R]

theorem pure (a : α) : Moves R (Pure.pure a : StateM σ α) := fun s => refl s

theorem get : Moves R (MonadState.get : StateM σ σ) := fun s => refl s

/-- The first step need only be known in the state in which it is done. -/
theorem bind_at {act : StateM σ α} {next : α → StateM σ β} {s : σ} (h : R s (act s).2)
    (h' : ∀ a, Moves R (next a)) : R s ((act >>= next) s).2 :=
  IsTrans.trans s _ _ h (h' _ _)

theorem bind {act : StateM σ α} {next : α → StateM σ β} (h : Moves R act)
    (h' : ∀ a, Moves R (next a)) : Moves R (act >>= next) :=
  fun s => bind_at (h s) h'

omit [IsPreorder σ R] in
/-- What follows a look at the state may count on the state that was seen. -/
theorem bind_get {next : σ → StateM σ α} (h : ∀ s, R s (next s s).2) :
    Moves R (MonadState.get >>= next) := h

theorem foldlM {f : β → α → StateM σ β} (h : ∀ b a, Moves R (f b a)) (l : List α) (b : β) :
    Moves R (l.foldlM f b) := by
  induction l generalizing b with
  | nil => exact pure b
  | cons a l ih =>
    rw [List.foldlM_cons]
    exact bind (h b a) ih

theorem forIn {f : α → β → StateM σ (ForInStep β)} (h : ∀ a b, Moves R (f a b)) (l : List α)
    (b : β) : Moves R (ForIn.forIn l b f) := by
  induction l generalizing b with
  | nil => exact pure b
  | cons a l ih =>
    rw [List.forIn_cons]
    refine bind (h a b) fun next => ?_
    cases next with
    | done b => exact pure b
    | yield b => exact ih b

/-- Actions done one after the other. -/
theorem foldl {act : α → StateM σ β} {l : List α} (h : ∀ a ∈ l, Moves R (act a)) (s : σ) :
    R s (l.foldl (fun s a => (act a s).2) s) := by
  induction l generalizing s with
  | nil => exact refl s
  | cons a l ih =>
    rw [List.forall_mem_cons] at h
    exact IsTrans.trans s _ _ (h.1 s) (ih h.2 _)

end Moves

/-- An action whose first step is known. -/
theorem run_bind_eq {act : StateM σ α} {next : α → StateM σ β} {s s' : σ} {a : α}
    (h : act s = (a, s')) : (act >>= next) s = next a s' :=
  congrArg (fun r : α × σ => next r.1 r.2) h

theorem run_get_bind (next : σ → StateM σ α) (s : σ) :
    (MonadState.get >>= next) s = next s s := rfl

/-- A walk along a list with one action for each entry, and what comes after it. -/
theorem run_forIn_bind (act : α → StateM σ PUnit) (l : List α) (next : StateM σ β) (s : σ) :
    (do
      for a in l do act a
      next : StateM σ β) s = next (l.foldl (fun s a => (act a s).2) s) := by
  induction l generalizing s with
  | nil => rfl
  | cons a l ih =>
    rw [List.forIn_cons]
    exact ih (act a s).2

/-! ### Actions that may be refused -/

namespace Attempt

/-- However the action ends, the states before and after are related. -/
def Moves (R : σ → σ → Prop) (act : Attempt ε σ α) : Prop := ∀ s, R s (act.run s).2

/-! One step of an action at a time. -/

theorem run_pure (a : α) (s : σ) : (pure a : Attempt ε σ α).run s = (.ok a, s) := rfl

theorem run_get (s : σ) : (get : Attempt ε σ σ).run s = (.ok s, s) := rfl

theorem run_modify (f : σ → σ) (s : σ) :
    (modify f : Attempt ε σ PUnit).run s = (.ok ⟨⟩, f s) := rfl

theorem run_lift (act : StateM σ α) (s : σ) :
    (ExceptT.lift act : Attempt ε σ α).run s = (.ok (act s).1, (act s).2) := rfl

/-- An action that is never refused. -/
theorem run_lift_ok {act : StateM σ α} {s s' : σ} {a : α} (h : act s = (a, s')) :
    (ExceptT.lift act : Attempt ε σ α).run s = (.ok a, s') := by
  rw [run_lift, h]

theorem run_perform [Gl.Device σ] (command : Gl.Command α) (s : σ) :
    (Attempt.perform command : Attempt ε σ α).run s =
      (.ok ((Gl.perform command : StateM σ α) s).1, ((Gl.perform command : StateM σ α) s).2) := rfl

theorem run_create [Gl.Device σ] (refusal : String → ε)
    (command : Gl.Command (Except String Gl.Name)) (s : σ) :
    (Attempt.create refusal command : Attempt ε σ Gl.Name).run s =
      (((Gl.perform command : StateM σ _) s).1.mapError refusal,
        ((Gl.perform command : StateM σ _) s).2) := by
  unfold Attempt.create
  rcases hperform : (Gl.perform command : StateM σ _) s with ⟨e | a, s'⟩ <;>
    exact run_bind_eq hperform

theorem run_ofExcept (result : Except ε α) (s : σ) :
    (liftM result : Attempt ε σ α).run s = (result, s) := by
  cases result <;> rfl

theorem run_ofExcept_ok {result : Except ε α} {a : α} (h : result = .ok a) (s : σ) :
    (liftM result : Attempt ε σ α).run s = (.ok a, s) := by
  rw [run_ofExcept, h]

theorem run_ofExcept_error {result : Except ε α} {e : ε} (h : result = .error e) (s : σ) :
    (liftM result : Attempt ε σ α).run s = (.error e, s) := by
  rw [run_ofExcept, h]

theorem run_bind (act : Attempt ε σ α) (next : α → Attempt ε σ β) (s : σ) :
    (act >>= next).run s =
      match act.run s with
      | (.ok a, s') => (next a).run s'
      | (.error e, s') => (.error e, s') := by
  change ExceptT.bindCont next (act.run s).1 (act.run s).2 = _
  rcases act.run s with ⟨e | a, s'⟩ <;> rfl

theorem run_tryCatch (act : Attempt ε σ α) (handle : ε → Attempt ε σ α) (s : σ) :
    (tryCatch act handle).run s =
      match act.run s with
      | (.ok a, s') => (.ok a, s')
      | (.error e, s') => (handle e).run s' := by
  change (match (act.run s).1 with
    | .ok a => pure (.ok a)
    | .error e => (handle e).run : StateM σ (Except ε α)) (act.run s).2 = _
  rcases act.run s with ⟨e | a, s'⟩ <;> rfl

theorem run_adapt (f : ε → ε') (act : Attempt ε σ α) (s : σ) :
    (ExceptT.adapt f act).run s = ((act.run s).1.mapError f, (act.run s).2) := by
  rfl

/-- An action whose first step goes through. -/
theorem run_bind_ok {act : Attempt ε σ α} {next : α → Attempt ε σ β} {s s' : σ} {a : α}
    (h : act.run s = (.ok a, s')) : (act >>= next).run s = (next a).run s' := by
  rw [run_bind, h]

/-- An action whose first step is refused. -/
theorem run_bind_error {act : Attempt ε σ α} {next : α → Attempt ε σ β} {s s' : σ} {e : ε}
    (h : act.run s = (.error e, s')) : (act >>= next).run s = (.error e, s') := by
  rw [run_bind, h]

/-- An action that is not refused needs no handler. -/
theorem run_tryCatch_ok {act : Attempt ε σ α} {handle : ε → Attempt ε σ α} {s s' : σ} {a : α}
    (h : act.run s = (.ok a, s')) : (tryCatch act handle).run s = (.ok a, s') := by
  rw [run_tryCatch, h]

/-- A refusal is left to the handler. -/
theorem run_tryCatch_error {act : Attempt ε σ α} {handle : ε → Attempt ε σ α} {s s' : σ} {e : ε}
    (h : act.run s = (.error e, s')) : (tryCatch act handle).run s = (handle e).run s' := by
  rw [run_tryCatch, h]

/-- An action goes through if both its steps do. -/
theorem run_bind_eq_ok {act : Attempt ε σ α} {next : α → Attempt ε σ β} {s s'' : σ} {b : β} :
    (act >>= next).run s = (.ok b, s'') ↔
      ∃ a s', act.run s = (.ok a, s') ∧ (next a).run s' = (.ok b, s'') := by
  constructor
  · intro h
    rcases hr : act.run s with ⟨e | a, s'⟩
    · rw [run_bind_error hr] at h
      cases h
    · exact ⟨a, s', rfl, by rwa [run_bind_ok hr] at h⟩
  · rintro ⟨a, s', hr, h⟩
    rw [run_bind_ok hr, h]

/-- An action is refused if one of its steps is. -/
theorem run_bind_eq_error {act : Attempt ε σ α} {next : α → Attempt ε σ β} {s s'' : σ} {e : ε} :
    (act >>= next).run s = (.error e, s'') ↔
      act.run s = (.error e, s'') ∨
        ∃ a s', act.run s = (.ok a, s') ∧ (next a).run s' = (.error e, s'') := by
  constructor
  · intro h
    rcases hr : act.run s with ⟨e' | a, s'⟩
    · rw [run_bind_error hr] at h
      cases h
      exact .inl rfl
    · exact .inr ⟨a, s', rfl, by rwa [run_bind_ok hr] at h⟩
  · rintro (hr | ⟨a, s', hr, h⟩)
    · exact run_bind_error hr
    · rw [run_bind_ok hr, h]

/-- An action that goes through has an answer. -/
theorem exists_answer {act : Attempt ε σ α} {s : σ} (h : (act.run s).1.toOption.isSome) :
    ∃ a, (act.run s).1 = .ok a := by
  rcases hact : (act.run s).1 with e | a
  · rw [hact] at h
    cases h
  · exact ⟨a, rfl⟩

/-- An action that does not go through is refused. -/
theorem exists_run_eq_error {act : Attempt ε σ α} {s : σ}
    (h : (act.run s).1.toOption.isNone) : ∃ e s', act.run s = (.error e, s') := by
  rcases hact : act.run s with ⟨e | a, s'⟩
  · exact ⟨e, s', rfl⟩
  · rw [hact] at h
    cases h

namespace Moves

/-- One way the action went. -/
theorem of_run {act : Attempt ε σ α} (h : Moves R act) {s s' : σ} {result : Except ε α}
    (hrun : act.run s = (result, s')) : R s s' := by
  have hs := h s
  rwa [hrun] at hs

theorem mono {act : Attempt ε σ α} (h : Moves R act) (hR : ∀ s s', R s s' → R' s s') :
    Moves R' act := fun s => hR s _ (h s)

theorem modify {f : σ → σ} (h : ∀ s, R s (f s)) :
    Moves R (modify f : Attempt ε σ PUnit) := h

theorem modifyGet {f : σ → α × σ} (h : ∀ s, R s (f s).2) :
    Moves R (modifyGet f : Attempt ε σ α) := h

theorem lift {act : StateM σ α} (h : DrawPass.Moves R act) :
    Moves R (ExceptT.lift act : Attempt ε σ α) := h

theorem adapt {act : Attempt ε σ α} (f : ε → ε') (h : Moves R act) :
    Moves R (ExceptT.adapt f act) := by
  intro s
  rw [run_adapt]
  exact h s

theorem create [Gl.Device σ] {command : Gl.Command (Except String Gl.Name)}
    {refusal : String → ε} (h : DrawPass.Moves R (Gl.perform command : StateM σ _)) :
    Moves R (Attempt.create refusal command : Attempt ε σ Gl.Name) := by
  intro s
  rw [run_create]
  exact h s

variable [IsPreorder σ R]

theorem pure (a : α) : Moves R (Pure.pure a : Attempt ε σ α) := fun s => refl s

theorem throw (e : ε) : Moves R (MonadExcept.throw e : Attempt ε σ α) := fun s => refl s

theorem throw_bind (e : ε) (next : α → Attempt ε σ β) :
    Moves R (MonadExcept.throw e >>= next) := fun s => refl s

theorem get : Moves R (MonadState.get : Attempt ε σ σ) := fun s => refl s

theorem ofExcept (result : Except ε α) : Moves R (liftM result : Attempt ε σ α) := by
  intro s
  rw [run_ofExcept]
  exact refl s

/-- The first step need only be known in the state in which it is done. -/
theorem bind_at {act : Attempt ε σ α} {next : α → Attempt ε σ β} {s : σ}
    (h : R s (act.run s).2) (h' : ∀ a, Moves R (next a)) : R s ((act >>= next).run s).2 := by
  rcases hr : act.run s with ⟨e | a, s'⟩ <;> rw [hr] at h
  · rw [run_bind_error hr]
    exact h
  · rw [run_bind_ok hr]
    exact IsTrans.trans s s' _ h (h' a s')

theorem bind {act : Attempt ε σ α} {next : α → Attempt ε σ β} (h : Moves R act)
    (h' : ∀ a, Moves R (next a)) : Moves R (act >>= next) :=
  fun s => bind_at (h s) h'

omit [IsPreorder σ R] in
theorem bind_get {next : σ → Attempt ε σ α} (h : ∀ s, R s ((next s).run s).2) :
    Moves R (MonadState.get >>= next) := h

theorem tryCatch {act : Attempt ε σ α} {handle : ε → Attempt ε σ α} (h : Moves R act)
    (h' : ∀ e, Moves R (handle e)) : Moves R (tryCatch act handle) := by
  intro s
  have hs := h s
  rw [run_tryCatch]
  rcases hr : act.run s with ⟨e | a, s'⟩ <;> rw [hr] at hs
  · exact IsTrans.trans s s' _ hs (h' e s')
  · exact hs

theorem mapM {f : α → Attempt ε σ β} {l : List α} (h : ∀ a ∈ l, Moves R (f a)) :
    Moves R (l.mapM f) := by
  induction l with
  | nil =>
    rw [List.mapM_nil]
    exact pure _
  | cons a l ih =>
    obtain ⟨ha, hl⟩ := List.forall_mem_cons.1 h
    rw [List.mapM_cons]
    exact bind ha fun b => bind (ih hl) fun bs => pure _

end Moves

/-! ### Answers -/

/-- The action moves its state along the relation, and what it answers is as it should be. -/
def Gives (R : σ → σ → Prop) (P : α → Prop) (act : Attempt ε σ α) : Prop :=
  Moves R act ∧ ∀ s a, (act.run s).1 = .ok a → P a

namespace Gives

variable [IsPreorder σ R] {P : α → Prop} {Q : β → Prop}

theorem pure {a : α} (h : P a) : Gives R P (Pure.pure a : Attempt ε σ α) := by
  refine ⟨.pure a, fun s b hb => ?_⟩
  cases hb
  exact h

theorem throw (e : ε) : Gives R P (MonadExcept.throw e : Attempt ε σ α) := ⟨.throw e, nofun⟩

theorem throw_bind (e : ε) (next : β → Attempt ε σ α) :
    Gives R P (MonadExcept.throw e >>= next) := ⟨.throw_bind e next, nofun⟩

theorem bind {act : Attempt ε σ β} {next : β → Attempt ε σ α} (h : Gives R Q act)
    (h' : ∀ b, Q b → Gives R P (next b)) : Gives R P (act >>= next) := by
  constructor
  · intro s
    have hs := h.1 s
    rcases hact : act.run s with ⟨e | b, s'⟩ <;> rw [hact] at hs
    · rw [run_bind_error hact]
      exact hs
    · rw [run_bind_ok hact]
      exact IsTrans.trans s s' _ hs ((h' b (h.2 s b (congrArg Prod.fst hact))).1 s')
  · intro s a ha
    rcases hact : act.run s with ⟨e | b, s'⟩
    · rw [run_bind_error hact] at ha
      cases ha
    · rw [run_bind_ok hact] at ha
      exact (h' b (h.2 s b (congrArg Prod.fst hact))).2 s' a ha

/-- Nothing need be known of what the first step answers. -/
theorem after {act : Attempt ε σ β} {next : β → Attempt ε σ α} (h : Moves R act)
    (h' : ∀ b, Gives R P (next b)) : Gives R P (act >>= next) :=
  bind (Q := fun _ => True) ⟨h, fun _ _ _ => trivial⟩ fun b _ => h' b

end Gives

end Attempt

end DrawPass
