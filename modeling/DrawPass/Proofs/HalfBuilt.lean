/-
DrawPass/Proofs/HalfBuilt.lean

What the device on an OpenGL driver leaves half-built.

A stage that does not compile is deleted, and so is a program that does not link, each once.  The
stages of a program are deleted whether it links or not (`compileShader_settles`,
`linkProgram_settles`).  Which of this happens, the driver decides, so nothing is assumed of its
state: what is to be shown of a reply is carried backwards over the calls, one at a time (`Yields`).

Together with the bindings, these are the traces that a command could leave behind
(`nothing_left_behind`).
-/
import DrawPass.Proofs.Bindings

namespace DrawPass.OpenGl

open Gl

variable {α β : Type}

/-! ### Replies and calls -/

/-- However the driver replies, the result and the calls that have been written down are as
said. -/
def Yields (P : α → List Call → Prop) (act : Driver α) : Prop :=
  ∀ d, ∃ calls, (act d).2.calls = d.calls ++ calls ∧ P (act d).1 calls

namespace Yields

variable {P : α → List Call → Prop} {function kind : String} {arguments : List Argument}

theorem pure {a : α} (h : P a []) : Yields P (Pure.pure a) := fun d =>
  ⟨[], (List.append_nil d.calls).symm, h⟩

/-- What comes after a call need not say so itself. -/
theorem call_bind {next : Unit → Driver α}
    (h : Yields (fun a calls => P a (⟨function, arguments⟩ :: calls)) (next ())) :
    Yields P (call function arguments >>= next) := fun d => by
  obtain ⟨calls, hcalls, ha⟩ := h (call function arguments d).2
  rw [calls_call, List.append_assoc] at hcalls
  exact ⟨_, hcalls, ha⟩

/-- A step that is not a call adds none. -/
theorem bind_of_log {act : Driver β} {next : β → Driver α} (hlog : ∀ d, (act d).2.log = d.log)
    (h : ∀ b, Yields P (next b)) : Yields P (act >>= next) := fun d => by
  obtain ⟨calls, hcalls, ha⟩ := h (act d).1 (act d).2
  have hact : (act d).2.calls = d.calls := congrArg List.reverse (hlog d)
  rw [hact] at hcalls
  exact ⟨calls, hcalls, ha⟩

theorem get_bind {next : State → Driver α} (h : ∀ d, Yields P (next d)) :
    Yields P (get >>= next) := bind_of_log (fun _ => rfl) h

/-- An object is made or, with the name zero, refused. -/
theorem create_bind {next : Except String Name → Driver α}
    (herror : ∀ e, Yields (fun a calls => P a (⟨function, arguments ++ [.name 0]⟩ :: calls))
      (next (.error e)))
    (hok : ∀ name, name ≠ 0 →
      Yields (fun a calls => P a (⟨function, arguments ++ [.name name]⟩ :: calls))
        (next (.ok name))) :
    Yields P (create function kind arguments >>= next) := by
  unfold create
  simp only [bind_assoc, pure_bind]
  refine bind_of_log (nextName_log function) fun name => call_bind ?_
  by_cases hname : name = 0
  · rw [if_pos hname, hname]
    exact herror _
  · rw [if_neg hname]
    exact hok name hname

end Yields

/-! ### Objects made and deleted -/

/-- The object that a call is about, which is noted last. -/
def objectOf (c : Call) : Option Int :=
  match c.arguments.getLast? with
  | some (.int n) => some n
  | _ => none

/-- The objects that the calls of a function are about. -/
def objects (function : String) (calls : List Call) : List Int :=
  (calls.filter (·.function = function)).filterMap objectOf

/-- The objects that the calls of a function have made.  A call that fails notes the name zero. -/
def made (function : String) (calls : List Call) : List Int :=
  (objects function calls).filter (· ≠ 0)

/-- One call has made an object, and no other of these calls is one of the same function. -/
theorem made_cons {function : String} {name : Name} {calls : List Call} (hname : name ≠ 0)
    (front : List Argument) (h : ∀ c ∈ calls, c.function ≠ function) :
    made function (⟨function, front ++ [.name name]⟩ :: calls) = [(name : Int)] := by
  have hobject : objectOf ⟨function, front ++ [.name name]⟩ = some (name : Int) := by
    rw [objectOf, List.getLast?_concat]
    rfl
  have hrest : calls.filter (·.function = function) = [] :=
    List.filter_eq_nil_iff.2 fun c hc => by simpa using h c hc
  have hobjects : objects function (⟨function, front ++ [.name name]⟩ :: calls) =
      [(name : Int)] := by
    rw [objects, List.filter_cons, if_pos (decide_eq_true rfl), hrest,
      List.filterMap_cons_some hobject, List.filterMap_nil]
  rw [made, hobjects, List.filter_cons_of_pos (by simpa using hname), List.filter_nil]

/-- What was made is replied with and not deleted, or it is deleted once. -/
def Settles (reply : Except String Name) (made deleted : List Int) : Prop :=
  match reply with
  | .ok name => made = [(name : Int)] ∧ deleted = []
  | .error _ => made.length ≤ 1 ∧ deleted = made

/-- What has been deleted once is settled, though there is nothing to reply with. -/
theorem Settles.of_deleted {made deleted : List Int} {name : Name} (hmade : made = [(name : Int)])
    (hdeleted : deleted = [(name : Int)]) (e : String) : Settles (.error e) made deleted := by
  rw [hmade, hdeleted]
  exact ⟨Nat.le_refl 1, rfl⟩

/-- A stage that does not compile is deleted. -/
theorem compileShader_settles (stage : Stage) (source : String) :
    Yields (fun reply calls =>
        Settles reply (made "glCreateShader" calls) (objects "glDeleteShader" calls))
      (compileShader stage source) := by
  unfold compileShader
  refine .create_bind (fun e => .pure ⟨Nat.zero_le 1, rfl⟩) fun shader hshader => ?_
  refine .call_bind <| .bind_of_log (fun _ => rfl) fun _ => .call_bind <| .get_bind fun d => ?_
  split
  · exact .pure ⟨made_cons hshader _ (by simp), rfl⟩
  · exact .call_bind <| .pure <| .of_deleted (made_cons hshader _ (by simp)) rfl _

/-- Both stages are deleted whatever happens, and a program that does not link is deleted. -/
theorem linkProgram_settles (vertex fragment : Name) :
    Yields (fun reply calls => objects "glDeleteShader" calls = [(vertex : Int), (fragment : Int)] ∧
        Settles reply (made "glCreateProgram" calls) (objects "glDeleteProgram" calls))
      (linkProgram vertex fragment) := by
  unfold linkProgram
  simp only [bind_assoc]
  refine .create_bind (fun e => ?_) fun program hprogram => ?_
  · -- Without a program there is nothing to delete but the stages.
    exact .call_bind <| .call_bind <| .pure ⟨rfl, Nat.zero_le 1, rfl⟩
  · refine .call_bind <| .call_bind <| .call_bind <| .bind_of_log (fun d => ?_) fun _ => ?_
    · show (if d.failNextLink then _ else d : State).log = d.log
      split <;> rfl
    refine .call_bind <| .call_bind <| .call_bind <| .call_bind <| .get_bind fun d => ?_
    split
    · refine .call_bind <| .pure ⟨rfl, ?_⟩
      exact .of_deleted (made_cons hprogram _ (by simp)) rfl _
    · exact .pure ⟨rfl, made_cons hprogram _ (by simp), rfl⟩

/-! ### What is left -/

/-- If nothing is bound to start with, nothing is bound between commands, and pixels are read with
the buffer that they go to bound for packing, or with none if they go to memory.  Stages that do
not compile, programs that do not link, and the stages of all programs have been deleted. -/
theorem nothing_left_behind {start d : State} (hstart : start.bindings.Free)
    (h : Driven start d) :
    (∀ target, d.bindings.bound target = 0) ∧
      (∀ {α : Type} (command : Command α), d.Frees (readsOf command) (perform command d).2) ∧
      (∀ stage source,
        Yields (fun reply calls =>
            Settles reply (made "glCreateShader" calls) (objects "glDeleteShader" calls))
          (perform (.compileShader stage source))) ∧
      ∀ vertex fragment : Name,
        Yields (fun reply calls =>
            objects "glDeleteShader" calls = [(vertex : Int), (fragment : Int)] ∧
              Settles reply (made "glCreateProgram" calls) (objects "glDeleteProgram" calls))
          (perform (.linkProgram vertex fragment)) :=
  ⟨(h.free hstart).bound, fun command => perform_frees command (h.free hstart),
    compileShader_settles, linkProgram_settles⟩

/-- A device on a driver that will not link the next program. -/
def State.unlinking : State := { State.new 1 1 with failNextLink := true }

/-- After a read into a buffer, a program that does not link is deleted with its stages. -/
theorem nothing_left_behind_of_unlinking :
    let d := (perform (.packPixels ⟨0, 0, 1, 1⟩ 6408 5121 7) State.unlinking).2
    d.bindings.bound Constant.pixelPackBuffer.toNat = 0 ∧
      ∃ calls, (perform (.linkProgram 2 3) d).2.calls = d.calls ++ calls ∧
        (perform (.linkProgram 2 3) d).1 = .error "driver log" ∧
        objects "glDeleteShader" calls = [2, 3] ∧ made "glCreateProgram" calls = [1] ∧
        objects "glDeleteProgram" calls = [1] := by
  intro d
  have hdriven : Driven State.unlinking d := .perform .start _
  have hstart : State.unlinking.bindings.Free := Bindings.free_empty
  obtain ⟨hbound, -, -, hlink⟩ := nothing_left_behind hstart hdriven
  obtain ⟨calls, hcalls, hshaders, -, hdeleted⟩ := hlink 2 3 d
  have hmade : made "glCreateProgram" calls = [1] := by
    rw [← @List.drop_left _ d.calls calls, ← hcalls]
    rfl
  exact ⟨hbound _, calls, hcalls, rfl, hshaders, hmade, hdeleted.trans hmade⟩

end DrawPass.OpenGl
