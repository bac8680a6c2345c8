/-
DrawPass/Proofs/Bindings.lean

What the device on an OpenGL driver leaves bound.

Which buffers are bound is told from the calls alone (`Bindings.after`).  One binding point belongs
to the vertex array that is bound, so a vertex array may bring a buffer back; nothing is bound only
if no vertex array holds a buffer either (`Bindings.Free`).  Every command gives back what it binds
and reads pixels with its own buffer bound, or none (`perform_frees`).  So nothing is bound between
commands, whatever the driver has replied in the meantime (`Driven.free`).
-/
import DrawPass.Proofs.DriverCalls
import Mathlib.Logic.Function.Basic

namespace DrawPass.OpenGl

open Gl

/-! ### Bindings -/

/-- The binding point that belongs to the vertex array. -/
def elementArrayBuffer : Int := 34963

/-- What is bound; zero is nothing. -/
structure Bindings where
  vertexArray : Int
  /-- The buffer that is bound to each of the other binding points. -/
  buffers : Int → Int
  /-- The buffer that each vertex array has bound to its own. -/
  elements : Int → Int

namespace Bindings

/-- Nothing is bound. -/
def empty : Bindings := ⟨0, fun _ => 0, fun _ => 0⟩

/-- The buffer that is bound to a target. -/
def bound (b : Bindings) (target : Int) : Int :=
  if target = elementArrayBuffer then b.elements b.vertexArray else b.buffers target

/-- Bind a buffer to a target. -/
def bind (b : Bindings) (target buffer : Int) : Bindings :=
  if target = elementArrayBuffer then
    { b with elements := Function.update b.elements b.vertexArray buffer }
  else { b with buffers := Function.update b.buffers target buffer }

/-- What is left of the bindings when a buffer is deleted.  A vertex array that is not bound keeps
it. -/
def forget (b : Bindings) (buffer : Int) : Bindings :=
  let rest (bound : Int) : Int := if bound = buffer then 0 else bound
  { b with
    buffers := fun target => rest (b.buffers target)
    elements := Function.update b.elements b.vertexArray (rest (b.elements b.vertexArray)) }

/-- What is bound after a call. -/
def after (b : Bindings) (c : Call) : Bindings :=
  match c.function, c.arguments with
  | "glBindBuffer", [.int target, .int buffer] => b.bind target buffer
  | "glBindVertexArray", [.int vertexArray] => { b with vertexArray }
  | "glDeleteBuffers", [.int buffer] => b.forget buffer
  | "glDeleteVertexArrays", [.int vertexArray] =>
    if b.vertexArray = vertexArray then { b with vertexArray := 0 } else b
  | _, _ => b

/-- The calls that read pixels, each with the buffer that is bound for packing by then. -/
def reads (b : Bindings) : List Call → List (Call × Int)
  | [] => []
  | c :: calls =>
    (if c.function = "glReadPixels" then [(c, b.bound Constant.pixelPackBuffer.toNat)] else []) ++
      (b.after c).reads calls

/-- No buffer is bound, nor does a vertex array hold one. -/
structure Free (b : Bindings) : Prop where
  buffers : ∀ target, b.buffers target = 0
  elements : ∀ vertexArray, b.elements vertexArray = 0

theorem free_empty : empty.Free := ⟨fun _ => rfl, fun _ => rfl⟩

variable {b : Bindings}

theorem Free.bound (h : b.Free) (target : Int) : b.bound target = 0 := by
  unfold Bindings.bound
  split
  · exact h.elements _
  · exact h.buffers _

theorem bound_bind (b : Bindings) (target buffer : Int) :
    (b.bind target buffer).bound target = buffer := by
  unfold Bindings.bound bind
  split <;> exact Function.update_self ..

/-- A binding that is taken back leaves nothing. -/
theorem Free.bind_bind (h : b.Free) (target buffer : Int) :
    ((b.bind target buffer).bind target 0).Free := by
  have hupdate {f : Int → Int} (hf : ∀ i, f i = 0) (i j : Int) :
      Function.update (Function.update f i buffer) i 0 j = 0 := by
    rw [Function.update_idem, Function.update_apply, hf, ite_self]
  unfold bind
  by_cases htarget : target = elementArrayBuffer
  · rw [if_pos htarget, if_pos htarget]
    exact ⟨h.buffers, hupdate h.elements _⟩
  · rw [if_neg htarget, if_neg htarget]
    exact ⟨hupdate h.buffers _, h.elements⟩

theorem Free.forget (h : b.Free) (buffer : Int) : (b.forget buffer).Free := by
  have hrest : (if (0 : Int) = buffer then 0 else 0) = (0 : Int) := ite_self 0
  constructor
  · intro target
    simp only [Bindings.forget, h.buffers, hrest]
  · intro vertexArray
    simp only [Bindings.forget, h.elements, hrest, Function.update_apply, ite_self]

/-- The functions that change what is bound. -/
def functions : List String :=
  ["glBindBuffer", "glBindVertexArray", "glDeleteBuffers", "glDeleteVertexArrays"]

/-- No other function changes what is bound. -/
theorem after_of_not_mem (b : Bindings) {c : Call} (h : c.function ∉ functions) :
    b.after c = b := by
  obtain ⟨function, arguments⟩ := c
  unfold after
  split <;> simp_all [functions]

theorem foldl_after_of_not_mem (b : Bindings) {calls : List Call}
    (h : ∀ c ∈ calls, c.function ∉ functions) : calls.foldl after b = b := by
  induction calls with
  | nil => rfl
  | cons c calls ih =>
    obtain ⟨hc, hcalls⟩ := List.forall_mem_cons.1 h
    rw [List.foldl_cons, after_of_not_mem b hc, ih hcalls]

theorem reads_append (b : Bindings) (calls calls' : List Call) :
    b.reads (calls ++ calls') = b.reads calls ++ (calls.foldl after b).reads calls' := by
  induction calls generalizing b with
  | nil => rfl
  | cons c calls ih => rw [List.cons_append, reads, ih, reads, List.append_assoc, List.foldl_cons]

theorem reads_of_not_mem (b : Bindings) {calls : List Call}
    (h : ∀ c ∈ calls, c.function ≠ "glReadPixels") : b.reads calls = [] := by
  induction calls generalizing b with
  | nil => rfl
  | cons c calls ih =>
    obtain ⟨hc, hcalls⟩ := List.forall_mem_cons.1 h
    rw [reads, if_neg hc, ih _ hcalls, List.nil_append]

end Bindings

/-- What is bound after all calls that the driver has written down. -/
def State.bindings (d : State) : Bindings := d.calls.foldl Bindings.after .empty

theorem State.bindings_eq {d d' : State} {calls : List Call} (h : d'.calls = d.calls ++ calls) :
    d'.bindings = calls.foldl Bindings.after d.bindings := by
  unfold bindings
  rw [h, List.foldl_append]

/-! ### Commands -/

variable {α : Type}

/-- The call that a command reads pixels with, and the buffer that has to be bound for packing
then. -/
def readsOf : Command α → List (Call × Int)
  | .readPixels rect format type _ =>
    [(⟨"glReadPixels", rectArguments rect ++ [.word format, .word type, .text "memory"]⟩, 0)]
  | .packPixels rect format type buffer =>
    [(⟨"glReadPixels", rectArguments rect ++ [.word format, .word type, .text "offset 0"]⟩,
      buffer)]
  | _ => []

/-- Calls have been written down that leave no buffer bound and read pixels in these ways. -/
def State.Frees (reads : List (Call × Int)) (d d' : State) : Prop :=
  ∃ calls, d'.calls = d.calls ++ calls ∧ d'.bindings.Free ∧ d.bindings.reads calls = reads

variable {d d' : State}

/-- Calls of other functions leave free what is free. -/
theorem State.CallsOnly.frees {functions : List String} (h : d.CallsOnly functions d')
    (hfree : d.bindings.Free) (hbind : ∀ f ∈ functions, f ∉ Bindings.functions)
    (hread : "glReadPixels" ∉ functions) : d.Frees [] d' := by
  obtain ⟨calls, hcalls, hfunctions⟩ := h
  refine ⟨calls, hcalls, ?_, ?_⟩
  · rw [State.bindings_eq hcalls,
      d.bindings.foldl_after_of_not_mem fun c hc => hbind _ (hfunctions c hc)]
    exact hfree
  · exact d.bindings.reads_of_not_mem fun c hc heq => hread (heq ▸ hfunctions c hc)

theorem calls_withBuffer {act : Driver α} {calls : List Call}
    (h : ∀ d, (act d).2.calls = d.calls ++ calls) (target : UInt32) (buffer : Name) (d : State) :
    (withBuffer target buffer act d).2.calls = d.calls ++
      (⟨"glBindBuffer", [.word target, .name buffer]⟩ ::
        (calls ++ [⟨"glBindBuffer", [.word target, .name 0]⟩])) := by
  have hact := h (call "glBindBuffer" [.word target, .name buffer] d).2
  rw [calls_call] at hact
  refine (calls_call _ _ _).trans ((congrArg (· ++ _) hact).trans ?_)
  simp only [List.append_assoc, List.cons_append, List.nil_append]

/-- What is done with a buffer bound leaves none bound, and reads with this one bound. -/
theorem withBuffer_frees {act : Driver α} {calls : List Call}
    (h : ∀ d, (act d).2.calls = d.calls ++ calls)
    (hbind : ∀ c ∈ calls, c.function ∉ Bindings.functions) (hfree : d.bindings.Free)
    (target : UInt32) (buffer : Name) :
    d.Frees ((d.bindings.bind target.toNat buffer).reads calls)
      (withBuffer target buffer act d).2 := by
  have hcalls := calls_withBuffer h target buffer d
  have hfirst : d.bindings.after ⟨"glBindBuffer", [.word target, .name buffer]⟩ =
      d.bindings.bind target.toNat buffer := rfl
  refine ⟨_, hcalls, ?_, ?_⟩
  · rw [State.bindings_eq hcalls, List.foldl_cons, hfirst, List.foldl_append,
      Bindings.foldl_after_of_not_mem _ hbind]
    exact hfree.bind_bind _ _
  · rw [Bindings.reads, hfirst, Bindings.reads_append, Bindings.foldl_after_of_not_mem _ hbind]
    exact List.append_nil _

theorem State.Frees.free {reads : List (Call × Int)} (h : d.Frees reads d') : d'.bindings.Free := by
  obtain ⟨-, -, hfree, -⟩ := h
  exact hfree

theorem State.Frees.trans {d'' : State} {reads reads' : List (Call × Int)}
    (h : d.Frees reads d') (h' : d'.Frees reads' d'') : d.Frees (reads ++ reads') d'' := by
  obtain ⟨calls, hcalls, -, hreads⟩ := h
  obtain ⟨calls', hcalls', hfree', hreads'⟩ := h'
  refine ⟨calls ++ calls', by rw [hcalls', hcalls, List.append_assoc], hfree', ?_⟩
  rw [Bindings.reads_append, hreads, ← State.bindings_eq hcalls, hreads']

/-- One call that leaves free what is free. -/
theorem call_frees {function : String} {arguments : List Argument}
    (h : (d.bindings.after ⟨function, arguments⟩).Free) (hread : function ≠ "glReadPixels") :
    d.Frees [] (call function arguments d).2 := by
  have hcalls := calls_call function arguments d
  refine ⟨_, hcalls, ?_, d.bindings.reads_of_not_mem fun c hc => ?_⟩
  · rw [State.bindings_eq hcalls]
    exact h
  · rw [List.mem_singleton.1 hc]
    exact hread

/-- Between the two bindings of a vertex array, an attribute is set up with its buffer bound. -/
theorem intAttribute_frees (h : d.bindings.Free) (vertexArray buffer : Name)
    (location divisor : UInt32) :
    d.Frees [] (intAttribute vertexArray buffer location divisor d).2 := by
  have hfirst : d.Frees [] (call "glBindVertexArray" [.name vertexArray] d).2 :=
    call_frees ⟨h.buffers, h.elements⟩ (by decide)
  have hattribute (d : State) : ((do
      call "glEnableVertexAttribArray" [.word location]
      call "glVertexAttribIPointer" [.word location, .int 1, .word Constant.int, .int 0, .int 0]
      call "glVertexAttribDivisor" [.word location, .word divisor] : Driver Unit) d).2.calls =
        d.calls ++ [⟨"glEnableVertexAttribArray", [.word location]⟩,
          ⟨"glVertexAttribIPointer",
            [.word location, .int 1, .word Constant.int, .int 0, .int 0]⟩,
          ⟨"glVertexAttribDivisor", [.word location, .word divisor]⟩] := by
    refine (calls_call _ _ _).trans ((congrArg (· ++ _) ((calls_call _ _ _).trans
      (congrArg (· ++ _) (calls_call _ _ _)))).trans ?_)
    simp only [List.append_assoc, List.cons_append, List.nil_append]
  -- The buffer is given back while the same vertex array is bound, so none of them keeps it.
  have hbound := withBuffer_frees hattribute (by simp [Bindings.functions]) hfirst.free
    Constant.arrayBuffer buffer
  exact (hfirst.trans hbound).trans
    (call_frees ⟨hbound.free.buffers, hbound.free.elements⟩ (by decide))

/-- Every command leaves free what is free, and reads pixels in its own way only. -/
theorem perform_frees (command : Command α) (h : d.bindings.Free) :
    d.Frees (readsOf command) (perform command d).2 := by
  cases command with
  | deleteBuffer id => exact call_frees (h.forget id) (by decide)
  | bindVertexArray id => exact call_frees ⟨h.buffers, h.elements⟩ (by decide)
  | deleteVertexArray id =>
    refine call_frees ?_ (by decide)
    show (if d.bindings.vertexArray = (id : Int) then { d.bindings with vertexArray := 0 }
      else d.bindings).Free
    split
    · exact ⟨h.buffers, h.elements⟩
    · exact h
  | bufferData target id data usage =>
    exact withBuffer_frees (calls_call _ _) (by simp [Bindings.functions]) h target id
  | bufferReserve target id size usage =>
    exact withBuffer_frees (calls_call _ _) (by simp [Bindings.functions]) h target id
  | getBufferSubData target id offset memory =>
    exact withBuffer_frees (calls_call _ _) (by simp [Bindings.functions]) h target id
  | packPixels rect format type buffer =>
    have hframed := withBuffer_frees (calls_call "glReadPixels" (rectArguments rect ++
      [.word format, .word type, .text "offset 0"])) (by simp [Bindings.functions]) h
      Constant.pixelPackBuffer buffer
    rwa [Bindings.reads, if_pos rfl, Bindings.bound_bind] at hframed
  | readPixels rect format type memory =>
    -- Nothing is bound for packing only because everything before has given back what it bound.
    have hcalls := calls_call "glReadPixels" (rectArguments rect ++
      [.word format, .word type, .text "memory"]) d
    refine ⟨_, hcalls, ?_, ?_⟩
    · exact (State.bindings_eq hcalls).symm ▸ h
    · rw [Bindings.reads, if_pos rfl, h.bound]
      rfl
  | intAttribute vertexArray buffer location divisor =>
    exact intAttribute_frees h vertexArray buffer location divisor
  | _ =>
    -- The other commands neither bind nor read, and their lists of functions show it.
    exact (perform_callsOnly _ d).frees h (by simp [functionsOf, Bindings.functions])
      (by simp [functionsOf])

/-! ### Runs -/

/-- A state that commands lead to.  What the driver will reply may change at any time. -/
inductive Driven (start : State) : State → Prop
  | start : Driven start start
  | perform {d : State} {α : Type} (h : Driven start d) (command : Command α) :
      Driven start (perform command d).2
  | replies {d d' : State} (h : Driven start d) (hlog : d'.log = d.log) : Driven start d'

/-- What is free to start with is free between any two commands. -/
theorem Driven.free {start d : State} (h : Driven start d) (hstart : start.bindings.Free) :
    d.bindings.Free := by
  induction h with
  | start => exact hstart
  | perform _ command ih => exact (perform_frees command ih).free
  | replies _ hlog ih =>
    rwa [State.bindings, State.calls, hlog]

end DrawPass.OpenGl
