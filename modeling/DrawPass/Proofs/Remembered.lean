/-
DrawPass/Proofs/Remembered.lean

Remembering changes no result.

Two parts of the library keep what they have worked out: the memo of blend specs and the
assembler with its expanded snippets.  `Table.Recalls` says what the table of either holds
after any history: of the keys that were asked for, those at which there is a result, each with
its result.  One request keeps this true (`Blend.Memo.recalls_parse`,
`Shader.Assembler.recalls_expand`), and `run_mapM_of_step` carries it along a run.

That a spec was read again does not show in the answers.  So the look-up is also written for
readers that leave a trace (`Blend.Memo.parseBy`), and run with one that keeps notes.
-/
import Mathlib.Data.Finset.Card
import DrawPass.Proofs.Programs

namespace DrawPass

open Gl (Stage)

universe u v

/-! ### Runs of requests -/

/-- If one step, after any inputs, answers as they say and keeps what they say, so does every step
of a run. -/
theorem run_mapM_of_step {σ ι ο : Type} {step : ι → StateM σ ο} {Kept : List ι → σ → Prop}
    {answer : List ι → ι → ο}
    (hstep : ∀ past s i, Kept past s →
      ((step i).run s).1 = answer past i ∧ Kept (past ++ [i]) ((step i).run s).2)
    {past : List ι} {s : σ} (hkept : Kept past s) (inputs : List ι) :
    ((inputs.mapM step).run s).1 =
        inputs.mapIdx (fun n i => answer (past ++ inputs.take n) i) ∧
      Kept (past ++ inputs) ((inputs.mapM step).run s).2 := by
  -- The inputs so far grow as the rest shrinks, so both vary in the induction.
  induction inputs generalizing past s with
  | nil =>
    rw [List.append_nil]
    exact ⟨rfl, hkept⟩
  | cons i inputs ih =>
    obtain ⟨hanswer, hkept'⟩ := hstep past s i hkept
    obtain ⟨hanswers, hlast⟩ := ih hkept'
    have hrun : ((i :: inputs).mapM step).run s =
        (((step i).run s).1 :: ((inputs.mapM step).run ((step i).run s).2).1,
          ((inputs.mapM step).run ((step i).run s).2).2) := by
      rw [List.mapM_cons]
      rfl
    simp only [List.append_assoc, List.singleton_append] at hanswers hlast
    rw [hrun, hanswer, hanswers, List.mapIdx_cons, List.take_zero, List.append_nil]
    exact ⟨rfl, hlast⟩

/-! ### Tables that recall a function -/

namespace Table

variable {κ : Type u} {α : Type v} [DecidableEq κ] {t : Table κ α} {f : κ → Option α}
  {asked : List κ} {k : κ} {a : α}

/-- Of the keys that have been asked for, a table holds those at which a partial function has a
result, each with its result. -/
def Recalls (t : Table κ α) (f : κ → Option α) (asked : List κ) : Prop :=
  ∀ k, t.get? k = if k ∈ asked then f k else none

theorem recalls_empty (f : κ → Option α) : (empty : Table κ α).Recalls f [] := fun _ => rfl

/-- What is held is the result. -/
theorem Recalls.eq_some (h : t.Recalls f asked) (hk : t.get? k = some a) : f k = some a := by
  rw [h k] at hk
  split at hk
  · exact hk
  · cases hk

/-- Nothing is to be put down for a key whose result is held already, or that has none. -/
theorem Recalls.append (h : t.Recalls f asked) (hk : t.get? k = f k) :
    t.Recalls f (asked ++ [k]) := by
  intro k'
  simp only [List.mem_append, List.mem_singleton]
  by_cases hsame : k' = k
  · rw [hsame, hk, if_pos (.inr rfl)]
  · rw [h k']
    simp only [hsame, or_false]

/-- A result that is put down is held beside what was held before. -/
theorem Recalls.insert (h : t.Recalls f asked) (hk : f k = some a) :
    (t.insert k a).Recalls f (asked ++ [k]) := by
  intro k'
  simp only [get?_insert, List.mem_append, List.mem_singleton]
  by_cases hsame : k = k'
  · rw [if_pos hsame, ← hsame, hk, if_pos (.inr rfl)]
  · rw [if_neg hsame, h k']
    simp only [Ne.symm hsame, or_false]

/-- As many keys are held as there are different ones with a result among those asked for. -/
theorem Recalls.size_eq (h : t.Recalls f asked) :
    t.size = (asked.toFinset.filter fun k => (f k).isSome).card := by
  -- No key is held twice, so the keys can be counted as a set.
  have hkeys : t.keys.toFinset = asked.toFinset.filter fun k => (f k).isSome := by
    ext k
    rw [List.mem_toFinset, mem_keys_iff, h k, Finset.mem_filter, List.mem_toFinset]
    by_cases hk : k ∈ asked <;> simp [hk]
  rw [← hkeys, List.toFinset_card_of_nodup (show t.keys.Nodup from t.distinct), length_keys]

end Table

/-! ### Blend specs -/

namespace Blend

/-- What a spec means, if it can be read. -/
def meaning? (spec : String) : Option (Option State) := (parse spec).toOption

theorem parse_eq_of_meaning? {spec : String} {state : Option State}
    (h : meaning? spec = some state) : parse spec = .ok state := by
  unfold meaning? Except.toOption at h
  split at h
  · rename_i hparse
    rw [hparse, Option.some.inj h]
  · cases h

/-- The different specs of a list that can be read. -/
def readable (specs : List String) : Finset String :=
  specs.toFinset.filter fun spec => (meaning? spec).isSome

theorem mem_readable {specs : List String} {spec : String} :
    spec ∈ readable specs ↔ spec ∈ specs ∧ (meaning? spec).isSome := by
  rw [readable, Finset.mem_filter, List.mem_toFinset]

namespace Memo

variable {memo : Memo} {specs : List String}

theorem sound_of_recalls (h : memo.parsed.Recalls meaning? specs) : memo.Sound :=
  fun _ _ hstate => parse_eq_of_meaning? (h.eq_some hstate)

/-- A spec that is asked for joins what is recalled. -/
theorem recalls_parse (h : memo.parsed.Recalls meaning? specs) (spec : String) :
    (memo.parse spec).2.parsed.Recalls meaning? (specs ++ [spec]) := by
  unfold parse
  split
  · rename_i state hstate
    exact h.append (hstate.trans (h.eq_some hstate).symm)
  · rename_i hnone
    split <;> rename_i hparse
    · exact h.insert (congrArg Except.toOption hparse)
    · -- A refusal has no result, and none is held.
      exact h.append (hnone.trans (congrArg Except.toOption hparse).symm)

/-- What a spec means, from memory or else as `read` reads it. -/
def parseBy {m : Type → Type} [Monad m] (read : String → m (Except SpecError (Option State)))
    (memo : Memo) (spec : String) : m (Except SpecError (Option State) × Memo) :=
  match memo.parsed.get? spec with
  | some state => pure (.ok state, memo)
  | none => do
    match ← read spec with
    | .ok state => pure (.ok state, ⟨memo.parsed.insert spec state⟩)
    | .error e => pure (.error e, memo)

/-- Read a spec and note that it was read. -/
def readNoting (spec : String) : StateM (List String) (Except SpecError (Option State)) :=
  fun notes => (Blend.parse spec, notes ++ [spec])

/-- The specs that are read for a request. -/
def readFor (memo : Memo) (spec : String) : List String :=
  ((memo.parseBy readNoting spec).run []).2

/-- Notes change nothing else, and they name the spec unless it is held. -/
theorem run_parseBy_readNoting (memo : Memo) (spec : String) :
    (memo.parseBy readNoting spec).run [] =
      (memo.parse spec, if (memo.parsed.get? spec).isSome then [] else [spec]) := by
  unfold parseBy parse
  cases memo.parsed.get? spec with
  | some state => rfl
  | none =>
    rw [StateT.run_bind]
    dsimp only [readNoting, StateT.run]
    cases Blend.parse spec <;> rfl

/-- A spec is read unless it was asked for before and can be read. -/
theorem readFor_eq (h : memo.parsed.Recalls meaning? specs) (spec : String) :
    memo.readFor spec = if spec ∈ readable specs then [] else [spec] := by
  rw [readFor, run_parseBy_readNoting, h spec]
  simp only [mem_readable]
  by_cases hasked : spec ∈ specs <;> simp [hasked]

/-- What is seen of a request. -/
structure Reply where
  result : Except SpecError (Option State)
  /-- How many specs are remembered after it. -/
  size : Nat
  /-- The specs that were read for it. -/
  read : List String

/-- Answer a request. -/
def serve (spec : String) : StateM Memo Reply := fun memo =>
  let (result, memo') := memo.parse spec
  (⟨result, memo'.size, memo.readFor spec⟩, memo')

theorem run_serve (h : memo.parsed.Recalls meaning? specs) (spec : String) :
    ((serve spec).run memo).1 =
        ⟨Blend.parse spec, (readable (specs ++ [spec])).card,
          if spec ∈ readable specs then [] else [spec]⟩ ∧
      ((serve spec).run memo).2.parsed.Recalls meaning? (specs ++ [spec]) := by
  have hnext := recalls_parse h spec
  refine ⟨?_, hnext⟩
  rw [← parse_eq (sound_of_recalls h), ← readFor_eq h, readable, ← hnext.size_eq]
  rfl

end Memo

end Blend

/-! ### Snippets -/

namespace Shader.Assembler

/-- The definition that a snippet of a stage stands for. -/
def expansion (snippet : Stage × String) : String :=
  String.ofList (Shader.expand snippet.2.toList snippet.1)

variable {a : Assembler} {header : String} {snippets : List (Stage × String)}

/-- A snippet that is expanded joins what is recalled. -/
theorem recalls_expand (h : a.expanded.Recalls (some ∘ expansion) snippets) (code : String)
    (stage : Stage) :
    (a.expand code stage).2.expanded.Recalls (some ∘ expansion) (snippets ++ [(stage, code)]) := by
  unfold Assembler.expand
  split
  · rename_i text htext
    exact h.append (htext.trans (h.eq_some htext).symm)
  · exact h.insert rfl

/-- What is asked of an assembler. -/
inductive Request where
  | assemble (key : ProgramKey) (uniforms : Uniform.Values)
  | clear

namespace Request

/-- Answer a request; only assembling gives sources. -/
def serve : Request → StateM Assembler (Option Sources)
  | assemble key uniforms => fun a =>
    let (sources, a) := a.assemble key.includes key.vertex key.fragment uniforms
    (some sources, a)
  | clear => fun a => (none, a.clear)

/-- The answer of an assembler that has not been asked for anything before. -/
def answerFresh (header : String) : Request → Option Sources
  | assemble key uniforms => some (fresh header key uniforms)
  | clear => none

/-- The snippets to recall after one more request.  The vertex snippet is expanded without its
declarations of varyings. -/
def extend (snippets : List (Stage × String)) : Request → List (Stage × String)
  | assemble key _ =>
    snippets ++ [(.vertex, String.ofList (stripVaryings key.vertex.toList))] ++
      [(.fragment, key.fragment)]
  | clear => []

/-- The snippets that have been expanded since everything was forgotten. -/
def expandedBy (requests : List Request) : List (Stage × String) := requests.foldl extend []

end Request

variable {requests : List Request}

/-- The assembler that some requests leave behind. -/
structure Served (header : String) (requests : List Request) (a : Assembler) : Prop where
  header : a.header = header
  expanded : a.expanded.Recalls (some ∘ expansion) (Request.expandedBy requests)

theorem served_nil (header : String) : Served header [] { header } := ⟨rfl, Table.recalls_empty _⟩

theorem Served.sound (h : Served header requests a) : a.Sound :=
  fun _ _ _ htext => (Option.some.inj (h.expanded.eq_some htext)).symm

theorem Served.run_serve (h : Served header requests a) (request : Request) :
    (request.serve.run a).1 = request.answerFresh header ∧
      Served header (requests ++ [request]) (request.serve.run a).2 := by
  cases request with
  | assemble key uniforms =>
    obtain ⟨hsources, -, hheader⟩ := h.sound.assemble key uniforms
    rw [h.header] at hsources
    refine ⟨congrArg some hsources, hheader.trans h.header, ?_⟩
    rw [Request.expandedBy, List.foldl_append]
    -- Both snippets go into one table; their stages keep them apart where their texts agree.
    exact recalls_expand (recalls_expand h.expanded _ .vertex) key.fragment .fragment
  | clear =>
    refine ⟨rfl, h.header, ?_⟩
    rw [Request.expandedBy, List.foldl_append]
    exact Table.recalls_empty _

end Shader.Assembler

/-! ### All histories -/

open Shader (Assembler)

/-- Remembering changes no result.  Whatever specs a memo is asked for, it answers each as reading
it does, and holds after it as many specs as there are different readable ones so far; a spec is
read for its request unless it has been read with success before, so that one that is refused is
read each time and never held.  Whatever an assembler assembles and forgets, its sources are each
time those of a new one with its header; it holds the expansions made since it forgot last. -/
theorem remembering_changes_no_result :
    (∀ specs : List String,
      ((specs.mapM Blend.Memo.serve).run {}).1 = specs.mapIdx (fun i spec =>
        { result := Blend.parse spec
          size := (Blend.readable (specs.take i ++ [spec])).card
          read := if spec ∈ Blend.readable (specs.take i) then [] else [spec] }) ∧
      ((specs.mapM Blend.Memo.serve).run {}).2.parsed.Recalls Blend.meaning? specs) ∧
    (∀ (header : String) (requests : List Assembler.Request),
      ((requests.mapM Assembler.Request.serve).run { header }).1 =
        requests.map (Assembler.Request.answerFresh header) ∧
      ((requests.mapM Assembler.Request.serve).run { header }).2.expanded.Recalls
        (some ∘ Assembler.expansion) (Assembler.Request.expandedBy requests)) := by
  constructor
  · intro specs
    have hstep (past : List String) (memo : Blend.Memo) (spec : String)
        (h : memo.parsed.Recalls Blend.meaning? past) := Blend.Memo.run_serve h spec
    exact run_mapM_of_step hstep (Table.recalls_empty _) specs
  · intro header requests
    have hstep (past : List Assembler.Request) (a : Assembler) (request : Assembler.Request)
        (h : Assembler.Served header past a) := h.run_serve request
    obtain ⟨hanswers, hlast⟩ := run_mapM_of_step hstep (Assembler.served_nil header) requests
    -- What a new assembler answers does not depend on the requests before.
    refine ⟨hanswers.trans (List.mapIdx_eq_iff.2 fun i => ?_), hlast.expanded⟩
    exact List.getElem?_map

/-- Specs are told apart by their exact text, and a refused one is read twice. -/
example : ((["s", "x", "s", "s ", "x"].mapM Blend.Memo.serve).run {}).1.map
      (fun reply => (reply.size, reply.read)) =
    [(1, ["s"]), (1, ["x"]), (1, []), (2, ["s "]), (2, ["x"])] := by
  cbv

end DrawPass
