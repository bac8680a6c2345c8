/-
DrawPass/Proofs/Naming.lean

Which objects a call names, and when a log is tidy.

The device knows its objects by kind and number (`State.holds`).  A command makes one
object, deletes one, or does neither (`State.Effect`), and what it writes down names the
object that it makes or those that it was given (`Command.names`).

The books of a device are kept if no object has been deleted twice, and every object that
the log shows as made is held or has been deleted (`State.Booked`).  A device is tidy if its
books are kept and no call of its log names an object that an earlier call deleted.  Calls
that attach textures from a given set may be excepted.  A tidy device stays tidy as
long as every command names objects that the device holds (`State.Tidy.perform`): numbers
are given out once, so what has been deleted is never held again.
-/
import DrawPass.Proofs.Command

namespace DrawPass

open Gl

/-! ### Objects -/

/-- The kinds of objects that a device makes and deletes. -/
inductive Gl.Kind where
  | texture
  | framebuffer
  | buffer
  | program
  | fence
  | sampler
  | vertexArray
  deriving DecidableEq

namespace Gl.Command

variable {α : Type}

/-- The objects that a command names and that are written down with it. -/
def names : Command α → List (Kind × Name)
  | deleteTexture id | texImage id .. | generateMipmap _ id | framebufferTexture _ id _ =>
    [(.texture, id)]
  | bindTextureUnit _ _ texture _ => texture.toList.map fun id => (.texture, id)
  | deleteFramebuffer id => [(.framebuffer, id)]
  | bindFramebuffer framebuffer => framebuffer.toList.map fun id => (.framebuffer, id)
  | deleteBuffer id | bufferData _ id .. | bufferReserve _ id .. | getBufferSubData _ id .. =>
    [(.buffer, id)]
  | deleteProgram id => [(.program, id)]
  | useProgram program => program.toList.map fun id => (.program, id)
  | clientWaitSync id _ | deleteSync id => [(.fence, id)]
  | deleteSampler id => [(.sampler, id)]
  | deleteVertexArray id => [(.vertexArray, id)]
  | bindVertexArray vertexArray => vertexArray.toList.map fun id => (.vertexArray, id)
  | _ => []

/-- The object that a command deletes. -/
def deletes? : Command α → Option (Kind × Name)
  | deleteTexture id => some (.texture, id)
  | deleteFramebuffer id => some (.framebuffer, id)
  | deleteBuffer id => some (.buffer, id)
  | deleteProgram id => some (.program, id)
  | deleteSync id => some (.fence, id)
  | deleteSampler id => some (.sampler, id)
  | deleteVertexArray id => some (.vertexArray, id)
  | _ => none

/-- Whether a command attaches a texture. -/
def isAttachment : Command α → Bool
  | framebufferTexture .. => true
  | _ => false

end Gl.Command

namespace Software

/-- The object that a call deletes, if it is one of those that a host can delete while a renderer
is there. -/
def Call.deleted? : Call → Option Name
  | deleteTexture id | deleteFramebuffer id | deleteBuffer id | deleteProgram id
  | deleteSync id => some id
  | _ => none

/-- The object that a call deletes. -/
def Call.deletes? : Call → Option (Kind × Name)
  | deleteTexture id => some (.texture, id)
  | deleteFramebuffer id => some (.framebuffer, id)
  | deleteBuffer id => some (.buffer, id)
  | deleteProgram id => some (.program, id)
  | deleteSync id => some (.fence, id)
  | deleteSampler id => some (.sampler, id)
  | deleteVertexArray id => some (.vertexArray, id)
  | _ => none

theorem Call.exists_kind_of_deleted? {call : Call} {id : Name} (h : call.deleted? = some id) :
    ∃ kind, call.deletes? = some (kind, id) := by
  cases call <;> cases h <;> exact ⟨_, rfl⟩

/-- The object that a call makes. The number of a sampler object is not written down. -/
def Call.made? : Call → Option (Kind × Name)
  | createTexture id => some (.texture, id)
  | createFramebuffer id => some (.framebuffer, id)
  | createBuffer id => some (.buffer, id)
  | linkProgram id => some (.program, id)
  | fenceSync id => some (.fence, id)
  | createVertexArray id => some (.vertexArray, id)
  | _ => none

/-- The objects that a call names, among them the one that it makes. -/
def Call.names : Call → List Name
  | createTexture id | deleteTexture id | texImage id .. | generateMipmap id
  | framebufferTexture _ id _ | deleteSampler id | createFramebuffer id | deleteFramebuffer id
  | linkProgram id | deleteProgram id | createBuffer id | deleteBuffer id | bufferData id _
  | createVertexArray id | deleteVertexArray id | fenceSync id | clientWaitSync id
  | deleteSync id | getBufferSubData id _ => [id]
  | bindTextureUnit _ id | bindFramebuffer id | useProgram id | bindVertexArray id => id.toList
  | _ => []

/-- Whether a call attaches a texture. -/
def Call.isAttachment : Call → Bool
  | framebufferTexture .. => true
  | _ => false

namespace State

variable {s s' : State}

/-- The objects of a kind. -/
def holds (s : State) : Kind → List Name
  | .texture => s.textures.keys
  | .framebuffer => s.framebuffers.keys
  | .buffer => s.buffers.keys
  | .program => s.programs.keys
  | .fence => s.fences.keys
  | .sampler => s.samplers
  | .vertexArray => s.vertexArrays

/-! ### What a command does to the objects and to the log -/

/-- There are the same objects, and nothing has been written down. -/
structure SameHolds (s s' : State) : Prop where
  holds : s'.holds = s.holds
  lastName : s.lastName ≤ s'.lastName
  log : s'.log = s.log

instance : IsPreorder State SameHolds where
  refl _ := ⟨rfl, Nat.le_refl _, rfl⟩
  trans _ _ _ h h' :=
    ⟨h'.holds.trans h.holds, Nat.le_trans h.lastName h'.lastName, h'.log.trans h.log⟩

theorem sameHolds_modifyTexture (s : State) (id : Option Name) (f : Texture → Texture) :
    SameHolds s (s.modifyTexture id f) := by
  cases id with
  | none => exact ⟨rfl, Nat.le_refl _, rfl⟩
  | some id =>
    refine ⟨?_, Nat.le_refl _, rfl⟩
    funext kind
    cases kind with
    | texture => exact Table.keys_modify ..
    | _ => rfl

theorem sameHolds_modifyBuffer (s : State) (id : Name) (f : Bytes → Bytes) :
    SameHolds s (s.modifyBuffer id f) := by
  refine ⟨?_, Nat.le_refl _, rfl⟩
  funext kind
  cases kind with
  | buffer => exact Table.keys_modify ..
  | _ => rfl

theorem sameHolds_attach (s : State) (point : UInt32) (texture : Name) (layer : Option UInt32) :
    SameHolds s (s.attach point texture layer) := by
  unfold attach
  split
  · exact refl s
  · refine ⟨?_, Nat.le_refl _, rfl⟩
    funext kind
    cases kind with
    | framebuffer => exact Table.keys_modify ..
    | _ => rfl

/-- One object has been made, under the next number. -/
structure Makes (kind : Kind) (s s' : State) : Prop where
  lastName : s'.lastName = s.lastName + 1
  holds : ∀ kind' id, id ∈ s'.holds kind' ↔
    id ∈ s.holds kind' ∨ kind' = kind ∧ id = s.lastName + 1

/-- One object has been deleted. -/
structure Deletes (kind : Kind) (id : Name) (s s' : State) : Prop where
  lastName : s'.lastName = s.lastName
  holds : ∀ kind' id', id' ∈ s'.holds kind' ↔ id' ∈ s.holds kind' ∧ ¬ (kind' = kind ∧ id' = id)

/-- What a command does that names some objects, deletes some object or none, and attaches or
not: it leaves the objects alone, makes one, or deletes one, and writes down at most one call. -/
inductive Effect (s s' : State) :
    List (Kind × Name) → Option (Kind × Name) → Bool → Prop where
  | silent {names : List (Kind × Name)} {attaches : Bool} (same : SameHolds s s') :
    Effect s s' names none attaches
  | called {names : List (Kind × Name)} {attaches : Bool} (call : Call)
      (holds : s'.holds = s.holds) (lastName : s.lastName ≤ s'.lastName)
      (log : s'.log = call :: s.log) (given : ∀ id ∈ call.names, ∃ kind, (kind, id) ∈ names)
      (made : call.made? = none) (deletes : call.deletes? = none)
      (attachment : call.isAttachment = attaches) : Effect s s' names none attaches
  | made {names : List (Kind × Name)} {attaches : Bool} (kind : Kind) (call : Call)
      (makes : Makes kind s s') (log : s'.log = call :: s.log)
      (own : call.names ⊆ [s.lastName + 1])
      (made : ∀ object, call.made? = some object → object = (kind, s.lastName + 1))
      (deletes : call.deletes? = none) : Effect s s' names none attaches
  | deleted (kind : Kind) (id : Name) (call : Call) (deletes : Deletes kind id s s')
      (log : s'.log = call :: s.log) (own : call.names = [id]) (made : call.made? = none)
      (whole : call.deletes? = some (kind, id)) :
    Effect s s' [(kind, id)] (some (kind, id)) false

/-- A call has been written down after a change that is none of the objects. -/
theorem Effect.record {names : List (Kind × Name)} {attaches : Bool} (h : SameHolds s s')
    (call : Call) (hnames : ∀ id ∈ call.names, ∃ kind, (kind, id) ∈ names)
    (hmade : call.made? = none) (hdeletes : call.deletes? = none)
    (hattaches : call.isAttachment = attaches) :
    Effect s (s'.record call) names none attaches :=
  .called call h.holds h.lastName (congrArg (call :: ·) h.log) hnames hmade hdeletes hattaches

theorem effect_setUniform (s : State) (location : Location) (value : UniformValue) :
    Effect s (s.setUniform location value) [] none false := by
  cases location with
  | numbered => exact .silent (refl s)
  | named program name =>
    refine .called (.setUniform name) ?_ (Nat.le_refl _) rfl nofun rfl rfl rfl
    funext kind
    cases kind with
    | program => exact Table.keys_modify ..
    | _ => rfl

/-- What every single command does. -/
theorem effect_perform {α : Type} (command : Command α) (s : State) :
    Effect s (s.perform command).2 command.names command.deletes? command.isAttachment := by
  have hsame : SameHolds s s := refl s
  have hinsert {β : Type} {t : Table Name β} {b : β} {id id' : Name} :
      id ∈ (t.insert id' b).keys ↔ id ∈ t.keys ∨ id = id' := by
    rw [Table.mem_keys_insert, or_comm]
  cases command with
  | drawingBufferSize | activeUniforms | uniformLocation => exact .silent hsame
  | createTexture =>
    simp only [perform, createTexture]
    split
    · exact .silent ⟨rfl, Nat.le_refl _, rfl⟩
    · refine .made .texture (.createTexture (s.lastName + 1)) ⟨rfl, fun kind id => ?_⟩ rfl
        (List.Subset.refl _) (fun _ h => (Option.some.inj h).symm) rfl
      cases kind <;> simp [holds, hinsert, fresh, record]
  | createFramebuffer =>
    simp only [perform, createFramebuffer]
    split
    · exact .silent ⟨rfl, Nat.le_refl _, rfl⟩
    · refine .made .framebuffer (.createFramebuffer (s.lastName + 1)) ⟨rfl, fun kind id => ?_⟩ rfl
        (List.Subset.refl _) (fun _ h => (Option.some.inj h).symm) rfl
      cases kind <;> simp [holds, hinsert, fresh, record]
  | createSampler minFilter magFilter wrap =>
    -- No call says which number a sampler object has got.
    refine .made .sampler (.createSampler minFilter magFilter wrap) ⟨rfl, fun kind id => ?_⟩ rfl
      (List.nil_subset _) (fun _ h => by cases h) rfl
    cases kind <;> simp [holds, perform, fresh, record, or_comm]
  | createBuffer | fenceSync | createVertexArray =>
    refine .made _ _ ⟨rfl, fun kind id => ?_⟩ rfl (List.Subset.refl _)
      (fun _ h => (Option.some.inj h).symm) rfl
    cases kind <;> simp [holds, hinsert, perform, fresh, record, or_comm]
  | compileShader stage source =>
    simp only [perform, compileShader]
    split
    · exact .record hsame _ (List.forall_mem_nil _) rfl rfl rfl
    -- A stage takes a number, but it is none of the objects.
    · exact .called (.compileShader stage) rfl (Nat.le_succ _) rfl (List.forall_mem_nil _) rfl rfl rfl
  | linkProgram vertex fragment =>
    simp only [perform, linkProgram]
    split
    · exact .silent ⟨rfl, Nat.le_refl _, rfl⟩
    · split
      · refine .made .program (.linkProgram (s.lastName + 1)) ⟨rfl, fun kind id => ?_⟩ rfl
          (List.Subset.refl _) (fun _ h => (Option.some.inj h).symm) rfl
        cases kind <;> simp [holds, hinsert, fresh, record]
      · exact .silent ⟨rfl, Nat.le_refl _, rfl⟩
  | deleteTexture id | deleteFramebuffer id | deleteBuffer id | deleteProgram id | deleteSync id
  | deleteSampler id | deleteVertexArray id =>
    refine .deleted _ id _ ⟨rfl, fun kind id' => ?_⟩ rfl rfl rfl rfl
    cases kind <;> simp [holds, perform, record, Table.mem_keys_erase]
  | texImage id | generateMipmap _ id =>
    exact .record (sameHolds_modifyTexture ..) _
      (fun id' h => ⟨.texture, by simpa [Call.names, Command.names] using h⟩) rfl rfl rfl
  | bindTextureUnit _ _ texture | bindFramebuffer texture | useProgram texture
  | bindVertexArray texture =>
    refine .called _ rfl (Nat.le_refl _) rfl (fun id h => ?_) rfl rfl rfl
    cases texture with
    | none => cases h
    | some id' =>
      cases List.mem_singleton.1 h
      exact ⟨_, List.mem_singleton_self _⟩
  | framebufferTexture _ id =>
    exact .record (sameHolds_attach ..) _
      (fun id' h => ⟨.texture, by simpa [Call.names, Command.names] using h⟩) rfl rfl rfl
  | uniformFloats | uniformInts | uniformUInts | uniformMatrix => exact effect_setUniform ..
  | clear =>
    exact .record (clear_moves (fun s id f _ => sameHolds_modifyTexture s id f) ..) _
      (List.forall_mem_nil _) rfl rfl rfl
  | drawArraysInstanced =>
    exact .record (runEmulator_moves (fun s id f _ => sameHolds_modifyTexture s id f) s) _
      (List.forall_mem_nil _) rfl rfl rfl
  | bufferData _ id | bufferReserve _ id =>
    exact .record (sameHolds_modifyBuffer ..) _
      (fun id' h => ⟨.buffer, by simpa [Call.names, Command.names] using h⟩) rfl rfl rfl
  | packPixels => exact .record (sameHolds_modifyBuffer ..) _ (List.forall_mem_nil _) rfl rfl rfl
  | getBufferSubData _ id =>
    exact .record hsame _
      (fun id' h => ⟨.buffer, by simpa [Call.names, Command.names] using h⟩) rfl rfl rfl
  | clientWaitSync id =>
    have hname : ∀ id' ∈ (Call.clientWaitSync id).names, ∃ kind, (kind, id') ∈ [(Kind.fence, id)] :=
      fun id' h => ⟨.fence, by simpa [Call.names] using h⟩
    obtain ⟨fences, hwait, hkeys, -⟩ := s.waitFence_spec id
    rw [perform, hwait]
    refine .called (.clientWaitSync id) ?_ (Nat.le_refl _) rfl hname rfl rfl rfl
    funext kind
    cases kind with
    | fence => exact hkeys
    | _ => rfl
  | _ => exact .called _ rfl (Nat.le_refl _) rfl (List.forall_mem_nil _) rfl rfl rfl

/-! ### Deletions -/

/-- How often an object has been deleted. -/
def deletions (s : State) (kind : Kind) (id : Name) : Nat :=
  s.log.countP fun call => decide (call.deletes? = some (kind, id))

theorem deletions_cons {call : Call} (h : s'.log = call :: s.log) (kind : Kind) (id : Name) :
    s'.deletions kind id =
      s.deletions kind id + if call.deletes? = some (kind, id) then 1 else 0 := by
  unfold deletions
  rw [h, List.countP_cons]
  simp only [decide_eq_true_eq]

/-- A call that deletes nothing has been written down. -/
theorem deletions_of_silent {call : Call} (h : s'.log = call :: s.log)
    (hdeletes : call.deletes? = none) : s'.deletions = s.deletions := by
  funext kind id
  rw [deletions_cons h, hdeletes, if_neg (Option.some_ne_none _).symm, Nat.add_zero]

/-- What was there or had been deleted is there or has been deleted. -/
def Settles (s s' : State) : Prop := ∀ kind id,
  id ∈ s.holds kind ∨ 0 < s.deletions kind id → id ∈ s'.holds kind ∨ 0 < s'.deletions kind id

instance : IsPreorder State Settles where
  refl _ _ _ := id
  trans _ _ _ h h' kind id := h' kind id ∘ h kind id

theorem Settles.of_same (h : SameHolds s s') : Settles s s' := by
  intro kind id hid
  unfold deletions at hid ⊢
  rwa [h.holds, h.log]

theorem deletions_of_deleted {kind : Kind} {id : Name} {call : Call} (h : s'.log = call :: s.log)
    (hwhole : call.deletes? = some (kind, id)) (kind' : Kind) (id' : Name) :
    s'.deletions kind' id' =
      s.deletions kind' id' + if kind' = kind ∧ id' = id then 1 else 0 := by
  rw [deletions_cons h, hwhole]
  simp only [Option.some.injEq, Prod.mk.injEq, eq_comm]

/-- No command takes an object without writing down that it has been deleted. -/
theorem Effect.settles {names : List (Kind × Name)} {deletes : Option (Kind × Name)}
    {attaches : Bool} (heffect : Effect s s' names deletes attaches) : Settles s s' := by
  intro kind id hid
  cases heffect with
  | silent same => exact Settles.of_same same kind id hid
  | called call hholds hname hlog hcall hmade hdeletes =>
    rwa [hholds, deletions_of_silent hlog hdeletes]
  | made kind' call hmakes hlog hown hmade hdeletes =>
    rw [hmakes.holds, deletions_of_silent hlog hdeletes]
    exact hid.imp_left .inl
  | deleted kind' id' call hdeletes hlog hown hmade hwhole =>
    rw [hdeletes.holds, deletions_of_deleted hlog hwhole]
    by_cases hsame : kind = kind' ∧ id = id'
    · exact .inr (if_pos hsame ▸ Nat.succ_pos _)
    · exact hid.imp (fun hheld => ⟨hheld, hsame⟩) fun hdeleted =>
        Nat.lt_of_lt_of_le hdeleted (Nat.le_add_right ..)

theorem settles_perform {α : Type} (command : Command α) (s : State) :
    Settles s (s.perform command).2 := (effect_perform command s).settles

/-- What was deleted was deleted once and is gone, and what was made and written down is there or
has been deleted. -/
structure Booked (s : State) : Prop where
  numbered : ∀ kind, ∀ id ∈ s.holds kind, id ≤ s.lastName
  gone : ∀ kind id, 0 < s.deletions kind id → id ≤ s.lastName ∧ id ∉ s.holds kind
  once : ∀ kind id, s.deletions kind id ≤ 1
  made : ∀ call ∈ s.log, ∀ kind id, call.made? = some (kind, id) →
    id ∈ s.holds kind ∨ 0 < s.deletions kind id

theorem Booked.of_same (h : s.Booked) (hsame : SameHolds s s') : s'.Booked := by
  have hdeletions : s'.deletions = s.deletions := by
    unfold deletions
    rw [hsame.log]
  refine ⟨fun kind id hid => ?_, fun kind id hid => ?_, hdeletions ▸ h.once,
    fun call hcall kind id hmade => ?_⟩
  · rw [hsame.holds] at hid
    exact Nat.le_trans (h.numbered kind id hid) hsame.lastName
  · rw [hdeletions] at hid
    obtain ⟨hle, hgone⟩ := h.gone kind id hid
    exact ⟨Nat.le_trans hle hsame.lastName, hsame.holds.symm ▸ hgone⟩
  · rw [hsame.log] at hcall
    rw [hsame.holds, hdeletions]
    exact h.made call hcall kind id hmade

/-- One more call is written down, and the object that it makes is there. -/
theorem Booked.made_cons (h : s.Booked) {call : Call} (hlog : s'.log = call :: s.log)
    (hsettles : Settles s s')
    (hnew : ∀ kind id, call.made? = some (kind, id) → id ∈ s'.holds kind) :
    ∀ call ∈ s'.log, ∀ kind id, call.made? = some (kind, id) →
      id ∈ s'.holds kind ∨ 0 < s'.deletions kind id := by
  intro call' hcall' kind id hmade
  rw [hlog, List.mem_cons] at hcall'
  rcases hcall' with rfl | hcall'
  · exact .inl (hnew kind id hmade)
  · exact hsettles kind id (h.made call' hcall' kind id hmade)

/-- A command that deletes only what the device holds keeps the books. -/
theorem Booked.effect {names : List (Kind × Name)} {deletes : Option (Kind × Name)}
    {attaches : Bool} (h : s.Booked) (heffect : Effect s s' names deletes attaches)
    (hheld : ∀ kind id, deletes = some (kind, id) → id ∈ s.holds kind) : s'.Booked := by
  have hsettles := heffect.settles
  cases heffect with
  | silent same => exact h.of_same same
  | called call hholds hname hlog hcall hmade hdeletes =>
    have hdeletions := deletions_of_silent hlog hdeletes
    refine ⟨fun kind id hid => ?_, fun kind id hid => ?_, hdeletions ▸ h.once,
      h.made_cons hlog hsettles (hmade ▸ nofun)⟩
    · rw [hholds] at hid
      exact Nat.le_trans (h.numbered kind id hid) hname
    · rw [hdeletions] at hid
      obtain ⟨hle, hgone⟩ := h.gone kind id hid
      exact ⟨Nat.le_trans hle hname, hholds.symm ▸ hgone⟩
  | made kind call hmakes hlog hown hmade hdeletes =>
    have hdeletions := deletions_of_silent hlog hdeletes
    refine ⟨fun kind' id hid => ?_, fun kind' id hid => ?_, hdeletions ▸ h.once,
      h.made_cons hlog hsettles fun kind' id hnew => ?_⟩
    · rw [hmakes.lastName]
      rcases (hmakes.holds kind' id).1 hid with hid | ⟨-, rfl⟩
      · exact Nat.le_succ_of_le (h.numbered kind' id hid)
      · exact Nat.le_refl _
    · rw [hdeletions] at hid
      obtain ⟨hle, hgone⟩ := h.gone kind' id hid
      rw [hmakes.lastName]
      refine ⟨Nat.le_succ_of_le hle, fun hid' => ?_⟩
      rcases (hmakes.holds kind' id).1 hid' with hid' | ⟨-, rfl⟩
      · exact hgone hid'
      · exact Nat.not_succ_le_self _ hle
    · cases hmade _ hnew
      exact (hmakes.holds ..).2 (.inr ⟨rfl, rfl⟩)
  | deleted kind id call hdeletes hlog hown hmade hwhole =>
    have hdeletions := deletions_of_deleted hlog hwhole
    -- What is held has not been deleted before.
    have hnew : s.deletions kind id = 0 := by
      rcases Nat.eq_zero_or_pos (s.deletions kind id) with hzero | hpos
      · exact hzero
      · exact absurd (hheld kind id rfl) (h.gone kind id hpos).2
    refine ⟨fun kind' id' hid => ?_, fun kind' id' hid => ?_, fun kind' id' => ?_,
      h.made_cons hlog hsettles (hmade ▸ nofun)⟩
    · rw [hdeletes.lastName]
      exact h.numbered kind' id' ((hdeletes.holds kind' id').1 hid).1
    · rw [hdeletes.lastName, hdeletes.holds]
      rw [hdeletions] at hid
      split at hid
      · rename_i hsame
        obtain ⟨rfl, rfl⟩ := hsame
        exact ⟨h.numbered kind' id' (hheld kind' id' rfl), fun hid' => hid'.2 ⟨rfl, rfl⟩⟩
      · obtain ⟨hle, hgone⟩ := h.gone kind' id' hid
        exact ⟨hle, fun hid' => hgone hid'.1⟩
    · rw [hdeletions]
      split
      · rename_i hsame
        obtain ⟨rfl, rfl⟩ := hsame
        exact Nat.le_of_eq (by rw [hnew])
      · exact h.once kind' id'

/-! ### Tidy devices -/

/-- No call names an object that an earlier call deleted, unless it attaches a texture from a
given set; and what has been deleted is not held any more. -/
structure Tidy (P : Name → Prop) (s : State) : Prop extends s.Booked where
  one : ∀ kind kind' id, id ∈ s.holds kind → id ∈ s.holds kind' → kind = kind'
  forgotten : ∀ call ∈ s.log, ∀ id, call.deleted? = some id →
    id ≤ s.lastName ∧ ∀ kind, id ∉ s.holds kind
  /-- The log has the newest call first. -/
  log : s.log.Pairwise fun later earlier => ∀ id ∈ later.names, earlier.deleted? = some id →
    later.isAttachment = true ∧ P id

/-- The objects that are named are held, or a texture from the given set is attached. -/
def Names (P : Name → Prop) (s : State) (names : List (Kind × Name)) (attaches : Bool) : Prop :=
  ∀ kind id, (kind, id) ∈ names → id ∈ s.holds kind ∨ attaches = true ∧ P id

variable {P Q : Name → Prop}

/-- A command that attaches nothing names what is held. -/
theorem Names.held {kind : Kind} {id : Name} (h : s.Names P [(kind, id)] false) :
    id ∈ s.holds kind := by
  rcases h kind id (List.mem_singleton_self _) with hheld | ⟨hattach, -⟩
  · exact hheld
  · cases hattach

theorem Tidy.mono (h : s.Tidy P) (hPQ : ∀ id, P id → Q id) : s.Tidy Q where
  toBooked := h.toBooked
  one := h.one
  forgotten := h.forgotten
  log := h.log.imp fun hnames id hid hdeleted =>
    ⟨(hnames id hid hdeleted).1, hPQ id (hnames id hid hdeleted).2⟩

/-- A device that holds the same objects and has the same log. -/
theorem Tidy.of_same (h : s.Tidy P) (hsame : SameHolds s s') : s'.Tidy P where
  toBooked := h.toBooked.of_same hsame
  one := hsame.holds.symm ▸ h.one
  forgotten call hcall id hid := by
    rw [hsame.log] at hcall
    obtain ⟨hle, hgone⟩ := h.forgotten call hcall id hid
    exact ⟨Nat.le_trans hle hsame.lastName, hsame.holds.symm ▸ hgone⟩
  log := hsame.log.symm ▸ h.log

/-- What has been deleted stays forgotten: a call that deletes nothing forgets nothing, and new
objects have numbers that were not given out before. -/
theorem Tidy.forgotten_cons (h : s.Tidy P) {call : Call} (hlog : s'.log = call :: s.log)
    (hdeletes : call.deletes? = none) (hname : s.lastName ≤ s'.lastName)
    (hholds : ∀ kind id, id ∈ s'.holds kind → id ∈ s.holds kind ∨ id = s.lastName + 1) :
    ∀ call ∈ s'.log, ∀ id, call.deleted? = some id →
      id ≤ s'.lastName ∧ ∀ kind, id ∉ s'.holds kind := by
  intro call' hcall' id hid
  rw [hlog, List.mem_cons] at hcall'
  rcases hcall' with rfl | hcall'
  · obtain ⟨kind, hkind⟩ := Call.exists_kind_of_deleted? hid
    cases hdeletes.symm.trans hkind
  · obtain ⟨hle, hgone⟩ := h.forgotten call' hcall' id hid
    refine ⟨Nat.le_trans hle hname, fun kind hheld => ?_⟩
    rcases hholds kind id hheld with hheld | rfl
    · exact hgone kind hheld
    · exact Nat.not_succ_le_self _ hle

/-- A command that names what the device holds keeps it tidy. -/
theorem Tidy.effect {names : List (Kind × Name)} {deletes : Option (Kind × Name)}
    {attaches : Bool} (h : s.Tidy P) (heffect : Effect s s' names deletes attaches)
    (hnames : s.Names P names attaches) : s'.Tidy P := by
  have hbooked : s'.Booked := by
    refine h.toBooked.effect heffect fun kind id hdeletes => ?_
    cases heffect with
    | silent | called | made => cases hdeletes
    | deleted =>
      cases hdeletes
      exact hnames.held
  cases heffect with
  | silent same => exact h.of_same same
  | called call hholds hname hlog hcall hmade hdeletes hattaches =>
    refine ⟨hbooked, hholds.symm ▸ h.one,
      h.forgotten_cons hlog hdeletes hname fun kind id hid => .inl (hholds ▸ hid), ?log⟩
    case log =>
      rw [hlog]
      refine .cons (fun earlier hearlier id hid hid' => ?_) h.log
      obtain ⟨kind, hkind⟩ := hcall id hid
      rcases hnames kind id hkind with hheld | ⟨hattach, hP⟩
      · exact absurd hheld ((h.forgotten earlier hearlier id hid').2 kind)
      · exact ⟨hattaches.trans hattach, hP⟩
  | made kind call hmakes hlog hcall hmade hdeletes =>
    have hname : s.lastName ≤ s'.lastName := hmakes.lastName ▸ Nat.le_succ _
    refine ⟨hbooked, ?one, h.forgotten_cons hlog hdeletes hname fun kind' id hid =>
      ((hmakes.holds kind' id).1 hid).imp_right And.right, ?log⟩
    case one =>
      -- The next number is that of no object yet.
      have hnew {kind' : Kind} {id : Name} (hid : id ∈ s.holds kind') : id ≠ s.lastName + 1 :=
        fun e => Nat.not_succ_le_self _ (e ▸ h.numbered kind' id hid)
      intro kind₁ kind₂ id h₁ h₂
      rcases (hmakes.holds kind₁ id).1 h₁ with h₁ | ⟨rfl, e₁⟩ <;>
        rcases (hmakes.holds kind₂ id).1 h₂ with h₂ | ⟨rfl, e₂⟩
      · exact h.one kind₁ kind₂ id h₁ h₂
      · exact absurd e₂ (hnew h₁)
      · exact absurd e₁ (hnew h₂)
      · rfl
    case log =>
      rw [hlog]
      refine .cons (fun earlier hearlier id hid hid' => ?_) h.log
      rw [List.mem_singleton.1 (hcall hid)] at hid'
      exact absurd (h.forgotten earlier hearlier _ hid').1 (Nat.not_succ_le_self _)
  | deleted kind id call hdeletes hlog hcall hmade hwhole =>
    have hkept {kind' : Kind} {id' : Name} (hid : id' ∈ s'.holds kind') : id' ∈ s.holds kind' :=
      ((hdeletes.holds kind' id').1 hid).1
    have hheld := hnames.held
    refine ⟨hbooked, fun kind₁ kind₂ id' h₁ h₂ => h.one kind₁ kind₂ id' (hkept h₁) (hkept h₂),
      ?forgotten, ?log⟩
    case forgotten =>
      intro call' hcall' id' hid
      rw [hdeletes.lastName]
      rw [hlog, List.mem_cons] at hcall'
      rcases hcall' with rfl | hcall'
      · obtain ⟨kind', hkind⟩ := Call.exists_kind_of_deleted? hid
        cases hwhole.symm.trans hkind
        refine ⟨h.numbered kind id hheld, fun kind' hid' => ?_⟩
        obtain ⟨hid', hne⟩ := (hdeletes.holds kind' id).1 hid'
        exact hne ⟨h.one kind' kind id hid' hheld, rfl⟩
      · obtain ⟨hle, hgone⟩ := h.forgotten call' hcall' id' hid
        exact ⟨hle, fun kind' hid' => hgone kind' (hkept hid')⟩
    case log =>
      rw [hlog]
      refine .cons (fun earlier hearlier id' hid hid' => ?_) h.log
      rw [hcall, List.mem_singleton] at hid
      exact absurd hheld ((h.forgotten earlier hearlier id (hid ▸ hid')).2 kind)

/-- A command that names what the device holds keeps it tidy. -/
theorem Tidy.perform {α : Type} (h : s.Tidy P) (command : Command α)
    (hnames : s.Names P command.names command.isAttachment) : (s.perform command).2.Tidy P :=
  h.effect (effect_perform command s) hnames

/-- No objects are named. -/
theorem names_nil (P : Name → Prop) (s : State) (attaches : Bool) : s.Names P [] attaches :=
  fun _ _ h => nomatch h

/-- One object is named, and it is held. -/
theorem names_held {kind : Kind} {id : Name} (h : id ∈ s.holds kind) (attaches : Bool) :
    s.Names P [(kind, id)] attaches := by
  intro kind' id' hid
  cases List.mem_singleton.1 hid
  exact .inl h

theorem Effect.holds_subset {names : List (Kind × Name)} {deletes : Option (Kind × Name)}
    {attaches : Bool} (h : Effect s s' names deletes attaches) (hdeletes : deletes = none)
    (kind : Kind) : s.holds kind ⊆ s'.holds kind := by
  cases h with
  | silent same => exact same.holds ▸ List.Subset.refl _
  | called _ hholds => exact hholds ▸ List.Subset.refl _
  | made kind' _ hmakes => exact fun id hid => (hmakes.holds kind id).2 (.inl hid)
  | deleted => cases hdeletes

theorem Effect.deletes {names : List (Kind × Name)} {deletes : Option (Kind × Name)}
    {attaches : Bool} (h : Effect s s' names deletes attaches) {kind : Kind} {id : Name}
    (hdeletes : deletes = some (kind, id)) : Deletes kind id s s' := by
  cases h with
  | silent | called | made => cases hdeletes
  | deleted _ _ _ h =>
    cases hdeletes
    exact h

/-- A command that deletes nothing leaves every object where it is. -/
theorem holds_perform {α : Type} {command : Command α} (h : command.deletes? = none) (s : State)
    (kind : Kind) : s.holds kind ⊆ (s.perform command).2.holds kind :=
  (effect_perform command s).holds_subset h kind

/-- A command that deletes an object leaves the others where they are. -/
theorem holds_delete {command : Command Unit} {kind : Kind} {id : Name}
    (h : command.deletes? = some (kind, id)) (s : State) (kind' : Kind) (id' : Name) :
    id' ∈ (s.perform command).2.holds kind' ↔ id' ∈ s.holds kind' ∧ ¬ (kind' = kind ∧ id' = id) :=
  ((effect_perform command s).deletes h).holds kind' id'

end State

end Software

end DrawPass
