/-
DrawPass/Proofs/Levels.lean

Which calls write the first level of a texture.

The storage of a texture is written when it is specified, and by every clear and every draw
while the texture is attached to the framebuffer that is bound.  What is attached where, and
which framebuffer is bound, can be told from the calls that the device has written down
(`Framing.replay`), so it can be told from the log alone whether a call writes a given texture
(`Call.writes`), and whether every such call has been followed by new mip levels
(`LevelsFollow`).
-/
import DrawPass.Proofs.Command
import Mathlib.Data.List.Basic

namespace DrawPass

namespace Gl.Command

/-- Whether a command writes the first level of textures. -/
def writesLevels {α : Type} : Command α → Bool
  | texImage .. | clear .. | drawArraysInstanced .. => true
  | _ => false

theorem writesLevels_of_sparesTargets {α : Type} (command : Command α)
    (h : command.sparesTargets) : command.writesLevels = false := by
  cases command <;> first | rfl | cases h

end Gl.Command

namespace Software

open Gl hiding Call

/-- Every texture that is attached to a framebuffer. -/
def Framebuffer.textures (fb : Framebuffer) : List Name :=
  fb.colors.map Attachment.texture ++ fb.depth.toList

/-- Attaching a texture brings no other. -/
theorem Framebuffer.mem_textures_attach {fb : Framebuffer} {point : UInt32} {texture : Name}
    {layer : Option UInt32} {id : Name} (h : id ∈ (fb.attach point texture layer).textures) :
    id = texture ∨ id ∈ fb.textures := by
  unfold attach at h
  split at h
  · rcases List.mem_append.1 h with h | h
    · exact .inr (List.mem_append_left _ h)
    · exact .inl (List.mem_singleton.1 h)
  · rcases List.mem_append.1 h with h | h
    · obtain ⟨a, ha, rfl⟩ := List.mem_map.1 h
      rcases List.mem_append.1 ha with ha | ha
      · have hold := List.mem_map_of_mem (f := Attachment.texture) (List.mem_of_mem_filter ha)
        exact .inr (List.mem_append_left _ hold)
      · cases List.mem_singleton.1 ha
        exact .inl rfl
    · exact .inr (List.mem_append_right _ h)

/-- Which framebuffer is bound, and what is attached to each. -/
structure Framing where
  bound : Option Name := none
  framebuffers : Table Name Framebuffer := .empty

/-- The framing of a device. -/
def State.framing (s : State) : Framing := ⟨s.boundFramebuffer, s.framebuffers⟩

namespace Framing

/-- The framing after a call. -/
def after (f : Framing) : Call → Framing
  | .createFramebuffer id => { f with framebuffers := f.framebuffers.insert id {} }
  | .deleteFramebuffer id => ⟨f.bound.filter (· != id), f.framebuffers.erase id⟩
  | .bindFramebuffer id => { f with bound := id }
  | .framebufferTexture point texture layer =>
    match f.bound with
    | none => f
    | some id => { f with framebuffers := f.framebuffers.modify id (·.attach point texture layer) }
  | _ => f

/-- The framing after several calls, the first one first. -/
def replay (f : Framing) (calls : List Call) : Framing := calls.foldl after f

/-- The textures that are attached to the framebuffer that is bound. -/
def attached (f : Framing) : List Name :=
  ((f.bound.bind f.framebuffers.get?).map Framebuffer.textures).getD []

theorem replay_append (f : Framing) (calls calls' : List Call) :
    f.replay (calls ++ calls') = (f.replay calls).replay calls' := List.foldl_append

end Framing

namespace Call

/-- Whether a call, issued with some framing, writes the first level of a texture. -/
def writes (f : Framing) (id : Name) : Call → Bool
  | texImage id' .. => id' == id
  | clear .. | drawArraysInstanced .. => f.attached.contains id
  | _ => false

/-- Whether a call writes the first level of textures. -/
def isWrite : Call → Bool
  | texImage .. | clear .. | drawArraysInstanced .. => true
  | _ => false

theorem isWrite_of_writes {f : Framing} {id : Name} {call : Call} (h : call.writes f id = true) :
    call.isWrite = true := by
  cases call <;> first | rfl | cases h

end Call

/-! ### Writes and new mip levels -/

/-- Every call that wrote the first level of a texture has been followed by new mip levels of the
texture, unless the calls before it excuse it. -/
def LevelsFollow (P : List Call → Prop) (id : Name) (calls : List Call) : Prop :=
  ∀ earlier call later, calls = earlier ++ call :: later →
    call.writes (Framing.replay {} earlier) id = true →
      .generateMipmap id ∈ later ∨ P earlier

namespace LevelsFollow

variable {P : List Call → Prop} {id : Name} {calls new : List Call}

/-- A call stands in the first part or in the second part of a log. -/
theorem append_eq {call : Call} {earlier later : List Call}
    (h : calls ++ new = earlier ++ call :: later) :
    (∃ later', calls = earlier ++ call :: later' ∧ later = later' ++ new) ∨
      ∃ earlier', earlier = calls ++ earlier' ∧ new = earlier' ++ call :: later := by
  rcases List.append_eq_append_iff.1 h with ⟨earlier', hearlier, hnew⟩ | ⟨rest, hcalls, hrest⟩
  · exact .inr ⟨earlier', hearlier, hnew⟩
  · cases rest with
    | nil => exact .inr ⟨[], by rw [hcalls, List.append_nil, List.append_nil], hrest.symm⟩
    | cons _ rest =>
      cases hrest
      exact .inl ⟨rest, hcalls, rfl⟩

/-- What writes nothing leaves no level behind. -/
theorem append (h : LevelsFollow P id calls) (hnew : ∀ call ∈ new, call.isWrite = false) :
    LevelsFollow P id (calls ++ new) := by
  intro earlier call later heq hwrites
  rcases append_eq heq with ⟨later', hcalls, rfl⟩ | ⟨earlier', -, hsplit⟩
  · exact (h earlier call later' hcalls hwrites).imp_left (List.mem_append_left _)
  · have hcall := hnew call (hsplit ▸ List.mem_append_right _ List.mem_cons_self)
    rw [Call.isWrite_of_writes hwrites] at hcall
    cases hcall

/-- A call may be written down if it is excused where it writes the texture. -/
theorem snoc (h : LevelsFollow P id calls) {call : Call}
    (hcall : call.writes (Framing.replay {} calls) id = true → P calls) :
    LevelsFollow P id (calls ++ [call]) := by
  intro earlier call' later heq hwrites
  rcases append_eq heq with ⟨later', hcalls, rfl⟩ | ⟨earlier', rfl, hsplit⟩
  · exact (h earlier call' later' hcalls hwrites).imp_left (List.mem_append_left _)
  · cases earlier' with
    | nil =>
      cases hsplit
      rw [List.append_nil] at hwrites ⊢
      exact .inr (hcall hwrites)
    | cons _ earlier' => cases earlier' <;> cases hsplit

/-- New mip levels make up for whatever was written before. -/
theorem of_generated (hnew : ∀ call ∈ new, call.isWrite = false)
    (hgenerated : .generateMipmap id ∈ new) : LevelsFollow P id (calls ++ new) := by
  intro earlier call later heq hwrites
  rcases append_eq heq with ⟨later', -, rfl⟩ | ⟨earlier', -, hsplit⟩
  · exact .inl (List.mem_append_right _ hgenerated)
  · have hcall := hnew call (hsplit ▸ List.mem_append_right _ List.mem_cons_self)
    rw [Call.isWrite_of_writes hwrites] at hcall
    cases hcall

end LevelsFollow

namespace State

/-! ### What the log tells of the framing -/

/-- The framing has followed the calls made meanwhile, and none of them wrote a first level. -/
def Unwritten (s s' : State) : Prop :=
  ∃ calls, s'.calls = s.calls ++ calls ∧ s'.framing = s.framing.replay calls ∧
    ∀ call ∈ calls, call.isWrite = false

variable {s s' : State}

instance : IsPreorder State Unwritten where
  refl s := ⟨[], (List.append_nil _).symm, rfl, List.forall_mem_nil _⟩
  trans s s' s'' := by
    rintro ⟨calls, hcalls, hframing, hquiet⟩ ⟨calls', hcalls', hframing', hquiet'⟩
    refine ⟨calls ++ calls', ?_, ?_, List.forall_mem_append.2 ⟨hquiet, hquiet'⟩⟩
    · rw [hcalls', hcalls, List.append_assoc]
    · rw [hframing', hframing, Framing.replay_append]

/-- If the log tells the framing, it goes on telling it. -/
theorem Unwritten.replay (h : Unwritten s s') (hframing : Framing.replay {} s.calls = s.framing) :
    Framing.replay {} s'.calls = s'.framing := by
  obtain ⟨calls, hcalls, hframing', -⟩ := h
  rw [hcalls, Framing.replay_append, hframing, hframing']

theorem calls_of_log {calls : List Call} (h : s'.log = calls.reverse ++ s.log) :
    s'.calls = s.calls ++ calls := by
  rw [State.calls, h, List.reverse_append, List.reverse_reverse, State.calls]

theorem Unwritten.of_eq (hlog : s'.log = s.log) (hframing : s'.framing = s.framing) :
    Unwritten s s' := ⟨[], calls_of_log hlog, hframing, List.forall_mem_nil _⟩

/-- One call has been written down. -/
theorem Unwritten.of_call {call : Call} (hlog : s'.log = call :: s.log)
    (hframing : s'.framing = s.framing.after call) (hcall : call.isWrite = false) :
    Unwritten s s' := by
  refine ⟨[call], calls_of_log hlog, hframing, fun call' hcall' => ?_⟩
  rw [List.mem_singleton.1 hcall']
  exact hcall

theorem unwritten_setUniform (s : State) (location : Location) (value : UniformValue) :
    Unwritten s (s.setUniform location value) := by
  cases location with
  | named => exact .of_call rfl rfl rfl
  | numbered => exact refl s

/-- A command that writes no first level. -/
theorem unwritten_perform {α : Type} (command : Command α) (h : command.writesLevels = false)
    (s : State) : Unwritten s (s.perform command).2 := by
  cases command with
  | texImage | clear | drawArraysInstanced => cases h
  | drawingBufferSize | activeUniforms | uniformLocation => exact refl s
  | createTexture =>
    simp only [perform, createTexture]
    split
    · exact .of_eq rfl rfl
    · exact .of_call rfl rfl rfl
  | createFramebuffer =>
    simp only [perform, createFramebuffer]
    split
    · exact .of_eq rfl rfl
    · exact .of_call rfl rfl rfl
  | framebufferTexture point texture layer =>
    have hlog : (s.perform (.framebufferTexture point texture layer)).2.log =
        .framebufferTexture point texture layer :: s.log := by
      simp only [perform, attach]
      split <;> rfl
    refine .of_call hlog ?_ rfl
    simp only [perform, attach, framing, Framing.after]
    split <;> rename_i hbound <;> simp only [record, hbound]
  | compileShader =>
    simp only [perform, compileShader]
    split <;> exact .of_call rfl rfl rfl
  | linkProgram =>
    simp only [perform, linkProgram]
    split
    · exact .of_eq rfl rfl
    · split
      · exact .of_call rfl rfl rfl
      · exact .of_eq rfl rfl
  | clientWaitSync fence =>
    obtain ⟨fences, hwait, -⟩ := s.waitFence_spec fence
    rw [perform, hwait]
    exact .of_call rfl rfl rfl
  | uniformFloats | uniformInts | uniformUInts | uniformMatrix => exact unwritten_setUniform ..
  | _ => exact .of_call rfl rfl rfl

/-- A command that has nothing to do with targets leaves the framing alone. -/
theorem framing_perform {α : Type} (command : Command α) (h : command.sparesTargets)
    (s : State) : (s.perform command).2.framing = s.framing := by
  have haside (h : command.isAside) := perform_aside command h s
  cases command with
  | createTexture | deleteTexture | texImage | createFramebuffer | deleteFramebuffer
  | bindFramebuffer | framebufferTexture | clear | drawArraysInstanced => cases h
  | compileShader | linkProgram | clientWaitSync | uniformFloats | uniformInts | uniformUInts
  | uniformMatrix =>
    obtain ⟨_, _, _, _, _, _, heq, -⟩ := haside rfl
    rw [heq]
    rfl
  | _ => rfl

theorem framing_modifyTexture (s : State) (id : Option Name) (f : Texture → Texture) :
    (s.modifyTexture id f).framing = s.framing ∧ (s.modifyTexture id f).log = s.log := by
  cases id <;> exact ⟨rfl, rfl⟩

/-- Clearing and drawing change the contents of textures, and neither the log nor the framing. -/
def SameFraming (s s' : State) : Prop := s'.framing = s.framing ∧ s'.log = s.log

instance : IsPreorder State SameFraming where
  refl _ := ⟨rfl, rfl⟩
  trans _ _ _ h h' := ⟨h'.1.trans h.1, h'.2.trans h.2⟩

theorem perform_texImage (s : State) (id : Name) (layout : Layout) (width height : UInt32)
    (layers : Option UInt32) (data : Option Bytes) :
    (s.perform (.texImage id layout width height layers data)).2.calls = s.calls ++
        [.texImage id width height layers layout.internalFormat data.isSome] ∧
      (s.perform (.texImage id layout width height layers data)).2.framing = s.framing :=
  ⟨calls_of_log rfl, rfl⟩

theorem perform_clear (s : State) (color : Color) (mask : UInt32) :
    (s.perform (.clear color mask)).2.calls = s.calls ++ [.clear color mask] ∧
      (s.perform (.clear color mask)).2.framing = s.framing := by
  obtain ⟨hframing, hlog⟩ : SameFraming s (s.clear color mask) :=
    clear_moves (fun s id f _ => framing_modifyTexture s id f) s color mask
  exact ⟨calls_of_log (congrArg (Call.clear color mask :: ·) hlog), hframing⟩

theorem perform_draw (s : State) (mode : UInt32) (first count instances : Int32) :
    (s.perform (.drawArraysInstanced mode first count instances)).2.calls =
        s.calls ++ [.drawArraysInstanced mode count instances] ∧
      (s.perform (.drawArraysInstanced mode first count instances)).2.framing = s.framing := by
  obtain ⟨hframing, hlog⟩ : SameFraming s s.runEmulator :=
    runEmulator_moves (fun s id f _ => framing_modifyTexture s id f) s
  exact ⟨calls_of_log (congrArg (Call.drawArraysInstanced mode count instances :: ·) hlog),
    hframing⟩

end State

end Software

end DrawPass
