/-
DrawPass/Proofs/Command.lean

What a single command can do to the device in memory.

Commands fall into groups by what they leave alone.  Most leave alone which objects
there are and what pixel buffers and framebuffers hold (`Command.keepsObjects`); most
leave alone the capabilities and the depth mask, and draw nothing
(`Command.keepsFixed`).  A function that gives only such commands leaves the same
things alone, whatever else it does.

No command takes back a number: the counter of the device only grows.
-/
import DrawPass.Software.Device
import Mathlib.Order.Defs.Unbundled

namespace DrawPass

namespace Gl.Command

/-- Whether a command leaves the capabilities and the depth mask alone and draws nothing. -/
def keepsFixed {α : Type} : Command α → Bool
  | enable _ | disable _ | depthMask _ | drawArraysInstanced .. => false
  | _ => true

/-- Whether a command makes and deletes none of the objects that the library keeps track of, and
leaves alone what buffers, framebuffers and fences hold. -/
def keepsObjects {α : Type} : Command α → Bool
  | createTexture | deleteTexture _ | createFramebuffer | deleteFramebuffer _
  | framebufferTexture .. | createBuffer | deleteBuffer _ | bufferData .. | bufferReserve ..
  | packPixels .. | fenceSync | clientWaitSync .. | deleteSync _ => false
  | _ => true

/-- Whether a command neither makes nor deletes nor attaches textures and framebuffers. -/
def keepsFrames {α : Type} : Command α → Bool
  | createTexture | deleteTexture _ | createFramebuffer | deleteFramebuffer _
  | framebufferTexture .. => false
  | _ => true

/-- Whether a command leaves alone which textures and framebuffers there are, what is attached where,
which framebuffer is bound, and what is stored in the first level of textures. -/
def sparesTargets {α : Type} : Command α → Bool
  | createTexture | deleteTexture _ | texImage .. | createFramebuffer | deleteFramebuffer _
  | bindFramebuffer _ | framebufferTexture .. | clear .. | drawArraysInstanced .. => false
  | _ => true

/-- Whether a command specifies the storage of a texture. -/
def specifies {α : Type} : Command α → Bool
  | texImage .. => true
  | _ => false

/-- Whether a command gives a buffer storage. -/
def allocates {α : Type} : Command α → Bool
  | bufferData .. | bufferReserve .. => true
  | _ => false

/-- Whether a command neither compiles a stage nor links two. -/
def keepsShaders {α : Type} : Command α → Bool
  | compileShader .. | linkProgram .. => false
  | _ => true

/-- Whether a command sets something and no object is meant. -/
def isSetting {α : Type} : Command α → Bool
  | enable _ | disable _ | blendFunc .. | blendEquation _ | cullFace _ | depthMask _ | viewport _
  | scissor _ | clear .. | bindVertexArray none => true
  | _ => false

/-- Whether a command is about stages, programs, uniforms or the wait for a fence. -/
def isAside {α : Type} : Command α → Bool
  | compileShader .. | linkProgram .. | clientWaitSync .. | uniformFloats .. | uniformInts ..
  | uniformUInts .. | uniformMatrix .. => true
  | _ => false

theorem keepsObjects_of_isSetting {α : Type} (command : Command α) (h : command.isSetting) :
    command.keepsObjects := by
  cases command <;> first | rfl | cases h

theorem specifies_of_isSetting {α : Type} (command : Command α) (h : command.isSetting) :
    command.specifies = false := by
  cases command <;> first | rfl | cases h

theorem keepsShaders_of_isSetting {α : Type} (command : Command α) (h : command.isSetting) :
    command.keepsShaders := by
  cases command <;> first | rfl | cases h

theorem allocates_of_keepsObjects {α : Type} (command : Command α)
    (h : command.keepsObjects) : command.allocates = false := by
  cases command <;> first | rfl | cases h

theorem specifies_of_sparesTargets {α : Type} (command : Command α) (h : command.sparesTargets) :
    command.specifies = false := by
  cases command <;> first | rfl | cases h

theorem keepsFrames_of_keepsObjects {α : Type} (command : Command α)
    (h : command.keepsObjects) : command.keepsFrames := by
  cases command <;> first | rfl | cases h

theorem keepsFrames_of_sparesTargets {α : Type} (command : Command α)
    (h : command.sparesTargets) : command.keepsFrames := by
  cases command <;> first | rfl | cases h

end Gl.Command

namespace Software

open Gl

/-- Whether a call switches a capability or the depth mask, or draws. -/
def Call.isFixed : Call → Bool
  | enable _ | disable _ | depthMask _ | drawArraysInstanced .. => true
  | _ => false

/-! ### Clears and draws change nothing but contents of textures -/

namespace Texture

/-- Width, height and the number of layers. -/
def extent (t : Texture) : UInt32 × UInt32 × UInt32 := (t.width, t.height, t.layers)

/-- The colours of the texels have changed at most. -/
structure Recolored (t t' : Texture) : Prop where
  frame : t' = { t with texels := t'.texels }
  size : t'.texels.size = t.texels.size

instance : IsPreorder Texture Recolored where
  refl _ := ⟨rfl, rfl⟩
  trans t t' t'' h h' := by
    refine ⟨?_, h'.size.trans h.size⟩
    have hframe := h'.frame
    rw [h.frame] at hframe
    exact hframe

theorem Recolored.extent {t t' : Texture} (h : t.Recolored t') : t'.extent = t.extent := by
  rw [h.frame]
  rfl

theorem recolored_put (t : Texture) (x y : Int32) (layer : UInt32) (texel : Color) :
    t.Recolored (t.put x y layer texel) := by
  unfold put
  split
  · exact refl t
  · exact ⟨rfl, Array.size_setIfInBounds⟩

/-- Many changes of colours. -/
theorem recolored_foldl {α : Type} {f : Texture → α → Texture}
    (h : ∀ t a, Recolored t (f t a)) (l : List α) (t : Texture) : t.Recolored (l.foldl f t) := by
  induction l generalizing t with
  | nil => exact refl t
  | cons a l ih => exact IsTrans.trans t _ _ (h t a) (ih (f t a))

theorem recolored_fill (t : Texture) (rect : Rect) (layer : UInt32) (value : Color) :
    t.Recolored (t.fill rect layer value) :=
  recolored_foldl (fun t _ => recolored_foldl (fun t _ => t.recolored_put _ _ _ _) _ t) _ t

end Texture

namespace State

section

variable {R : State → State → Prop} [IsPreorder State R]
  (h : ∀ s id f, (∀ t : Texture, t.Recolored (f t)) → R s (modifyTexture s id f))
include h

theorem clearColor_moves (s : State) (color : Color) (target : Option Name × UInt32) :
    R s (clearColor color s target) := by
  unfold clearColor
  split
  · exact refl s
  · exact h _ _ _ fun t => t.recolored_fill _ _ _

theorem clearDepth_moves (s : State) : R s s.clearDepth := by
  unfold clearDepth
  split
  · exact refl s
  · split
    · exact refl s
    · exact h _ _ _ fun t => t.recolored_fill _ _ _

theorem foldl_clearColor_moves (s : State) (color : Color)
    (targets : List (Option Name × UInt32)) : R s (targets.foldl (clearColor color) s) := by
  induction targets generalizing s with
  | nil => exact refl s
  | cons target targets ih => exact IsTrans.trans s _ _ (clearColor_moves h ..) (ih _)

theorem clear_moves (s : State) (color : Color) (mask : UInt32) : R s (s.clear color mask) := by
  unfold clear
  simp only
  split <;> split
  · exact IsTrans.trans s _ _ (foldl_clearColor_moves h ..) (clearDepth_moves h _)
  · exact foldl_clearColor_moves h ..
  · exact clearDepth_moves h s
  · exact refl s

theorem runEmulator_moves (s : State) : R s s.runEmulator := by
  have hgetD (result : Option State) (hresult : ∀ s', result = some s' → R s s') :
      R s (result.getD s) := by
    cases result with
    | none => exact refl s
    | some s' => exact hresult s' rfl
  refine hgetD _ fun s' hs' => ?_
  simp only [Option.bind_eq_bind, Option.bind_eq_some_iff] at hs'
  obtain ⟨program, -, ⟨marker, run⟩, -, ⟨target, layer⟩, -, t, -, hs'⟩ := hs'
  cases hs'
  exact h _ _ _ fun t => Texture.recolored_foldl (fun t _ => t.recolored_put _ _ _ _) _ t

end

/-! ### Commands with several outcomes -/

/-- A wait for a fence changes nothing but this fence, and that only if the wait is in vain. -/
theorem waitFence_spec (s : State) (fence : Name) :
    ∃ fences : Table Name UInt32,
      s.waitFence fence =
        ((s.waitFence fence).1, { s with fences, log := .clientWaitSync fence :: s.log }) ∧
      fences.keys = s.fences.keys ∧ (∀ other ≠ fence, fences.get? other = s.fences.get? other) ∧
      ((s.waitFence fence).1 = .timeout →
        fences.get? fence = (s.fences.get? fence).map (· - 1)) := by
  have hsame : s.fences.keys = s.fences.keys ∧
      (∀ other ≠ fence, s.fences.get? other = s.fences.get? other) := ⟨rfl, fun _ _ => rfl⟩
  unfold waitFence
  dsimp only
  split
  · exact ⟨s.fences, rfl, hsame.1, hsame.2, by simp⟩
  · split
    · exact ⟨s.fences, rfl, hsame.1, hsame.2, by simp⟩
    · rename_i n hn
      have hfence : s.fences.get? fence = some n := hn
      split
      · exact ⟨s.fences, rfl, hsame.1, hsame.2, by simp⟩
      · refine ⟨s.fences.insert fence (n - 1), rfl, ?_, fun other hother => ?_, fun _ => ?_⟩
        · rw [Table.keys_insert, if_pos (Table.mem_keys_iff.2 (Option.isSome_of_mem hfence))]
        · rw [Table.get?_insert, if_neg hother.symm]
        · rw [Table.get?_insert, if_pos rfl, hfence, Option.map_some]

/-- A wait for a fence changes the fences only. -/
theorem waitFence_eq (s : State) (fence : Name) :
    ∃ answer fences log, s.waitFence fence = (answer, { s with fences, log }) := by
  obtain ⟨fences, hwait, -⟩ := s.waitFence_spec fence
  exact ⟨_, _, _, hwait⟩

/-- A wait for a fence makes and deletes none. -/
theorem keys_waitFence (s : State) (fence : Name) :
    (s.waitFence fence).2.fences.keys = s.fences.keys := by
  obtain ⟨fences, hwait, hkeys, -⟩ := s.waitFence_spec fence
  rw [hwait]
  exact hkeys

/-- However a link ends, it is about stages and programs. -/
theorem linkProgram_eq (s : State) (vertex fragment : Name) :
    ∃ shaders programs failNextLink lastName log, (s.linkProgram vertex fragment).2 =
      { s with shaders, programs, failNextLink, lastName, log } ∧ s.lastName ≤ lastName := by
  unfold linkProgram
  dsimp only
  split
  · exact ⟨_, _, _, _, _, rfl, Nat.le_refl _⟩
  · split
    · exact ⟨_, _, _, _, _, rfl, Nat.le_succ _⟩
    · exact ⟨_, _, _, _, _, rfl, Nat.le_refl _⟩

/-- What is drawn into and read has nothing to do with stages, programs and fences. -/
theorem perform_aside {α : Type} (command : Command α) (h : command.isAside) (s : State) :
    ∃ shaders programs fences failNextLink lastName log, (s.perform command).2 =
      { s with shaders, programs, fences, failNextLink, lastName, log } ∧
        s.lastName ≤ lastName := by
  cases command with
  | compileShader stage source =>
    simp only [perform, compileShader]
    split
    · exact ⟨_, _, _, _, _, _, rfl, Nat.le_refl _⟩
    · exact ⟨_, _, _, _, _, _, rfl, Nat.le_succ _⟩
  | linkProgram vertex fragment =>
    obtain ⟨_, _, _, _, _, hlink, hname⟩ := s.linkProgram_eq vertex fragment
    exact ⟨_, _, _, _, _, _, hlink, hname⟩
  | clientWaitSync fence =>
    obtain ⟨_, _, _, hwait⟩ := s.waitFence_eq fence
    exact ⟨_, _, _, _, _, _, congrArg Prod.snd hwait, Nat.le_refl _⟩
  | uniformFloats location | uniformInts location | uniformUInts location
  | uniformMatrix location =>
    cases location <;> exact ⟨_, _, _, _, _, _, rfl, Nat.le_refl _⟩
  | _ => cases h

/-! ### The fixed state -/

/-- The capabilities and the depth mask are the same, and what was written down meanwhile neither
switches them nor draws. -/
structure SameFixed (s s' : State) : Prop where
  enabled : s'.enabled = s.enabled
  depthMask : s'.depthMask = s.depthMask
  log : ∃ new, s'.log = new ++ s.log ∧ ∀ call ∈ new, call.isFixed = false

instance : IsPreorder State SameFixed where
  refl s := ⟨rfl, rfl, [], rfl, fun _ h => nomatch h⟩
  trans s₁ s₂ s₃ h h' := by
    obtain ⟨new, hlog, hnew⟩ := h.log
    obtain ⟨new', hlog', hnew'⟩ := h'.log
    refine ⟨h'.enabled.trans h.enabled, h'.depthMask.trans h.depthMask, new' ++ new, ?_, ?_⟩
    · rw [hlog', hlog, List.append_assoc]
    · intro call hcall
      rcases List.mem_append.1 hcall with hcall | hcall
      · exact hnew' call hcall
      · exact hnew call hcall

/-- The fixed state and the log are untouched. -/
theorem SameFixed.of_eq {s s' : State} (henabled : s'.enabled = s.enabled)
    (hmask : s'.depthMask = s.depthMask) (hlog : s'.log = s.log) :
    SameFixed s s' :=
  ⟨henabled, hmask, [], hlog, fun _ h => nomatch h⟩

/-- Writing down a call that neither switches nor draws. -/
theorem SameFixed.record {s s' : State} (h : SameFixed s s') {call : Call}
    (hcall : call.isFixed = false) : SameFixed s (s'.record call) := by
  obtain ⟨new, hlog, hnew⟩ := h.log
  refine ⟨h.enabled, h.depthMask, call :: new, ?_, List.forall_mem_cons.2 ⟨hcall, hnew⟩⟩
  change call :: s'.log = call :: new ++ s.log
  rw [hlog, List.cons_append]

/-- The fixed state is untouched, and one call has been written down. -/
theorem SameFixed.of_call {s s' : State} {call : Call} (henabled : s'.enabled = s.enabled)
    (hmask : s'.depthMask = s.depthMask) (hlog : s'.log = call :: s.log)
    (hcall : call.isFixed = false) : SameFixed s s' :=
  ⟨henabled, hmask, [call], hlog, fun _ h => List.mem_singleton.1 h ▸ hcall⟩

theorem sameFixed_modifyTexture (s : State) (id : Option Name) (f : Texture → Texture) :
    SameFixed s (s.modifyTexture id f) := by
  cases id <;> exact .of_eq rfl rfl rfl

theorem sameFixed_setUniform (s : State) (location : Location) (value : UniformValue) :
    SameFixed s (s.setUniform location value) := by
  cases location
  · exact .of_call rfl rfl rfl rfl
  · exact refl s

/-- A command that is not about the fixed state and draws nothing keeps it. -/
theorem sameFixed_perform {α : Type} (command : Command α) (h : command.keepsFixed) (s : State) :
    SameFixed s (s.perform command).2 := by
  have h₀ (call : Call) (hcall : call.isFixed = false) : SameFixed s (s.record call) :=
    .record (refl s) hcall
  cases command with
  | enable | disable | depthMask | drawArraysInstanced => cases h
  | drawingBufferSize | activeUniforms | uniformLocation => exact refl s
  | createTexture =>
    simp only [perform, createTexture]
    split
    · exact .of_eq rfl rfl rfl
    · exact .of_call rfl rfl rfl rfl
  | createFramebuffer =>
    simp only [perform, createFramebuffer]
    split
    · exact .of_eq rfl rfl rfl
    · exact .of_call rfl rfl rfl rfl
  | compileShader =>
    simp only [perform, compileShader]
    split
    · exact .record (refl s) rfl
    · exact IsTrans.trans s _ _ (h₀ _ rfl) (.of_eq rfl rfl rfl)
  | linkProgram =>
    simp only [perform, linkProgram]
    split
    · exact .of_eq rfl rfl rfl
    · split
      · exact .of_call rfl rfl rfl rfl
      · exact .of_eq rfl rfl rfl
  | clientWaitSync fence =>
    obtain ⟨fences, hwait, -⟩ := s.waitFence_spec fence
    rw [perform, hwait]
    exact .of_call rfl rfl rfl rfl
  | framebufferTexture =>
    simp only [perform, attach]
    split
    · exact .record (refl s) rfl
    · exact .of_call rfl rfl rfl rfl
  | uniformFloats | uniformInts | uniformUInts | uniformMatrix => exact sameFixed_setUniform ..
  | clear => exact .record (clear_moves (fun s id f _ => sameFixed_modifyTexture s id f) ..) rfl
  | _ => exact .of_call rfl rfl rfl rfl

/-! ### The objects -/

/-- There are the same textures, and the framebuffers, buffers and fences are as they were. -/
structure SameObjects (s s' : State) : Prop where
  textures : s'.textures.keys = s.textures.keys
  framebuffers : s'.framebuffers = s.framebuffers
  buffers : s'.buffers = s.buffers
  fences : s'.fences = s.fences
  lastName : s.lastName ≤ s'.lastName

instance : IsPreorder State SameObjects where
  refl _ := ⟨rfl, rfl, rfl, rfl, Nat.le_refl _⟩
  trans _ _ _ h h' :=
    ⟨h'.textures.trans h.textures, h'.framebuffers.trans h.framebuffers,
      h'.buffers.trans h.buffers, h'.fences.trans h.fences, Nat.le_trans h.lastName h'.lastName⟩

theorem SameObjects.of_eq {s s' : State} (htextures : s'.textures = s.textures)
    (hframebuffers : s'.framebuffers = s.framebuffers) (hbuffers : s'.buffers = s.buffers)
    (hfences : s'.fences = s.fences) (hname : s.lastName ≤ s'.lastName) : SameObjects s s' :=
  ⟨congrArg Table.keys htextures, hframebuffers, hbuffers, hfences, hname⟩

theorem sameObjects_record (s : State) (call : Call) : SameObjects s (s.record call) :=
  .of_eq rfl rfl rfl rfl (Nat.le_refl _)

theorem sameObjects_modifyTexture (s : State) (id : Option Name) (f : Texture → Texture) :
    SameObjects s (s.modifyTexture id f) := by
  cases id with
  | none => exact .of_eq rfl rfl rfl rfl (Nat.le_refl _)
  | some id => exact ⟨Table.keys_modify .., rfl, rfl, rfl, Nat.le_refl _⟩

/-- A command that is not about the tracked objects leaves all of them alone. -/
theorem sameObjects_perform {α : Type} (command : Command α) (h : command.keepsObjects)
    (s : State) : SameObjects s (s.perform command).2 := by
  have hname : s.lastName ≤ s.lastName + 1 := Nat.le_succ _
  cases command with
  | createTexture | deleteTexture | createFramebuffer | deleteFramebuffer | framebufferTexture
  | createBuffer | deleteBuffer | bufferData | bufferReserve | packPixels | fenceSync
  | clientWaitSync | deleteSync => cases h
  | texImage | generateMipmap =>
    exact IsTrans.trans s _ _ (sameObjects_modifyTexture ..) (sameObjects_record ..)
  | clear =>
    exact IsTrans.trans s _ _ (clear_moves (fun s id f _ => sameObjects_modifyTexture s id f) ..)
      (sameObjects_record ..)
  | drawArraysInstanced =>
    exact IsTrans.trans s _ _ (runEmulator_moves (fun s id f _ => sameObjects_modifyTexture s id f) s)
      (sameObjects_record ..)
  | compileShader =>
    simp only [perform, compileShader]
    split
    · exact sameObjects_record ..
    · exact .of_eq rfl rfl rfl rfl hname
  | linkProgram vertex fragment =>
    obtain ⟨_, _, _, _, _, hlink, hle⟩ := s.linkProgram_eq vertex fragment
    rw [perform, hlink]
    exact .of_eq rfl rfl rfl rfl hle
  | createSampler | createVertexArray => exact .of_eq rfl rfl rfl rfl hname
  | uniformFloats location | uniformInts location | uniformUInts location
  | uniformMatrix location => cases location <;> exact .of_eq rfl rfl rfl rfl (Nat.le_refl _)
  | _ => exact .of_eq rfl rfl rfl rfl (Nat.le_refl _)

/-- A command that neither makes nor deletes nor attaches textures and framebuffers. -/
theorem sameFrames_perform {α : Type} (command : Command α) (h : command.keepsFrames) (s : State) :
    (s.perform command).2.textures.keys = s.textures.keys ∧
      (s.perform command).2.framebuffers = s.framebuffers ∧
      s.lastName ≤ (s.perform command).2.lastName := by
  by_cases hobjects : command.keepsObjects
  · have hsame := sameObjects_perform command hobjects s
    exact ⟨hsame.textures, hsame.framebuffers, hsame.lastName⟩
  cases command with
  | createTexture | deleteTexture | createFramebuffer | deleteFramebuffer | framebufferTexture =>
    cases h
  | createBuffer | fenceSync => exact ⟨rfl, rfl, Nat.le_succ _⟩
  | deleteBuffer | bufferData | bufferReserve | packPixels | deleteSync =>
    exact ⟨rfl, rfl, Nat.le_refl _⟩
  | clientWaitSync fence =>
    obtain ⟨_, _, _, hwait⟩ := s.waitFence_eq fence
    rw [perform, hwait]
    exact ⟨rfl, rfl, Nat.le_refl _⟩
  | _ => exact absurd rfl hobjects

/-! ### Numbers are given out once -/

/-- Every object has a number that has been given out. -/
structure Numbered (s : State) : Prop where
  textures : ∀ id ∈ s.textures.keys, id ≤ s.lastName
  framebuffers : ∀ id ∈ s.framebuffers.keys, id ≤ s.lastName
  buffers : ∀ id ∈ s.buffers.keys, id ≤ s.lastName
  fences : ∀ id ∈ s.fences.keys, id ≤ s.lastName

theorem SameObjects.numbered {s s' : State} (h : SameObjects s s') (hs : s.Numbered) :
    s'.Numbered where
  textures id hid := Nat.le_trans (hs.textures id (h.textures ▸ hid)) h.lastName
  framebuffers id hid := Nat.le_trans (hs.framebuffers id (h.framebuffers ▸ hid)) h.lastName
  buffers id hid := Nat.le_trans (hs.buffers id (h.buffers ▸ hid)) h.lastName
  fences id hid := Nat.le_trans (hs.fences id (h.fences ▸ hid)) h.lastName

/-- Numbers that were given out before, and at most the next one. -/
theorem le_of_mem_keys_insert {α : Type} {t : Table Name α} {last id : Name} {a : α}
    (h : ∀ id ∈ t.keys, id ≤ last) (hid : id ∈ (t.insert (last + 1) a).keys) : id ≤ last + 1 := by
  rcases Table.mem_keys_insert.1 hid with rfl | hid
  · exact Nat.le_refl _
  · exact Nat.le_succ_of_le (h id hid)

/-- No command uses a number that has not been given out. -/
theorem numbered_perform {α : Type} (command : Command α) {s : State} (hs : s.Numbered) :
    (s.perform command).2.Numbered := by
  obtain ⟨htextures, hframebuffers, hbuffers, hfences⟩ := hs
  have succ {t : List Name} (h : ∀ id ∈ t, id ≤ s.lastName) : ∀ id ∈ t, id ≤ s.lastName + 1 :=
    fun id hid => Nat.le_succ_of_le (h id hid)
  -- Only the commands that make, delete or change an object are left.
  by_cases h : command.keepsObjects
  · exact (sameObjects_perform command h s).numbered ⟨htextures, hframebuffers, hbuffers, hfences⟩
  cases command with
  | createTexture =>
    simp only [perform, createTexture]
    split
    · exact ⟨htextures, hframebuffers, hbuffers, hfences⟩
    · exact ⟨fun _ => le_of_mem_keys_insert htextures, succ hframebuffers, succ hbuffers,
        succ hfences⟩
  | createFramebuffer =>
    simp only [perform, createFramebuffer]
    split
    · exact ⟨htextures, hframebuffers, hbuffers, hfences⟩
    · exact ⟨succ htextures, fun _ => le_of_mem_keys_insert hframebuffers, succ hbuffers,
        succ hfences⟩
  | createBuffer =>
    exact ⟨succ htextures, succ hframebuffers, fun _ => le_of_mem_keys_insert hbuffers,
      succ hfences⟩
  | fenceSync =>
    exact ⟨succ htextures, succ hframebuffers, succ hbuffers, fun _ => le_of_mem_keys_insert hfences⟩
  | deleteTexture =>
    exact ⟨fun id hid => htextures id (Table.mem_keys_erase.1 hid).1, hframebuffers, hbuffers,
      hfences⟩
  | deleteFramebuffer =>
    exact ⟨htextures, fun id hid => hframebuffers id (Table.mem_keys_erase.1 hid).1, hbuffers,
      hfences⟩
  | deleteBuffer =>
    exact ⟨htextures, hframebuffers, fun id hid => hbuffers id (Table.mem_keys_erase.1 hid).1,
      hfences⟩
  | deleteSync =>
    exact ⟨htextures, hframebuffers, hbuffers, fun id hid => hfences id (Table.mem_keys_erase.1 hid).1⟩
  | framebufferTexture =>
    simp only [perform, attach]
    split
    · exact ⟨htextures, hframebuffers, hbuffers, hfences⟩
    · exact ⟨htextures, fun id hid => hframebuffers id (Table.mem_keys_modify.1 hid), hbuffers,
        hfences⟩
  | bufferData | bufferReserve | packPixels =>
    exact ⟨htextures, hframebuffers, fun id hid => hbuffers id (Table.mem_keys_modify.1 hid),
      hfences⟩
  | clientWaitSync fence =>
    obtain ⟨fences, hwait, hkeys, -⟩ := s.waitFence_spec fence
    rw [perform, hwait]
    exact ⟨htextures, hframebuffers, hbuffers, fun id hid => hfences id (hkeys ▸ hid)⟩
  | _ => exact absurd rfl h

end State

end Software

end DrawPass
