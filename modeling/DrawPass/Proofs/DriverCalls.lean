/-
DrawPass/Proofs/DriverCalls.lean

Which functions of the driver a command calls.

A command only ever adds to the calls that the driver has written down, and it calls no function but
those of a short list of its own (`functionsOf`, `perform_callsOnly`).  What a command cannot do is
read off the list.
-/
import DrawPass.OpenGl.Device
import DrawPass.Proofs.Action

namespace DrawPass.OpenGl

open Gl

variable {α : Type} {function : String} {functions : List String}

/-- Calls have been written down, all of them of certain functions. -/
def State.CallsOnly (functions : List String) (d d' : State) : Prop :=
  ∃ calls, d'.calls = d.calls ++ calls ∧ ∀ c ∈ calls, c.function ∈ functions

theorem State.CallsOnly.of_log {d d' : State} (h : d'.log = d.log) : d.CallsOnly functions d' :=
  ⟨[], by rw [State.calls, State.calls, h, List.append_nil], nofun⟩

instance : IsPreorder State (State.CallsOnly functions) where
  refl _ := .of_log rfl
  trans d d' d'' := by
    rintro ⟨calls, hcalls, hfunctions⟩ ⟨calls', hcalls', hfunctions'⟩
    exact ⟨calls ++ calls', by rw [hcalls', hcalls, List.append_assoc],
      fun c hc => (List.mem_append.1 hc).elim (hfunctions c) (hfunctions' c)⟩

theorem calls_call (function : String) (arguments : List Argument) (d : State) :
    (call function arguments d).2.calls = d.calls ++ [⟨function, arguments⟩] :=
  List.reverse_cons

theorem call_callsOnly {arguments : List Argument} (h : function ∈ functions) :
    Moves (State.CallsOnly functions) (call function arguments : Driver Unit) := fun d =>
  ⟨_, calls_call function arguments d, fun _ hc => List.mem_singleton.1 hc ▸ h⟩

theorem call_bind_callsOnly {arguments : List Argument} {next : Unit → Driver α}
    (h : function ∈ functions) (hnext : Moves (State.CallsOnly functions) (next ())) :
    Moves (State.CallsOnly functions) (call function arguments >>= next) :=
  .bind (call_callsOnly h) fun _ => hnext

/-- Giving out a name is not a call. -/
theorem nextName_log (function : String) :
    Moves (fun d d' : State => d'.log = d.log) (nextName function) := by
  unfold nextName
  refine .bind_get fun d => ?_
  rcases d.failures.get? function with - | - | n <;> rfl

theorem create_callsOnly (h : function ∈ functions) (kind : String) (arguments : List Argument) :
    Moves (State.CallsOnly functions) (create function kind arguments) := by
  unfold create
  exact .bind (fun d => .of_log (nextName_log function d)) fun _ =>
    call_bind_callsOnly h <| .pure _

theorem withBuffer_callsOnly (target : UInt32) (buffer : Name) {act : Driver α}
    (h : "glBindBuffer" ∈ functions) (hact : Moves (State.CallsOnly functions) act) :
    Moves (State.CallsOnly functions) (withBuffer target buffer act) := by
  unfold withBuffer
  exact call_bind_callsOnly h <| .bind hact fun _ => call_bind_callsOnly h <| .pure _

/-- The functions that a command may call. -/
def functionsOf : Command α → List String
  | .drawingBufferSize | .activeUniforms _ => []
  | .pixelStore .. => ["glPixelStorei"]
  | .createTexture => ["glGenTextures"]
  | .deleteTexture _ => ["glDeleteTextures"]
  | .texImage .. => ["glBindTexture", "glTexImage2D", "glTexImage3D"]
  | .generateMipmap .. => ["glBindTexture", "glGenerateMipmap"]
  | .bindTextureUnit .. => ["glActiveTexture", "glBindTexture", "glBindSampler"]
  | .createSampler .. => ["glGenSamplers", "glSamplerParameteri"]
  | .deleteSampler _ => ["glDeleteSamplers"]
  | .createFramebuffer => ["glGenFramebuffers"]
  | .deleteFramebuffer _ => ["glDeleteFramebuffers"]
  | .bindFramebuffer _ => ["glBindFramebuffer"]
  | .framebufferTexture .. => ["glFramebufferTexture2D", "glFramebufferTextureLayer"]
  | .drawBuffers _ => ["glDrawBuffers"]
  | .compileShader .. => ["glCreateShader", "glShaderSource", "glCompileShader", "glDeleteShader"]
  | .linkProgram .. => ["glCreateProgram", "glAttachShader", "glLinkProgram", "glDetachShader",
      "glDeleteShader", "glDeleteProgram"]
  | .deleteProgram _ => ["glDeleteProgram"]
  | .useProgram _ => ["glUseProgram"]
  | .uniformLocation .. => ["glGetUniformLocation"]
  | .uniformFloats .. => ["glUniform1fv", "glUniform2fv", "glUniform3fv", "glUniform4fv"]
  | .uniformInts .. => ["glUniform1iv", "glUniform2iv", "glUniform3iv", "glUniform4iv"]
  | .uniformUInts .. => ["glUniform1uiv", "glUniform2uiv", "glUniform3uiv", "glUniform4uiv"]
  | .uniformMatrix .. => ["glUniformMatrix2fv", "glUniformMatrix3fv", "glUniformMatrix4fv"]
  | .enable _ => ["glEnable"]
  | .disable _ => ["glDisable"]
  | .blendFunc .. => ["glBlendFunc"]
  | .blendEquation _ => ["glBlendEquation"]
  | .cullFace _ => ["glCullFace"]
  | .depthMask _ => ["glDepthMask"]
  | .viewport _ => ["glViewport"]
  | .scissor _ => ["glScissor"]
  | .clear .. => ["glClearColor", "glClear"]
  | .createBuffer => ["glGenBuffers"]
  | .deleteBuffer _ => ["glDeleteBuffers"]
  | .bufferData .. | .bufferReserve .. => ["glBindBuffer", "glBufferData"]
  | .createVertexArray => ["glGenVertexArrays"]
  | .deleteVertexArray _ => ["glDeleteVertexArrays"]
  | .bindVertexArray _ => ["glBindVertexArray"]
  | .intAttribute .. => ["glBindVertexArray", "glBindBuffer", "glEnableVertexAttribArray",
      "glVertexAttribIPointer", "glVertexAttribDivisor"]
  | .drawArraysInstanced .. => ["glDrawArraysInstanced"]
  | .readPixels .. => ["glReadPixels"]
  | .packPixels .. => ["glBindBuffer", "glReadPixels"]
  | .fenceSync => ["glFenceSync"]
  | .clientWaitSync .. => ["glClientWaitSync"]
  | .deleteSync _ => ["glDeleteSync"]
  | .flush => ["glFlush"]
  | .getBufferSubData .. => ["glBindBuffer", "glGetBufferSubData"]

theorem uniform_callsOnly {β : Type} (location : Location) (h : function ∈ functions) (size : Nat)
    (between : List Argument) (pack : List β → Argument) (values : List β) :
    Moves (State.CallsOnly functions) (uniform location function size between pack values) := by
  unfold uniform
  split
  · exact .pure _
  · exact call_callsOnly h

/-! ### Commands of several calls -/

theorem texImage_callsOnly (texture : Name) (layout : Layout) (width height : UInt32)
    (layers : Option UInt32) (data : Option Bytes) :
    Moves (State.CallsOnly ["glBindTexture", "glTexImage2D", "glTexImage3D"])
      (texImage texture layout width height layers data) := by
  unfold texImage
  refine call_bind_callsOnly (by decide) ?_
  dsimp only
  split <;> exact call_bind_callsOnly (by decide) <| call_callsOnly (by decide)

theorem createSampler_callsOnly (minFilter magFilter wrap : UInt32) :
    Moves (State.CallsOnly ["glGenSamplers", "glSamplerParameteri"])
      (createSampler minFilter magFilter wrap) := by
  unfold createSampler
  refine .bind (create_callsOnly (by decide) _ _) fun reply => ?_
  split
  · exact .pure _
  · refine call_bind_callsOnly (by decide) <| call_bind_callsOnly (by decide) ?_
    exact call_bind_callsOnly (by decide) <| call_bind_callsOnly (by decide) <| .pure _

theorem compileShader_callsOnly (stage : Stage) (source : String) :
    Moves (State.CallsOnly ["glCreateShader", "glShaderSource", "glCompileShader",
      "glDeleteShader"]) (compileShader stage source) := by
  unfold compileShader
  refine .bind (create_callsOnly (by decide) _ _) fun reply => ?_
  split
  · exact .pure _
  · refine call_bind_callsOnly (by decide) <| .bind (.modify fun _ => .of_log rfl) fun _ => ?_
    refine call_bind_callsOnly (by decide) <| .bind .get fun d => ?_
    split
    · exact .pure _
    · exact call_bind_callsOnly (by decide) <| .pure _

theorem linkProgram_callsOnly (vertex fragment : Name) :
    Moves (State.CallsOnly ["glCreateProgram", "glAttachShader", "glLinkProgram",
      "glDetachShader", "glDeleteShader", "glDeleteProgram"]) (linkProgram vertex fragment) := by
  unfold linkProgram
  refine .bind (create_callsOnly (by decide) _ _) fun reply => ?_
  have hdelete {functions : List String} (h : "glDeleteShader" ∈ functions) :
      Moves (State.CallsOnly functions) (do
        call "glDeleteShader" [.name vertex]
        call "glDeleteShader" [.name fragment] : Driver Unit) :=
    call_bind_callsOnly h <| call_callsOnly h
  split
  · exact .bind (hdelete (by decide)) fun _ => .pure _
  · refine call_bind_callsOnly (by decide) <| call_bind_callsOnly (by decide) ?_
    refine call_bind_callsOnly (by decide) <| .bind (.modify fun d => ?_) fun _ => ?_
    · split <;> exact .of_log rfl
    refine call_bind_callsOnly (by decide) <| call_bind_callsOnly (by decide) ?_
    refine .bind (hdelete (by decide)) fun _ => .bind .get fun d => ?_
    split
    · exact call_bind_callsOnly (by decide) <| .pure _
    · exact .pure _

theorem vectorSize_cases (components : UInt32) : vectorSize components = 1 ∨
    vectorSize components = 2 ∨ vectorSize components = 3 ∨ vectorSize components = 4 := by
  unfold vectorSize
  split
  · exact .inl rfl
  · split
    · exact .inr (.inl rfl)
    · split
      · exact .inr (.inr (.inl rfl))
      · exact .inr (.inr (.inr rfl))

theorem matrixSize_cases (dimension : UInt32) :
    matrixSize dimension = 2 ∨ matrixSize dimension = 3 ∨ matrixSize dimension = 4 := by
  unfold matrixSize
  split
  · exact .inl rfl
  · split
    · exact .inr (.inl rfl)
    · exact .inr (.inr rfl)

/-- Every command calls functions of its own list only. -/
theorem perform_callsOnly (command : Command α) :
    Moves (State.CallsOnly (functionsOf command)) (perform command) := by
  -- The functions of a command are listed in the order in which it calls them.
  cases command with
  | drawingBufferSize | activeUniforms => exact .bind .get fun _ => .pure _
  | createTexture | createFramebuffer | createBuffer | createVertexArray =>
    exact create_callsOnly (List.mem_singleton.2 rfl) _ _
  | texImage => exact texImage_callsOnly _ _ _ _ _ _
  | createSampler => exact createSampler_callsOnly _ _ _
  | compileShader => exact compileShader_callsOnly _ _
  | linkProgram => exact linkProgram_callsOnly _ _
  | generateMipmap | clear =>
    exact call_bind_callsOnly (.head _) <| call_callsOnly (.tail _ (.head _))
  | bindTextureUnit =>
    exact call_bind_callsOnly (.head _) <| call_bind_callsOnly (.tail _ (.head _)) <|
      call_callsOnly (.tail _ (.tail _ (.head _)))
  | framebufferTexture attachment texture layer =>
    cases layer with
    | none => exact call_callsOnly (.head _)
    | some => exact call_callsOnly (.tail _ (.head _))
  | uniformLocation => exact .bind .get fun _ => call_bind_callsOnly (.head _) <| .pure _
  | uniformFloats location components | uniformInts location components
  | uniformUInts location components =>
    dsimp only [functionsOf]
    refine uniform_callsOnly _ ?_ _ _ _ _
    rcases vectorSize_cases components with h | h | h | h <;> rw [h] <;> decide
  | uniformMatrix location dimension =>
    dsimp only [functionsOf]
    refine uniform_callsOnly _ ?_ _ _ _ _
    rcases matrixSize_cases dimension with h | h | h <;> rw [h] <;> decide
  | bufferData | bufferReserve | packPixels =>
    exact withBuffer_callsOnly _ _ (.head _) (call_callsOnly (.tail _ (.head _)))
  | intAttribute =>
    refine call_bind_callsOnly (.head _) <| .bind (withBuffer_callsOnly _ _ ?_ ?_) fun _ =>
      call_callsOnly (.head _)
    · simp [functionsOf]
    · refine call_bind_callsOnly ?_ <| call_bind_callsOnly ?_ <| call_callsOnly ?_ <;>
        simp [functionsOf]
  | readPixels => exact call_bind_callsOnly (.head _) <| .pure _
  | fenceSync =>
    exact .bind (fun d => .of_log (nextName_log _ d)) fun _ =>
      call_bind_callsOnly (.head _) <| .pure _
  | clientWaitSync =>
    refine .bind (.bind_get fun d => ?_) fun _ => call_bind_callsOnly (.head _) <| .pure _
    rcases d.waits with - | ⟨status, rest⟩ <;> exact .of_log rfl
  | getBufferSubData =>
    exact withBuffer_callsOnly _ _ (.head _) <|
      call_bind_callsOnly (.tail _ (.head _)) <| .pure _
  | _ => exact call_callsOnly (.head _)

end DrawPass.OpenGl
