/-
DrawPass/OpenGl/Device.lean

A graphics device that passes its commands on to an OpenGL driver.

Every command becomes a sequence of OpenGL calls: what a command names is bound
before it is used and, for buffers and for the textures being specified, unbound
after; shaders are deleted as soon as they are linked or fail to compile.

The driver renders nothing.  It is a script: it gives out object names from one
counter, writes down the calls, and answers queries from its fields, among which are
the failures to come.
-/
import DrawPass.Gl.Recorder
import DrawPass.Table
import DrawPass.Text.Line

namespace DrawPass.OpenGl

open Gl Text

/-- The driver's state, and the size of the surface, which the host keeps. -/
structure State where
  /-- The size of the surface that is drawn to. -/
  width : UInt32
  height : UInt32
  /-- The object name given out last. -/
  lastName : Name := 0
  /-- For each function that is to fail once, after how many more calls. -/
  failures : Table String Nat := .empty
  /-- The replies of the next waits; after them every fence has signalled. -/
  waits : List UInt32 := []
  /-- The uniforms of every program, with their locations. -/
  uniforms : List (ActiveUniform × Int32) := []
  /-- The log of whatever fails. -/
  infoLog : String := "driver log"
  /-- The sources that compile: those without an error directive. -/
  compiles : String → Bool := fun source => !hasInfix "#error".toList source.toList
  /-- The next program does not link. -/
  failNextLink : Bool := false
  /-- The source given to each shader. -/
  sources : Table Name String := .empty
  /-- The programs that did not link. -/
  unlinked : List Name := []
  /-- The calls written down, newest first. -/
  log : List Call := []

/-- A device on a surface of the given size, with a driver on which nothing fails. -/
def State.new (width height : UInt32) : State := { width, height }

instance : Inhabited State := ⟨State.new 1 1⟩

/-- The calls written down, oldest first. -/
def State.calls (s : State) : List Call := s.log.reverse

/-- Work with the driver. -/
abbrev Driver := StateM State

/-! ### Functions of the driver -/

/-- Call a function. -/
def call (function : String) (arguments : List Argument) : Driver Unit :=
  modify fun s => { s with log := ⟨function, arguments⟩ :: s.log }

/-- The name that a creating function yields now: the next one, or zero if it is to fail. -/
def nextName (function : String) : Driver Name := do
  let s ← get
  match s.failures.get? function with
  | some 0 =>
    set { s with failures := s.failures.erase function }
    return 0
  | after =>
    let failures :=
      match after with
      | some n => s.failures.insert function (n - 1)
      | none => s.failures
    set { s with failures, lastName := s.lastName + 1 }
    return s.lastName + 1

/-- Call a function that creates an object of a kind; the name zero is a failure. -/
def create (function kind : String) (arguments : List Argument) : Driver (Except String Name) := do
  let name ← nextName function
  call function (arguments ++ [.name name])
  return if name = 0 then .error ("Unable to create " ++ kind ++ " object") else .ok name

/-- Arm the failure of a function, after some more calls. -/
def State.armFailure (s : State) (function : String) (skip : Nat) : State :=
  { s with failures := s.failures.insert function skip }

/-- Whether a shader compiled: its source does. -/
def State.compiled (s : State) (shader : Name) : Bool :=
  ((s.sources.get? shader).map s.compiles).getD true

/-- The location of a uniform: that of the first one with the name asked for, or with that name as
an array. Negative means none. -/
def State.location (s : State) (name : String) : Int32 :=
  match s.uniforms.find? fun u => u.1.name == name || u.1.name == name ++ "[0]" with
  | some u => u.2
  | none => -1

/-- The reply to a wait. -/
def nextWait : Driver UInt32 := do
  let s ← get
  match s.waits with
  | [] => return Constant.alreadySignaled
  | status :: rest =>
    set { s with waits := rest }
    return status

/-! ### Commands as calls -/

/-- The name of an object that may be missing; then it is zero. -/
def zero? (name : Option Name) : Argument := .int (name.getD 0)

/-- A truth value as a number. -/
def switch (b : Bool) : Argument := .int (if b then 1 else 0)

/-- The binding point of a texture with or without layers. -/
def texturePoint (layers : Option UInt32) : UInt32 :=
  if layers.isSome then Constant.texture2DArray else Constant.texture2D

/-- Do something with a buffer bound. -/
def withBuffer {α : Type} (target : UInt32) (buffer : Name) (act : Driver α) : Driver α := do
  call "glBindBuffer" [.word target, .name buffer]
  let a ← act
  call "glBindBuffer" [.word target, .name 0]
  return a

/-- Specify the storage of a texture, which is bound meanwhile. -/
def texImage (texture : Name) (layout : Layout) (width height : UInt32) (layers : Option UInt32)
    (data : Option Bytes) : Driver Unit := do
  let target := texturePoint layers
  call "glBindTexture" [.word target, .name texture]
  let front : List Argument :=
    [.word target, .int 0, .signed layout.internalFormat.toInt32, .signed width.toInt32,
      .signed height.toInt32]
  let back : List Argument :=
    [.int 0, .word layout.format, .word layout.type, .optional .memory data]
  match layers with
  | some depth => call "glTexImage3D" (front ++ [.signed depth.toInt32] ++ back)
  | none => call "glTexImage2D" (front ++ back)
  call "glBindTexture" [.word target, .name 0]

/-- Make a sampler object and set its filters and both wrappings. -/
def createSampler (minFilter magFilter wrap : UInt32) : Driver (Except String Name) := do
  match ← create "glGenSamplers" "Sampler" [] with
  | .error e => return .error e
  | .ok sampler =>
    let parameter (which value : UInt32) : Driver Unit :=
      call "glSamplerParameteri" [.name sampler, .word which, .signed value.toInt32]
    parameter Constant.textureMinFilter minFilter
    parameter Constant.textureMagFilter magFilter
    parameter Constant.textureWrapS wrap
    parameter Constant.textureWrapT wrap
    return .ok sampler

/-- Compile a stage. A shader that fails is deleted. -/
def compileShader (stage : Stage) (source : String) : Driver (Except String Name) := do
  match ← create "glCreateShader" "Shader" [.word stage.constant] with
  | .error e => return .error e
  | .ok shader =>
    call "glShaderSource" [.name shader, .text source]
    modify fun s => { s with sources := s.sources.insert shader source }
    call "glCompileShader" [.name shader]
    let s ← get
    if s.compiled shader then return .ok shader
    else
      call "glDeleteShader" [.name shader]
      return .error s.infoLog

/-- Link two stages. Both shaders are deleted whatever happens, and so is a program that does not
link. -/
def linkProgram (vertex fragment : Name) : Driver (Except String Name) := do
  let deleteShaders : Driver Unit := do
    call "glDeleteShader" [.name vertex]
    call "glDeleteShader" [.name fragment]
  match ← create "glCreateProgram" "Program" [] with
  | .error e =>
    deleteShaders
    return .error e
  | .ok program =>
    call "glAttachShader" [.name program, .name vertex]
    call "glAttachShader" [.name program, .name fragment]
    call "glLinkProgram" [.name program]
    modify fun s =>
      if s.failNextLink then
        { s with failNextLink := false, unlinked := program :: s.unlinked }
      else s
    call "glDetachShader" [.name program, .name vertex]
    call "glDetachShader" [.name program, .name fragment]
    deleteShaders
    let s ← get
    if s.unlinked.contains program then
      call "glDeleteProgram" [.name program]
      return .error s.infoLog
    else return .ok program

/-- The digit in the name of a function that writes vectors; anything but 1, 2 and 3 means 4. -/
def vectorSize (components : UInt32) : Nat :=
  if components = 1 then 1 else if components = 2 then 2 else if components = 3 then 3 else 4

/-- The digit in the name of a function that writes matrices; anything but 2 and 3 means 4. -/
def matrixSize (dimension : UInt32) : Nat :=
  if dimension = 2 then 2 else if dimension = 3 then 3 else 4

/-- Write values to a uniform, as many as fill whole elements of `size` values. -/
def uniform {α : Type} (location : Location) (function : String) (size : Nat)
    (between : List Argument) (pack : List α → Argument) (values : List α) : Driver Unit :=
  match location with
  | .named .. => pure ()
  | .numbered n =>
    let count := values.length / size
    call function
      ([.signed n.toInt32, .int count] ++ between ++ [pack (values.take (count * size))])

/-- Let an integer attribute read a buffer, both bound meanwhile. -/
def intAttribute (vertexArray buffer : Name) (location divisor : UInt32) : Driver Unit := do
  call "glBindVertexArray" [.name vertexArray]
  withBuffer Constant.arrayBuffer buffer do
    call "glEnableVertexAttribArray" [.word location]
    call "glVertexAttribIPointer" [.word location, .int 1, .word Constant.int, .int 0, .int 0]
    call "glVertexAttribDivisor" [.word location, .word divisor]
  call "glBindVertexArray" [.name 0]

/-- The arguments of a rectangle. -/
def rectArguments (r : Rect) : List Argument :=
  [.signed r.x, .signed r.y, .signed r.width, .signed r.height]

/-- Carry out a command. -/
def perform {α : Type} : Command α → Driver α
  | .drawingBufferSize => do
    let s ← get
    return (s.width, s.height)
  | .pixelStore parameter value => call "glPixelStorei" [.word parameter, .signed value]
  | .createTexture => create "glGenTextures" "Texture" []
  | .deleteTexture id => call "glDeleteTextures" [.name id]
  | .texImage id layout width height layers data => texImage id layout width height layers data
  | .generateMipmap target id => do
    call "glBindTexture" [.word target, .name id]
    call "glGenerateMipmap" [.word target]
  | .bindTextureUnit unit target texture sampler => do
    call "glActiveTexture" [.word (Constant.texture0 + unit)]
    call "glBindTexture" [.word target, zero? texture]
    call "glBindSampler" [.word unit, zero? sampler]
  | .createSampler minFilter magFilter wrap => createSampler minFilter magFilter wrap
  | .deleteSampler id => call "glDeleteSamplers" [.name id]
  | .createFramebuffer => create "glGenFramebuffers" "Framebuffer" []
  | .deleteFramebuffer id => call "glDeleteFramebuffers" [.name id]
  | .bindFramebuffer id => call "glBindFramebuffer" [.word Constant.framebuffer, zero? id]
  | .framebufferTexture attachment texture layer =>
    match layer with
    | some layer =>
      call "glFramebufferTextureLayer"
        [.word Constant.framebuffer, .word attachment, .name texture, .int 0,
          .signed layer.toInt32]
    | none =>
      call "glFramebufferTexture2D"
        [.word Constant.framebuffer, .word attachment, .word Constant.texture2D, .name texture,
          .int 0]
  | .drawBuffers attachments =>
    call "glDrawBuffers" [.ints (attachments.map fun a => (a.toNat : Int))]
  | .compileShader stage source => compileShader stage source
  | .linkProgram vertex fragment => linkProgram vertex fragment
  | .deleteProgram id => call "glDeleteProgram" [.name id]
  | .useProgram id => call "glUseProgram" [zero? id]
  | .activeUniforms _ => do
    let s ← get
    return s.uniforms.map Prod.fst
  | .uniformLocation id name => do
    let n := (← get).location name
    call "glGetUniformLocation" [.name id, .text name, .signed n]
    return if n < 0 then none else some (.numbered n.toUInt32)
  | .uniformFloats location components values =>
    let n := vectorSize components
    uniform location ("glUniform" ++ toString n ++ "fv") n [] .singles values
  | .uniformInts location components values =>
    let n := vectorSize components
    uniform location ("glUniform" ++ toString n ++ "iv") n []
      (fun vs => .ints (vs.map Int32.toInt)) values
  | .uniformUInts location components values =>
    let n := vectorSize components
    uniform location ("glUniform" ++ toString n ++ "uiv") n []
      (fun vs => .ints (vs.map fun v => (v.toNat : Int))) values
  | .uniformMatrix location dimension values =>
    let n := matrixSize dimension
    uniform location ("glUniformMatrix" ++ toString n ++ "fv") (n * n) [switch false] .singles
      values
  | .enable capability => call "glEnable" [.word capability]
  | .disable capability => call "glDisable" [.word capability]
  | .blendFunc src dst => call "glBlendFunc" [.word src, .word dst]
  | .blendEquation mode => call "glBlendEquation" [.word mode]
  | .cullFace face => call "glCullFace" [.word face]
  | .depthMask write => call "glDepthMask" [switch write]
  | .viewport rect => call "glViewport" (rectArguments rect)
  | .scissor rect => call "glScissor" (rectArguments rect)
  | .clear color mask => do
    call "glClearColor" (color.toList.map Argument.single)
    call "glClear" [.word mask]
  | .createBuffer => create "glGenBuffers" "Buffer" []
  | .deleteBuffer id => call "glDeleteBuffers" [.name id]
  | .bufferData target id data usage =>
    withBuffer target id <|
      call "glBufferData" [.word target, .int data.length, .memory data, .word usage]
  | .bufferReserve target id size usage =>
    withBuffer target id <|
      call "glBufferData"
        [.word target, .signed (Int32.ofNat size), .absent, .word usage]
  | .createVertexArray => create "glGenVertexArrays" "VertexArray" []
  | .deleteVertexArray id => call "glDeleteVertexArrays" [.name id]
  | .bindVertexArray id => call "glBindVertexArray" [zero? id]
  | .intAttribute vertexArray buffer location divisor =>
    intAttribute vertexArray buffer location divisor
  | .drawArraysInstanced mode first count instances =>
    call "glDrawArraysInstanced" [.word mode, .signed first, .signed count, .signed instances]
  | .readPixels rect format type memory => do
    call "glReadPixels"
      (rectArguments rect ++ [.word format, .word type, .text "memory"])
    return memory.mapIdx fun i _ => UInt8.ofNat (i % 61)
  | .packPixels rect format type buffer =>
    withBuffer Constant.pixelPackBuffer buffer <|
      call "glReadPixels"
        (rectArguments rect ++ [.word format, .word type, .text "offset 0"])
  | .fenceSync => do
    let name ← nextName "glFenceSync"
    call "glFenceSync" [.word Constant.syncGpuCommandsComplete, .int 0, .name name]
    return .ok name
  | .clientWaitSync fence timeout => do
    let status ← nextWait
    call "glClientWaitSync" [.name fence, .int 0, .signed timeout]
    return match status with
      | Constant.alreadySignaled | Constant.conditionSatisfied => .signaled
      | Constant.timeoutExpired => .timeout
      | _ => .failed
  | .deleteSync id => call "glDeleteSync" [.name id]
  | .flush => call "glFlush" []
  | .getBufferSubData target id offset memory =>
    withBuffer target id do
      call "glGetBufferSubData" [.word target, .signed offset, .int memory.length]
      return memory.mapIdx fun i _ => UInt8.ofNat (60 - i % 61)

instance : Device State where
  perform command := perform command

instance : Recorder State where
  calls s := s.calls

end DrawPass.OpenGl
