/-
DrawPass/Software/Device.lean

A graphics device in memory.

The device keeps textures, framebuffers, buffers, programs, fences and the fixed
state, and writes down every call.  Clears, reads and transfers are carried out on
the textures in memory; a draw runs the first registered emulator whose marker
occurs in the fragment source.  Blending, depth testing and culling are written down
but not carried out.  Failures can be armed in advance.

All objects take their numbers from one counter, so a number is never used twice.
-/
import DrawPass.Gl.Recorder
import DrawPass.Software.Call
import DrawPass.Software.Fragment

namespace DrawPass.Software

open Gl Text

/-- A texture, or one layer of it, attached as a colour buffer. -/
structure Attachment where
  point : UInt32
  texture : Name
  layer : Option UInt32
  deriving DecidableEq

/-- What is attached to a framebuffer. -/
structure Framebuffer where
  colors : List Attachment := []
  depth : Option Name := none
  deriving DecidableEq

/-- A framebuffer with one more texture. A point holds one texture, the one that came last; only
the depth point is not a colour buffer. -/
def Framebuffer.attach (fb : Framebuffer) (point : UInt32) (texture : Name)
    (layer : Option UInt32) : Framebuffer :=
  if point == Constant.depthAttachment then { fb with depth := some texture }
  else
    let others := fb.colors.filter fun a => a.point != point
    { fb with colors := others ++ [⟨point, texture, layer⟩] }

/-- The first colour attachment of a framebuffer. -/
def Framebuffer.first? (fb : Framebuffer) : Option Attachment :=
  fb.colors.find? fun a => a.point == Constant.colorAttachment0

/-- The state of the device. -/
structure State where
  /-- The default framebuffer. -/
  drawingBuffer : Texture
  /-- The number given out last. -/
  lastName : Name := 0
  textures : Table Name Texture := .empty
  framebuffers : Table Name Framebuffer := .empty
  buffers : Table Name Bytes := .empty
  shaders : Table Name (Stage × String) := .empty
  programs : Table Name Program := .empty
  samplers : List Name := []
  vertexArrays : List Name := []
  /-- For each fence, how many waits it still takes. -/
  fences : Table Name UInt32 := .empty
  /-- The texture bound to each unit. -/
  units : Table UInt32 Name := .empty
  boundFramebuffer : Option Name := none
  currentProgram : Option Name := none
  enabled : List UInt32 := []
  viewport : Rect
  scissor : Rect
  depthMask : Bool := true
  /-- How many waits a new fence takes. -/
  fenceLatency : UInt32 := 0
  /-- Every wait fails. -/
  failFenceWaits : Bool := false
  /-- The next link fails with this log. -/
  failNextLink : Option String := none
  /-- After so many more textures, making one fails once. -/
  failTextureAfter : Option Nat := none
  /-- The next framebuffer is not made. -/
  failNextFramebuffer : Bool := false
  /-- Stand-ins for fragment shaders, by a text that must occur in the source. -/
  emulators : List (String × (Fragment → Color)) := []
  /-- The calls written down, newest first. -/
  log : List Call := []

/-- How the default framebuffer is stored. -/
def screenLayout : Layout := ⟨Constant.rgba8, Constant.rgba, Constant.unsignedByte⟩

namespace State

/-- A device whose default framebuffer has the given size. -/
def new (width height : UInt32) : State where
  drawingBuffer := Texture.empty.specify screenLayout width height none none
  viewport := ⟨0, 0, width.toInt32, height.toInt32⟩
  scissor := ⟨0, 0, width.toInt32, height.toInt32⟩

instance : Inhabited State := ⟨new 1 1⟩

/-! ### Reading the state -/

/-- The calls written down, oldest first. -/
def calls (s : State) : List Call := s.log.reverse

/-- How many calls satisfy a test. -/
def countCalls (s : State) (p : Call → Bool) : Nat := s.log.countP p

/-- Whether a capability is enabled. -/
def isEnabled (s : State) (capability : UInt32) : Bool := s.enabled.contains capability

/-- A texture by number, or the default framebuffer. -/
def texture? (s : State) : Option Name → Option Texture
  | none => some s.drawingBuffer
  | some id => s.textures.get? id

/-- Width, height and layers of a texture. -/
def textureSize? (s : State) (id : Name) : Option (UInt32 × UInt32 × UInt32) :=
  (s.textures.get? id).map fun t => (t.width, t.height, t.layers)

/-- A texel as a shader sees it. -/
def texel? (s : State) (id : Name) (x y : Int32) (layer : UInt32) : Option Color :=
  (s.textures.get? id).map fun t => t.fetch x y layer

/-- Whether mip levels were made since the storage was last specified. -/
def hasMipmaps (s : State) (id : Name) : Bool :=
  ((s.textures.get? id).map Texture.hasMipmaps).getD false

/-- The program in use. -/
def program? (s : State) : Option Program := s.currentProgram.bind s.programs.get?

/-- The value of a uniform of the program in use. -/
def uniform? (s : State) (name : String) : Option UniformValue :=
  s.program?.bind fun p => p.values.get? name

/-- The source of a stage of the program in use. -/
def source? (s : State) (stage : Stage) : Option String := s.program?.map fun p => p.source stage

/-- The framebuffer that is bound; nothing if the default one is, or if it does not exist. -/
def framebuffer? (s : State) : Option Framebuffer := s.boundFramebuffer.bind s.framebuffers.get?

/-- The textures and layers that a clear writes. -/
def colorTargets (s : State) : List (Option Name × UInt32) :=
  match s.boundFramebuffer with
  | none => [(none, 0)]
  | some _ =>
    match s.framebuffer? with
    | none => []
    | some fb => fb.colors.map fun a => (some a.texture, a.layer.getD 0)

/-- The texture and layer that a draw writes. -/
def drawTarget? (s : State) : Option (Option Name × UInt32) :=
  match s.boundFramebuffer with
  | none => some (none, 0)
  | some _ => do
    let a ← (← s.framebuffer?).first?
    return (some a.texture, a.layer.getD 0)

/-- The texture that a read reads: the first colour attachment, else the depth attachment. -/
def readSource? (s : State) : Option Texture :=
  match s.boundFramebuffer with
  | none => some s.drawingBuffer
  | some _ => do
    let fb ← s.framebuffer?
    let id ← (fb.first?.map Attachment.texture).or fb.depth
    s.textures.get? id

/-- The rectangle that a clear of a texture reaches. -/
def clearRect (s : State) (t : Texture) : Rect :=
  if s.isEnabled Constant.scissorTest then s.scissor
  else ⟨0, 0, t.width.toInt32, t.height.toInt32⟩

/-! ### Changing the state -/

/-- Write down a call. -/
def record (s : State) (c : Call) : State := { s with log := c :: s.log }

/-- Forget the calls written down. -/
def clearCalls (s : State) : State := { s with log := [] }

/-- Take the next number. -/
def fresh (s : State) : Name × State := (s.lastName + 1, { s with lastName := s.lastName + 1 })

/-- Change a texture by number, or the default framebuffer. -/
def modifyTexture (s : State) (id : Option Name) (f : Texture → Texture) : State :=
  match id with
  | none => { s with drawingBuffer := f s.drawingBuffer }
  | some id => { s with textures := s.textures.modify id f }

/-- Change the contents of a buffer. -/
def modifyBuffer (s : State) (id : Name) (f : Bytes → Bytes) : State :=
  { s with buffers := s.buffers.modify id f }

/-- Resize the default framebuffer; its contents are lost. -/
def resizeDrawingBuffer (s : State) (width height : UInt32) : State :=
  { s with drawingBuffer := s.drawingBuffer.specify s.drawingBuffer.layout width height none none }

/-- Register a stand-in for the fragment shaders whose source contains a marker. -/
def registerEmulator (s : State) (marker : String) (run : Fragment → Color) : State :=
  { s with emulators := s.emulators ++ [(marker, run)] }

/-- Write a colour to one target of a clear. -/
def clearColor (color : Color) (s : State) (target : Option Name × UInt32) : State :=
  match s.texture? target.1 with
  | none => s
  | some t =>
    let rect := s.clearRect t
    s.modifyTexture target.1 fun t => t.fill rect target.2 color

/-- Write the greatest depth to the depth attachment, if depth is written at all. -/
def clearDepth (s : State) : State :=
  match s.framebuffer?.bind Framebuffer.depth with
  | none => s
  | some id =>
    match s.textures.get? id with
    | none => s
    | some t =>
      let rect := s.clearRect t
      s.modifyTexture (some id) fun t => t.fill rect 0 (Color.uniform .one)

/-- Clear the bound framebuffer. -/
def clear (s : State) (color : Color) (mask : UInt32) : State :=
  let s :=
    if mask &&& Constant.colorBufferBit != 0 then s.colorTargets.foldl (clearColor color) s else s
  if mask &&& Constant.depthBufferBit != 0 && s.depthMask then s.clearDepth else s

/-- One fragment of a draw. -/
def fragment (s : State) (program : Program) (x y : Int32) : Fragment :=
  let place (at_ start extent : Int32) : Single :=
    Single.ofInt (at_ - start).toInt / Single.ofInt extent.toInt +
      Single.oneHalf / Single.ofInt extent.toInt
  { x, y
    u := place x s.viewport.x s.viewport.width
    v := place y s.viewport.y s.viewport.height
    program
    units := s.units
    textures := s.textures }

/-- Run a stand-in on every pixel of the viewport that lies inside the target. All pixels are
computed before any is written. -/
def runEmulator (s : State) : State :=
  let result : Option State := do
    let program ← s.program?
    let (_, run) ← s.emulators.find? fun e =>
      hasInfix e.1.toList program.fragmentSource.toList
    let (target, layer) ← s.drawTarget?
    let t ← s.texture? target
    let view := s.viewport
    let pixels := (Texture.clip view.y view.height t.height).flatMap fun y =>
      (Texture.clip view.x view.width t.width).map fun x =>
        (x, y, run (s.fragment program x y))
    return s.modifyTexture target fun t =>
      pixels.foldl (fun t p => t.store p.1 p.2.1 layer p.2.2) t
  result.getD s

/-- Set a uniform through a location. Only locations by name mean anything to this device. -/
def setUniform (s : State) (location : Location) (value : UniformValue) : State :=
  match location with
  | .numbered _ => s
  | .named program name =>
    let written := fun p : Program => { p with values := p.values.insert name value }
    { s with programs := s.programs.modify program written }.record (.setUniform name)

/-- The message for a source with an error directive, which names its line. -/
def compileError? (source : String) : Option String :=
  let directive := "#error".toList
  let marked := (lines source.toList).zipIdx.findSome? fun (line, i) =>
    (cutAt directive line).map fun (_, rest) => (i, rest)
  marked.map fun (i, rest) =>
    let text := ((cutAt directive rest).map Prod.fst).getD rest
    "ERROR: 0:" ++ toString (i + 1) ++ ": '#error' : " ++ String.ofList (trim text)

/-- Attach a texture to the bound framebuffer. -/
def attach (s : State) (point : UInt32) (texture : Name) (layer : Option UInt32) : State :=
  match s.boundFramebuffer with
  | none => s
  | some id =>
    { s with framebuffers := s.framebuffers.modify id (·.attach point texture layer) }

/-- Make a texture, unless that is to fail now. -/
def createTexture (s : State) : Except String Name × State :=
  match s.failTextureAfter with
  | some 0 => (.error "texture creation failed", { s with failTextureAfter := none })
  | after =>
    let s := { s with failTextureAfter := after.map (· - 1) }
    let (id, s) := s.fresh
    (.ok id, { s with textures := s.textures.insert id .empty }.record (.createTexture id))

/-- Make a framebuffer, unless that is to fail now. -/
def createFramebuffer (s : State) : Except String Name × State :=
  if s.failNextFramebuffer then
    (.error "framebuffer incomplete", { s with failNextFramebuffer := false })
  else
    let (id, s) := s.fresh
    (.ok id, { s with framebuffers := s.framebuffers.insert id {} }.record (.createFramebuffer id))

/-- Take in a stage, unless its source has an error directive. -/
def compileShader (s : State) (stage : Stage) (source : String) : Except String Name × State :=
  let s := s.record (.compileShader stage)
  match compileError? source with
  | some message => (.error message, s)
  | none =>
    let (id, s) := s.fresh
    (.ok id, { s with shaders := s.shaders.insert id (stage, source) })

/-- Make a program of two stages, which are used up either way. -/
def linkProgram (s : State) (vertex fragment : Name) : Except String Name × State :=
  let vertexShader := s.shaders.get? vertex
  let s := { s with shaders := s.shaders.erase vertex }
  let fragmentShader := s.shaders.get? fragment
  let s := { s with shaders := s.shaders.erase fragment }
  match s.failNextLink with
  | some log => (.error log, { s with failNextLink := none })
  | none =>
    match vertexShader, fragmentShader with
    | some (_, vertexSource), some (_, fragmentSource) =>
      let (id, s) := s.fresh
      let program : Program :=
        { vertexSource, fragmentSource, uniforms := scanUniforms [vertexSource, fragmentSource] }
      (.ok id, { s with programs := s.programs.insert id program }.record (.linkProgram id))
    | _, _ => (.error "link failed: missing shader stage", s)

/-- Wait for a fence. -/
def waitFence (s : State) (fence : Name) : Wait × State :=
  let s := s.record (.clientWaitSync fence)
  if s.failFenceWaits then (.failed, s)
  else
    match s.fences.get? fence with
    | none => (.failed, s)
    | some n =>
      if n = 0 then (.signaled, s)
      else (.timeout, { s with fences := s.fences.insert fence (n - 1) })

/-- The bytes of a rectangle of the bound framebuffer. -/
def pixels (s : State) (rect : Rect) (format type : UInt32) : Bytes :=
  match s.readSource? with
  | some t => t.read rect format type
  | none => []

/-- Carry out a command. -/
def perform {α : Type} (command : Command α) (s : State) : α × State :=
  match command with
  | .drawingBufferSize => ((s.drawingBuffer.width, s.drawingBuffer.height), s)
  | .pixelStore parameter value => ((), s.record (.pixelStore parameter value))
  | .createTexture => s.createTexture
  | .deleteTexture id =>
    ((), { s with
      textures := s.textures.erase id,
      units := s.units.filter fun _ bound => bound != id }.record (.deleteTexture id))
  | .texImage id layout width height layers data =>
    let s := s.modifyTexture (some id) fun t => t.specify layout width height layers data
    ((), s.record (.texImage id width height layers layout.internalFormat data.isSome))
  | .generateMipmap _ id =>
    let s := s.modifyTexture (some id) fun t => { t with hasMipmaps := true }
    ((), s.record (.generateMipmap id))
  | .bindTextureUnit unit _ texture _ =>
    let units :=
      match texture with
      | some id => s.units.insert unit id
      | none => s.units.erase unit
    ((), { s with units }.record (.bindTextureUnit unit texture))
  | .createSampler minFilter magFilter wrap =>
    let (id, s) := s.fresh
    (.ok id, { s with samplers := id :: s.samplers }.record
      (.createSampler minFilter magFilter wrap))
  | .deleteSampler id =>
    ((), { s with samplers := s.samplers.filter (· != id) }.record (.deleteSampler id))
  | .createFramebuffer => s.createFramebuffer
  | .deleteFramebuffer id =>
    ((), { s with
      framebuffers := s.framebuffers.erase id,
      boundFramebuffer := s.boundFramebuffer.filter (· != id) }.record (.deleteFramebuffer id))
  | .bindFramebuffer id => ((), { s with boundFramebuffer := id }.record (.bindFramebuffer id))
  | .framebufferTexture point texture layer =>
    ((), (s.attach point texture layer).record (.framebufferTexture point texture layer))
  | .drawBuffers attachments => ((), s.record (.drawBuffers attachments.length))
  | .compileShader stage source => s.compileShader stage source
  | .linkProgram vertex fragment => s.linkProgram vertex fragment
  | .deleteProgram id =>
    ((), { s with
      programs := s.programs.erase id,
      currentProgram := s.currentProgram.filter (· != id) }.record (.deleteProgram id))
  | .useProgram id => ((), { s with currentProgram := id }.record (.useProgram id))
  | .activeUniforms id => (((s.programs.get? id).map Program.uniforms).getD [], s)
  | .uniformLocation id name =>
    let known := ((s.programs.get? id).map fun p =>
      p.uniforms.any fun u => baseName u.name == name).getD false
    (if known then some (.named id name) else none, s)
  | .uniformFloats location _ values => ((), s.setUniform location (.floats values))
  | .uniformInts location _ values => ((), s.setUniform location (.ints values))
  | .uniformUInts location _ values => ((), s.setUniform location (.uints values))
  | .uniformMatrix location _ values => ((), s.setUniform location (.floats values))
  | .enable capability =>
    ((), { s with enabled := capability :: s.enabled.filter (· != capability) }.record
      (.enable capability))
  | .disable capability =>
    ((), { s with enabled := s.enabled.filter (· != capability) }.record (.disable capability))
  | .blendFunc src dst => ((), s.record (.blendFunc src dst))
  | .blendEquation mode => ((), s.record (.blendEquation mode))
  | .cullFace face => ((), s.record (.cullFace face))
  | .depthMask write => ((), { s with depthMask := write }.record (.depthMask write))
  | .viewport rect => ((), { s with viewport := rect }.record (.viewport rect))
  | .scissor rect => ((), { s with scissor := rect }.record (.scissor rect))
  | .clear color mask => ((), (s.clear color mask).record (.clear color mask))
  | .createBuffer =>
    let (id, s) := s.fresh
    (.ok id, { s with buffers := s.buffers.insert id [] }.record (.createBuffer id))
  | .deleteBuffer id =>
    ((), { s with buffers := s.buffers.erase id }.record (.deleteBuffer id))
  | .bufferData _ id data _ =>
    ((), (s.modifyBuffer id fun _ => data).record (.bufferData id data.length))
  | .bufferReserve _ id size _ =>
    ((), (s.modifyBuffer id fun _ => List.replicate size 0).record (.bufferData id size))
  | .createVertexArray =>
    let (id, s) := s.fresh
    (.ok id, { s with vertexArrays := id :: s.vertexArrays }.record (.createVertexArray id))
  | .deleteVertexArray id =>
    ((), { s with vertexArrays := s.vertexArrays.filter (· != id) }.record
      (.deleteVertexArray id))
  | .bindVertexArray id => ((), s.record (.bindVertexArray id))
  | .intAttribute _ _ location divisor => ((), s.record (.intAttribute location divisor))
  | .drawArraysInstanced mode _ count instances =>
    ((), s.runEmulator.record (.drawArraysInstanced mode count instances))
  | .readPixels rect format type memory =>
    (overwrite memory (s.pixels rect format type),
      s.record (.readPixels rect.width rect.height false))
  | .packPixels rect format type buffer =>
    let data := s.pixels rect format type
    ((), (s.modifyBuffer buffer fun b => overwrite b data).record
      (.readPixels rect.width rect.height true))
  | .fenceSync =>
    let (id, s) := s.fresh
    (.ok id, { s with fences := s.fences.insert id s.fenceLatency }.record (.fenceSync id))
  | .clientWaitSync fence _ => s.waitFence fence
  | .deleteSync id => ((), { s with fences := s.fences.erase id }.record (.deleteSync id))
  | .flush => ((), s.record .flush)
  | .getBufferSubData _ id offset memory =>
    let stored :=
      match s.buffers.get? id with
      | some b => b.drop (max 0 offset.toInt).toNat
      | none => []
    (overwrite memory stored, s.record (.getBufferSubData id memory.length))

end State

instance : Device State where
  perform command := fun s => s.perform command

instance : Recorder State where
  calls s := s.calls.map Call.written

end DrawPass.Software
