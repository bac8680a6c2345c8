/-
DrawPass/Gl/Command.lean

What the library asks of a graphics device.

A command is one request with its arguments; its index is the type of the reply.
Everything above this module is written against `Device.perform` alone, so it runs
unchanged on any device: one that keeps textures in memory, or one that passes the
requests on to a driver.

Enumeration arguments are the raw constants of `DrawPass.Gl.Constant`, because a
device may be given any number.
-/
import DrawPass.Color
import DrawPass.Gl.Constant

namespace DrawPass

/-- Bytes in memory order. -/
abbrev Bytes := List UInt8

namespace Gl

/-- The number by which a device knows one of its objects. -/
abbrev Name := Nat

/-- A programmable stage. -/
inductive Stage where
  | vertex
  | fragment
  deriving DecidableEq

/-- The constant of a stage. -/
def Stage.constant : Stage → UInt32
  | .vertex => Constant.vertexShader
  | .fragment => Constant.fragmentShader

/-- The word for a stage. -/
def Stage.label : Stage → String
  | .vertex => "vertex"
  | .fragment => "fragment"

/-- How pixels are stored and transferred. -/
structure Layout where
  /-- The storage format. -/
  internalFormat : UInt32
  /-- The transfer format. -/
  format : UInt32
  /-- The type of one component in transfer. -/
  type : UInt32
  deriving DecidableEq

/-- A rectangle of pixels, by its corner and its extent. -/
structure Rect where
  x : Int32
  y : Int32
  width : Int32
  height : Int32
  deriving DecidableEq

/-- A uniform that a linked program reports. -/
structure ActiveUniform where
  /-- The name; that of an array ends in `[0]`. -/
  name : String
  /-- The type, as a constant. -/
  type : UInt32
  /-- The length of an array, 1 for a plain uniform. -/
  size : Int32
  deriving DecidableEq

/-- Where a uniform of a program is written. -/
inductive Location where
  /-- By the program and the uniform's own name. -/
  | named (program : Name) (uniform : String)
  /-- By a number the driver gave out. -/
  | numbered (n : UInt32)
  deriving DecidableEq

/-- What a wait for a fence tells. -/
inductive Wait where
  | signaled
  | timeout
  | failed
  deriving DecidableEq

/-- A request to a device; the index is the type of the reply. -/
inductive Command : Type → Type where
  /-- The size of the default framebuffer. -/
  | drawingBufferSize : Command (UInt32 × UInt32)
  | pixelStore (parameter : UInt32) (value : Int32) : Command Unit
  | createTexture : Command (Except String Name)
  | deleteTexture (texture : Name) : Command Unit
  /-- Specify the storage of a texture anew; `layers` asks for a layered one. -/
  | texImage (texture : Name) (layout : Layout) (width height : UInt32)
      (layers : Option UInt32) (data : Option Bytes) : Command Unit
  | generateMipmap (target : UInt32) (texture : Name) : Command Unit
  /-- Bind a texture and a sampler to a unit; nothing unbinds. -/
  | bindTextureUnit (unit target : UInt32) (texture sampler : Option Name) : Command Unit
  | createSampler (minFilter magFilter wrap : UInt32) : Command (Except String Name)
  | deleteSampler (sampler : Name) : Command Unit
  | createFramebuffer : Command (Except String Name)
  | deleteFramebuffer (framebuffer : Name) : Command Unit
  /-- Bind for drawing and reading; nothing is the default framebuffer. -/
  | bindFramebuffer (framebuffer : Option Name) : Command Unit
  /-- Attach a texture, or one layer of it, to the bound framebuffer. -/
  | framebufferTexture (attachment : UInt32) (texture : Name) (layer : Option UInt32) :
      Command Unit
  | drawBuffers (attachments : List UInt32) : Command Unit
  /-- Compile one stage; the error is the driver's log. -/
  | compileShader (stage : Stage) (source : String) : Command (Except String Name)
  /-- Link two stages, which are released either way; the error is the driver's log. -/
  | linkProgram (vertex fragment : Name) : Command (Except String Name)
  | deleteProgram (program : Name) : Command Unit
  | useProgram (program : Option Name) : Command Unit
  | activeUniforms (program : Name) : Command (List ActiveUniform)
  | uniformLocation (program : Name) (name : String) : Command (Option Location)
  /-- Write floats to vectors of `components` components. -/
  | uniformFloats (location : Location) (components : UInt32) (values : List Single) :
      Command Unit
  | uniformInts (location : Location) (components : UInt32) (values : List Int32) :
      Command Unit
  | uniformUInts (location : Location) (components : UInt32) (values : List UInt32) :
      Command Unit
  /-- Write square matrices of a dimension, column by column. -/
  | uniformMatrix (location : Location) (dimension : UInt32) (values : List Single) :
      Command Unit
  | enable (capability : UInt32) : Command Unit
  | disable (capability : UInt32) : Command Unit
  | blendFunc (src dst : UInt32) : Command Unit
  | blendEquation (mode : UInt32) : Command Unit
  | cullFace (face : UInt32) : Command Unit
  | depthMask (write : Bool) : Command Unit
  | viewport (rect : Rect) : Command Unit
  | scissor (rect : Rect) : Command Unit
  | clear (color : Color) (mask : UInt32) : Command Unit
  | createBuffer : Command (Except String Name)
  | deleteBuffer (buffer : Name) : Command Unit
  | bufferData (target : UInt32) (buffer : Name) (data : Bytes) (usage : UInt32) : Command Unit
  /-- Give a buffer `size` bytes of storage. -/
  | bufferReserve (target : UInt32) (buffer : Name) (size : Nat) (usage : UInt32) : Command Unit
  | createVertexArray : Command (Except String Name)
  | deleteVertexArray (vertexArray : Name) : Command Unit
  | bindVertexArray (vertexArray : Option Name) : Command Unit
  /-- Let an integer attribute of a vertex array read a buffer. -/
  | intAttribute (vertexArray buffer : Name) (location divisor : UInt32) : Command Unit
  | drawArraysInstanced (mode : UInt32) (first count instances : Int32) : Command Unit
  /-- Read a rectangle of the bound framebuffer over the given memory. -/
  | readPixels (rect : Rect) (format type : UInt32) (memory : Bytes) : Command Bytes
  /-- Read a rectangle of the bound framebuffer into a buffer. -/
  | packPixels (rect : Rect) (format type : UInt32) (buffer : Name) : Command Unit
  | fenceSync : Command (Except String Name)
  | clientWaitSync (fence : Name) (timeout : Int32) : Command Wait
  | deleteSync (fence : Name) : Command Unit
  | flush : Command Unit
  /-- Copy bytes of a buffer over the given memory. -/
  | getBufferSubData (target : UInt32) (buffer : Name) (offset : Int32) (memory : Bytes) :
      Command Bytes

/-- A graphics device with state `σ`: it answers every command. -/
class Device (σ : Type) where
  /-- Carry out a command. -/
  perform : {α : Type} → Command α → StateM σ α

export Device (perform)

/-- Write one list over the front of another, as far as both reach. -/
def overwrite (memory data : Bytes) : Bytes :=
  data.take memory.length ++ memory.drop data.length

end Gl

end DrawPass
