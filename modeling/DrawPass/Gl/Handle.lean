/-
DrawPass/Gl/Handle.lean

Handles of device objects.

A handle says what kind of object it stands for and whether the number was given out
by a driver or by a device in memory.  Only a handle from a driver has a driver
number; asking another one for it is a mistake of the caller.
-/
import DrawPass.Gl.Command

namespace DrawPass.Gl

/-- The kinds of device objects. -/
inductive ObjectKind where
  | texture
  | framebuffer
  | buffer
  | program
  | shader
  | sampler
  | vertexArray
  | fence
  deriving DecidableEq

/-- The word for a kind in messages. -/
def ObjectKind.label : ObjectKind → String
  | texture => "Texture"
  | framebuffer => "Framebuffer"
  | buffer => "Buffer"
  | program => "Program"
  | shader => "Shader"
  | sampler => "Sampler"
  | vertexArray => "VertexArray"
  | fence => "Fence"

/-- The name of a kind. -/
def ObjectKind.name : ObjectKind → String
  | texture => "texture"
  | framebuffer => "framebuffer"
  | buffer => "buffer"
  | program => "program"
  | shader => "shader"
  | sampler => "sampler"
  | vertexArray => "vertex_array"
  | fence => "fence"

/-- Every kind. -/
def ObjectKind.all : List ObjectKind :=
  [texture, framebuffer, buffer, program, shader, sampler, vertexArray, fence]

/-- The kind of a name. -/
def ObjectKind.ofName? (s : String) : Option ObjectKind := all.find? fun k => k.name == s

/-- Who gave out a number. -/
inductive Origin where
  | driver
  | memory
  deriving DecidableEq

/-- A device object by its kind and number. -/
structure Handle where
  kind : ObjectKind
  origin : Origin
  number : Name
  deriving DecidableEq

/-- A driver number asked of something that no driver made. -/
inductive ForeignHandle where
  | object (kind : ObjectKind)
  | location
  deriving DecidableEq

/-- The message for the mistake. -/
def ForeignHandle.message : ForeignHandle → String
  | object kind => "Attempted to get glow::" ++ kind.label ++ " from a mock handle"
  | location => "Attempted to get glow::UniformLocation from a mock location"

/-- The number in the device in memory, if the handle is from there. -/
def Handle.memoryNumber? (h : Handle) : Option Name :=
  match h.origin with
  | .memory => some h.number
  | .driver => none

/-- The driver's number. -/
def Handle.driverNumber (h : Handle) : Except ForeignHandle Name :=
  match h.origin with
  | .driver => .ok h.number
  | .memory => .error (.object h.kind)

/-- The program and the name of a location by name. -/
def Location.named? : Location → Option (Name × String)
  | named program uniform => some (program, uniform)
  | numbered _ => none

/-- The driver's number of a location. -/
def Location.driverNumber : Location → Except ForeignHandle UInt32
  | numbered n => .ok n
  | named .. => .error .location

end DrawPass.Gl
