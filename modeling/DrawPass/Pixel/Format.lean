/-
DrawPass/Pixel/Format.lean

Texture formats and their names.

A colour format has one to four channels of one kind of number; its name is the
channel letters followed by the kind, as in `rgba16f` or `r32ui`.  `depth` is a
depth attachment.  A render target's format may ask for a depth companion with the
suffix `+depth`.

`TextureFormat.name` prints a format and `TextureFormat.ofName?` reads one;
`TextureFormat.info` is how the format is stored and transferred.
-/
import DrawPass.Gl.Command

namespace DrawPass

open Gl (Layout)

/-- What one channel holds. -/
inductive Scalar where
  /-- Eight bits standing for 0 to 1. -/
  | unorm8
  | half
  | float
  | int8
  | int16
  | int32
  | uint8
  | uint16
  | uint32
  deriving DecidableEq

/-- The channels of a colour format. -/
inductive Channels where
  | r
  | rg
  | rgb
  | rgba
  deriving DecidableEq

/-- The element type of an array of pixels in memory. -/
inductive ElementKind where
  | u8
  | i8
  | u16
  | i16
  | u32
  | i32
  | f32
  deriving DecidableEq

/-- The name of an element type. -/
def ElementKind.name : ElementKind → String
  | .u8 => "u8"
  | .i8 => "i8"
  | .u16 => "u16"
  | .i16 => "i16"
  | .u32 => "u32"
  | .i32 => "i32"
  | .f32 => "f32"

/-- The element type of a name. -/
def ElementKind.ofName? (s : String) : Option ElementKind :=
  [u8, i8, u16, i16, u32, i32, f32].find? fun k => k.name == s

/-- The bytes of one element. -/
def ElementKind.byteSize : ElementKind → Nat
  | .u8 | .i8 => 1
  | .u16 | .i16 => 2
  | .u32 | .i32 | .f32 => 4

/-- How a texture is stored. -/
inductive TextureFormat where
  | color (channels : Channels) (scalar : Scalar)
  | depth
  deriving DecidableEq

/-- How a format is stored by the device and transferred to and from memory. -/
structure FormatInfo where
  layout : Layout
  /-- The array a transfer takes. -/
  array : ElementKind
  /-- Elements of one pixel. -/
  channels : Nat
  deriving DecidableEq

namespace Scalar

/-- The end of a format's name. -/
def suffix : Scalar → List Char
  | unorm8 => ['8']
  | half => ['1', '6', 'f']
  | float => ['3', '2', 'f']
  | int8 => ['8', 'i']
  | int16 => ['1', '6', 'i']
  | int32 => ['3', '2', 'i']
  | uint8 => ['8', 'u', 'i']
  | uint16 => ['1', '6', 'u', 'i']
  | uint32 => ['3', '2', 'u', 'i']

/-- Every kind of channel. -/
def all : List Scalar := [unorm8, half, float, int8, int16, int32, uint8, uint16, uint32]

/-- The kind whose name ends so. -/
def ofSuffix? (s : List Char) : Option Scalar := all.find? fun k => k.suffix == s

/-- Whether a shader reads integers from the channel. -/
def isInteger : Scalar → Bool
  | unorm8 | half | float => false
  | _ => true

/-- What a shader puts before the sampler type. -/
def samplerPrefix : Scalar → String
  | int8 | int16 | int32 => "i"
  | uint8 | uint16 | uint32 => "u"
  | unorm8 | half | float => ""

/-- The component type in transfer and the array it takes. -/
def transfer : Scalar → UInt32 × ElementKind
  | unorm8 => (Gl.Constant.unsignedByte, .u8)
  | half => (Gl.Constant.halfFloat, .u16)
  | float => (Gl.Constant.float, .f32)
  | int8 => (Gl.Constant.byte, .i8)
  | int16 => (Gl.Constant.short, .i16)
  | int32 => (Gl.Constant.int, .i32)
  | uint8 => (Gl.Constant.unsignedByte, .u8)
  | uint16 => (Gl.Constant.unsignedShort, .u16)
  | uint32 => (Gl.Constant.unsignedInt, .u32)

end Scalar

namespace Channels

/-- How many there are. -/
def count : Channels → Nat
  | r => 1
  | rg => 2
  | rgb => 3
  | rgba => 4

/-- The beginning of a format's name. -/
def letters : Channels → List Char
  | r => ['r']
  | rg => ['r', 'g']
  | rgb => ['r', 'g', 'b']
  | rgba => ['r', 'g', 'b', 'a']

/-- The longest run of channel letters at the front of a text, and what follows it. -/
def split? : List Char → Option (Channels × List Char)
  | 'r' :: 'g' :: 'b' :: 'a' :: rest => some (rgba, rest)
  | 'r' :: 'g' :: 'b' :: rest => some (rgb, rest)
  | 'r' :: 'g' :: rest => some (rg, rest)
  | 'r' :: rest => some (r, rest)
  | _ => none

/-- The transfer format. -/
def format (integer : Bool) : Channels → UInt32
  | r => if integer then Gl.Constant.redInteger else Gl.Constant.red
  | rg => if integer then Gl.Constant.rgInteger else Gl.Constant.rg
  | rgb => if integer then Gl.Constant.rgbInteger else Gl.Constant.rgb
  | rgba => if integer then Gl.Constant.rgbaInteger else Gl.Constant.rgba

/-- The one of four values for the number of channels. -/
def choose {α : Type u} (one two three four : α) : Channels → α
  | r => one
  | rg => two
  | rgb => three
  | rgba => four

end Channels

namespace TextureFormat

open Gl

/-- Four channels of eight bits. -/
def rgba8 : TextureFormat := .color .rgba .unorm8

/-- Whether this is the depth format. -/
def isDepth : TextureFormat → Bool
  | depth => true
  | color .. => false

/-- Elements of one pixel. -/
def channels : TextureFormat → Nat
  | color c _ => c.count
  | depth => 1

/-- What a shader puts before the sampler type: integer formats have samplers of their own. -/
def samplerPrefix : TextureFormat → String
  | color _ k => k.samplerPrefix
  | depth => ""

/-- The storage format of a colour format. -/
def storage (k : Scalar) : Channels → UInt32 :=
  match k with
  | .unorm8 => Channels.choose Constant.r8 Constant.rg8 Constant.rgb8 Constant.rgba8
  | .half => Channels.choose Constant.r16f Constant.rg16f Constant.rgb16f Constant.rgba16f
  | .float => Channels.choose Constant.r32f Constant.rg32f Constant.rgb32f Constant.rgba32f
  | .int8 => Channels.choose Constant.r8i Constant.rg8i Constant.rgb8i Constant.rgba8i
  | .int16 => Channels.choose Constant.r16i Constant.rg16i Constant.rgb16i Constant.rgba16i
  | .int32 => Channels.choose Constant.r32i Constant.rg32i Constant.rgb32i Constant.rgba32i
  | .uint8 => Channels.choose Constant.r8ui Constant.rg8ui Constant.rgb8ui Constant.rgba8ui
  | .uint16 => Channels.choose Constant.r16ui Constant.rg16ui Constant.rgb16ui Constant.rgba16ui
  | .uint32 => Channels.choose Constant.r32ui Constant.rg32ui Constant.rgb32ui Constant.rgba32ui

/-- How a format is stored and transferred. -/
def info : TextureFormat → FormatInfo
  | color c k =>
    { layout := ⟨storage k c, c.format k.isInteger, k.transfer.1⟩
      array := k.transfer.2
      channels := c.count }
  | depth =>
    { layout := ⟨Constant.depthComponent24, Constant.depthComponent, Constant.unsignedInt⟩
      array := .u32
      channels := 1 }

/-- The name of a format. -/
def name : TextureFormat → String
  | color c k => String.ofList (c.letters ++ k.suffix)
  | depth => "depth"

/-- The format of a name. -/
def ofName? (s : String) : Option TextureFormat :=
  if s = "depth" then some depth
  else
    (Channels.split? s.toList).bind fun (c, rest) =>
      (Scalar.ofSuffix? rest).map fun k => color c k

end TextureFormat

/-- A name that is no format's. -/
structure UnknownFormat where
  name : String
  deriving DecidableEq

/-- The message for an unknown format. -/
def UnknownFormat.message (e : UnknownFormat) : String :=
  "Unknown texture format \"" ++ e.name ++ "\""

/-- The format of a render target. -/
structure TargetFormat where
  color : TextureFormat
  /-- Whether the target gets a depth companion. -/
  withDepth : Bool
  deriving DecidableEq

namespace TextureFormat

/-- The format of a name, or the name as an error. -/
def parse (s : String) : Except UnknownFormat TextureFormat :=
  match ofName? s with
  | some f => .ok f
  | none => .error ⟨s⟩

end TextureFormat

namespace TargetFormat

/-- The format of a render target's name. What follows the first plus sign must be `depth`;
otherwise the whole name is the error, while an unknown colour format is reported alone. -/
def parse (s : String) : Except UnknownFormat TargetFormat :=
  let before := s.toList.takeWhile (· != '+')
  match s.toList.dropWhile (· != '+') with
  | [] => (TextureFormat.parse s).map fun f => ⟨f, false⟩
  | _ :: rest =>
    if String.ofList rest = "depth" then
      (TextureFormat.parse (String.ofList before)).map fun f => ⟨f, true⟩
    else .error ⟨s⟩

end TargetFormat

end DrawPass
