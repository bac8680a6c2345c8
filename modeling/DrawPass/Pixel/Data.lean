/-
DrawPass/Pixel/Data.lean

Arrays of pixels in memory.

An array has one of seven element kinds.  It is also a list of bytes, lowest byte of
an element first: `bytes` and `ofBytes` go back and forth, a partial last element
being completed with zero bytes.
-/
import DrawPass.Pixel.Format
import DrawPass.Pixel.Word

namespace DrawPass

/-- An array of pixels. -/
inductive PixelData where
  | u8 (v : List UInt8)
  | i8 (v : List Int8)
  | u16 (v : List UInt16)
  | i16 (v : List Int16)
  | u32 (v : List UInt32)
  | i32 (v : List Int32)
  | f32 (v : List Single)
  deriving DecidableEq

namespace PixelData

open Pixel

/-- The element kind. -/
def kind : PixelData → ElementKind
  | u8 _ => .u8
  | i8 _ => .i8
  | u16 _ => .u16
  | i16 _ => .i16
  | u32 _ => .u32
  | i32 _ => .i32
  | f32 _ => .f32

/-- The elements as words without a sign. -/
def words : PixelData → List Nat
  | u8 v => v.map (·.toNat)
  | i8 v => v.map (·.toUInt8.toNat)
  | u16 v => v.map (·.toNat)
  | i16 v => v.map (·.toUInt16.toNat)
  | u32 v => v.map (·.toNat)
  | i32 v => v.map (·.toUInt32.toNat)
  | f32 v => v.map (·.bits.toNat)

/-- The array of a kind with the given words. -/
def ofWords : ElementKind → List Nat → PixelData
  | .u8, ws => u8 (ws.map UInt8.ofNat)
  | .i8, ws => i8 (ws.map fun w => (UInt8.ofNat w).toInt8)
  | .u16, ws => u16 (ws.map UInt16.ofNat)
  | .i16, ws => i16 (ws.map fun w => (UInt16.ofNat w).toInt16)
  | .u32, ws => u32 (ws.map UInt32.ofNat)
  | .i32, ws => i32 (ws.map fun w => (UInt32.ofNat w).toInt32)
  | .f32, ws => f32 (ws.map fun w => ⟨UInt32.ofNat w⟩)

/-- How many elements there are. -/
def length (d : PixelData) : Nat := d.words.length

/-- Elements that are all zero. -/
def zeroed (kind : ElementKind) (n : Nat) : PixelData := ofWords kind (List.replicate n 0)

/-- The bytes of the elements. -/
def bytes (d : PixelData) : Bytes := d.words.flatMap (bytesOf d.kind.byteSize)

/-- The elements that bytes spell; a partial last one is completed with zero bytes. -/
def ofBytes (kind : ElementKind) (bs : Bytes) : PixelData :=
  ofWords kind ((chunks kind.byteSize bs).map wordOf)

/-- The array with its first bytes replaced. -/
def writeBytes (d : PixelData) (bs : Bytes) : PixelData :=
  ofBytes d.kind (Gl.overwrite d.bytes bs)

/-- The elements of an array of half-precision words. -/
def halves? : PixelData → Option (List Single)
  | u16 v => some (v.map Single.ofHalf)
  | _ => none

/-- An array of half-precision words, each the nearest to a number. -/
def ofHalves (v : List Single) : PixelData := u16 (v.map Single.toHalf)

end PixelData

end DrawPass
