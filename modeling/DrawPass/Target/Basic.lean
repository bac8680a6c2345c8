/-
DrawPass/Target/Basic.lean

Render targets: a texture with what is needed to draw into it and to read it back.

A target owns its texture, its framebuffer, which is made when it is first bound, and
the pixel buffers of its reads.  It may have a depth companion, a target of its own
that is attached with it: an owned one follows every change of size and is freed with
its target, a borrowed one is the caller's business.

Whether data fits a target and whether a region lies inside it is decided here, before
a device is asked for anything.
-/
import DrawPass.Pixel.Data
import DrawPass.Readback.PackPool
import DrawPass.Sampling.Sampler

namespace DrawPass

open Gl Readback Sampling

/-- The depth companion of a target, by its key. -/
inductive Companion where
  | none
  | owned (key : TargetKey)
  | borrowed (key : TargetKey)
  deriving DecidableEq

/-- The key of a companion, whoever owns it. -/
def Companion.key? : Companion → Option TargetKey
  | none => .none
  | owned key | borrowed key => some key

/-- The key of a companion that its target owns. -/
def Companion.ownedKey? : Companion → Option TargetKey
  | owned key => some key
  | _ => .none

/-- A render target. -/
structure Target where
  /-- The texture and what never changes about it. -/
  texture : TextureRef
  /-- How the texture is sampled unless a sampler says otherwise. -/
  mode : Mode
  /-- The number of layers of a layered texture. -/
  layers : Option UInt32
  /-- Width and height. -/
  size : UInt32 × UInt32
  companion : Companion
  framebuffer : Option Name := none
  /-- The memory of blocking reads. -/
  staging : Bytes := []
  pool : PackPool
  /-- Whether the texture has been written since its mip levels were last made. -/
  mipsStale : Bool := true
  freed : Bool := false

/-- What a target is made from. -/
structure TargetDescription where
  tag : String
  size : UInt32 × UInt32
  format : TextureFormat
  mode : Mode
  layers : Option UInt32
  data : Option PixelData
  /-- Whether the target gets a companion of its own. -/
  withDepth : Bool
  /-- The key of a companion that the caller owns; it takes the place of one of its own. -/
  depth : Option TargetKey
  /-- How many idle pixel buffers are kept. -/
  poolLimit : Nat

/-- The bytes that fill a texture. -/
def dataBytes (info : FormatInfo) (size : UInt32 × UInt32) (layers : Option UInt32) : Nat :=
  size.1.toNat * size.2.toNat * (layers.getD 1).toNat * info.channels * info.array.byteSize

/-- Refuse data that does not fill a texture exactly or is of another kind. -/
def checkData (tag : String) (info : FormatInfo) (size : UInt32 × UInt32)
    (layers : Option UInt32) (data : Option PixelData) : Except DrawError Unit :=
  match data with
  | none => .ok ()
  | some d =>
    let expected := dataBytes info size layers
    if expected ≠ d.bytes.length ∨ d.kind ≠ info.array then
      .error (.dataSizeMismatch tag expected d.bytes.length)
    else .ok ()

namespace Target

/-- The tag of a target. -/
def tag (t : Target) : String := t.texture.tag

/-- The format of a target. -/
def format (t : Target) : TextureFormat := t.texture.format

/-- How the texture is stored and transferred. -/
def info (t : Target) : FormatInfo := t.format.info

/-- The sampler with the target's own mode. -/
def sampler (t : Target) : Sampler := Sampler.make t.texture t.mode.filter t.mode.wrap

/-- Whether a stretch of pixels is not empty and lies between zero and a limit. -/
def fits (origin extent : Int32) (limit : UInt32) : Bool :=
  decide (0 ≤ origin.toInt ∧ 0 < extent.toInt ∧ origin.toInt + extent.toInt ≤ limit.toNat)

/-- The region of a read, the whole target if none is given, unless it reaches outside. -/
def region (t : Target) (region : Option Rect) : Except ReadError Rect :=
  let rect := region.getD ⟨0, 0, t.size.1.toInt32, t.size.2.toInt32⟩
  if fits rect.x rect.width t.size.1 && fits rect.y rect.height t.size.2 then .ok rect
  else .error .invalidRegion

/-- How many elements the pixels of a region have. -/
def elements (t : Target) (rect : Rect) : Nat :=
  rect.width.toInt.toNat * rect.height.toInt.toNat * t.info.channels

/-- How many bytes the pixels of a region have. -/
def regionBytes (t : Target) (rect : Rect) : Nat := t.elements rect * t.info.array.byteSize

end Target

end DrawPass
