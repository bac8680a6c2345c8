/-
DrawPass/Software/Texel.lean

One component of a texel, between memory and number.

Components are kept as single-precision numbers and converted when pixels are
uploaded, stored or read.  A component is normalised when its transfer format is not
an integer one and its type is neither single nor half precision: the whole range of
the type then stands for 0 to 1, or -1 to 1 for signed types.
-/
import DrawPass.Gl.Command
import DrawPass.Pixel.Word

namespace DrawPass.Software

open Gl Binary Pixel

/-- The components that a transfer format carries. -/
def channelsOf : UInt32 → Nat
  | Constant.red | Constant.redInteger | Constant.depthComponent => 1
  | Constant.rg | Constant.rgInteger => 2
  | Constant.rgb | Constant.rgbInteger => 3
  | _ => 4

/-- What a component is in memory. -/
inductive ComponentType where
  | unsignedByte
  | byte
  | unsignedShort
  | short
  | half
  | unsignedInt
  | int
  | float
  deriving DecidableEq

namespace ComponentType

/-- The component type of a constant; what is none of the others is single precision. -/
def ofConstant : UInt32 → ComponentType
  | Constant.unsignedByte => unsignedByte
  | Constant.byte => byte
  | Constant.unsignedShort => unsignedShort
  | Constant.short => short
  | Constant.halfFloat => half
  | Constant.unsignedInt => unsignedInt
  | Constant.int => int
  | _ => float

/-- The bytes of a component. -/
def size : ComponentType → Nat
  | unsignedByte | byte => 1
  | unsignedShort | short | half => 2
  | unsignedInt | int | float => 4

end ComponentType

/-- Whether the components of a transfer stand for a unit range. -/
def isNormalized (format type : UInt32) : Bool :=
  (match format with
    | Constant.red | Constant.rg | Constant.rgb | Constant.rgba | Constant.depthComponent => true
    | _ => false) &&
  (match type with
    | Constant.float | Constant.halfFloat => false
    | _ => true)

/-- The largest unsigned 32-bit integer in double precision. -/
def maxWord : Rat := 4294967295

/-- A rational rounded to double precision. -/
def roundDouble (q : Rat) : Datum :=
  Format.double.decode (Format.double.encode (.finite (decide (q < 0)) q.abs))

/-- The number that a component in memory stands for. -/
def decodeComponent (format type : UInt32) (bytes : Bytes) : Single :=
  let norm := isNormalized format type
  let w := wordOf bytes
  match ComponentType.ofConstant type with
  | .unsignedByte =>
    let v := Single.ofInt w
    if norm then v / Single.ofInt 255 else v
  | .byte =>
    let v := Single.ofInt (UInt8.ofNat w).toInt8.toInt
    if norm then (v / Single.ofInt 127).max .negOne else v
  | .unsignedShort =>
    let v := Single.ofInt w
    if norm then v / Single.ofInt 65535 else v
  | .short =>
    let v := Single.ofInt (UInt16.ofNat w).toInt16.toInt
    if norm then (v / Single.ofInt 32767).max .negOne else v
  | .half => Single.ofHalf (UInt16.ofNat w)
  | .unsignedInt =>
    if norm then Single.ofDatum (roundDouble ((w : Rat) / maxWord)) else Single.ofInt w
  | .int => Single.ofInt (UInt32.ofNat w).toInt32.toInt
  | .float => ⟨UInt32.ofNat w⟩

/-- A number as an integer between two bounds. A normalised one is first brought into the unit
range and scaled by the upper bound. -/
def quantize (norm : Bool) (unitLow : Single) (low high : Int) (x : Single) : Int :=
  if norm then
    ((x.clamp unitLow .one) * Single.ofInt high).datum.toInt roundAway low high
  else x.datum.toInt roundAway low high

/-- A normalised number as an unsigned 32-bit integer, scaled in double precision. -/
def quantizeWord (x : Single) : Int :=
  match (x.clamp .zero .one).datum with
  | .finite s q => (roundDouble (Single.signed s q * maxWord)).toInt roundAway 0 4294967295
  | d => d.toInt roundAway 0 4294967295

/-- A number as a component in memory, rounded to the nearest that can be kept. -/
def encodeComponent (format type : UInt32) (x : Single) : Bytes :=
  let norm := isNormalized format type
  let t := ComponentType.ofConstant type
  bytesOf t.size <|
    match t with
    | .unsignedByte => (quantize norm .zero 0 255 x).toNat
    | .byte => (Int8.ofInt (quantize norm .negOne (-128) 127 x)).toUInt8.toNat
    | .unsignedShort => (quantize norm .zero 0 65535 x).toNat
    | .short => (Int16.ofInt (quantize norm .negOne (-32768) 32767 x)).toUInt16.toNat
    | .half => x.toHalf.toNat
    | .unsignedInt =>
      (if norm then quantizeWord x else quantize false .zero 0 4294967295 x).toNat
    | .int =>
      (Int32.ofInt (quantize false .zero (-2147483648) 2147483647 x)).toUInt32.toNat
    | .float => x.bits.toNat

end DrawPass.Software
