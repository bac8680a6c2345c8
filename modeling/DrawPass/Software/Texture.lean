/-
DrawPass/Software/Texture.lean

Textures kept in memory.

A texture is a grid of texels by column, row and layer.  Texels are written at the
precision of the storage (`store`), read with missing channels filled in and
coordinates held at the edge (`fetch`), and transferred as bytes (`specify`, `read`).
-/
import DrawPass.Software.Texel

namespace DrawPass.Software

open Gl Pixel

/-- A texture in memory. -/
structure Texture where
  width : UInt32
  height : UInt32
  /-- At least one, also where the texture has no layers. -/
  layers : UInt32
  layered : Bool
  layout : Layout
  /-- Layer by layer, row by row. -/
  texels : Array Color
  hasMipmaps : Bool

namespace Texture

/-- A texture without storage. -/
def empty : Texture where
  width := 0
  height := 0
  layers := 1
  layered := false
  layout := ⟨Constant.rgba8, Constant.rgba, Constant.unsignedByte⟩
  texels := #[]
  hasMipmaps := false

/-- The channels that are stored. -/
def channels (t : Texture) : Nat := channelsOf t.layout.format

/-- The texel that the bytes of a pixel stand for; channels without bytes are zero. -/
def decodePixel (layout : Layout) (pixel : Bytes) : Color :=
  Color.ofList <|
    (chunks (ComponentType.ofConstant layout.type).size pixel).map
      (decodeComponent layout.format layout.type)

/-- A texture with new storage. Pixels without data are zero. -/
def specify (t : Texture) (layout : Layout) (width height : UInt32) (layers : Option UInt32)
    (data : Option Bytes) : Texture :=
  let depth := max (layers.getD 1) 1
  let count := (width * height * depth).toNat
  let pixelSize := channelsOf layout.format * (ComponentType.ofConstant layout.type).size
  let given := ((fullChunks pixelSize (data.getD [])).take count).map (decodePixel layout)
  { t with
    width, height, layout
    layers := depth
    layered := layers.isSome
    hasMipmaps := false
    texels := (given ++ List.replicate (count - given.length) (Color.uniform .zero)).toArray }

/-- The place of a texel in storage, if there is one at the coordinates. -/
def index? (t : Texture) (x y : Int32) (layer : UInt32) : Option Nat :=
  if x < 0 ∨ y < 0 ∨ t.width ≤ x.toUInt32 ∨ t.height ≤ y.toUInt32 ∨ t.layers ≤ layer then none
  else some ((layer * t.height + y.toUInt32) * t.width + x.toUInt32).toNat

/-- A texel as a shader sees it: coordinates are held at the edge, missing colours are zero and
missing alpha is one. -/
def fetch (t : Texture) (x y : Int32) (layer : UInt32) : Color :=
  if t.width = 0 ∨ t.height = 0 then Color.opaqueBlack
  else
    let x := max 0 (min x (t.width.toInt32 - 1))
    let y := max 0 (min y (t.height.toInt32 - 1))
    match t.index? x y (min layer (t.layers - 1)) with
    | none => Color.opaqueBlack
    | some i =>
      let texel := t.texels.getD i Color.opaqueBlack
      Vector.ofFn fun c =>
        if c.val < t.channels then texel[c] else if c.val = 3 then .one else .zero

/-- A colour at the precision of the storage. -/
def quantized (t : Texture) (value : Color) : Color :=
  Vector.ofFn fun c =>
    if c.val < t.channels then
      decodeComponent t.layout.format t.layout.type
        (encodeComponent t.layout.format t.layout.type value[c])
    else .zero

/-- Replace a texel; outside the texture nothing happens. -/
def put (t : Texture) (x y : Int32) (layer : UInt32) (texel : Color) : Texture :=
  match t.index? x y layer with
  | none => t
  | some i => { t with texels := t.texels.setIfInBounds i texel }

/-- Write a colour at the precision of the storage. -/
def store (t : Texture) (x y : Int32) (layer : UInt32) (value : Color) : Texture :=
  t.put x y layer (t.quantized value)

/-- The integers from `start` up to, but without, `stop`. -/
def span (start stop : Int32) : List Int32 :=
  (List.range (stop.toInt - start.toInt).toNat).map fun (n : Nat) => Int32.ofInt (start.toInt + n)

/-- The part of an extent that lies between zero and a limit. The end of the extent wraps at 32
bits; a limit past the last coordinate is none. -/
def clip (start extent : Int32) (limit : UInt32) : List Int32 :=
  span (max 0 start) (min (start + extent) (min limit Int32.maxValue.toUInt32).toInt32)

/-- Write one colour to every texel of a rectangle that lies inside the texture. -/
def fill (t : Texture) (rect : Rect) (layer : UInt32) (value : Color) : Texture :=
  let texel := t.quantized value
  let columns := clip rect.x rect.width t.width
  (clip rect.y rect.height t.height).foldl (fun t y =>
    columns.foldl (fun t x => t.put x y layer texel) t) t

/-- The bytes of a rectangle of the first layer. -/
def read (t : Texture) (rect : Rect) (format type : UInt32) : Bytes :=
  (span rect.y (rect.y + rect.height)).flatMap fun y =>
    (span rect.x (rect.x + rect.width)).flatMap fun x =>
      ((t.fetch x y 0).toList.take (channelsOf format)).flatMap (encodeComponent format type)

end Texture

end DrawPass.Software
