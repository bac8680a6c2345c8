/-
DrawPass/Software/Fragment.lean

What stands in for a fragment shader on the device in memory.

A fragment is one pixel of a draw together with what a shader can reach from it: the
uniforms of the program and, through its sampler uniforms, the textures bound to the
units.  An emulator computes the colour of a fragment; `Emulator` lists the simple
ones.
-/
import DrawPass.Software.Program
import DrawPass.Software.Texture

namespace DrawPass.Software

open Gl

/-- One pixel of a draw, with the state that a shader can reach. -/
structure Fragment where
  /-- The pixel in the render target. -/
  x : Int32
  y : Int32
  /-- The place of the pixel in the viewport, from 0 to 1. -/
  u : Single
  v : Single
  program : Program
  /-- The texture bound to each unit. -/
  units : Table UInt32 Name
  textures : Table Name Texture

namespace Fragment

/-- The texture that a sampler uniform reads. -/
def samplerTexture? (f : Fragment) (sampler : String) : Option Texture := do
  let value ← f.program.values.get? sampler
  let unit ← value.asInts.head?
  f.textures.get? (← f.units.get? unit.toUInt32)

/-- A texel of the texture that a sampler uniform reads; without a texture it is all zero. -/
def texel (f : Fragment) (sampler : String) (x y : Int32) (layer : UInt32) : Color :=
  match f.samplerTexture? sampler with
  | some t => t.fetch x y layer
  | none => Color.uniform .zero

/-- The size of the texture that a sampler uniform reads. -/
def samplerSize? (f : Fragment) (sampler : String) : Option (UInt32 × UInt32) :=
  (f.samplerTexture? sampler).map fun t => (t.width, t.height)

/-- The components of a uniform as floats. -/
def floats? (f : Fragment) (name : String) : Option (List Single) :=
  (f.program.values.get? name).map UniformValue.asFloats

/-- The components of a uniform as integers. -/
def ints? (f : Fragment) (name : String) : Option (List Int32) :=
  (f.program.values.get? name).map UniformValue.asInts

end Fragment

/-- A simple stand-in for a fragment shader. -/
inductive Emulator where
  /-- One colour everywhere. -/
  | const (color : Color)
  /-- The coordinates of the pixel. -/
  | coord
  /-- The place in the viewport. -/
  | uv
  /-- A texel beside the pixel, plus a colour. -/
  | texel (sampler : String) (dx dy : Int32) (layer : UInt32) (plus : Color)
  /-- The first float of a uniform in all components. -/
  | float (uniform : String)
  | floats (uniform : String)
  | ints (uniform : String)
  /-- The size of a sampled texture. -/
  | size (sampler : String)

/-- The colour of a fragment. Where a uniform or a texture is missing it is minus one
throughout. -/
def Emulator.run (e : Emulator) (f : Fragment) : Color :=
  let orMissing (xs : Option (List Single)) : Color :=
    match xs with
    | some xs => Color.ofList xs
    | none => Color.uniform .negOne
  match e with
  | const color => color
  | coord => Color.rgba (Single.ofInt f.x.toInt) (Single.ofInt f.y.toInt) .zero .one
  | uv => Color.rgba f.u f.v .zero .one
  | texel sampler dx dy layer plus =>
    (f.texel sampler (f.x + dx) (f.y + dy) layer).zipWith (· + ·) plus
  | float name =>
    match (f.floats? name).bind List.head? with
    | some x => Color.uniform x
    | none => Color.uniform .negOne
  | floats name => orMissing (f.floats? name)
  | ints name => orMissing ((f.ints? name).map fun ns => ns.map fun n => Single.ofInt n.toInt)
  | size sampler => orMissing <| (f.samplerSize? sampler).map fun s =>
      [Single.ofInt s.1.toNat, Single.ofInt s.2.toNat]

end DrawPass.Software
