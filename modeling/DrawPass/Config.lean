/-
DrawPass/Config.lean

The settings of a renderer.
-/
import DrawPass.Pixel.Format
import DrawPass.Sampling.Mode

namespace DrawPass

open Sampling

/-- A header for embedded devices, with a precision for every kind of sampler in use. -/
def embeddedHeader : String :=
  "#version 300 es\n" ++
  "precision highp float;\n" ++
  "precision highp int;\n" ++
  "precision lowp sampler2DArray;\n" ++
  "precision highp isampler2D;\n" ++
  "precision highp usampler2D;\n" ++
  "precision highp isampler2DArray;\n" ++
  "precision highp usampler2DArray;"

/-- A header for desktop devices. -/
def desktopHeader : String := "#version 330 core"

/-- The settings of a renderer. -/
structure Config where
  /-- What comes first in both shader stages. -/
  header : String := embeddedHeader
  /-- How many idle pixel buffers a target keeps. -/
  poolLimit : Nat := 6
  /-- Milliseconds from one look at a pending read to the next. -/
  pollInterval : Nat := 1
  /-- The vertices and instances that the index array is made for. -/
  indexCapacity : UInt32 := 1024
  /-- The format of a target that names none. -/
  format : TextureFormat := .rgba8
  filter : Filter := .nearest
  wrap : Wrap := .repeated
  /-- Whether profiling is switched on when the renderer is made. -/
  profiling : Bool := false
  deriving DecidableEq

namespace Config

/-- The settings for desktop devices. -/
def desktop : Config := { header := desktopHeader }

/-- The settings with another capacity of the index array, which is at least 1. -/
def withIndexCapacity (c : Config) (capacity : UInt32) : Config :=
  { c with indexCapacity := max capacity 1 }

end Config

end DrawPass
