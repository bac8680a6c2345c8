/-
DrawPass/Readback/Pending.lean

Reads under way: what is remembered of a read until its fence has signalled, and what
is handed over then.
-/
import DrawPass.Pixel.Data
import DrawPass.Sampling.Sampler

namespace DrawPass.Readback

open Gl

/-- A read whose pixels are on their way. -/
structure PendingRead where
  /-- The caller's name for the read. -/
  label : String
  /-- The target that is read; the buffer belongs to its pool. -/
  target : TargetKey
  fence : Name
  buffer : Name
  /-- How many bytes are read. -/
  length : Nat
  kind : ElementKind
  /-- The array to be filled in, if the caller gave one. -/
  destination : Option PixelData
  /-- The time of the next look at the fence. -/
  nextPoll : Nat
  deriving DecidableEq

/-- The pixels of a finished read, under the caller's name for it. -/
structure Delivery where
  label : String
  pixels : PixelData
  deriving DecidableEq

/-- The array that the pixels are written to: the caller's, or a fresh one. -/
def PendingRead.array (r : PendingRead) : PixelData :=
  r.destination.getD (PixelData.zeroed r.kind (r.length / r.kind.byteSize))

end DrawPass.Readback
