/-
DrawPass/Geometry/IndexArray.lean

The geometry of every draw: one buffer of consecutive integers.

A vertex shader works out positions from two integers, the vertex and the instance it
is run for.  Both attributes of the vertex array read the same buffer `0, 1, 2, …`,
which is replaced by a longer one when a draw needs more and never shrinks.
-/
import DrawPass.Error
import DrawPass.Geometry.Count
import DrawPass.Pixel.Word

namespace DrawPass.Geometry

open Gl

/-- The first integers as 32-bit words, lowest byte first. -/
def indexBytes (count : UInt32) : Bytes :=
  (List.range count.toNat).flatMap fun i => Pixel.bytesOf 4 i

/-- A vertex array whose two attributes count vertices and instances. -/
structure IndexArray where
  vertexArray : Name
  buffer : Name
  /-- How many integers the buffer holds. -/
  capacity : UInt32
  deriving DecidableEq

namespace IndexArray

variable {σ : Type} [Device σ]

/-- The capacity for a request: twice as much, so that a mesh that grows slowly does not need a
new buffer each time, but no more than a draw can use. -/
def capacityFor (needed : UInt32) : UInt32 :=
  UInt32.ofNat (min (2 * needed.toNat) maxCount.toNat)

/-- Make the buffer hold at least so many integers. -/
def ensure (a : IndexArray) (needed : UInt32) : StateM σ IndexArray := do
  if needed ≤ a.capacity then return a
  else
    let capacity := capacityFor needed
    perform (.bufferData Constant.arrayBuffer a.buffer (indexBytes capacity) Constant.staticDraw)
    perform (.intAttribute a.vertexArray a.buffer 0 0)
    perform (.intAttribute a.vertexArray a.buffer 1 1)
    return { a with capacity }

/-- Make the vertex array and its buffer. -/
def create (capacity : UInt32) : Attempt DrawError σ IndexArray := do
  let vertexArray ← Attempt.create .gl .createVertexArray
  let buffer ← Attempt.create .gl .createBuffer
  ExceptT.lift (ensure ⟨vertexArray, buffer, 0⟩ (max capacity 1))

/-- Bind the vertex array. -/
def bind (a : IndexArray) : StateM σ Unit := perform (.bindVertexArray (some a.vertexArray))

/-- Delete the vertex array and its buffer. -/
def delete (a : IndexArray) : StateM σ Unit := do
  perform (.deleteVertexArray a.vertexArray)
  perform (.deleteBuffer a.buffer)

end IndexArray

end DrawPass.Geometry
