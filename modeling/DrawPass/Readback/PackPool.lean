/-
DrawPass/Readback/PackPool.lean

Pools of pixel buffers.

A read that does not wait copies its pixels into a pixel buffer of its target's pool
and takes them from there once the device is done.  Buffers grow on demand and go
back to the pool after use; taking one deletes the idle ones beyond the pool's limit.

A buffer whose capacity is zero is not valid: it has been deleted, or has never been
given storage.
-/
import DrawPass.Error
import DrawPass.Table

namespace DrawPass.Readback

open Gl

/-- The pixel buffers of one target. -/
structure PackPool where
  /-- How many idle buffers are kept. -/
  limit : Nat
  /-- The buffers waiting to be used again; the one that has waited longest comes first. -/
  idle : List Name := []
  /-- The buffers that have been made and not deleted, idle or in use. -/
  live : List Name := []
  /-- The bytes that each buffer has storage for. -/
  capacities : Table Name Nat := .empty

namespace PackPool

variable {σ : Type} [Device σ]

/-- The bytes that a buffer has storage for. -/
def capacity (p : PackPool) (buffer : Name) : Nat := (p.capacities.get? buffer).getD 0

/-- Whether a buffer can be used. -/
def isValid (p : PackPool) (buffer : Name) : Bool := 0 < p.capacity buffer

/-- Delete a buffer. -/
def delete (p : PackPool) (buffer : Name) : StateM σ PackPool := do
  perform (.deleteBuffer buffer)
  return { p with
    live := p.live.filter (· != buffer)
    capacities := p.capacities.insert buffer 0 }

/-- Delete the idle buffers beyond the limit, the one that came in last first. -/
def trim (p : PackPool) : StateM σ PackPool :=
  (p.idle.drop p.limit).reverse.foldlM delete { p with idle := p.idle.take p.limit }

/-- Give a buffer storage for so many bytes, unless it has it. -/
def reserve (p : PackPool) (buffer : Name) (bytes : Nat) : StateM σ PackPool := do
  if p.capacity buffer < bytes then
    perform (.bufferReserve Constant.pixelPackBuffer buffer bytes Constant.streamRead)
    return { p with capacities := p.capacities.insert buffer bytes }
  else return p

/-- Take a buffer for so many bytes: the idle one that has waited longest, else a new one. -/
def acquire (p : PackPool) (bytes : Nat) : Attempt ReadError σ (Name × PackPool) := do
  match p.idle with
  | buffer :: rest =>
    let p ← ExceptT.lift (trim { p with idle := rest })
    return (buffer, ← ExceptT.lift (p.reserve buffer bytes))
  | [] =>
    let buffer ← Attempt.create .gl .createBuffer
    return (buffer, ← ExceptT.lift (reserve { p with live := p.live ++ [buffer] } buffer bytes))

/-- Give a buffer back; one that is not valid is forgotten. -/
def recycle (p : PackPool) (buffer : Name) : PackPool :=
  if p.isValid buffer then { p with idle := p.idle ++ [buffer] } else p

/-- Delete every buffer, also those in use. -/
def invalidateAll (p : PackPool) : StateM σ PackPool := do
  for buffer in p.live do
    perform (.deleteBuffer buffer)
  return { p with
    idle := []
    live := []
    capacities := p.live.foldl (fun capacities buffer => capacities.insert buffer 0) p.capacities }

end PackPool

end DrawPass.Readback
