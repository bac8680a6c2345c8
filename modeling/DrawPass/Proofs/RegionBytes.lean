/-
DrawPass/Proofs/RegionBytes.lean

How many bytes a read of a region yields.

A region that a target accepts has so many bytes (`Target.regionBytes`), and a texture
that is read there gives exactly as many (`Target.length_read`), provided that the ends
of the region, which the device works out in 32 bits, do not wrap
(`Rect.EndsWithin32Bits`).
-/
import DrawPass.Proofs.PixelBytes
import DrawPass.Software.Texture
import DrawPass.Target.Basic

namespace DrawPass

open Gl Software

/-- The ends of a rectangle can be written as signed 32-bit integers. -/
def Gl.Rect.EndsWithin32Bits (rect : Rect) : Prop :=
  rect.x.toInt + rect.width.toInt ≤ 2147483647 ∧ rect.y.toInt + rect.height.toInt ≤ 2147483647

namespace Software

theorem Texture.length_span {start extent : Int32} (hstart : 0 ≤ start.toInt)
    (hextent : 0 < extent.toInt) (hend : start.toInt + extent.toInt ≤ 2147483647) :
    (span start (start + extent)).length = extent.toInt.toNat := by
  have hstop : (start + extent).toInt = start.toInt + extent.toInt := by
    rw [Int32.toInt_add]
    exact Int.bmod_eq_of_le (by omega) (by omega)
  rw [span, List.length_map, List.length_range, hstop]
  congr 1
  omega

theorem length_encodeComponent (format type : UInt32) (x : Single) :
    (encodeComponent format type x).length = (ComponentType.ofConstant type).size :=
  Pixel.length_bytesOf ..

theorem channelsOf_le (format : UInt32) : channelsOf format ≤ 4 := by
  unfold channelsOf
  split <;> decide

theorem channelsOf_pos (format : UInt32) : 0 < channelsOf format := by
  unfold channelsOf
  split <;> decide

theorem ComponentType.size_pos (type : ComponentType) : 0 < type.size := by
  cases type <;> decide

/-- A texture gives one pixel for each place of a rectangle, also outside of itself. -/
theorem Texture.length_read (t : Texture) {rect : Rect} (hx : 0 ≤ rect.x.toInt)
    (hy : 0 ≤ rect.y.toInt) (hwidth : 0 < rect.width.toInt) (hheight : 0 < rect.height.toInt)
    (hends : rect.EndsWithin32Bits) (format type : UInt32) :
    (t.read rect format type).length = rect.width.toInt.toNat * rect.height.toInt.toNat *
      (channelsOf format * (ComponentType.ofConstant type).size) := by
  have hpixel (x y : Int32) : (((t.fetch x y 0).toList.take (channelsOf format)).flatMap
      (encodeComponent format type)).length =
        channelsOf format * (ComponentType.ofConstant type).size := by
    have hchannels := channelsOf_le format
    simp only [List.length_flatMap, length_encodeComponent, List.map_const',
      List.sum_replicate_nat, List.length_take, Vector.length_toList]
    rw [Nat.min_eq_left hchannels]
  simp only [read, List.length_flatMap, hpixel, List.map_const', List.sum_replicate_nat]
  rw [length_span hx hwidth hends.1, length_span hy hheight hends.2, ← Nat.mul_assoc,
    Nat.mul_comm rect.height.toInt.toNat]

end Software

/-- A pixel of a format has as many bytes in transfer as in the array that takes it. -/
theorem TextureFormat.transfer_size (f : TextureFormat) :
    channelsOf f.info.layout.format * (ComponentType.ofConstant f.info.layout.type).size =
      f.info.channels * f.info.array.byteSize := by
  cases f with
  | depth => rfl
  | color c k => cases c <;> cases k <;> rfl

namespace Target

variable {t : Target} {rect : Rect}

/-- A region that is accepted is not empty and begins inside. -/
theorem of_region_eq_ok {region : Option Rect} (h : t.region region = .ok rect) :
    0 ≤ rect.x.toInt ∧ 0 < rect.width.toInt ∧ 0 ≤ rect.y.toInt ∧ 0 < rect.height.toInt := by
  unfold Target.region at h
  dsimp only at h
  split at h
  · rename_i hfits
    cases h
    simp only [fits, Bool.and_eq_true, decide_eq_true_eq] at hfits
    exact ⟨hfits.1.1, hfits.1.2.1, hfits.2.1, hfits.2.2.1⟩
  · cases h

/-- A region that is accepted has at least one byte. -/
theorem regionBytes_pos {region : Option Rect} (h : t.region region = .ok rect) :
    0 < t.regionBytes rect := by
  obtain ⟨-, hwidth, -, hheight⟩ := of_region_eq_ok h
  have hchannels : 0 < t.info.channels := by
    unfold Target.info
    cases t.format with
    | depth => exact Nat.one_pos
    | color c k => cases c <;> exact Nat.succ_pos _
  apply Nat.mul_pos _ t.info.array.byteSize_pos
  apply Nat.mul_pos _ hchannels
  exact Nat.mul_pos (by omega) (by omega)

/-- The bytes of a region fill whole elements. -/
theorem dvd_regionBytes (t : Target) (rect : Rect) :
    t.info.array.byteSize ∣ t.regionBytes rect := Nat.dvd_mul_left ..

/-- Every texture gives as many bytes as the region has. -/
theorem length_read {region : Option Rect} (h : t.region region = .ok rect)
    (hends : rect.EndsWithin32Bits) (texture : Texture) :
    (texture.read rect t.info.layout.format t.info.layout.type).length = t.regionBytes rect := by
  obtain ⟨hx, hwidth, hy, hheight⟩ := of_region_eq_ok h
  rw [texture.length_read hx hy hwidth hheight hends, info, t.format.transfer_size, regionBytes,
    elements, info, Nat.mul_assoc _ t.format.info.channels]

end Target

end DrawPass
