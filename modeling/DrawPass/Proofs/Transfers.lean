/-
DrawPass/Proofs/Transfers.lean

What becomes of an element that is written to a texture and read from it.

Between the two it is a number in single precision.  Every element of eight or sixteen bits comes
back as it was, provided that it is a number, and so does every element in single precision.  An
integer of 32 bits comes back just if it is short or the largest (`Scalar.Keeps`,
`transfer_eq_iff`).
-/
import DrawPass.Proofs.PixelWords
import DrawPass.Proofs.Singles

namespace DrawPass

open Binary Pixel Software

/-- A texel of the kind keeps an element. -/
def Scalar.Keeps : Scalar → Nat → Prop
  | int32, w => IsShort (UInt32.ofNat w).toInt32.toInt.natAbs ∨
      (UInt32.ofNat w).toInt32.toInt = 2147483647
  | uint32, w => IsShort w ∨ w = 4294967295
  | _, _ => True

/-- If an element is in half precision, it is a number. -/
def Scalar.IsNumber (k : Scalar) (w : Nat) : Prop :=
  k = .half → ∀ negative payload, Format.half.decode w ≠ .nan negative payload

namespace Software

variable {format type : UInt32} {w : Nat}

/-- The word that comes back of one that is written. -/
def transfer (format type : UInt32) (w : Nat) : Nat :=
  wordOf (encodeComponent format type
    (decodeComponent format type (bytesOf (ComponentType.ofConstant type).size w)))

section Integers

variable (hnormalized : isNormalized format type = false)
include hnormalized

theorem transfer_unsignedByte (htype : ComponentType.ofConstant type = .unsignedByte)
    (hw : w < 256) : transfer format type w = w := by
  have hword : wordOf (bytesOf 1 w) = w := wordOf_bytesOf hw
  have hback : (Single.ofInt w).datum.toInt roundAway 0 255 = w :=
    Single.toInt_ofInt (isShort_of_le (by omega)) (by omega) (by omega) (by omega)
  simp only [transfer, decodeComponent, encodeComponent, htype, hnormalized, ComponentType.size,
    hword, quantize, Bool.false_eq_true, if_false, hback, Int.toNat_natCast]

theorem transfer_unsignedShort (htype : ComponentType.ofConstant type = .unsignedShort)
    (hw : w < 65536) : transfer format type w = w := by
  have hword : wordOf (bytesOf 2 w) = w := wordOf_bytesOf hw
  have hback : (Single.ofInt w).datum.toInt roundAway 0 65535 = w :=
    Single.toInt_ofInt (isShort_of_le (by omega)) (by omega) (by omega) (by omega)
  simp only [transfer, decodeComponent, encodeComponent, htype, hnormalized, ComponentType.size,
    hword, quantize, Bool.false_eq_true, if_false, hback, Int.toNat_natCast]

theorem transfer_byte (htype : ComponentType.ofConstant type = .byte) (hw : w < 256) :
    transfer format type w = w := by
  have hword : wordOf (bytesOf 1 w) = w := wordOf_bytesOf hw
  have hlow := (UInt8.ofNat w).toInt8.le_toInt
  have hhigh := (UInt8.ofNat w).toInt8.toInt_lt
  have hback : (Single.ofInt (UInt8.ofNat w).toInt8.toInt).datum.toInt roundAway (-128) 127 =
      (UInt8.ofNat w).toInt8.toInt :=
    Single.toInt_ofInt (isShort_of_le (by omega)) (by omega) hlow (by omega)
  simp only [transfer, decodeComponent, encodeComponent, htype, hnormalized, ComponentType.size,
    hword, quantize, Bool.false_eq_true, if_false, hback, Int8.ofInt_toInt,
    UInt8.toUInt8_toInt8, UInt8.toNat_ofNat', Nat.mod_eq_of_lt hw]

theorem transfer_short (htype : ComponentType.ofConstant type = .short) (hw : w < 65536) :
    transfer format type w = w := by
  have hword : wordOf (bytesOf 2 w) = w := wordOf_bytesOf hw
  have hlow := (UInt16.ofNat w).toInt16.le_toInt
  have hhigh := (UInt16.ofNat w).toInt16.toInt_lt
  have hback : (Single.ofInt (UInt16.ofNat w).toInt16.toInt).datum.toInt roundAway
      (-32768) 32767 = (UInt16.ofNat w).toInt16.toInt :=
    Single.toInt_ofInt (isShort_of_le (by omega)) (by omega) hlow (by omega)
  simp only [transfer, decodeComponent, encodeComponent, htype, hnormalized, ComponentType.size,
    hword, quantize, Bool.false_eq_true, if_false, hback, Int16.ofInt_toInt,
    UInt16.toUInt16_toInt16, UInt16.toNat_ofNat', Nat.mod_eq_of_lt hw]

theorem transfer_unsignedInt (htype : ComponentType.ofConstant type = .unsignedInt)
    (hw : w < 4294967296) : transfer format type w = w ↔ Scalar.uint32.Keeps w := by
  have hword : wordOf (bytesOf 4 w) = w := wordOf_bytesOf hw
  set n : Int := (Single.ofInt w).datum.toInt roundAway 0 4294967295 with hn
  obtain ⟨hlow, hhigh⟩ : 0 ≤ n ∧ n ≤ 4294967295 := Datum.toInt_mem le_rfl (by decide) _
  have hback : transfer format type w = n.toNat := by
    have hnat : wordOf (bytesOf 4 n.toNat) = n.toNat :=
      wordOf_bytesOf (show n.toNat < 4294967296 by omega)
    simp only [transfer, decodeComponent, encodeComponent, htype, hnormalized,
      ComponentType.size, hword, quantize, Bool.false_eq_true, if_false, ← hn, hnat]
  calc transfer format type w = w ↔ n = w := by omega
    _ ↔ IsShort (w : Int).natAbs ∨ (w : Int) = 4294967295 :=
      Single.toInt_ofInt_eq_iff (isShort_of_le (Nat.zero_le _)) Single.toInt_ofInt_maxUnsigned
        (by omega) (by omega) (by omega)
    _ ↔ Scalar.uint32.Keeps w := or_congr Iff.rfl (by omega)

end Integers

theorem transfer_int (htype : ComponentType.ofConstant type = .int)
    (hw : w < 4294967296) : transfer format type w = w ↔ Scalar.int32.Keeps w := by
  have hword : wordOf (bytesOf 4 w) = w := wordOf_bytesOf hw
  set v := (UInt32.ofNat w).toInt32 with hv
  -- The word is a number in two's complement, and read as such it is the same word again.
  have hself : v.toUInt32.toNat = w := by
    rw [hv, UInt32.toUInt32_toInt32, UInt32.toNat_ofNat', Nat.mod_eq_of_lt hw]
  have hleast := v.le_toInt
  have hlargest := v.toInt_lt
  set n : Int := (Single.ofInt v.toInt).datum.toInt roundAway (-2147483648) 2147483647 with hn
  obtain ⟨hlow, hhigh⟩ : -2147483648 ≤ n ∧ n ≤ 2147483647 :=
    Datum.toInt_mem (by decide) (by decide) _
  -- On the way the number becomes the nearest single and is rounded back.
  have hback : transfer format type w = (Int32.ofInt n).toUInt32.toNat := by
    have hnat : wordOf (bytesOf 4 (Int32.ofInt n).toUInt32.toNat) =
        (Int32.ofInt n).toUInt32.toNat := wordOf_bytesOf (UInt32.toNat_lt _)
    simp only [transfer, decodeComponent, encodeComponent, htype, ComponentType.size, hword,
      quantize, Bool.false_eq_true, if_false, ← hv, ← hn, hnat]
  have hsame : transfer format type w = w ↔ n = v.toInt := by
    rw [hback]
    constructor
    · intro h
      have hof : Int32.ofInt n = v := by
        have hunsigned := congrArg UInt32.toInt32 (UInt32.toNat_inj.1 (h.trans hself.symm))
        rwa [Int32.toInt32_toUInt32, Int32.toInt32_toUInt32] at hunsigned
      rw [← hof, Int32.toInt_ofInt_of_le hlow (by omega)]
    · intro h
      rw [h, Int32.ofInt_toInt, hself]
  exact hsame.trans (Single.toInt_ofInt_eq_iff ⟨1, 31, by decide, by decide⟩
    Single.toInt_ofInt_maxSigned (by omega) hleast (by omega))

theorem transfer_unitByte (hnormalized : isNormalized format type = true)
    (htype : ComponentType.ofConstant type = .unsignedByte) (hw : w < 256) :
    transfer format type w = w := by
  have hword : wordOf (bytesOf 1 w) = w := wordOf_bytesOf hw
  have hback : ((Single.ofInt w / Single.ofInt 255).clamp .zero .one *
      Single.ofInt 255).datum.toInt roundAway 0 255 = w :=
    Single.toInt_mul_div (Nat.le_of_lt_succ hw) (by decide) (by decide)
  simp only [transfer, decodeComponent, encodeComponent, htype, hnormalized, ComponentType.size,
    hword, quantize, if_true, hback, Int.toNat_natCast]

theorem transfer_half (htype : ComponentType.ofConstant type = .half) (hw : w < 65536)
    (hnumber : Scalar.half.IsNumber w) : transfer format type w = w := by
  have hword : wordOf (bytesOf 2 w) = w := wordOf_bytesOf hw
  have hself : (UInt16.ofNat w).toNat = w := by
    rw [UInt16.toNat_ofNat', Nat.mod_eq_of_lt hw]
  have hback : (Single.ofHalf (UInt16.ofNat w)).toHalf = UInt16.ofNat w :=
    Single.toHalf_ofHalf fun negative payload => by
      rw [hself]
      exact hnumber rfl negative payload
  simp only [transfer, decodeComponent, encodeComponent, htype, ComponentType.size, hword, hback,
    hself]

theorem transfer_float (htype : ComponentType.ofConstant type = .float) (hw : w < 4294967296) :
    transfer format type w = w := by
  have hword : wordOf (bytesOf 4 w) = w := wordOf_bytesOf hw
  have hself : (UInt32.ofNat w).toNat = w := by
    rw [UInt32.toNat_ofNat', Nat.mod_eq_of_lt hw]
  simp only [transfer, decodeComponent, encodeComponent, htype, ComponentType.size, hword, hself]

/-- An element comes back from a texel of its kind just if such a texel keeps it. -/
theorem transfer_eq_iff {c : Channels} {k : Scalar}
    (hw : w < 256 ^ (TextureFormat.color c k).info.array.byteSize) (hnumber : k.IsNumber w) :
    transfer (TextureFormat.color c k).info.layout.format
      (TextureFormat.color c k).info.layout.type w = w ↔ k.Keeps w := by
  cases k with
  | unorm8 => exact iff_of_true (transfer_unitByte (by cases c <;> rfl) rfl hw) trivial
  | half => exact iff_of_true (transfer_half rfl hw hnumber) trivial
  | float => exact iff_of_true (transfer_float rfl hw) trivial
  | int8 => exact iff_of_true (transfer_byte (by cases c <;> rfl) rfl hw) trivial
  | int16 => exact iff_of_true (transfer_short (by cases c <;> rfl) rfl hw) trivial
  | int32 => exact transfer_int rfl hw
  | uint8 => exact iff_of_true (transfer_unsignedByte (by cases c <;> rfl) rfl hw) trivial
  | uint16 => exact iff_of_true (transfer_unsignedShort (by cases c <;> rfl) rfl hw) trivial
  | uint32 => exact transfer_unsignedInt (by cases c <;> rfl) rfl hw

theorem wordOf_encodeComponent_zero (c : Channels) (k : Scalar) :
    wordOf (encodeComponent (TextureFormat.color c k).info.layout.format
      (TextureFormat.color c k).info.layout.type .zero) = 0 := by
  cases c <;> cases k <;> decide +kernel

end Software

end DrawPass
