/-
DrawPass/Proofs/Singles.lean

What single precision keeps of integers, of parts of a range and of half precision.

An integer is short if its magnitude has at most 24 significant binary digits (`IsShort`).  Short
integers of 32 bits survive a conversion to single precision and back (`Single.toInt_ofInt`).  The
others do not, except for the upper bound of the way back, at which what is rounded up past it is
cut off (`Single.isShort_of_toInt_ofInt`).  An integer that stands for a part of a range of 16 bits
at most survives a division by the range, a multiplication by it and both their roundings
(`Single.toInt_mul_div`).  Every number in half precision survives (`Single.toHalf_ofHalf`).
-/
import DrawPass.Proofs.Exact
import Mathlib.Algebra.Order.Group.MinMax

namespace DrawPass

open Binary

/-- A magnitude with at most 24 significant binary digits. -/
def IsShort (n : Nat) : Prop := ∃ m k, m < 2 ^ 24 ∧ n = m * 2 ^ k

theorem isShort_of_le {n : Nat} (h : n ≤ 2 ^ 24) : IsShort n := by
  rcases Nat.lt_or_eq_of_le h with hlt | rfl
  · exact ⟨n, 0, hlt, by rw [Nat.pow_zero, Nat.mul_one]⟩
  · exact ⟨1, 24, by decide, by rw [Nat.one_mul]⟩

/-- An odd magnitude has as many significant digits as it has digits. -/
theorem not_isShort {n : Nat} (hodd : n % 2 = 1) (h : 2 ^ 24 ≤ n) : ¬ IsShort n := by
  rintro ⟨m, k, hm, rfl⟩
  cases k with
  | zero => omega
  | succ k =>
    rw [Nat.pow_succ, ← Nat.mul_assoc] at hodd
    omega

namespace Binary

/-- Nothing is rounded. -/
theorem roundAway_intCast (n : Int) : roundAway n = n := by
  have hwhole : divToUp n.natAbs 1 = n.natAbs := by
    unfold divToUp
    omega
  unfold roundAway
  rw [Rat.num_intCast, Rat.den_intCast, hwhole]
  split
  · rename_i h
    have : n < 0 := by exact_mod_cast h
    omega
  · rename_i h
    have : ¬ n < 0 := fun hn => h (by exact_mod_cast hn)
    omega

/-- An integer that is nearer than one half is the nearest. -/
theorem roundAway_eq {q : Rat} (hq : 0 ≤ q) {n : Nat} (h : |q - n| < 1 / 2) :
    roundAway q = n := by
  obtain ⟨hlow, hhigh⟩ := abs_lt.1 h
  have hden : (0 : Rat) < q.den := by exact_mod_cast q.den_pos
  have hbelow : (n : Rat) * (2 * q.den) ≤ 2 * q.num.natAbs + q.den := by
    rw [natAbs_num hq]
    nlinarith only [hlow, hden]
  have habove : 2 * (q.num.natAbs : Rat) + q.den < ((n : Rat) + 1) * (2 * q.den) := by
    rw [natAbs_num hq]
    nlinarith only [hhigh, hden]
  have hdiv : divToUp q.num.natAbs q.den = n :=
    Nat.div_eq_of_lt_le (by exact_mod_cast hbelow) (by exact_mod_cast habove)
  rw [roundAway, if_neg (not_lt_of_ge hq), hdiv]

/-- The integer nearest to a number of 24 digits is short. -/
theorem isShort_roundAway {m : Nat} (hm : m < 2 ^ 24) (e : Int) (negative : Bool) :
    IsShort (roundAway (Single.signed negative (m * Format.pow2 e))).natAbs := by
  set q : Rat := m * Format.pow2 e with hq
  have hnatAbs (x : Rat) : (roundAway x).natAbs = divToUp x.num.natAbs x.den := by
    unfold roundAway
    split <;> omega
  have hsigned : (roundAway (Single.signed negative q)).natAbs = divToUp q.num.natAbs q.den := by
    rw [hnatAbs]
    cases negative
    · rfl
    · simp only [Single.signed, if_true, Rat.num_neg_eq_neg_num, Int.natAbs_neg, Rat.den_neg_eq_den]
  rw [hsigned]
  rcases Int.lt_or_le e 0 with he | he
  · -- Without an integer part of 24 digits there is none with more.
    refine isShort_of_le ?_
    have hle : q ≤ (2 ^ 24 : Nat) := by
      have hone : Format.pow2 e ≤ 1 := by
        have hzero : Format.pow2 0 = 1 := by rw [Format.pow2_eq, zpow_zero]
        exact hzero ▸ Format.pow2_le_iff.2 he.le
      calc q ≤ (m : Rat) * 1 := mul_le_mul_of_nonneg_left hone (Nat.cast_nonneg _)
        _ ≤ (2 ^ 24 : Nat) := by
          rw [mul_one]
          exact_mod_cast hm.le
    have hnonneg : 0 ≤ q := mul_nonneg (Nat.cast_nonneg _) (Format.pow2_pos _).le
    have hnum : q.num.natAbs ≤ 2 ^ 24 * q.den := by
      have hcast : (q.num.natAbs : Rat) ≤ ((2 ^ 24 * q.den : Nat) : Rat) := by
        rw [natAbs_num hnonneg, Nat.cast_mul]
        exact mul_le_mul_of_nonneg_right hle (Nat.cast_nonneg _)
      exact_mod_cast hcast
    have hden := q.den_pos
    unfold divToUp
    refine Nat.le_of_lt_succ ((Nat.div_lt_iff_lt_mul (by omega)).2 ?_)
    omega
  · obtain ⟨k, rfl⟩ := Int.eq_ofNat_of_zero_le he
    have hint : q = ((m * 2 ^ k : Nat) : Int) := by
      rw [hq, Format.pow2_natCast]
      push_cast
      rfl
    rw [hint, ← hnatAbs, roundAway_intCast, Int.natAbs_natCast]
    exact ⟨m, k, hm, rfl⟩

theorem Datum.toInt_mem {round : Rat → Int} {low high : Int} (hlow : low ≤ 0) (hhigh : 0 ≤ high)
    (d : Datum) : low ≤ d.toInt round low high ∧ d.toInt round low high ≤ high := by
  cases d with
  | nan => exact ⟨hlow, hhigh⟩
  | infinity negative => cases negative <;> simp only [toInt, Bool.false_eq_true, if_true,
      if_false] <;> omega
  | finite negative q =>
    rw [toInt]
    omega

end Binary

namespace Single

/-- What a number stands for has 24 digits, if it is finite. -/
theorem datum_eq_finite {x : Single} {negative : Bool} {q : Rat}
    (h : x.datum = .finite negative q) :
    ∃ (m : Nat) (e : Int), m < 2 ^ 24 ∧ q = m * Format.pow2 e := by
  obtain ⟨n, e, hnormal, -, rfl, -, -⟩ := Format.decode_eq_finite h
  exact ⟨n, _, hnormal.digits, rfl⟩

theorem encode_lt {f : Format} (negative : Bool) (q : Rat) :
    f.encode (.finite negative q) < 2 * f.signWeight := by
  refine Format.withSign_lt (Nat.lt_of_le_of_lt ?_ f.infinityWord_lt) negative
  unfold Format.roundMagnitude
  split
  · exact Nat.zero_le _
  · exact Nat.min_le_right ..

theorem datum_ofDatum {negative : Bool} {q : Rat}
    (h : Format.single.decode (Format.single.encode (.finite negative q)) = .finite negative q) :
    (ofDatum (.finite negative q)).datum = .finite negative q := by
  have hlt : Format.single.encode (.finite negative q) < 2 ^ 32 := encode_lt negative q
  rw [datum, ofDatum, UInt32.toNat_ofNat', Nat.mod_eq_of_lt hlt, h]

/-- What a magnitude is rounded to, if it is not too large. -/
theorem exists_datum_ofDatum {q : Rat} (hq : 0 ≤ q) {k : Nat} (hk : k < 100)
    (hlt : q < (2 ^ (k + 1) : Nat)) (negative : Bool) :
    ∃ q', (ofDatum (.finite negative q)).datum = .finite negative q' ∧ 0 ≤ q' ∧
      |q' - q| ≤ (2 ^ k : Nat) / 2 ^ 24 := by
  have hmin : Format.single.minExponent = -126 := rfl
  have hbits : (Format.single.fractionBits : Int) = 23 := rfl
  rw [← Format.pow2_natCast, Nat.cast_succ] at hlt
  obtain ⟨q', hdecode, hq', herror⟩ := Format.exists_decode_encode hq
    (f := .single) (by omega) hlt (by change _ < ((2 ^ 8 : Nat) : Int); omega) negative
  refine ⟨q', ?_, hq', herror.trans_eq ?_⟩
  · have hlt : Format.single.encode (.finite negative q) < 2 ^ 32 := encode_lt negative q
    rw [datum, ofDatum, UInt32.toNat_ofNat', Nat.mod_eq_of_lt hlt, hdecode]
  · rw [hbits, sub_eq_add_neg, Format.pow2_add, Format.pow2_natCast, Format.pow2_eq (-23)]
    norm_num
    ring

/-- An integer is rounded by its sign and its magnitude. -/
theorem ofInt_eq (n : Int) : ofInt n = ofDatum (.finite (decide (n < 0)) n.natAbs) := by
  have habs : (n : Rat).abs = (n.natAbs : Rat) := by
    have hcast : (n.natAbs : Rat) = ((n.natAbs : Int) : Rat) := (Int.cast_natCast _).symm
    rw [Rat.abs, hcast]
    split
    · rename_i h
      rw [Int.natAbs_of_nonneg (by exact_mod_cast h)]
    · rename_i h
      have : n < 0 := by
        by_contra hpos
        exact h (by exact_mod_cast Int.not_lt.1 hpos)
      rw [Int.ofNat_natAbs_of_nonpos this.le, Int.cast_neg]
  have hsign : decide ((n : Rat) < 0) = decide (n < 0) := by
    congr 1
    exact propext (by exact_mod_cast Iff.rfl)
  rw [ofInt, ofRat, habs, hsign]

/-- A short integer is kept. -/
theorem datum_ofInt {n : Int} (h : IsShort n.natAbs) (hn : n.natAbs < 2 ^ 32) :
    (ofInt n).datum = .finite (decide (n < 0)) n.natAbs := by
  rw [ofInt_eq]
  refine datum_ofDatum ?_
  obtain ⟨m, k, hm, hmk⟩ := h
  -- A magnitude of zero has no digits, whatever they are multiplied by.
  obtain ⟨m, k, hm, hmk, hk⟩ : ∃ m k, m < 2 ^ 24 ∧ n.natAbs = m * 2 ^ k ∧ k < 32 := by
    rcases Nat.eq_zero_or_pos m with rfl | hpos
    · exact ⟨0, 0, hm, by rw [hmk, Nat.zero_mul, Nat.zero_mul], by decide⟩
    · refine ⟨m, k, hm, hmk, (Nat.pow_lt_pow_iff_right Nat.one_lt_two).1 ?_⟩
      calc 2 ^ k ≤ m * 2 ^ k := Nat.le_mul_of_pos_left _ hpos
        _ < 2 ^ 32 := hmk ▸ hn
  have hvalue : (n.natAbs : Rat) = m * Format.pow2 (k : Int) := by
    rw [hmk, Format.pow2_natCast, Nat.cast_mul]
  have hmin : Format.single.minExponent = -126 := rfl
  have hbits : (Format.single.fractionBits : Int) = 23 := rfl
  rw [hvalue]
  refine Format.decode_encode hm ?_ ?_ _
  · omega
  · rw [hmin, hbits]
    change _ < ((2 ^ 8 : Nat) : Int)
    omega

theorem datum_natCast {n : Nat} (hn : n ≤ 65535) : (ofInt n).datum = .finite false n := by
  have hkept := datum_ofInt (n := n) (isShort_of_le (by omega)) (by omega)
  rwa [decide_eq_false (by omega)] at hkept

theorem signed_natAbs (n : Int) : signed (decide (n < 0)) (n.natAbs : Rat) = n := by
  have hcast : (n.natAbs : Rat) = ((n.natAbs : Int) : Rat) := (Int.cast_natCast _).symm
  rw [signed, hcast]
  split
  · rename_i h
    rw [Int.ofNat_natAbs_of_nonpos (of_decide_eq_true h).le, Int.cast_neg, neg_neg]
  · rename_i h
    rw [Int.natAbs_of_nonneg (Int.not_lt.1 fun hn => h (decide_eq_true hn))]

/-- An integer that single precision keeps comes back. -/
theorem toInt_ofInt {n low high : Int} (h : IsShort n.natAbs) (hn : n.natAbs < 2 ^ 32)
    (hlow : low ≤ n) (hhigh : n ≤ high) : (ofInt n).datum.toInt roundAway low high = n := by
  rw [datum_ofInt h hn, Datum.toInt, signed_natAbs, roundAway_intCast]
  omega

/-- An integer that comes back is one that single precision keeps, or it was cut off. -/
theorem isShort_of_toInt_ofInt {n low high : Int} (hlow : IsShort low.natAbs)
    (hback : (ofInt n).datum.toInt roundAway low high = n) : IsShort n.natAbs ∨ n = high := by
  rcases hdatum : (ofInt n).datum with ⟨negative, payload⟩ | negative | ⟨negative, q⟩ <;>
    rw [hdatum] at hback
  · exact .inl (hback ▸ isShort_of_le (Nat.zero_le _))
  · cases negative
    · exact .inr hback.symm
    · exact .inl (hback ▸ hlow)
  · obtain ⟨m, e, hm, rfl⟩ := datum_eq_finite hdatum
    have hshort := isShort_roundAway hm e negative
    rw [Datum.toInt] at hback
    -- What comes back is the lower bound, the upper bound, or the nearest integer.
    rcases max_choice low (Min.min high (roundAway (signed negative (m * Format.pow2 e)))) with
      h | h <;> rw [h] at hback
    · exact .inl (hback ▸ hlow)
    · rcases min_choice high (roundAway (signed negative (m * Format.pow2 e))) with h' | h' <;>
        rw [h'] at hback
      · exact .inr hback.symm
      · exact .inl (hback ▸ hshort)

/-- Just the short integers come back, and the upper bound if it is rounded up. -/
theorem toInt_ofInt_eq_iff {n low high : Int} (hlow : IsShort low.natAbs)
    (hhigh : (ofInt high).datum.toInt roundAway low high = high) (hn : n.natAbs < 2 ^ 32)
    (hlow' : low ≤ n) (hhigh' : n ≤ high) :
    (ofInt n).datum.toInt roundAway low high = n ↔ IsShort n.natAbs ∨ n = high := by
  constructor
  · exact isShort_of_toInt_ofInt hlow
  · rintro (hshort | rfl)
    · exact toInt_ofInt hshort hn hlow' hhigh'
    · exact hhigh

theorem toInt_ofInt_maxUnsigned :
    (ofInt 4294967295).datum.toInt roundAway 0 4294967295 = 4294967295 := by
  decide +kernel

theorem toInt_ofInt_maxSigned :
    (ofInt 2147483647).datum.toInt roundAway (-2147483648) 2147483647 = 2147483647 := by
  decide +kernel

/-! ### Unit ranges -/

section

variable {x y : Single} {negative negative' : Bool} {a b : Rat}
  (hx : x.datum = .finite negative a) (hy : y.datum = .finite negative' b)
include hx

theorem isNaN_eq_false : x.isNaN = false := by
  rw [isNaN, hx]

include hy

theorem mul_eq_ofDatum : x * y = ofDatum (.finite (negative != negative') (a * b)) := by
  change mul x y = _
  rw [mul, propagate, isNaN_eq_false hx, isNaN_eq_false hy, hx, hy]
  rfl

theorem div_eq_ofDatum (hb : b ≠ 0) :
    x / y = ofDatum (.finite (negative != negative') (a / b)) := by
  change div x y = _
  rw [div, propagate, isNaN_eq_false hx, isNaN_eq_false hy, hx, hy]
  exact if_neg hb

end

theorem datum_zero : zero.datum = .finite false 0 := by
  decide +kernel

theorem datum_one : one.datum = .finite false 1 := by
  decide +kernel

/-- A magnitude is cut off at one. -/
theorem datum_clamp_one {x : Single} {q : Rat} (hx : x.datum = .finite false q) (hq : 0 ≤ q) :
    (x.clamp zero one).datum = .finite false (Min.min q 1) := by
  have hlow : x.lt zero = false := by
    rw [lt, hx, datum_zero]
    exact decide_eq_false (not_lt_of_ge hq)
  have hhigh : one.lt x = decide (1 < q) := by
    rw [lt, hx, datum_one]
    rfl
  rw [clamp, hlow, if_neg Bool.false_ne_true, hhigh]
  by_cases h : 1 < q
  · rw [decide_eq_true h, if_pos rfl, datum_one, min_eq_right h.le]
  · rw [decide_eq_false h, if_neg Bool.false_ne_true, hx, min_eq_left (not_lt.1 h)]

section

variable {n high : Nat} (hn : n ≤ high) (hpos : 0 < high) (hhigh : high ≤ 65535)
include hn hpos hhigh

/-- A part of a range is rounded once. The part is at most one, so a cut at one does not move what
it was rounded to further from it. -/
theorem exists_datum_div : ∃ p, ((ofInt n / ofInt high).clamp zero one).datum = .finite false p ∧
    0 ≤ p ∧ p ≤ 1 ∧ |p - (n : Rat) / high| ≤ 1 / 2 ^ 24 := by
  have hhigh' : (0 : Rat) < high := by exact_mod_cast hpos
  have hpart : 0 ≤ (n : Rat) / high ∧ (n : Rat) / high ≤ 1 :=
    ⟨by positivity, (div_le_one hhigh').2 (by exact_mod_cast hn)⟩
  obtain ⟨q, hq, hq0, herror⟩ := exists_datum_ofDatum hpart.1 (k := 0) (by decide)
    (by push_cast; linarith only [hpart.2]) false
  have hdiv : (ofInt n / ofInt high).datum = .finite false q := by
    rw [div_eq_ofDatum (datum_natCast (by omega)) (datum_natCast hhigh) hhigh'.ne']
    exact hq
  have hcut := abs_min_sub_min_le_max q 1 ((n : Rat) / high) 1
  rw [min_eq_left hpart.2, sub_self, abs_zero, max_eq_left (abs_nonneg _)] at hcut
  rw [Nat.pow_zero, Nat.cast_one] at herror
  exact ⟨Min.min q 1, datum_clamp_one hdiv hq0, le_min hq0 zero_le_one, min_le_right ..,
    hcut.trans herror⟩

/-- An integer that stands for a part of a range comes back: two roundings move it by less than
one half. -/
theorem toInt_mul_div :
    ((ofInt n / ofInt high).clamp zero one * ofInt high).datum.toInt roundAway 0 high = n := by
  have hhigh' : (0 : Rat) < high := by exact_mod_cast hpos
  obtain ⟨p, hp, hp0, hp1, hnear⟩ := exists_datum_div hn hpos hhigh
  have hscaled : p * high < (2 ^ (15 + 1) : Nat) := by
    calc p * (high : Rat) ≤ 1 * high := mul_le_mul_of_nonneg_right hp1 hhigh'.le
      _ < (2 ^ (15 + 1) : Nat) := by
        rw [one_mul]
        exact_mod_cast Nat.lt_of_le_of_lt hhigh (by decide)
  obtain ⟨y, hy, hy0, herror⟩ := exists_datum_ofDatum (mul_nonneg hp0 hhigh'.le) (k := 15)
    (by decide) hscaled false
  have hmoved : |p * high - n| ≤ 1 / 2 ^ 8 := by
    have hfactor : p * high - n = (p - (n : Rat) / high) * high := by
      rw [sub_mul, div_mul_cancel₀ _ hhigh'.ne']
    rw [hfactor, abs_mul, abs_of_pos hhigh']
    calc |p - (n : Rat) / high| * high ≤ 1 / 2 ^ 24 * 65536 :=
          mul_le_mul hnear (by exact_mod_cast hhigh.trans (by decide)) hhigh'.le (by norm_num)
      _ = 1 / 2 ^ 8 := by norm_num
  have hround : |y - n| < 1 / 2 := by
    calc |y - n| ≤ |y - p * high| + |p * high - n| := abs_sub_le ..
      _ ≤ (2 ^ 15 : Nat) / 2 ^ 24 + 1 / 2 ^ 8 := add_le_add herror hmoved
      _ < 1 / 2 := by norm_num
  rw [mul_eq_ofDatum hp (datum_natCast hhigh), Bool.bne_false, hy, Datum.toInt]
  change Max.max 0 (Min.min (high : Int) (roundAway y)) = n
  rw [roundAway_eq hy0 hround]
  omega

end

/-! ### Half precision -/

/-- What a half-precision word stands for, unless it is no number, single precision keeps. -/
theorem datum_ofHalf {w : UInt16} (h : ∀ negative payload,
    Format.half.decode w.toNat ≠ .nan negative payload) :
    (ofHalf w).datum = Format.half.decode w.toNat := by
  rcases hdatum : Format.half.decode w.toNat with ⟨negative, payload⟩ | negative | ⟨negative, q⟩
  · exact absurd hdatum (h negative payload)
  · have hlt : Format.single.encode (.infinity negative) < 2 ^ 32 :=
      Format.withSign_lt Format.single.infinityWord_lt negative
    rw [ofHalf, Format.convert, hdatum, datum, UInt32.toNat_ofNat', Nat.mod_eq_of_lt hlt,
      Format.decode_infinity]
  · obtain ⟨n, e, hnormal, hfinite, rfl, -, -⟩ := Format.decode_eq_finite hdatum
    have hbound : e ≤ 16 := by
      have hword : n + (e - -14).toNat * 1024 < 31 * 1024 := hfinite
      omega
    have hmin : (-14 : Int) ≤ e := hnormal.exponent
    have hdigits : n < 2 * 1024 := hnormal.digits
    -- Single precision has more digits and reaches further both ways, so nothing is rounded.
    have hkept : Format.single.decode (Format.single.encode
        (.finite negative (Format.half.value n e))) = .finite negative (Format.half.value n e) := by
      have hsingle : Format.single.minExponent = -126 := rfl
      have hbits : (Format.single.fractionBits : Int) = 23 := rfl
      have hhalf : (Format.half.fractionBits : Int) = 10 := rfl
      refine Format.decode_encode ?_ ?_ ?_ negative
      · change n < 2 * 8388608
        omega
      · omega
      · rw [hsingle, hbits, hhalf]
        change _ < ((2 ^ 8 : Nat) : Int)
        omega
    rw [ofHalf, Format.convert, hdatum]
    exact datum_ofDatum hkept

/-- Half-precision words survive a conversion to single precision and back. -/
theorem toHalf_ofHalf {w : UInt16} (h : ∀ negative payload,
    Format.half.decode w.toNat ≠ .nan negative payload) : (ofHalf w).toHalf = w := by
  have hw : w.toNat < 2 * Format.half.signWeight := w.toNat_lt
  have hback : Format.convert .single .half (ofHalf w).bits.toNat = w.toNat := by
    have hdatum : Format.single.decode (ofHalf w).bits.toNat = Format.half.decode w.toNat :=
      datum_ofHalf h
    rw [Format.convert, hdatum]
    rcases hdecode : Format.half.decode w.toNat with ⟨negative, payload⟩ | negative | ⟨negative, q⟩
    · exact absurd hdecode (h negative payload)
    · exact Format.encode_infinity hw hdecode
    · exact Format.encode_decode hw hdecode
  rw [toHalf, hback, UInt16.ofNat_toNat]

end Single

end DrawPass
