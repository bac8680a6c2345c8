/-
DrawPass/Proofs/Exact.lean

Which numbers a binary format keeps.

A finite word spells a count of units in the last place of an exponent, with a leading digit unless
the exponent is the smallest (`Format.Normal`).  Encoding such a number finds just this count and
this exponent again (`Format.roundMagnitude_value`), and decoding gives the number back
(`Format.decode_word`).  So a number with few enough digits is kept (`Format.decode_encode`), and
so is every word that stands for a number (`Format.encode_decode`).  Any other number that is not
too large is missed by half a unit in the last place at most (`Format.exists_decode_encode`).
-/
import DrawPass.Binary.Single
import Mathlib.Algebra.Order.Field.Power
import Mathlib.Algebra.Order.Field.Rat
import Mathlib.Data.Rat.Cast.Lemmas
import Mathlib.Tactic.FieldSimp
import Mathlib.Tactic.Linarith
import Mathlib.Tactic.Positivity
import Mathlib.Tactic.Ring

namespace DrawPass.Binary

theorem natAbs_num {q : Rat} (hq : 0 ≤ q) : (q.num.natAbs : Rat) = q * q.den := by
  have habs : (q.num.natAbs : Rat) = ((q.num.natAbs : Int) : Rat) := (Int.cast_natCast _).symm
  rw [habs, Int.natAbs_of_nonneg (Rat.num_nonneg.2 hq), Rat.mul_den_eq_num]

namespace Format

/-! ### Powers of two -/

theorem pow2_eq (e : Int) : pow2 e = (2 : Rat) ^ e := by
  unfold pow2
  split
  · rename_i h
    obtain ⟨n, rfl⟩ := Int.eq_ofNat_of_zero_le h
    rw [Int.toNat_natCast, Nat.pow_eq, zpow_natCast]
    push_cast
    rfl
  · rename_i h
    obtain ⟨n, hn⟩ := Int.eq_ofNat_of_zero_le (show 0 ≤ -e by omega)
    rw [hn, Int.toNat_natCast, Nat.pow_eq, ← neg_neg e, hn, zpow_neg, zpow_natCast, one_div]
    push_cast
    rfl

theorem pow2_pos (e : Int) : 0 < pow2 e := by
  rw [pow2_eq]
  positivity

theorem pow2_add (e e' : Int) : pow2 (e + e') = pow2 e * pow2 e' := by
  rw [pow2_eq, pow2_eq, pow2_eq, zpow_add₀ two_ne_zero]

theorem pow2_natCast (n : Nat) : pow2 n = ((2 ^ n : Nat) : Rat) := by
  rw [pow2_eq, zpow_natCast]
  push_cast
  rfl

theorem pow2_lt_iff {e e' : Int} : pow2 e < pow2 e' ↔ e < e' := by
  rw [pow2_eq, pow2_eq]
  exact zpow_lt_zpow_iff_right₀ one_lt_two

theorem pow2_le_iff {e e' : Int} : pow2 e ≤ pow2 e' ↔ e ≤ e' := by
  rw [pow2_eq, pow2_eq]
  exact zpow_le_zpow_iff_right₀ one_lt_two

/-- The exponent is between the logarithms of numerator and denominator. -/
theorem floorLog2_spec {q : Rat} (hq : 0 < q) :
    pow2 (floorLog2 q) ≤ q ∧ q < pow2 (floorLog2 q + 1) := by
  have hnum : q.num.natAbs ≠ 0 := by
    rw [Int.natAbs_ne_zero]
    exact (Rat.num_pos.2 hq).ne'
  have hq' : q * (q.den : Rat) = (q.num.natAbs : Rat) := (natAbs_num hq.le).symm
  set a := q.num.natAbs.log2 with ha
  set b := q.den.log2 with hb
  have hnumLow : pow2 a ≤ (q.num.natAbs : Rat) := by
    rw [pow2_natCast]
    exact_mod_cast Nat.log2_self_le hnum
  have hnumHigh : (q.num.natAbs : Rat) < pow2 (a + 1) := by
    rw [← Nat.cast_succ, pow2_natCast]
    exact_mod_cast Nat.lt_log2_self
  have hdenLow : pow2 b ≤ (q.den : Rat) := by
    rw [pow2_natCast]
    exact_mod_cast Nat.log2_self_le q.den_nz
  have hdenHigh : (q.den : Rat) < pow2 (b + 1) := by
    rw [← Nat.cast_succ, pow2_natCast]
    exact_mod_cast Nat.lt_log2_self
  have hden : (0 : Rat) < q.den := by exact_mod_cast q.den_pos
  -- The logarithms of the two are off by less than one each, so their difference is by less than
  -- one either way.
  have hlow : pow2 ((a : Int) - b - 1) < q := by
    refine lt_of_mul_lt_mul_right ?_ hden.le
    calc pow2 ((a : Int) - b - 1) * (q.den : Rat)
        < pow2 ((a : Int) - b - 1) * pow2 (b + 1) :=
          mul_lt_mul_of_pos_left hdenHigh (pow2_pos _)
      _ = pow2 a := by rw [← pow2_add]; congr 1; ring
      _ ≤ q * (q.den : Rat) := hq' ▸ hnumLow
  have hhigh : q < pow2 ((a : Int) - b + 1) := by
    refine lt_of_mul_lt_mul_right ?_ hden.le
    calc q * (q.den : Rat) < pow2 (a + 1) := hq' ▸ hnumHigh
      _ = pow2 ((a : Int) - b + 1) * pow2 b := by rw [← pow2_add]; congr 1; ring
      _ ≤ pow2 ((a : Int) - b + 1) * (q.den : Rat) :=
          mul_le_mul_of_nonneg_left hdenLow (pow2_pos _).le
  unfold floorLog2
  dsimp only
  rw [← ha, ← hb]
  split
  · rename_i hle
    exact ⟨hle, hhigh⟩
  · rename_i hlt
    rw [sub_add_cancel]
    exact ⟨hlow.le, lt_of_not_ge hlt⟩

variable {f : Format}

theorem fractionLimit_pos (f : Format) : 0 < f.fractionLimit := Nat.two_pow_pos f.fractionBits

theorem pow2_fractionBits (f : Format) : pow2 f.fractionBits = (f.fractionLimit : Rat) :=
  pow2_natCast f.fractionBits

/-! ### Signs -/

theorem infinityWord_lt (f : Format) : f.infinityWord < f.signWeight := by
  have hexponent : 0 < 2 ^ f.exponentBits := Nat.two_pow_pos _
  calc f.infinityWord < 2 ^ f.exponentBits * f.fractionLimit :=
        Nat.mul_lt_mul_of_pos_right (Nat.sub_lt hexponent Nat.one_pos) f.fractionLimit_pos
    _ = f.signWeight := by
        rw [Nat.mul_comm]
        exact (Nat.pow_add 2 f.fractionBits f.exponentBits).symm

section

variable {magnitude : Nat} (h : magnitude < f.signWeight) (negative : Bool)
include h

theorem withSign_lt : f.withSign negative magnitude < 2 * f.signWeight := by
  cases negative <;> simp only [withSign, Bool.false_eq_true, if_true, if_false] <;> omega

theorem withSign_mod : f.withSign negative magnitude % f.signWeight = magnitude := by
  cases negative
  · exact Nat.mod_eq_of_lt h
  · exact (Nat.add_mod_left ..).trans (Nat.mod_eq_of_lt h)

theorem sign_withSign :
    decide (f.signWeight ≤ f.withSign negative magnitude % (2 * f.signWeight)) = negative := by
  rw [Nat.mod_eq_of_lt (withSign_lt h negative)]
  cases negative <;> simp [withSign, h]

end

/-- A word is its magnitude with its sign. -/
theorem withSign_self {w : Nat} (h : w < 2 * f.signWeight) :
    f.withSign (decide (f.signWeight ≤ w % (2 * f.signWeight))) (w % f.signWeight) = w := by
  rw [Nat.mod_eq_of_lt h]
  by_cases hsign : f.signWeight ≤ w
  · rw [decide_eq_true hsign, Nat.mod_eq_sub_mod hsign, Nat.mod_eq_of_lt (by omega)]
    exact Nat.add_sub_cancel' hsign
  · rw [decide_eq_false hsign, Nat.mod_eq_of_lt (by omega)]
    rfl

/-! ### Counts and exponents -/

/-- A count of units in the last place has a leading digit, unless the exponent is the smallest. -/
structure Normal (f : Format) (n : Nat) (e : Int) : Prop where
  digits : n < 2 * f.fractionLimit
  exponent : f.minExponent ≤ e
  full : f.fractionLimit ≤ n ∨ e = f.minExponent

/-- So many units in the last place of an exponent. -/
def value (f : Format) (n : Nat) (e : Int) : Rat := n * pow2 (e - f.fractionBits)

/-- The word of a count of units in the last place of an exponent. -/
def word (f : Format) (n : Nat) (e : Int) : Nat :=
  n + (e - f.minExponent).toNat * f.fractionLimit

theorem value_lt_iff {n m : Nat} {e : Int} :
    f.value n e < m * pow2 (e - f.fractionBits) ↔ n < m := by
  rw [value, mul_lt_mul_iff_left₀ (pow2_pos _), Nat.cast_lt]

theorem fractionLimit_mul (f : Format) (e : Int) :
    (f.fractionLimit : Rat) * pow2 (e - f.fractionBits) = pow2 e := by
  rw [← pow2_fractionBits, ← pow2_add]
  congr 1
  ring

/-- The exponent is the one in which a number is rounded. -/
theorem Normal.exponent_eq {n : Nat} {e : Int} (h : f.Normal n e) (hn : 0 < n) :
    max (floorLog2 (f.value n e)) f.minExponent = e := by
  have hpos : 0 < f.value n e := mul_pos (Nat.cast_pos.2 hn) (pow2_pos _)
  obtain ⟨hlow, hhigh⟩ := floorLog2_spec hpos
  have hbelow : f.value n e < pow2 (e + 1) := by
    have htwice : pow2 (e + 1) =
        ((2 * f.fractionLimit : Nat) : Rat) * pow2 (e - f.fractionBits) := by
      rw [pow2_add, Nat.cast_mul, mul_assoc, fractionLimit_mul, mul_comm, pow2_eq 1, zpow_one]
      rfl
    rw [htwice, value_lt_iff]
    exact h.digits
  have hle : floorLog2 (f.value n e) < e + 1 := pow2_lt_iff.1 (hlow.trans_lt hbelow)
  have hmin := h.exponent
  rcases h.full with hfull | rfl
  · have habove : pow2 e ≤ f.value n e := by
      rw [← fractionLimit_mul]
      exact mul_le_mul_of_nonneg_right (Nat.cast_le.2 hfull) (pow2_pos _).le
    have hge := pow2_lt_iff.1 (habove.trans_lt hhigh)
    omega
  · omega

theorem divToEven_one (n : Nat) : divToEven n 1 = n := by
  simp [divToEven, Nat.mod_one]

/-- Nothing is rounded. -/
theorem Normal.roundMagnitude_value {n : Nat} {e : Int} (h : f.Normal n e) :
    f.roundMagnitude (f.value n e) = min (f.word n e) f.infinityWord := by
  rcases Nat.eq_zero_or_pos n with rfl | hn
  · have hexponent : e = f.minExponent :=
      h.full.resolve_left (Nat.not_le_of_lt f.fractionLimit_pos)
    have hzero : f.value 0 e = 0 := by rw [value, Nat.cast_zero, zero_mul]
    have hword : f.word 0 e = 0 := by rw [word, hexponent, sub_self, Int.toNat_zero]; omega
    rw [hzero, hword, roundMagnitude, if_pos (le_refl _), Nat.zero_min]
  · have hpos : 0 < f.value n e := mul_pos (Nat.cast_pos.2 hn) (pow2_pos _)
    have hscaled : f.value n e * pow2 (f.fractionBits - e) = n := by
      rw [value, mul_assoc, ← pow2_add, sub_add_sub_cancel, sub_self, pow2_eq, zpow_zero, mul_one]
    rw [roundMagnitude, if_neg (not_le_of_gt hpos)]
    dsimp only
    rw [h.exponent_eq hn, hscaled, Rat.num_natCast, Rat.den_natCast, Int.natAbs_natCast,
      divToEven_one]
    rfl

/-- A word that is not too large is read as it was written. -/
theorem Normal.decode_word {n : Nat} {e : Int} (h : f.Normal n e)
    (hfinite : f.word n e < f.infinityWord) (negative : Bool) :
    f.decode (f.withSign negative (f.word n e)) = .finite negative (f.value n e) := by
  have hlt := hfinite.trans f.infinityWord_lt
  have hpos := f.fractionLimit_pos
  have hdigits := h.digits
  have hexponent := h.exponent
  unfold decode
  dsimp only
  rw [withSign_mod hlt, sign_withSign hlt, if_neg (Nat.not_lt_of_lt hfinite),
    if_neg (Nat.ne_of_lt hfinite)]
  by_cases hfull : f.fractionLimit ≤ n
  · have hword : f.word n e = f.fractionLimit * ((e - f.minExponent).toNat + 1) +
        (n - f.fractionLimit) := by
      rw [word]
      have : f.fractionLimit * ((e - f.minExponent).toNat + 1) =
        (e - f.minExponent).toNat * f.fractionLimit + f.fractionLimit := by ring
      omega
    rw [hword, Nat.mul_add_div hpos, Nat.div_eq_of_lt (by omega), Nat.mul_add_mod,
      Nat.mod_eq_of_lt (by omega), if_neg (Nat.succ_ne_zero _), Nat.add_sub_cancel' hfull, value]
    congr 3
    omega
  · have hmin := h.full.resolve_left hfull
    have hword : f.word n e = n := by rw [word, hmin, sub_self, Int.toNat_zero]; omega
    rw [hword, Nat.div_eq_of_lt (by omega), Nat.mod_eq_of_lt (by omega), if_pos rfl, value, hmin]

/-- Every word that stands for a number spells a count of units in the last place. -/
theorem decode_eq_finite {w : Nat} {negative : Bool} {q : Rat}
    (h : f.decode w = .finite negative q) :
    ∃ n e, f.Normal n e ∧ f.word n e < f.infinityWord ∧ f.value n e = q ∧
      f.word n e = w % f.signWeight ∧
      negative = decide (f.signWeight ≤ w % (2 * f.signWeight)) := by
  have hpos := f.fractionLimit_pos
  unfold decode at h
  dsimp only at h
  split at h
  · cases h
  split at h
  · cases h
  rename_i hle hne
  have hfinite : w % f.signWeight < f.infinityWord := by omega
  have hsplit := Nat.div_add_mod (w % f.signWeight) f.fractionLimit
  have hfraction := Nat.mod_lt (w % f.signWeight) hpos
  -- Without an exponent the digits stand alone; with one, the first digit is left out of the word.
  split at h
  · rename_i hzero
    injection h with hnegative hq
    rw [hzero, Nat.mul_zero, Nat.zero_add] at hsplit
    have hword : f.word (w % f.signWeight % f.fractionLimit) f.minExponent =
        w % f.signWeight := by
      rw [word, sub_self, Int.toNat_zero, Nat.zero_mul, Nat.add_zero, hsplit]
    exact ⟨_, f.minExponent, ⟨by omega, le_refl _, .inr rfl⟩, hword.trans_lt hfinite, hq, hword,
      hnegative.symm⟩
  · rename_i hnonzero
    injection h with hnegative hq
    obtain ⟨k, hk⟩ := Nat.exists_eq_succ_of_ne_zero hnonzero
    have hword : f.word (f.fractionLimit + w % f.signWeight % f.fractionLimit)
        (f.minExponent + (k : Int)) = w % f.signWeight := by
      rw [hk] at hsplit
      have hcancel : (f.minExponent + (k : Int) - f.minExponent).toNat = k := by omega
      rw [word, hcancel]
      have : f.fractionLimit * k.succ = k * f.fractionLimit + f.fractionLimit := by
        rw [Nat.mul_succ, Nat.mul_comm]
      omega
    rw [hk, Nat.succ_sub_one] at hq
    exact ⟨_, f.minExponent + (k : Int), ⟨by omega, by omega, .inl (Nat.le_add_right ..)⟩,
      hword.trans_lt hfinite, hq, hword, hnegative.symm⟩

/-- A word that stands for a number is the word of that number. -/
theorem encode_decode {w : Nat} (hw : w < 2 * f.signWeight) {negative : Bool} {q : Rat}
    (h : f.decode w = .finite negative q) : f.encode (.finite negative q) = w := by
  obtain ⟨n, e, hnormal, hfinite, rfl, hword, rfl⟩ := decode_eq_finite h
  rw [encode, hnormal.roundMagnitude_value, Nat.min_eq_left hfinite.le, hword, withSign_self hw]

theorem decode_infinity (f : Format) (negative : Bool) :
    f.decode (f.encode (.infinity negative)) = .infinity negative := by
  unfold decode encode
  dsimp only
  rw [withSign_mod f.infinityWord_lt, sign_withSign f.infinityWord_lt,
    if_neg (Nat.lt_irrefl _), if_pos rfl]

/-- A word that stands for an infinity is the word of that infinity. -/
theorem encode_infinity {w : Nat} (hw : w < 2 * f.signWeight) {negative : Bool}
    (h : f.decode w = .infinity negative) : f.encode (.infinity negative) = w := by
  unfold decode at h
  dsimp only at h
  split at h
  · cases h
  split at h
  · rename_i hinfinity
    cases h
    rw [encode, ← hinfinity, withSign_self hw]
  · split at h <;> cases h

/-- Every number with few enough digits has a leading one in some exponent. -/
theorem exists_normal {m : Nat} (hm : m < 2 * f.fractionLimit) {e : Int}
    (he : f.minExponent - f.fractionBits ≤ e) :
    ∃ n e', f.Normal n e' ∧ f.value n e' = m * pow2 e ∧
      e' ≤ max f.minExponent (e + f.fractionBits) := by
  have hpos := f.fractionLimit_pos
  have hshift (k : Nat) (e' : Int) (he' : e' - f.fractionBits + k = e) :
      f.value (m * 2 ^ k) e' = m * pow2 e := by
    rw [value, Nat.cast_mul, mul_assoc, ← pow2_natCast, ← pow2_add]
    congr 2
    omega
  rcases Nat.eq_zero_or_pos m with rfl | hmpos
  · refine ⟨0, f.minExponent, ⟨by omega, le_refl _, .inr rfl⟩, ?_, le_max_left ..⟩
    rw [value, Nat.cast_zero, zero_mul, zero_mul]
  -- The exponent of the leading digit, if that is not too small.
  have hlow := Nat.log2_self_le hmpos.ne'
  have hhigh : m < 2 ^ (m.log2 + 1) := Nat.lt_log2_self
  have hlimit : f.fractionLimit = 2 ^ f.fractionBits := rfl
  have hlog : m.log2 ≤ f.fractionBits := by
    have hpow : 2 ^ m.log2 < 2 ^ (f.fractionBits + 1) := by
      rw [Nat.pow_succ, ← hlimit]
      omega
    exact Nat.le_of_lt_succ ((Nat.pow_lt_pow_iff_right Nat.one_lt_two).1 hpow)
  by_cases hnormal : f.minExponent ≤ m.log2 + e
  · refine ⟨m * 2 ^ (f.fractionBits - m.log2), m.log2 + e, ⟨?_, hnormal, .inl ?_⟩,
      hshift _ _ (by omega), by omega⟩
    · calc m * 2 ^ (f.fractionBits - m.log2)
          < 2 ^ (m.log2 + 1) * 2 ^ (f.fractionBits - m.log2) :=
            Nat.mul_lt_mul_of_pos_right hhigh (Nat.two_pow_pos _)
        _ = 2 * f.fractionLimit := by
            rw [← Nat.pow_add, hlimit, ← Nat.pow_succ']
            congr 1
            omega
    · calc f.fractionLimit = 2 ^ m.log2 * 2 ^ (f.fractionBits - m.log2) := by
            rw [← Nat.pow_add, hlimit]
            congr 1
            omega
        _ ≤ m * 2 ^ (f.fractionBits - m.log2) := Nat.mul_le_mul_right _ hlow
  · obtain ⟨k, hk⟩ := Int.eq_ofNat_of_zero_le
      (show 0 ≤ e - (f.minExponent - f.fractionBits) by omega)
    refine ⟨m * 2 ^ k, f.minExponent, ⟨?_, le_refl _, .inr rfl⟩, hshift _ _ (by omega),
      le_max_left ..⟩
    calc m * 2 ^ k < 2 ^ (m.log2 + 1) * 2 ^ k :=
          Nat.mul_lt_mul_of_pos_right hhigh (Nat.two_pow_pos _)
      _ = 2 ^ (m.log2 + 1 + k) := (Nat.pow_add ..).symm
      _ ≤ 2 ^ f.fractionBits := Nat.pow_le_pow_right Nat.two_pos (by omega)
      _ ≤ 2 * f.fractionLimit := by omega

/-- A number with few enough digits, neither too small nor too large, is kept. -/
theorem decode_encode {m : Nat} (hm : m < 2 * f.fractionLimit) {e : Int}
    (he : f.minExponent - f.fractionBits ≤ e)
    (hsize : max f.minExponent (e + f.fractionBits) - f.minExponent + 2 <
      (2 ^ f.exponentBits : Nat))
    (negative : Bool) :
    f.decode (f.encode (.finite negative (m * pow2 e))) = .finite negative (m * pow2 e) := by
  obtain ⟨n, e', hnormal, hvalue, hle⟩ := exists_normal hm he
  have hfinite : f.word n e' < f.infinityWord := by
    have hsteps : (e' - f.minExponent).toNat + 2 ≤ 2 ^ f.exponentBits - 1 := by omega
    calc f.word n e' < 2 * f.fractionLimit + (e' - f.minExponent).toNat * f.fractionLimit :=
          Nat.add_lt_add_right hnormal.digits _
      _ = ((e' - f.minExponent).toNat + 2) * f.fractionLimit := by ring
      _ ≤ f.infinityWord := Nat.mul_le_mul_right _ hsteps
  rw [← hvalue, encode, hnormal.roundMagnitude_value, Nat.min_eq_left hfinite.le,
    hnormal.decode_word hfinite]

/-! ### Rounding -/

/-- The nearest integer is no further than one half. -/
theorem divToEven_spec (num : Nat) {den : Nat} (hden : 0 < den) :
    2 * num ≤ 2 * (divToEven num den * den) + den ∧
      2 * (divToEven num den * den) ≤ 2 * num + den := by
  have hsplit := Nat.div_add_mod num den
  have hrest := Nat.mod_lt num hden
  have hnext : (num / den + 1) * den = den * (num / den) + den := by ring
  have hsame : num / den * den = den * (num / den) := Nat.mul_comm ..
  unfold divToEven
  dsimp only
  split
  · omega
  split
  · omega
  split <;> omega

theorem abs_divToEven_sub {q : Rat} (hq : 0 ≤ q) :
    |(divToEven q.num.natAbs q.den : Rat) - q| ≤ 1 / 2 := by
  have hden : (0 : Rat) < q.den := by exact_mod_cast q.den_pos
  obtain ⟨hlow, hhigh⟩ := divToEven_spec q.num.natAbs q.den_pos
  have hlow' : 2 * (q.num.natAbs : Rat) ≤
      2 * ((divToEven q.num.natAbs q.den : Rat) * q.den) + q.den := by exact_mod_cast hlow
  have hhigh' : 2 * ((divToEven q.num.natAbs q.den : Rat) * q.den) ≤
      2 * (q.num.natAbs : Rat) + q.den := by exact_mod_cast hhigh
  rw [natAbs_num hq] at hlow' hhigh'
  rw [abs_le]
  constructor
  · refine le_of_mul_le_mul_right ?_ hden
    linarith
  · refine le_of_mul_le_mul_right ?_ hden
    linarith

/-- Twice the digits of an exponent are the first digits of the next one. -/
theorem value_carry (f : Format) (e : Int) :
    f.value f.fractionLimit (e + 1) = f.value (2 * f.fractionLimit) e := by
  have hexponent : e + 1 - f.fractionBits = 1 + (e - f.fractionBits) := by ring
  rw [value, value, hexponent, pow2_add, pow2_eq 1, zpow_one]
  push_cast
  ring

theorem word_carry {f : Format} {e : Int} (he : f.minExponent ≤ e) :
    f.word f.fractionLimit (e + 1) = f.word (2 * f.fractionLimit) e := by
  have hsteps : (e + 1 - f.minExponent).toNat = (e - f.minExponent).toNat + 1 := by omega
  rw [word, word, hsteps]
  ring

/-- Rounding passes no whole number. -/
theorem divToEven_le_of_lt {q : Rat} (hq : 0 ≤ q) {n : Nat} (h : q < n) :
    divToEven q.num.natAbs q.den ≤ n := by
  have hnear := abs_le.1 (abs_divToEven_sub hq)
  have hcast : (divToEven q.num.natAbs q.den : Rat) < ((n + 1 : Nat) : Rat) := by
    push_cast
    linarith
  exact Nat.le_of_lt_succ (by exact_mod_cast hcast)

theorem le_divToEven_of_le {q : Rat} {n : Nat} (h : (n : Rat) ≤ q) :
    n ≤ divToEven q.num.natAbs q.den := by
  have hnear := abs_le.1 (abs_divToEven_sub (n.cast_nonneg.trans h))
  have hcast : (n : Rat) < ((divToEven q.num.natAbs q.den + 1 : Nat) : Rat) := by
    push_cast
    linarith
  exact Nat.le_of_lt_succ (by exact_mod_cast hcast)

/-- In units in the last place of its exponent a number has the digits of the format, up to a
carry. -/
theorem scaled_lt {q : Rat} {e : Int} (h : q < pow2 (e + 1)) :
    q * pow2 (f.fractionBits - e) < ((2 * f.fractionLimit : Nat) : Rat) := by
  have htwice : ((2 * f.fractionLimit : Nat) : Rat) = pow2 (1 + f.fractionBits) := by
    rw [pow2_add, pow2_fractionBits, pow2_eq 1, zpow_one]
    push_cast
    rfl
  rw [htwice]
  calc q * pow2 (f.fractionBits - e) < pow2 (e + 1) * pow2 (f.fractionBits - e) :=
        mul_lt_mul_of_pos_right h (pow2_pos _)
    _ = pow2 (1 + f.fractionBits) := by rw [← pow2_add]; congr 1; ring

theorem le_scaled {q : Rat} {e : Int} (h : pow2 e ≤ q) :
    (f.fractionLimit : Rat) ≤ q * pow2 (f.fractionBits - e) := by
  calc (f.fractionLimit : Rat) = pow2 e * pow2 (f.fractionBits - e) := by
        rw [← pow2_fractionBits, ← pow2_add]; congr 1; ring
    _ ≤ q * pow2 (f.fractionBits - e) := mul_le_mul_of_nonneg_right h (pow2_pos _).le

/-- A magnitude is rounded to a count of units in the last place of an exponent, which misses it by
half a unit at most. -/
theorem exists_roundMagnitude {q : Rat} (hq : 0 < q) {k : Int} (hk : f.minExponent ≤ k)
    (hlt : q < pow2 (k + 1)) :
    ∃ n e, f.Normal n e ∧ e ≤ k + 1 ∧ f.roundMagnitude q = min (f.word n e) f.infinityWord ∧
      |f.value n e - q| ≤ pow2 (k - f.fractionBits) / 2 := by
  obtain ⟨hlow, hhigh⟩ := floorLog2_spec hq
  set e := max (floorLog2 q) f.minExponent with he
  set scaled := q * pow2 (f.fractionBits - e) with hscaled
  set n := divToEven scaled.num.natAbs scaled.den with hn
  have hek : e ≤ k := by
    have := pow2_lt_iff.1 (hlow.trans_lt hlt)
    omega
  have hpos : 0 < scaled := mul_pos hq (pow2_pos _)
  have hround : f.roundMagnitude q = min (f.word n e) f.infinityWord := by
    rw [roundMagnitude, if_neg (not_le_of_gt hq)]
    rfl
  have herror : |f.value n e - q| ≤ pow2 (k - f.fractionBits) / 2 := by
    have hq' : q = scaled * pow2 (e - f.fractionBits) := by
      rw [hscaled, mul_assoc, ← pow2_add, sub_add_sub_cancel, sub_self, pow2_eq, zpow_zero,
        mul_one]
    have hunit : pow2 (e - f.fractionBits) ≤ pow2 (k - f.fractionBits) :=
      pow2_le_iff.2 (by omega)
    rw [value, hq', ← sub_mul, abs_mul, abs_of_pos (pow2_pos _)]
    calc |(n : Rat) - scaled| * pow2 (e - f.fractionBits)
        ≤ 1 / 2 * pow2 (k - f.fractionBits) :=
          mul_le_mul (abs_divToEven_sub hpos.le) hunit (pow2_pos _).le (by norm_num)
      _ = pow2 (k - f.fractionBits) / 2 := by ring
  have hdigits : n ≤ 2 * f.fractionLimit :=
    divToEven_le_of_lt hpos.le (scaled_lt (hhigh.trans_le (pow2_le_iff.2 (by omega))))
  have hfull : f.fractionLimit ≤ n ∨ e = f.minExponent := by
    rcases Int.le_total (floorLog2 q) f.minExponent with h | h
    · exact .inr (by omega)
    · have hsame : floorLog2 q = e := by omega
      exact .inl (le_divToEven_of_le (le_scaled (hsame ▸ hlow)))
  rcases Nat.lt_or_eq_of_le hdigits with hlt' | hcarry
  · exact ⟨n, e, ⟨hlt', by omega, hfull⟩, by omega, hround, herror⟩
  · -- A carry out of the digits is a one in the next exponent.
    have hlimit := f.fractionLimit_pos
    refine ⟨f.fractionLimit, e + 1, ⟨by omega, by omega, .inl (le_refl _)⟩, by omega, ?_, ?_⟩
    · rw [word_carry (by omega), ← hcarry, hround]
    · rw [value_carry, ← hcarry]
      exact herror

/-- What a number is rounded to is as near as the digits allow. -/
theorem exists_decode_encode {q : Rat} (hq : 0 ≤ q) {k : Int} (hk : f.minExponent ≤ k)
    (hlt : q < pow2 (k + 1)) (hsize : k + 1 - f.minExponent + 2 < (2 ^ f.exponentBits : Nat))
    (negative : Bool) :
    ∃ q', f.decode (f.encode (.finite negative q)) = .finite negative q' ∧ 0 ≤ q' ∧
      |q' - q| ≤ pow2 (k - f.fractionBits) / 2 := by
  rcases hq.eq_or_lt with rfl | hpos
  · have hzero := @decode_encode f 0 (by have := f.fractionLimit_pos; omega)
      (f.minExponent - f.fractionBits) (le_refl _) (by omega) negative
    rw [Nat.cast_zero, zero_mul] at hzero
    refine ⟨0, hzero, le_refl _, ?_⟩
    rw [sub_self, abs_zero]
    exact (half_pos (pow2_pos _)).le
  · obtain ⟨n, e, hnormal, hek, hround, herror⟩ := exists_roundMagnitude hpos hk hlt
    have hfinite : f.word n e < f.infinityWord := by
      have hsteps : (e - f.minExponent).toNat + 2 ≤ 2 ^ f.exponentBits - 1 := by omega
      calc f.word n e < 2 * f.fractionLimit + (e - f.minExponent).toNat * f.fractionLimit :=
            Nat.add_lt_add_right hnormal.digits _
        _ = ((e - f.minExponent).toNat + 2) * f.fractionLimit := by ring
        _ ≤ f.infinityWord := Nat.mul_le_mul_right _ hsteps
    refine ⟨f.value n e, ?_, mul_nonneg (Nat.cast_nonneg _) (pow2_pos _).le, herror⟩
    rw [encode, hround, Nat.min_eq_left hfinite.le, hnormal.decode_word hfinite]

end Format

end DrawPass.Binary
