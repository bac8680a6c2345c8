/-
DrawPass/Proofs/IntegerCounts.lean

Counts that are given as integers.

The numbers of an option are read in single precision, whatever they are given as, and a count is
the integer part of such a number.  So an integer makes its way to a count through two conversions.
What is negative becomes zero.  What is short comes through as it is; what is not short has no
number of its own in single precision, and the count is another one, though never off by more than
the 64 that lie between numbers in the highest reaches (`countOf_ofInt_eq_iff`,
`countOf_ofInt_near`).

Together with what an entry does to the options this says which counts a bag yields for its grid and
for its mesh (`integer_counts_exact_iff`).
-/
import DrawPass.Proofs.Entrywise
import DrawPass.Proofs.Singles
import Mathlib.Data.Rat.Floor

namespace DrawPass

open Binary

/-! ### The integer part -/

namespace Binary

/-- The integer part of what is not negative is the largest integer up to it. -/
theorem truncate_eq_floor {q : Rat} (hq : 0 ≤ q) : truncate q = ⌊q⌋ := by
  rw [truncate, Int.tdiv_eq_ediv_of_nonneg (Rat.num_nonneg.2 hq), Rat.floor_def']

theorem truncate_nonneg {q : Rat} (hq : 0 ≤ q) : 0 ≤ truncate q := by
  rw [truncate_eq_floor hq]
  exact Int.floor_nonneg.2 hq

/-- The integer part of what is near an integer is as near to it. -/
theorem abs_truncate_sub_le {q : Rat} (hq : 0 ≤ q) {n k : Int} (h : |q - n| ≤ k) :
    |truncate q - n| ≤ k := by
  rw [abs_le] at h
  have hbelow : n - k ≤ ⌊q⌋ := by
    rw [Int.le_floor]
    push_cast
    linarith only [h.1]
  have habove : ⌊q⌋ ≤ n + k := by
    have hle : (⌊q⌋ : Rat) ≤ (n + k : Int) := by
      push_cast
      linarith only [Int.floor_le q, h.2]
    exact_mod_cast hle
  rw [truncate_eq_floor hq, abs_le]
  omega

/-- The integer part of a number of 24 digits is short. -/
theorem isShort_truncate {m : Nat} (hm : m < 2 ^ 24) (e : Int) :
    IsShort (truncate (m * Format.pow2 e)).toNat := by
  have hnonneg : 0 ≤ (m : Rat) * Format.pow2 e :=
    mul_nonneg (Nat.cast_nonneg _) (Format.pow2_pos _).le
  rw [truncate_eq_floor hnonneg]
  rcases Int.lt_or_le e 0 with he | he
  · -- Without an integer part of 24 digits there is none with more.
    refine isShort_of_le (Int.toNat_le.2 ?_)
    have hone : Format.pow2 e ≤ 1 := by
      have hzero : Format.pow2 0 = 1 := by rw [Format.pow2_eq, zpow_zero]
      exact hzero ▸ Format.pow2_le_iff.2 he.le
    have hle : (m : Rat) * Format.pow2 e ≤ (m : Int) := by
      simpa using mul_le_mul_of_nonneg_left hone (Nat.cast_nonneg m)
    have hfloor : ⌊(m : Rat) * Format.pow2 e⌋ ≤ m := by
      exact_mod_cast (Int.floor_le _).trans hle
    exact hfloor.trans (by exact_mod_cast hm.le)
  · obtain ⟨k, rfl⟩ := Int.eq_ofNat_of_zero_le he
    have hint : (m : Rat) * Format.pow2 (k : Int) = ((m * 2 ^ k : Nat) : Int) := by
      rw [Format.pow2_natCast]
      push_cast
      rfl
    rw [hint, Int.floor_intCast, Int.toNat_natCast]
    exact ⟨m, k, hm, rfl⟩

end Binary

namespace Params

open Single

/-! ### One count -/

section

variable {x : Single} {q : Rat}

theorem datum_max_zero (h : x.datum = .finite false q) (hq : 0 ≤ q) : x.max .zero = x := by
  have hnan : x.isNaN = false := isNaN_eq_false h
  have hzero : Single.zero.isNaN = false := isNaN_eq_false datum_zero
  have hlt : x.lt .zero = false := by
    rw [Single.lt, h, datum_zero]
    exact decide_eq_false (not_lt_of_ge hq)
  rw [Single.max, hnan, hzero, hlt]
  rfl

/-- The count of what is not negative is its integer part, if it fits. -/
theorem toNat_countOf (h : x.datum = .finite false q) (hq : 0 ≤ q) :
    (countOf x).toNat = min 4294967295 (truncate q).toNat := by
  have hpart := truncate_nonneg hq
  have hint : (x.datum.toInt truncate 0 4294967295).toNat = min 4294967295 (truncate q).toNat := by
    rw [h, Datum.toInt, signed, if_neg Bool.false_ne_true]
    omega
  rw [countOf, datum_max_zero h hq, toUInt32, hint, UInt32.toNat_ofNat']
  exact Nat.mod_eq_of_lt (by omega)

/-- The count of what is negative is zero. -/
theorem countOf_of_negative (h : x.datum = .finite true q) (hq : 0 ≤ q) : countOf x = 0 := by
  have hnan : x.isNaN = false := isNaN_eq_false h
  have hzero : Single.zero.isNaN = false := isNaN_eq_false datum_zero
  have hmax : x.max .zero = x ∨ x.max .zero = .zero := by
    rw [Single.max, hnan, hzero]
    cases x.lt .zero
    · exact .inl rfl
    · exact .inr rfl
  rw [countOf]
  rcases hmax with hmax | hmax <;> rw [hmax]
  · have hpart : (truncate (-q)).toNat = 0 := by
      rw [Int.toNat_eq_zero, truncate, Rat.num_neg_eq_neg_num, Rat.den_neg_eq_den, Int.neg_tdiv]
      exact neg_nonpos.2 (truncate_nonneg hq)
    have hint : (x.datum.toInt truncate 0 4294967295).toNat = 0 := by
      rw [h, Datum.toInt, signed, if_pos rfl]
      omega
    rw [toUInt32, hint]
    rfl
  · rw [toUInt32, datum_zero]
    decide

end

/-- What single precision makes of an integer. -/
theorem exists_datum_ofInt {n : Int} {k : Nat} (hk : k < 100) (hn : n.natAbs < 2 ^ (k + 1)) :
    ∃ q, (ofInt n).datum = .finite (decide (n < 0)) q ∧ 0 ≤ q ∧
      |q - n.natAbs| ≤ (2 ^ k : Nat) / 2 ^ 24 := by
  rw [ofInt_eq]
  exact exists_datum_ofDatum (Nat.cast_nonneg _) hk (by exact_mod_cast hn) _

/-- A negative integer counts as zero. -/
theorem countOf_ofInt_of_neg {n : Int32} (hn : n.toInt < 0) : countOf (ofInt n.toInt) = 0 := by
  have hlow := n.le_toInt
  obtain ⟨q, hdatum, hq, -⟩ := exists_datum_ofInt (n := n.toInt) (k := 31) (by decide) (by omega)
  rw [decide_eq_true hn] at hdatum
  exact countOf_of_negative hdatum hq

/-- A short integer counts as itself. -/
theorem countOf_ofInt_of_isShort {n : Int32} (hn : 0 ≤ n.toInt) (h : IsShort n.toInt.toNat) :
    (countOf (ofInt n.toInt)).toNat = n.toInt.toNat := by
  have hhigh := n.toInt_lt
  have hnatAbs : n.toInt.natAbs = n.toInt.toNat := by omega
  have hdatum := datum_ofInt (n := n.toInt) (hnatAbs ▸ h) (by omega)
  rw [decide_eq_false (by omega), hnatAbs] at hdatum
  have hnonneg : (0 : Rat) ≤ (n.toInt.toNat : Rat) := Nat.cast_nonneg _
  rw [toNat_countOf hdatum hnonneg, truncate_eq_floor hnonneg, Int.floor_natCast,
    Int.toNat_natCast]
  omega

/-- An integer that is not negative counts as a short one. -/
theorem exists_countOf_ofInt {n : Int32} (hn : 0 ≤ n.toInt) :
    IsShort (countOf (ofInt n.toInt)).toNat ∧
      |((countOf (ofInt n.toInt)).toNat : Int) - n.toInt| ≤ 64 := by
  have hhigh := n.toInt_lt
  obtain ⟨q, hdatum, hq, herror⟩ :=
    exists_datum_ofInt (n := n.toInt) (k := 30) (by decide) (by omega)
  rw [decide_eq_false (by omega)] at hdatum
  obtain ⟨m, e, hm, rfl⟩ := datum_eq_finite hdatum
  have hcast : ((n.toInt.natAbs : Nat) : Rat) = (n.toInt : Rat) := by
    rw [Nat.cast_natAbs, abs_of_nonneg hn]
  have hbound : ((2 ^ 30 : Nat) : Rat) / 2 ^ 24 = (64 : Int) := by norm_num
  rw [hcast, hbound] at herror
  have hnear := abs_truncate_sub_le hq herror
  obtain ⟨-, habove⟩ := abs_le.1 hnear
  have hpart := truncate_nonneg hq
  have hcount : (countOf (ofInt n.toInt)).toNat = (truncate (m * Format.pow2 e)).toNat := by
    rw [toNat_countOf hdatum hq]
    omega
  rw [hcount, Int.toNat_of_nonneg hpart]
  exact ⟨isShort_truncate hm e, hnear⟩

/-- An integer counts as it is, or as zero if it is negative, just if this is short. -/
theorem countOf_ofInt_eq_iff (n : Int32) :
    (countOf (ofInt n.toInt)).toNat = n.toInt.toNat ↔ IsShort n.toInt.toNat := by
  rcases Int.lt_or_le n.toInt 0 with hn | hn
  · have hzero : n.toInt.toNat = 0 := by omega
    rw [countOf_ofInt_of_neg hn, hzero]
    exact iff_of_true rfl (isShort_of_le (Nat.zero_le _))
  · exact ⟨fun heq => heq ▸ (exists_countOf_ofInt hn).1, countOf_ofInt_of_isShort hn⟩

/-- What an integer counts as is never off by more than the distance of numbers in single
precision. -/
theorem countOf_ofInt_near (n : Int32) :
    |((countOf (ofInt n.toInt)).toNat : Int) - max n.toInt 0| ≤ 64 := by
  rcases Int.lt_or_le n.toInt 0 with hn | hn
  · rw [countOf_ofInt_of_neg hn, max_eq_right hn.le]
    decide
  · rw [max_eq_left hn]
    exact (exists_countOf_ofInt hn).2

/-! ### The counts of an option -/

/-- The integers of a value that is given as integers. -/
def ParamValue.integers? : ParamValue → Option (List Int32)
  | uniform (.int n) => some [n]
  | uniform (.intVector ns) => some ns
  | _ => none

/-- How many counts an option may be given by: a grid by one to three, a mesh by two. -/
def OptionName.TakesCounts : OptionName → Nat → Prop
  | .grid, k => 1 ≤ k ∧ k ≤ 3
  | .mesh, k => k = 2
  | _, _ => False

/-- The counts among what an option is read into, first to last. -/
def OptionName.counts : (name : OptionName) → name.Field → List UInt32
  | .grid, (x, y, z) => [x, y, z]
  | .mesh, (x, y) => [x, y]
  | _, _ => []

section

variable {value : ParamValue} {ns : List Int32} (hints : value.integers? = some ns)
include hints

theorem ParamValue.numbers?_of_integers :
    value.numbers? = some (ns.map fun n => ofInt n.toInt) := by
  unfold ParamValue.integers? at hints
  split at hints
  · cases hints
    rfl
  · cases hints
    rfl
  · cases hints

/-- Integers are read into their counts, and the counts that are not given are ones. -/
theorem readField_of_integers {name : OptionName} (htakes : name.TakesCounts ns.length) :
    ∃ v rest, readField name value = .ok v ∧
      name.counts v = (ns.map fun n => countOf (ofInt n.toInt)) ++ rest ∧ ∀ c ∈ rest, c = 1 := by
  have hnumbers := ParamValue.numbers?_of_integers hints
  unfold OptionName.TakesCounts at htakes
  split at htakes
  · obtain ⟨hsome, hfew⟩ := htakes
    rcases ns with - | ⟨x, - | ⟨y, - | ⟨z, - | ⟨w, ns⟩⟩⟩⟩
    · exact absurd hsome (by decide)
    · exact ⟨_, [1, 1], by rw [readField, readOption, hnumbers]; rfl, rfl, by simp⟩
    · exact ⟨_, [1], by rw [readField, readOption, hnumbers]; rfl, rfl, by simp⟩
    · exact ⟨_, [], by rw [readField, readOption, hnumbers]; rfl, rfl, by simp⟩
    · simp only [List.length_cons] at hfew
      omega
  · obtain ⟨x, y, rfl⟩ := List.length_eq_two.1 htakes
    exact ⟨_, [], by rw [readField, readOption, hnumbers]; rfl, rfl, by simp⟩
  · exact htakes.elim

end

/-- An option that is given as integers is not refused. -/
theorem validAlone_of_integers {name : OptionName} {value : ParamValue} {ns : List Int32}
    (hints : value.integers? = some ns) (htakes : name.TakesCounts ns.length) :
    ValidAlone (name.key, value) := by
  obtain ⟨v, rest, hfield, -⟩ := readField_of_integers hints htakes
  have halone := map_field_split_alone name value
  rw [hfield] at halone
  cases hsplit : split (.alone (name.key, value)) with
  | ok read => exact ⟨read, hsplit⟩
  | error e =>
    rw [hsplit] at halone
    cases halone

/-- A grid that is given as one to three integers, or a mesh that is given as two, is never refused,
and in a bag whose other entries are not refused either it yields these counts: each integer counts
as itself, or as zero if it is negative, just if this is short, and otherwise as a number that is
off by 64 at most; and the counts of a grid that are not given are ones. -/
theorem integer_counts_exact_iff {bag : Bag} {name : OptionName} {value : ParamValue}
    {ns : List Int32} (hvalue : bag.get? name.key = some value)
    (hints : value.integers? = some ns) (htakes : name.TakesCounts ns.length)
    (hothers : ∀ entry ∈ bag.entries, entry.1 ≠ name.key → ValidAlone entry) :
    ∃ options uniforms, split bag = .ok (options, uniforms) ∧
      (∀ (i : Nat) (n : Int32), ns[i]? = some n →
        ∃ c : UInt32, (name.counts (options.field name))[i]? = some c ∧
          ((c.toNat : Int) = max n.toInt 0 ↔ IsShort n.toInt.toNat) ∧
            |(c.toNat : Int) - max n.toInt 0| ≤ 64) ∧
      ∀ (i : Nat) (c : UInt32), ns.length ≤ i →
        (name.counts (options.field name))[i]? = some c → c = 1 := by
  -- An entry is read on its own, so the integers are taken whatever else is in the bag.
  have hvalid : ∀ entry ∈ bag.entries, ValidAlone entry := by
    intro entry hentry
    by_cases hkey : entry.1 = name.key
    · have hget := Table.get?_eq_some_iff.2 hentry
      rw [hkey, hvalue, Option.some.injEq] at hget
      obtain rfl : entry = (name.key, value) := Prod.ext hkey hget.symm
      exact validAlone_of_integers hints htakes
    · exact hothers entry hentry hkey
  obtain ⟨⟨options, uniforms⟩, hsplit⟩ := (exists_split_iff bag).2 hvalid
  obtain ⟨v, rest, hfield, hcounts, hrest⟩ := readField_of_integers hints htakes
  have hgiven := (Parted.of_split hsplit).given name value hvalue
  rw [map_field_split_alone, hfield] at hgiven
  cases hgiven
  refine ⟨options, uniforms, hsplit, fun i n hn => ⟨countOf (ofInt n.toInt), ?_, ?_, ?_⟩, ?_⟩
  · have hi : i < (ns.map fun n => countOf (ofInt n.toInt)).length := by
      rw [List.length_map]
      exact (List.getElem?_eq_some_iff.1 hn).1
    rw [hcounts, List.getElem?_append_left hi, List.getElem?_map, hn, Option.map_some]
  · rw [← countOf_ofInt_eq_iff]
    omega
  · exact countOf_ofInt_near n
  · intro i c hi hc
    rw [hcounts, List.getElem?_append_right (by rwa [List.length_map])] at hc
    exact hrest c (List.mem_of_getElem? hc)

/-- The first integer that is not short, in a grid with a negative one. -/
theorem integer_counts_exact_iff_of_grid :
    ∃ options uniforms, split (.alone ("Grid", .uniform (.intVector [16777217, -3]))) =
        .ok (options, uniforms) ∧
      options.grid.1.toNat ≠ 16777217 ∧ options.grid.2.1.toNat = 0 ∧ options.grid.2.2 = 1 := by
  have hints : (ParamValue.uniform (.intVector [16777217, -3])).integers? =
    some [16777217, -3] := rfl
  have htakes : OptionName.grid.TakesCounts [(16777217 : Int32), -3].length :=
    ⟨by decide, by decide⟩
  have hothers : ∀ entry ∈ (Bag.alone ("Grid", .uniform (.intVector [16777217, -3]))).entries,
      entry.1 ≠ OptionName.grid.key → ValidAlone entry := by
    intro entry hentry hkey
    cases List.mem_singleton.1 hentry
    exact absurd rfl hkey
  obtain ⟨options, uniforms, hsplit, hgiven, hones⟩ :=
    integer_counts_exact_iff rfl hints htakes hothers
  refine ⟨options, uniforms, hsplit, fun heq => ?_, ?_, hones 2 _ (by decide) rfl⟩
  · obtain ⟨c, hc, hexact, -⟩ := hgiven 0 16777217 rfl
    cases hc
    have hkept : (options.grid.1.toNat : Int) = max (16777217 : Int32).toInt 0 := by
      rw [heq]
      decide
    exact not_isShort (by decide) (by decide) (hexact.1 hkept)
  · obtain ⟨c, hc, hexact, -⟩ := hgiven 1 (-3) rfl
    cases hc
    exact Int.ofNat_inj.1 (hexact.2 (isShort_of_le (by decide)))

end Params

end DrawPass
