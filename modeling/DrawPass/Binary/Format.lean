/-
DrawPass/Binary/Format.lean

Binary interchange formats of floating-point numbers, as words and as exact
rationals.

A format is given by the width of its fraction and of its exponent.  `decode` reads
a word as a datum: not a number, an infinity, or a sign with an exact rational
magnitude.  `encode` is its partial inverse and the only place where anything is
rounded: to nearest, ties to the even fraction, with gradual underflow, and to an
infinity beyond the largest finite number.  Arithmetic elsewhere in the library is
exact arithmetic followed by `encode`, so every rounding error has this one source.
-/

namespace DrawPass.Binary

/-- The nearest integer to `num / den`; a tie goes to the even neighbour. -/
def divToEven (num den : Nat) : Nat :=
  let q := num / den
  let r := num % den
  if 2 * r < den then q
  else if den < 2 * r then q + 1
  else if q % 2 = 0 then q else q + 1

/-- The nearest integer to `num / den`; a tie goes up. -/
def divToUp (num den : Nat) : Nat := (2 * num + den) / (2 * den)

/-- A datum: what a word of any format stands for. -/
inductive Datum where
  /-- Not a number; the payload is the fraction field. -/
  | nan (negative : Bool) (payload : Nat)
  | infinity (negative : Bool)
  /-- A finite number by sign and magnitude; zero has both signs. -/
  | finite (negative : Bool) (magnitude : Rat)
  deriving DecidableEq

/-- A binary interchange format. -/
structure Format where
  /-- Bits of the fraction field. -/
  fractionBits : Nat
  /-- Bits of the exponent field. -/
  exponentBits : Nat
  deriving DecidableEq

namespace Format

/-- Half precision. -/
def half : Format := ⟨10, 5⟩

/-- Single precision. -/
def single : Format := ⟨23, 8⟩

/-- Double precision. -/
def double : Format := ⟨52, 11⟩

/-- One more than the largest fraction field. -/
def fractionLimit (f : Format) : Nat := Nat.pow 2 f.fractionBits

/-- The exponent of the smallest normal number. -/
def minExponent (f : Format) : Int := 2 - Nat.pow 2 (f.exponentBits - 1)

/-- The word of positive infinity; the words above it up to the sign bit are not numbers. -/
def infinityWord (f : Format) : Nat := (Nat.pow 2 f.exponentBits - 1) * f.fractionLimit

/-- The weight of the sign bit. -/
def signWeight (f : Format) : Nat := Nat.pow 2 (f.fractionBits + f.exponentBits)

/-- The word of a magnitude word with a sign. -/
def withSign (f : Format) (negative : Bool) (magnitude : Nat) : Nat :=
  if negative then f.signWeight + magnitude else magnitude

/-- The rational `2 ^ e`. -/
def pow2 (e : Int) : Rat := if 0 ≤ e then Nat.pow 2 e.toNat else 1 / Nat.pow 2 (-e).toNat

/-- What a word stands for. -/
def decode (f : Format) (word : Nat) : Datum :=
  let negative := decide (f.signWeight ≤ word % (2 * f.signWeight))
  let magnitude := word % f.signWeight
  let exponent := magnitude / f.fractionLimit
  let fraction := magnitude % f.fractionLimit
  if f.infinityWord < magnitude then .nan negative fraction
  else if magnitude = f.infinityWord then .infinity negative
  else if exponent = 0 then
    .finite negative ((fraction : Rat) * pow2 (f.minExponent - f.fractionBits))
  else
    .finite negative
      (((f.fractionLimit + fraction : Nat) : Rat) *
        pow2 (f.minExponent + (exponent - 1 : Nat) - f.fractionBits))

/-- The exponent of the largest power of two that is at most a positive rational. -/
def floorLog2 (q : Rat) : Int :=
  let e : Int := (q.num.natAbs.log2 : Int) - (q.den.log2 : Int)
  if pow2 e ≤ q then e else e - 1

/-- The word of a magnitude, rounded to nearest even.

With `e` the exponent in which the magnitude is rounded and `n` the rounded multiple of one
unit in the last place, `n + (e - minExponent) · 2 ^ fractionBits` is the word for normal and
subnormal results alike, and a carry out of the fraction steps into the next exponent. -/
def roundMagnitude (f : Format) (q : Rat) : Nat :=
  if q ≤ 0 then 0
  else
    let e := max (floorLog2 q) f.minExponent
    let scaled := q * pow2 (f.fractionBits - e)
    let n := divToEven scaled.num.natAbs scaled.den
    min (n + (e - f.minExponent).toNat * f.fractionLimit) f.infinityWord

/-- The word of a datum. A number is rounded; a payload is kept with the quiet bit set. -/
def encode (f : Format) : Datum → Nat
  | .nan negative payload =>
    f.withSign negative (f.infinityWord + payload % f.fractionLimit ||| f.fractionLimit / 2)
  | .infinity negative => f.withSign negative f.infinityWord
  | .finite negative q => f.withSign negative (f.roundMagnitude q)

/-- The word of the same datum in another format. A payload keeps its leading bits. -/
def convert (src dst : Format) (word : Nat) : Nat :=
  match src.decode word with
  | .nan negative payload =>
    dst.encode (.nan negative (payload * dst.fractionLimit / src.fractionLimit))
  | datum => dst.encode datum

end Format

end DrawPass.Binary
