/-
DrawPass/Binary/Single.lean

Single-precision numbers, the number type of everything that reaches a shader.

A number is kept as its word, so that storing and loading never change it, whatever
the payload of a number that is not one.  Comparison and arithmetic go through the
datum of the word; integers are reached by rounding and saturating.
-/
import DrawPass.Binary.Format

namespace DrawPass

open Binary

/-- A single-precision number, by its word. -/
structure Single where
  /-- Sign, exponent and fraction, from the highest bit. -/
  bits : UInt32
  deriving DecidableEq, Inhabited

namespace Single

/-- What a number stands for. -/
def datum (x : Single) : Datum := Format.single.decode x.bits.toNat

/-- The number nearest to a datum. -/
def ofDatum (d : Datum) : Single := ⟨UInt32.ofNat (Format.single.encode d)⟩

/-- The number nearest to a rational; zero is positive. -/
def ofRat (q : Rat) : Single := ofDatum (.finite (decide (q < 0)) q.abs)

/-- The number nearest to an integer. -/
def ofInt (n : Int) : Single := ofRat n

/-- The number nearest to the double-precision number of a word. -/
def ofDouble (bits : UInt64) : Single :=
  ⟨UInt32.ofNat (Format.convert .double .single bits.toNat)⟩

/-- The number of a half-precision word. -/
def ofHalf (bits : UInt16) : Single :=
  ⟨UInt32.ofNat (Format.convert .half .single bits.toNat)⟩

/-- The nearest half-precision word. -/
def toHalf (x : Single) : UInt16 :=
  UInt16.ofNat (Format.convert .single .half x.bits.toNat)

/-- Positive zero. -/
def zero : Single := ⟨0⟩

/-- One. -/
def one : Single := ⟨0x3F800000⟩

/-- Minus one. -/
def negOne : Single := ⟨0xBF800000⟩

/-- One half. -/
def oneHalf : Single := ⟨0x3F000000⟩

/-- Two. -/
def two : Single := ⟨0x40000000⟩

/-- The number that an invalid operation gives. -/
def invalid : Single := ⟨0xFFC00000⟩

/-- The same number that is not one, made quiet. -/
def quiet (x : Single) : Single := ⟨x.bits ||| 0x00400000⟩

/-- Whether a number is not one. -/
def isNaN (x : Single) : Bool :=
  match x.datum with
  | .nan .. => true
  | _ => false

/-- A rational with a sign. -/
def signed (negative : Bool) (q : Rat) : Rat := if negative then -q else q

/-- Whether one number is less than another; nothing is less than what is not a number. -/
def lt (x y : Single) : Bool :=
  match x.datum, y.datum with
  | .nan .., _ => false
  | _, .nan .. => false
  | .infinity s, .infinity t => s && !t
  | .infinity s, .finite .. => s
  | .finite .., .infinity t => !t
  | .finite s a, .finite t b => decide (signed s a < signed t b)

/-- Whether a number differs from zero; what is not a number does. -/
def isNonzero (x : Single) : Bool :=
  match x.datum with
  | .finite _ q => q != 0
  | _ => true

/-- The smaller of two numbers; the other one if one is not a number. -/
def min (x y : Single) : Single :=
  if x.isNaN then y else if y.isNaN then x else if y.lt x then y else x

/-- The larger of two numbers; the other one if one is not a number. -/
def max (x y : Single) : Single :=
  if x.isNaN then y else if y.isNaN then x else if x.lt y then y else x

/-- A number brought between two bounds; what is not a number stays so. -/
def clamp (x low high : Single) : Single :=
  let x := if x.lt low then low else x
  if high.lt x then high else x

/-- The first operand that is not a number, made quiet, or the result of an operation. -/
def propagate (x y : Single) (result : Single) : Single :=
  if x.isNaN then x.quiet else if y.isNaN then y.quiet else result

/-- The sum, rounded once. Opposite numbers add to positive zero. -/
def add (x y : Single) : Single :=
  propagate x y <|
    match x.datum, y.datum with
    | .infinity s, .infinity t => if s = t then x else invalid
    | .infinity _, _ => x
    | _, .infinity _ => y
    | .finite s a, .finite t b =>
      let sum := signed s a + signed t b
      if sum = 0 then ofDatum (.finite (s && t) 0) else ofRat sum
    | _, _ => invalid

/-- The product, rounded once. -/
def mul (x y : Single) : Single :=
  propagate x y <|
    match x.datum, y.datum with
    | .infinity s, .infinity t => ofDatum (.infinity (s != t))
    | .infinity s, .finite t b => if b = 0 then invalid else ofDatum (.infinity (s != t))
    | .finite s a, .infinity t => if a = 0 then invalid else ofDatum (.infinity (s != t))
    | .finite s a, .finite t b => ofDatum (.finite (s != t) (a * b))
    | _, _ => invalid

/-- The quotient, rounded once. -/
def div (x y : Single) : Single :=
  propagate x y <|
    match x.datum, y.datum with
    | .infinity _, .infinity _ => invalid
    | .infinity s, .finite t _ => ofDatum (.infinity (s != t))
    | .finite s _, .infinity t => ofDatum (.finite (s != t) 0)
    | .finite s a, .finite t b =>
      if b = 0 then if a = 0 then invalid else ofDatum (.infinity (s != t))
      else ofDatum (.finite (s != t) (a / b))
    | _, _ => invalid

instance : Add Single := ⟨add⟩
instance : Mul Single := ⟨mul⟩
instance : Div Single := ⟨div⟩

end Single

namespace Binary

/-- The nearest integer to a rational; a tie goes away from zero. -/
def roundAway (q : Rat) : Int :=
  if q < 0 then -(divToUp q.num.natAbs q.den : Int) else divToUp q.num.natAbs q.den

/-- A rational without its fraction. -/
def truncate (q : Rat) : Int := q.num.tdiv q.den

/-- The integer of a datum under a rounding, brought between two bounds; what is not a number
gives zero. -/
def Datum.toInt (round : Rat → Int) (low high : Int) : Datum → Int
  | .nan .. => 0
  | .infinity negative => if negative then low else high
  | .finite negative q => max low (min high (round (Single.signed negative q)))

end Binary

namespace Single

/-- The integer part as a signed 32-bit integer, saturating. -/
def toInt32 (x : Single) : Int32 :=
  Int32.ofInt (x.datum.toInt truncate (-2147483648) 2147483647)

/-- The integer part as an unsigned 32-bit integer, saturating. -/
def toUInt32 (x : Single) : UInt32 :=
  UInt32.ofNat (x.datum.toInt truncate 0 4294967295).toNat

end Single

end DrawPass
