import CommandPipeline.Decimal.Shortest
import CommandPipeline.Bytes

/-!
# Scores

A sorted-set score is a double, kept as its IEEE 754 bit pattern. A score is written in two ways.
The wire form is always positional and spells infinities with a sign. The display form marks whole
numbers by `.0` and changes to an exponent for very small and very large magnitudes. Both write the
fewest digits that read back as the same score.
-/

namespace CommandPipeline

/-- A score, as the 64 bits of a double. -/
structure Score where
  bits : UInt64
  deriving DecidableEq, Repr

namespace Score

/-- What a bit pattern stands for. -/
inductive Value where
  | nan
  | infinite (negative : Bool)
  /-- The number `m * 2 ^ q`, with its sign. -/
  | finite (negative : Bool) (m : Nat) (q : Int)
  deriving DecidableEq, Repr

/-- Reads the sign, exponent and significand fields. -/
def value (s : Score) : Value :=
  let bits := s.bits.toNat
  let negative : Bool := decide (bits / Nat.pow 2 63 = 1)
  let biased : Nat := bits / Nat.pow 2 52 % Nat.pow 2 11
  let fraction : Nat := bits % Nat.pow 2 52
  if biased = 2047 then if fraction = 0 then .infinite negative else .nan
  else if biased = 0 then .finite negative fraction (-1074)
  else .finite negative (Nat.pow 2 52 + fraction) ((biased : Int) - 1075)

/-- Numerical equality: no NaN equals anything, and the two zeros are equal. -/
def sameNumber (a b : Score) : Bool :=
  match a.value, b.value with
  | .nan, _ => false
  | _, .nan => false
  | .finite _ 0 _, .finite _ 0 _ => true
  | x, y => decide (x = y)

/-! ## Layout of digits -/

/-- `count` zeros. -/
def zeros (count : Nat) : List Char := List.replicate count '0'

/-- Digits written out with a point where the exponent puts it, padded by zeros as needed. A whole
number is followed by `wholeMark`. -/
def positional (wholeMark : List Char) (d : Decimal.Scientific) : List Char :=
  let digits := Nat.toDigits 10 d.digits
  if 0 ≤ d.exponent then digits ++ zeros d.exponent.toNat ++ wholeMark
  else
    let places := (-d.exponent).toNat
    if places < digits.length then
      digits.take (digits.length - places) ++ '.' :: digits.drop (digits.length - places)
    else '0' :: '.' :: (zeros (places - digits.length) ++ digits)

/-- Digits with a point after the first one and the power of ten after the letter `e`. -/
def exponential (d : Decimal.Scientific) : List Char :=
  let digits := Nat.toDigits 10 d.digits
  let power := d.exponent + (digits.length - 1 : Nat)
  let head := if digits.length = 1 then digits else digits.take 1 ++ '.' :: digits.drop 1
  head ++ 'e' :: (toString power).toList

/-- A minus sign in front of a negative number. -/
def signed (negative : Bool) (magnitude : List Char) : List Char :=
  if negative then '-' :: magnitude else magnitude

/-! ## The two written forms -/

/-- The wire form: positional whatever the magnitude, whole numbers without a point, infinities with
a sign. -/
def wireText (s : Score) : String :=
  match s.value with
  | .nan => "NaN"
  | .infinite negative => if negative then "-inf" else "+inf"
  | .finite negative m q =>
    String.ofList <| signed negative <|
      if m = 0 then ['0'] else positional [] (Decimal.shortest m q)

/-- Magnitudes from `10 ^ 16` up and below `10 ^ -4` are displayed with an exponent. -/
def needsExponent (d : Decimal.Scientific) : Bool :=
  let power := d.exponent + (Nat.toDigits 10 d.digits).length
  decide (16 < power) || decide (power ≤ -4)

/-- The display form: whole numbers end in `.0`, extreme magnitudes have an exponent. -/
def displayText (s : Score) : String :=
  match s.value with
  | .nan => "NaN"
  | .infinite negative => if negative then "-inf" else "inf"
  | .finite negative m q =>
    String.ofList <| signed negative <|
      if m = 0 then ['0', '.', '0']
      else
        let d := Decimal.shortest m q
        if needsExponent d then exponential d else positional ['.', '0'] d

end Score

end CommandPipeline
