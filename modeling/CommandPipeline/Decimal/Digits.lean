import CommandPipeline.Bytes

/-!
# Decimal integers

Lengths, integer replies, cursors and counts are all written in decimal. `ofNat` and `ofInt` write
the shortest form. Reading is one fold over the digits, `accumulate`, which stops at the first
fault from the left: a byte that is no digit, or a value above the limit. The readers differ only
in the signs that they admit and in the limit:

* `readHeader` reads the number of a header line, an optional minus and a magnitude below `2 ^ 63`;
* `readSigned?` reads a signed 64-bit integer, either sign admitted;
* `readUnsigned` reads an unsigned integer up to a limit, a plus admitted.
-/

namespace CommandPipeline.Decimal

/-! ## Writing -/

/-- The character of a digit below ten. -/
def digit (d : Nat) : UInt8 := UInt8.ofNat (48 + d)

/-- A natural number in decimal, without leading zeros. -/
def ofNat (n : Nat) : Bytes :=
  if n < 10 then [digit n] else ofNat (n / 10) ++ [digit (n % 10)]
termination_by n

/-- The minus sign. -/
def minus : UInt8 := 45

/-- The plus sign. -/
def plus : UInt8 := 43

/-- An integer in decimal, with a minus sign when it is negative. -/
def ofInt : Int → Bytes
  | .ofNat n => ofNat n
  | .negSucc n => minus :: ofNat (n + 1)

/-! ## Reading -/

/-- Why a number cannot be read. -/
inductive Fault where
  /-- There is no digit at all. -/
  | empty
  /-- This byte is no digit. -/
  | invalidDigit (byte : UInt8)
  /-- The value exceeds the limit. -/
  | tooLarge
  deriving DecidableEq, Repr

/-- The value of a digit character. -/
def digitValue? (b : UInt8) : Option Nat :=
  if 48 ≤ b ∧ b ≤ 57 then some (b.toNat - 48) else none

/-- Appends the digits to `value`, from the left, as long as the result stays within the limit. -/
def accumulate (limit : Nat) (value : Nat) : Bytes → Except Fault Nat
  | [] => .ok value
  | b :: rest =>
    match digitValue? b with
    | none => .error (.invalidDigit b)
    | some d =>
      if value * 10 + d ≤ limit then accumulate limit (value * 10 + d) rest else .error .tooLarge

/-- A non-empty run of digits with a value up to the limit. -/
def readDigits (limit : Nat) (digits : Bytes) : Except Fault Nat :=
  if digits.isEmpty then .error .empty else accumulate limit 0 digits

/-- The greatest magnitude of a number in a header line. -/
def headerLimit : Nat := Nat.pow 2 63 - 1

/-- The number of a header line: an optional minus sign and digits, of equal range on both sides of
zero. -/
def readHeader (line : Bytes) : Except Fault Int :=
  match line with
  | b :: digits =>
    if b = minus then (readDigits headerLimit digits).map fun n => -(n : Int)
    else (readDigits headerLimit line).map fun n => (n : Int)
  | [] => .error .empty

/-- A signed 64-bit integer with an optional sign of either kind. -/
def readSigned? (text : Bytes) : Option Int :=
  match text with
  | b :: digits =>
    if b = minus then (readDigits (Nat.pow 2 63) digits).toOption.map fun n => -(n : Int)
    else if b = plus then (readDigits headerLimit digits).toOption.map fun n => (n : Int)
    else (readDigits headerLimit text).toOption.map fun n => (n : Int)
  | [] => none

/-- An unsigned integer up to a limit, with an optional plus sign. A sign alone is reported as an
invalid digit. -/
def readUnsigned (limit : Nat) (text : Bytes) : Except Fault Nat :=
  match text with
  | [] => .error .empty
  | b :: digits =>
    if b = plus then
      if digits.isEmpty then .error (.invalidDigit b) else readDigits limit digits
    else readDigits limit text

/-- The range of a port number. -/
def portLimit : Nat := Nat.pow 2 16 - 1

/-- The range of an unsigned machine word. -/
def wordLimit : Nat := Nat.pow 2 64 - 1

end CommandPipeline.Decimal
