import CommandPipeline.Decimal.Digits
import CommandPipeline.Text.Quoted

/-!
# Faults of the wire format

A stream of replies that breaks the format cannot be read any further: nothing tells where the next
reply would start. Each way of breaking it is a cause with its own wording.

The length of an array or a string is read as a signed 64-bit number and then put into a machine
word, and for a string two more bytes are added for its line end. Both steps could go wrong, with
"length out of range" and "bulk length out of range", but in a word of 64 bits neither does: a
length that gets that far is not negative, so it is less than `2 ^ 63`. There is no cause for them.
-/

namespace CommandPipeline.Wire

/-- Arrays may be nested this deep and no deeper. -/
def nestingLimit : Nat := 512

/-- How a stream of replies breaks the wire format. -/
inductive Fault where
  /-- A line starts with a byte that marks no kind of reply. -/
  | unexpectedMarker (byte : UInt8)
  /-- A number without any digit. -/
  | missingNumber
  /-- A byte among digits that is none. -/
  | invalidDigit (byte : UInt8)
  /-- A number outside the 64-bit range. -/
  | numberOutOfRange
  /-- The bytes of a string are not followed by a line end. -/
  | unterminatedString
  /-- An array inside as many arrays as are allowed. -/
  | tooDeep
  /-- A frame that ends before the reply that it should hold. -/
  | truncatedFrame
  deriving DecidableEq, Repr

namespace Fault

/-- The fault of a header line whose number cannot be read. -/
def ofNumber : Decimal.Fault → Fault
  | .empty => .missingNumber
  | .invalidDigit b => .invalidDigit b
  | .tooLarge => .numberOutOfRange

/-- A byte shown as the character with the same number, in quotation marks. -/
def shownByte (b : UInt8) : String := Text.quoteChar (Char.ofNat b.toNat)

/-- What is wrong with the stream. -/
def cause : Fault → String
  | .unexpectedMarker b => "unexpected reply marker " ++ shownByte b
  | .missingNumber => "expected a number"
  | .invalidDigit b => "invalid digit " ++ shownByte b
  | .numberOutOfRange => "number out of range"
  | .unterminatedString => "bulk string not terminated by CRLF"
  | .tooDeep => "nesting deeper than " ++ toString nestingLimit
  | .truncatedFrame => "truncated frame"

/-- The wording of a fault. -/
def message (f : Fault) : String := "protocol error: " ++ f.cause

end Fault

end CommandPipeline.Wire
