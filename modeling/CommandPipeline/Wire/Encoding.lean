import CommandPipeline.Wire.Element

/-!
# Writing the wire format

A command is sent as an array of strings. Every string is preceded by its length, so a field may
hold any bytes, line ends included.
-/

namespace CommandPipeline.Wire

/-- A marker, a number and a line end. -/
def header (marker : UInt8) (n : Nat) : Bytes := marker :: Decimal.ofNat n ++ Bytes.crlf

/-- The header of an array with this many elements. -/
def arrayHeader (count : Nat) : Bytes := header arrayMarker count

/-- A string with its length in front and a line end behind. -/
def stringElement (bytes : Bytes) : Bytes :=
  header stringMarker bytes.length ++ bytes ++ Bytes.crlf

/-- An array of strings. -/
def fieldsFrame (fields : List Bytes) : Bytes :=
  arrayHeader fields.length ++ fields.flatMap stringElement

end CommandPipeline.Wire
