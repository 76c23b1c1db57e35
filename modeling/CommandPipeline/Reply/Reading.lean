import CommandPipeline.Reply
import CommandPipeline.Decimal.Digits
import CommandPipeline.Text.Utf8
import CommandPipeline.Text.Quoted

/-!
# Reading values out of replies

Each reader expects one kind of reply and reports a mismatch for any other. Where a value may be
missing, nil reads as the empty string, the empty status or nothing. A string reply is read as text
only when it is UTF-8, and as an integer only when its text is a signed 64-bit decimal.
-/

namespace CommandPipeline

/-- Why a reply cannot be read as asked. -/
inductive ReadingError where
  /-- The reply is of another kind. -/
  | mismatch (expected found : Reply.Kind)
  /-- The text of a string reply is no integer in range. -/
  | notAnInteger (text : String)
  /-- The bytes of a string reply are not UTF-8. -/
  | notUtf8
  deriving DecidableEq, Repr

/-- The wording of a reading error. -/
def ReadingError.message : ReadingError → String
  | .mismatch expected found =>
    "reply type mismatch: expected " ++ expected.name ++ ", found " ++ found.name
  | .notAnInteger text => "string reply " ++ Text.quote text ++ " is not a decimal integer"
  | .notUtf8 => "string reply is not valid UTF-8"

namespace Reply

/-- The mismatch of a reply with the kind expected of it. -/
def mismatch (expected : Kind) (r : Reply) : ReadingError := .mismatch expected r.kind

/-- The value of an integer reply. -/
def toInteger : Reply → Except ReadingError Int
  | .integer value => .ok value
  | r => .error (r.mismatch .integer)

/-- The bytes as text. -/
def textOf (bytes : Bytes) : Except ReadingError String :=
  match Utf8.decode? bytes with
  | some text => .ok text
  | none => .error .notUtf8

/-- The integer that a byte string spells. -/
def integerOf (bytes : Bytes) : Except ReadingError Int := do
  let text ← textOf bytes
  match Decimal.readSigned? bytes with
  | some value => .ok value
  | none => .error (.notAnInteger text)

/-- The value of an integer reply, or of a string reply that spells an integer. -/
def toNumber : Reply → Except ReadingError Int
  | .integer value => .ok value
  | .string bytes => integerOf bytes
  | r => .error (r.mismatch .integer)

/-- The bytes of a string reply, nothing for nil. -/
def toOptional : Reply → Except ReadingError (Option Bytes)
  | .string bytes => .ok (some bytes)
  | .nil => .ok none
  | r => .error (r.mismatch .string)

/-- The bytes of a string reply, where nil reads as empty. -/
def toBytes (r : Reply) : Except ReadingError Bytes := r.toOptional.map (·.getD [])

/-- The text of a string reply, where nil reads as empty. -/
def toText (r : Reply) : Except ReadingError String := do textOf (← r.toBytes)

/-- The elements of an array reply. -/
def toItems : Reply → Except ReadingError (List Reply)
  | .array items => .ok items
  | r => .error (r.mismatch .array)

/-- The message of an error reply. -/
def toErrorMessage : Reply → Except ReadingError String
  | .error message => .ok message
  | r => .error (r.mismatch .error)

/-- The text of a status reply, where nil reads as empty. -/
def toStatus : Reply → Except ReadingError String
  | .status text => .ok text
  | .nil => .ok ""
  | r => .error (r.mismatch .status)

/-- The elements of an array of strings, nothing for each nil. The first element of another kind
decides the error. -/
def toOptionals (r : Reply) : Except ReadingError (List (Option Bytes)) := do
  (← r.toItems).mapM toOptional

/-- The elements of an array of strings, where each nil reads as empty. The first element of another
kind decides the error. -/
def toByteStrings (r : Reply) : Except ReadingError (List Bytes) := do
  (← r.toItems).mapM toBytes

/-- Like `toByteStrings`, with nothing for a reply that is nil as a whole. -/
def toByteStrings? (r : Reply) : Except ReadingError (Option (List Bytes)) :=
  match r with
  | .nil => .ok none
  | r => r.toByteStrings.map some

end Reply

end CommandPipeline
