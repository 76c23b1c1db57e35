import CommandPipeline.Bytes

/-!
# Text as UTF-8

Text is written as UTF-8 and read back in two ways. `decode?` is strict and refuses a byte string
that is not the encoding of any text. `decodeLossy` reads every byte string: each maximal prefix of
a character that cannot be completed becomes one replacement character.

The lossy reader is a machine that consumes one byte at a time. Between characters its state is
empty; inside one it knows how many continuation bytes are due and the range allowed for the next,
which rules out overlong forms, surrogates and scalars past the last plane.
-/

namespace CommandPipeline.Utf8

/-- The bytes of a text. -/
def encode (text : String) : Bytes := text.toByteArray.data.toList

/-- The text that a byte string encodes, if there is one. -/
def decode? (bytes : Bytes) : Option String := String.fromUTF8? bytes.toByteArray

/-- The character that stands for an ill-formed sequence. -/
def replacement : Char := '\ufffd'

/-- A character of which some bytes are still due. -/
structure Unfinished where
  /-- Continuation bytes still due, at least one. -/
  due : Nat
  /-- The least value allowed for the next byte. -/
  low : UInt8
  /-- The greatest value allowed for the next byte. -/
  high : UInt8
  /-- The scalar value read so far. -/
  value : Nat

/-- What a leading byte of a longer character announces, if it is one. -/
def Unfinished.ofLead? (b : UInt8) : Option Unfinished :=
  if 0xC2 ≤ b ∧ b ≤ 0xDF then some ⟨1, 0x80, 0xBF, b.toNat - 0xC0⟩
  else if b = 0xE0 then some ⟨2, 0xA0, 0xBF, 0⟩
  else if b = 0xED then some ⟨2, 0x80, 0x9F, 0xD⟩
  else if 0xE1 ≤ b ∧ b ≤ 0xEF then some ⟨2, 0x80, 0xBF, b.toNat - 0xE0⟩
  else if b = 0xF0 then some ⟨3, 0x90, 0xBF, 0⟩
  else if 0xF1 ≤ b ∧ b ≤ 0xF3 then some ⟨3, 0x80, 0xBF, b.toNat - 0xF0⟩
  else if b = 0xF4 then some ⟨3, 0x80, 0x8F, 4⟩
  else none

/-- The lossy reader: the characters read so far in reverse order, and the one under way. -/
structure Reader where
  passed : List Char
  under : Option Unfinished

/-- A byte at the start of a character. -/
def Reader.start (passed : List Char) (b : UInt8) : Reader :=
  if b < 0x80 then ⟨Char.ofNat b.toNat :: passed, none⟩
  else match Unfinished.ofLead? b with
    | some lead => ⟨passed, some lead⟩
    | none => ⟨replacement :: passed, none⟩

/-- One byte: it continues the character under way if its range allows, and else ends that one as
ill-formed and starts anew. -/
def Reader.step (reader : Reader) (b : UInt8) : Reader :=
  match reader.under with
  | none => start reader.passed b
  | some u =>
    if u.low ≤ b ∧ b ≤ u.high then
      let value := u.value * 64 + (b.toNat - 0x80)
      if u.due = 1 then ⟨Char.ofNat value :: reader.passed, none⟩
      else ⟨reader.passed, some ⟨u.due - 1, 0x80, 0xBF, value⟩⟩
    else start (replacement :: reader.passed) b

/-- The characters read, a last unfinished one counted as ill-formed. -/
def Reader.finish (reader : Reader) : List Char :=
  match reader.under with
  | none => reader.passed.reverse
  | some _ => (replacement :: reader.passed).reverse

/-- The text of any byte string, ill-formed sequences replaced. -/
def decodeLossy (bytes : Bytes) : String :=
  String.ofList (bytes.foldl Reader.step ⟨[], none⟩).finish

end CommandPipeline.Utf8
