import CommandPipeline.Text.GraphemeExtend
import CommandPipeline.Bytes

/-!
# Quoted text

Messages show a text, a character or a byte string between quotation marks, so that its ends and
its invisible parts can be seen. Text escapes the usual control characters, the backslash and its
own quotation mark by a letter, and every other character that is unprintable or attaches to its
neighbour by its hexadecimal code point. Byte strings show printable ASCII and escape every other
byte by two hexadecimal digits.
-/

namespace CommandPipeline.Text

/-- A hexadecimal digit in lower case. -/
def hexDigit (d : Nat) : Char := if d < 10 then Char.ofNat (48 + d) else Char.ofNat (87 + d)

/-- A natural number in lower-case hexadecimal without leading zeros. -/
def hex (n : Nat) : String := String.ofList (Nat.toDigits 16 n)

/-- The letter by which a character is escaped, if it has one. The quotation mark in use is the
only one that needs escaping. -/
def escapeLetter? (mark c : Char) : Option Char :=
  if c = '\x00' then some '0'
  else if c = '\t' then some 't'
  else if c = '\r' then some 'r'
  else if c = '\n' then some 'n'
  else if c = '\\' ∨ c = mark then some c
  else none

/-- Appends a character as it appears between the given quotation marks. -/
def pushQuoted (mark : Char) (out : String) (c : Char) : String :=
  match escapeLetter? mark c with
  | some letter => (out.push '\\').push letter
  | none =>
    if isPrintable c && !isGraphemeExtender c then out.push c
    else ((out ++ "\\u\x7b") ++ hex c.toNat).push '\x7d'

/-- A text in double quotation marks. -/
def quote (text : String) : String :=
  (text.foldl (pushQuoted '"') "\"").push '"'

/-- A character in single quotation marks. -/
def quoteChar (c : Char) : String :=
  (pushQuoted '\'' "'" c).push '\''

/-- Appends a byte as it appears inside a quoted byte string. -/
def pushQuotedByte (out : String) (b : UInt8) : String :=
  if b = 10 then out ++ "\\n"
  else if b = 13 then out ++ "\\r"
  else if b = 9 then out ++ "\\t"
  else if b = 0 then out ++ "\\0"
  else if b = 34 ∨ b = 92 then (out.push '\\').push (Char.ofNat b.toNat)
  else if 0x20 ≤ b ∧ b ≤ 0x7e then out.push (Char.ofNat b.toNat)
  else ((out ++ "\\x").push (hexDigit (b.toNat / 16))).push (hexDigit (b.toNat % 16))

/-- A byte string in double quotation marks, marked as bytes. -/
def quoteBytes (bytes : Bytes) : String :=
  (bytes.foldl pushQuotedByte "b\"").push '"'

end CommandPipeline.Text
