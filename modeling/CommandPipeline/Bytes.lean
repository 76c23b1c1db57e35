/-!
# Byte strings

Everything that crosses the link is a byte string, kept as a list so that reading it is recursion on
data. The one delimiter of the wire format is the pair CR LF; `splitLine?` finds its first
occurrence, and `chunks` cuts a byte string into the pieces in which it may arrive.
-/

namespace CommandPipeline

/-- A byte string is a list of octets. -/
abbrev Bytes := List UInt8

namespace Bytes

/-- Carriage return, the first octet of a line end. -/
def cr : UInt8 := 13

/-- Line feed, the second octet of a line end. -/
def lf : UInt8 := 10

/-- The line end of the wire format. -/
def crlf : Bytes := [cr, lf]

/-- Looks for the first line end, with the octets already passed in reverse order. -/
def splitLineFrom (passed : Bytes) : Bytes → Option (Bytes × Bytes)
  | [] => none
  | b :: rest =>
    if b = cr ∧ rest.head? = some lf then some (passed.reverse, rest.tail)
    else splitLineFrom (b :: passed) rest

/-- The line before the first CR LF and the bytes after it, or nothing while no line has ended. -/
def splitLine? (bytes : Bytes) : Option (Bytes × Bytes) := splitLineFrom [] bytes

/-- Consecutive pieces of at most `size` bytes, with `fuel` bounding their number. -/
def chunksFrom (size : Nat) : Nat → Bytes → List Bytes
  | 0, _ => []
  | _, [] => []
  | fuel + 1, bytes => bytes.take size :: chunksFrom size fuel (bytes.drop size)

/-- Consecutive pieces of `size` bytes, the last of which may be shorter. A size of zero counts as
one. -/
def chunks (size : Nat) (bytes : Bytes) : List Bytes := chunksFrom (max 1 size) bytes.length bytes

end Bytes

end CommandPipeline
