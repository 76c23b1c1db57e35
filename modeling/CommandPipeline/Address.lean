import CommandPipeline.Decimal.Digits
import CommandPipeline.Text.Utf8

/-!
# Server addresses

An address is a host with a port, or the path of a local socket. In writing, a path follows `unix:`
and a port follows the last colon. A text that ends in no port is a host as a whole, colons
included, and gets the standard port.
-/

namespace CommandPipeline

/-- Where a server listens. -/
inductive Address where
  | tcp (host : String) (port : UInt16)
  | unix (path : String)
  deriving DecidableEq, Repr

namespace Address

/-- The standard port of the service. -/
def standardPort : UInt16 := 6379

/-- The address that is used when none is given. -/
def standard : Address := .tcp "127.0.0.1" standardPort

/-- How many bytes a socket address has for a path and the zero byte behind it. -/
def pathSpace : Nat := 108

/-- What stands before the path of a local socket. -/
def pathMark : List Char := "unix:".toList

/-- The text before and after the last colon, if there is one. -/
def splitLastColon? : List Char → Option (List Char × List Char)
  | [] => none
  | c :: rest =>
    match splitLastColon? rest with
    | some (before, after) => some (c :: before, after)
    | none => if c = ':' then some ([], rest) else none

/-- The port that a text spells. -/
def readPort? (text : List Char) : Option UInt16 :=
  (Decimal.readUnsigned Decimal.portLimit (Utf8.encode (String.ofList text))).toOption.map
    Nat.toUInt16

/-- Removes the mark of a path, if it is there. -/
def afterPathMark? (text : List Char) : Option (List Char) :=
  if pathMark.isPrefixOf text then some (text.drop pathMark.length) else none

/-- The address that a list of characters spells. Every text spells one. -/
def ofChars (text : List Char) : Address :=
  match afterPathMark? text with
  | some path => .unix (String.ofList path)
  | none =>
    match splitLastColon? text with
    | none => .tcp (String.ofList text) standardPort
    | some (host, portText) =>
      match readPort? portText with
      | some port => .tcp (String.ofList host) port
      | none => .tcp (String.ofList text) standardPort

/-- The address that a text spells. -/
def parse (text : String) : Address := ofChars text.toList

/-- The written form of an address. -/
def display : Address → String
  | .tcp host port => host ++ ":" ++ toString port.toNat
  | .unix path => String.ofList pathMark ++ path

/-- The address is the path of a local socket. -/
def isUnix : Address → Bool
  | .tcp .. => false
  | .unix _ => true

end Address

end CommandPipeline
