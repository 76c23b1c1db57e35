import CommandPipeline.Wire.Element
import CommandPipeline.Reply
import CommandPipeline.Text.Utf8

/-!
# From a frame to its reply

A frame is the byte string of one outermost reply. `Frame.reply` builds the reply by recursion on
the nesting of arrays. It is meant for frames that the decoder has measured; on any other byte
string it reports the fault that it meets, or that the frame ends too early.
-/

namespace CommandPipeline.Wire.Frame

/-- Reads `count` replies one after the other with the given reader, after the ones in `passed`,
which are in reverse order. -/
def readMany (read : Bytes → Except Fault (Reply × Bytes)) :
    Nat → List Reply → Bytes → Except Fault (List Reply × Bytes)
  | 0, passed, bytes => .ok (passed.reverse, bytes)
  | count + 1, passed, bytes =>
    match read bytes with
    | .error e => .error e
    | .ok (r, rest) => readMany read count (r :: passed) rest

/-- A string of `size` bytes and the bytes behind its line end. -/
def readString (size : Nat) (bytes : Bytes) : Except Fault (Reply × Bytes) :=
  let content := bytes.take size
  if content.length < size then .error .truncatedFrame
  else .ok (.string content, (bytes.drop size).drop 2)

/-- Reads the reply at the front of a byte string, with arrays nested less than `depth` deep, and
gives the bytes behind it. -/
def readReply : Nat → Bytes → Except Fault (Reply × Bytes)
  | 0, _ => .error .truncatedFrame
  | _ + 1, [] => .error .truncatedFrame
  | depth + 1, marker :: tail =>
    match Bytes.splitLine? tail with
    | none => .error .truncatedFrame
    | some (line, rest) =>
      if marker = statusMarker then .ok (.status (Utf8.decodeLossy line), rest)
      else if marker = errorMarker then .ok (.error (Utf8.decodeLossy line), rest)
      else if marker = integerMarker then
        match Decimal.readHeader line with
        | .error e => .error (.ofNumber e)
        | .ok n => .ok (.integer n, rest)
      else if marker = stringMarker then
        match readLength line with
        | .error e => .error e
        | .ok none => .ok (.nil, rest)
        | .ok (some size) => readString size rest
      else if marker = arrayMarker then
        match readLength line with
        | .error e => .error e
        | .ok none => .ok (.nil, rest)
        | .ok (some count) =>
          match readMany (readReply depth) count [] rest with
          | .error e => .error e
          | .ok (items, rest) => .ok (.array items, rest)
      else .error (.unexpectedMarker marker)

/-- The reply that a frame holds. Each level of nesting takes at least one byte, so the length of
the frame bounds the depth. -/
def reply (frame : Bytes) : Except Fault Reply :=
  (readReply (frame.length + 1) frame).map (·.1)

end CommandPipeline.Wire.Frame
