import CommandPipeline.Wire.Decoder

/-!
# The stream of replies

A stream is the buffer of bytes received and not yet turned into replies, with the decoder that
knows how far the buffer is checked. `decode` takes every complete reply off the buffer, and `feed`
does so after some bytes have arrived. `parse` is the one-shot form for a single reply, and
`decodeOnce` the one-shot form for a whole buffer.

Replies that precede a fault are delivered with it, and their bytes are gone from the buffer.
-/

namespace CommandPipeline.Wire

/-- The bytes received and not yet decoded, and how far they are checked. -/
structure Stream where
  decoder : Decoder
  buffer : Bytes
  deriving DecidableEq, Repr

/-- The outcome of decoding as far as possible. -/
structure Decoded where
  /-- The stream with the complete replies taken off. -/
  stream : Stream
  /-- The complete replies in order. -/
  replies : List Reply
  /-- What stopped the decoding, if it was not the end of the bytes. -/
  fault : Option Fault

namespace Stream

/-- A stream on which nothing has arrived. -/
def fresh : Stream := ⟨.fresh, []⟩

/-- Bytes arrive. -/
def append (s : Stream) (bytes : Bytes) : Stream := ⟨s.decoder, s.buffer ++ bytes⟩

/-- Takes every complete frame off the buffer, after the replies in `passed`, which are in reverse
order. The bytes of a frame are gone before its reply is built. -/
def decodeFrom (passed : List Reply) (decoder : Decoder) (buffer : Bytes) : Decoded :=
  match _h : decoder.scan buffer with
  | (d, .incomplete) => ⟨⟨d, buffer⟩, passed.reverse, none⟩
  | (d, .malformed fault) => ⟨⟨d, buffer⟩, passed.reverse, some fault⟩
  | (d, .frame size) =>
    match Frame.reply (buffer.take size) with
    | .error fault => ⟨⟨⟨0, d.missing⟩, buffer.drop size⟩, passed.reverse, some fault⟩
    | .ok r => decodeFrom (r :: passed) ⟨0, d.missing⟩ (buffer.drop size)
termination_by buffer.length
decreasing_by exact Decoder.length_drop_lt_of_scan _h

/-- Takes every complete reply off the buffer. -/
def decode (s : Stream) : Decoded := decodeFrom [] s.decoder s.buffer

/-- Takes every complete reply off the buffer after some bytes have arrived. -/
def feed (s : Stream) (bytes : Bytes) : Decoded := (s.append bytes).decode

/-- Feeds chunks one by one, with the outcome after each. A fault is final. -/
def feedAll (s : Stream) : List Bytes → List Decoded
  | [] => []
  | chunk :: rest =>
    let outcome := s.feed chunk
    match outcome.fault with
    | some _ => [outcome]
    | none => outcome :: feedAll outcome.stream rest

end Stream

/-- Decodes a buffer with a decoder of its own. -/
def decodeOnce (buffer : Bytes) : Decoded := Stream.decode ⟨.fresh, buffer⟩

/-- The first reply of a byte string and the number of bytes that it takes, or nothing while it is
incomplete. -/
def parse (bytes : Bytes) : Except Fault (Option (Nat × Reply)) :=
  match (Decoder.fresh.scan bytes).2 with
  | .incomplete => .ok none
  | .malformed fault => .error fault
  | .frame size =>
    match Frame.reply (bytes.take size) with
    | .error fault => .error fault
    | .ok r => .ok (some (size, r))

end CommandPipeline.Wire
