import CommandPipeline.Wire.Stream
import CommandPipeline.Proofs.Wire.Scanning

/-!
# What is accepted as a reply

A reply is read in two passes that know nothing of each other: the scan finds where the frame ends,
and `Frame.readReply` builds the value from the frame. Each follows the grammar. The second pass
builds the value that a frame denotes (`Denotes.readReply`), so it cannot fail on what the first one
has found, and `parse` accepts exactly the grammar, with arrays nested no deeper than the limit.
-/

namespace CommandPipeline.Wire

open Bytes (OneLine crlf)
open Decimal (Spells)

/-! ## The value of a frame -/

/-- The value of a line on its own, and the bytes behind it. -/
theorem Frame.readReply_line (depth : Nat) (marker : UInt8) {line : Bytes} (hline : OneLine line)
    (rest : Bytes) :
    Frame.readReply (depth + 1) (marker :: (line ++ (crlf ++ rest))) =
      if marker = statusMarker then .ok (.status (Utf8.decodeLossy line), rest)
      else if marker = errorMarker then .ok (.error (Utf8.decodeLossy line), rest)
      else if marker = integerMarker then
        match Decimal.readHeader line with
        | .error e => .error (.ofNumber e)
        | .ok n => .ok (.integer n, rest)
      else if marker = stringMarker then
        match readLength line with
        | .error e => .error e
        | .ok none => .ok (.nil, rest)
        | .ok (some size) => Frame.readString size rest
      else if marker = arrayMarker then
        match readLength line with
        | .error e => .error e
        | .ok none => .ok (.nil, rest)
        | .ok (some count) =>
          match Frame.readMany (Frame.readReply depth) count [] rest with
          | .error e => .error e
          | .ok (items, rest) => .ok (.array items, rest)
      else .error (.unexpectedMarker marker) := by
  rw [Frame.readReply]
  generalize hsplit : Bytes.splitLine? (line ++ (crlf ++ rest)) = parts
  obtain rfl := hsplit.symm.trans (Bytes.splitLine?_eq_some_iff.2 ⟨hline, rfl⟩)
  rfl

/-- The content of a string is read up to the line end behind it. -/
@[simp] theorem Frame.readString_content (content rest : Bytes) :
    Frame.readString content.length (content ++ (crlf ++ rest)) = .ok (.string content, rest) := by
  simp [Frame.readString, crlf]

/-- The frame of a scalar is read as this scalar, and what is behind it is left. -/
theorem Scalar.readReply {frame : Bytes} {r : Reply} (h : Scalar frame r) (depth : Nat)
    (rest : Bytes) : Frame.readReply (depth + 1) (frame ++ rest) = .ok (r, rest) := by
  cases h with
  | status h =>
      rw [List.cons_append, List.append_assoc, Frame.readReply_line _ _ h]
      rfl
  | error h =>
      rw [List.cons_append, List.append_assoc, Frame.readReply_line _ _ h]
      rfl
  | integer h =>
      rw [List.cons_append, List.append_assoc, Frame.readReply_line _ _ h.oneLine,
        Decimal.readHeader_eq_ok_iff.2 h]
      rfl
  | nilString h hn =>
      rw [List.cons_append, List.append_assoc, Frame.readReply_line _ _ h.oneLine,
        readLength_eq_none_iff.2 ⟨_, hn, h⟩]
      rfl
  | string h =>
      simp only [List.cons_append, List.append_assoc]
      rw [Frame.readReply_line _ _ h.oneLine, readLength_eq_some_iff.2 h]
      exact Frame.readString_content _ rest
  | nilArray h hn =>
      rw [List.cons_append, List.append_assoc, Frame.readReply_line _ _ h.oneLine,
        readLength_eq_none_iff.2 ⟨_, hn, h⟩]
      rfl

mutual

/-- In front of a frame the reader builds the value that the frame denotes. -/
theorem Denotes.readReply {frame : Bytes} {r : Reply} (h : Denotes frame r) {depth : Nat}
    (hdepth : r.nesting < depth) (rest : Bytes) :
    Frame.readReply depth (frame ++ rest) = .ok (r, rest) := by
  -- Each level of nesting takes one from the depth that the reader may still go down.
  obtain ⟨depth, rfl⟩ : ∃ e, depth = e + 1 := ⟨depth - 1, by omega⟩
  cases h with
  | scalar h => exact h.readReply depth rest
  | @array line body items hline h =>
      rw [Reply.nesting] at hdepth
      have hitems := h.readMany (Nat.le_of_lt_succ hdepth) [] rest
      simp only [List.cons_append, List.append_assoc]
      rw [Frame.readReply_line _ _ hline.oneLine, readLength_eq_some_iff.2 hline]
      show (match Frame.readMany (Frame.readReply depth) items.length [] (body ++ rest) with
        | .error e => _
        | .ok (items, rest) => _) = _
      rw [hitems]
      rfl

/-- The elements of an array are read one after the other, by induction on them. -/
theorem DenoteEach.readMany {body : Bytes} {items : List Reply} (h : DenoteEach body items)
    {depth : Nat} (hdepth : Reply.levels items ≤ depth) (passed : List Reply) (rest : Bytes) :
    Frame.readMany (Frame.readReply depth) items.length passed (body ++ rest) =
      .ok (passed.reverse ++ items, rest) := by
  cases h with
  | nil => simp [Frame.readMany]
  | @cons frame body r items hr hrest =>
      rw [Reply.levels] at hdepth
      rw [List.length_cons, Frame.readMany, List.append_assoc, hr.readReply (by omega)]
      show Frame.readMany (Frame.readReply depth) items.length (r :: passed) (body ++ rest) = _
      rw [hrest.readMany (by omega), List.reverse_cons, List.append_assoc]
      rfl

end

/-- A frame is read as the reply that it denotes. -/
theorem Denotes.reply {frame : Bytes} {r : Reply} (h : Denotes frame r) :
    Frame.reply frame = .ok r := by
  have hread := h.readReply (Nat.lt_succ_of_lt h.nesting_lt_length) []
  rw [List.append_nil] at hread
  rw [Frame.reply, hread]
  rfl

/-- A frame denotes one reply only. -/
theorem Denotes.unique {frame : Bytes} {r s : Reply} (hr : Denotes frame r) (hs : Denotes frame s) :
    r = s :=
  Except.ok.inj (hr.reply.symm.trans hs.reply)

/-! ## Scanning from the start -/

/-- The scanner finds the end of a frame wherever the grammar has it. -/
theorem Denotes.scan {frame : Bytes} {r : Reply} (h : Denotes frame r)
    (hdepth : r.nesting ≤ nestingLimit) (rest : Bytes) :
    Decoder.fresh.scan (frame ++ rest) = (⟨frame.length, []⟩, .frame frame.length) := by
  have hscan := h.scanFrom_append .fresh hdepth rest
  rw [Decoder.scan]
  simpa [Decoder.fresh, Decoder.advance_nil] using hscan

/-- Where a scan from the start finds the end of a frame, a frame of the grammar ends. -/
theorem exists_denotes_of_scan {bytes : Bytes} {d : Decoder} {n : Nat}
    (h : Decoder.fresh.scan bytes = (d, .frame n)) :
    n ≤ bytes.length ∧ d = ⟨n, []⟩ ∧
      ∃ r, Denotes (bytes.take n) r ∧ r.nesting ≤ nestingLimit := by
  obtain ⟨frame, r, tail, hbytes, hr, hdepth, hadvance⟩ :=
    Decoder.passesFrame_of_scanFrom (Nat.zero_le _) h
  have hfresh : bytes = frame ++ tail := hbytes
  simp only [Decoder.fresh, Decoder.advance_nil, Nat.zero_add, Prod.mk.injEq,
    Verdict.frame.injEq] at hadvance
  obtain ⟨rfl, rfl⟩ := hadvance
  subst hfresh
  refine ⟨by simp, rfl, r, ?_, hdepth⟩
  rwa [List.take_left]

/-- A frame at the front of the bytes is parsed. -/
theorem parse_of_denotes {bytes : Bytes} {n : Nat} {r : Reply} (hle : n ≤ bytes.length)
    (hr : Denotes (bytes.take n) r) (hdepth : r.nesting ≤ nestingLimit) :
    parse bytes = .ok (some (n, r)) := by
  have hscan := hr.scan hdepth (bytes.drop n)
  rw [List.take_append_drop, List.length_take_of_le hle] at hscan
  rw [parse, hscan]
  dsimp only
  rw [hr.reply]

/-- What is parsed is a frame at the front of the bytes, not nested too deeply. -/
theorem denotes_of_parse {bytes : Bytes} {n : Nat} {r : Reply}
    (h : parse bytes = .ok (some (n, r))) :
    n ≤ bytes.length ∧ Denotes (bytes.take n) r ∧ r.nesting ≤ nestingLimit := by
  rw [parse] at h
  split at h
  · cases h
  · cases h
  · next size hverdict =>
    have hscan : Decoder.fresh.scan bytes = ((Decoder.fresh.scan bytes).1, .frame size) :=
      Prod.ext rfl hverdict
    obtain ⟨hle, -, s, hs, hdepth⟩ := exists_denotes_of_scan hscan
    -- The scan has found a frame, so the second pass gives the value of that frame.
    rw [hs.reply] at h
    obtain ⟨rfl, rfl⟩ := Prod.mk.inj (Option.some.inj (Except.ok.inj h))
    exact ⟨hle, hs, hdepth⟩

/-- `parse` accepts exactly the frames of the grammar that are not nested too deep, with the values
that they denote. -/
theorem parse_eq_some_iff (bytes : Bytes) (n : Nat) (r : Reply) :
    parse bytes = .ok (some (n, r)) ↔
      n ≤ bytes.length ∧ Denotes (bytes.take n) r ∧ r.nesting ≤ nestingLimit :=
  ⟨denotes_of_parse, fun ⟨hle, hr, hdepth⟩ => parse_of_denotes hle hr hdepth⟩

end CommandPipeline.Wire
