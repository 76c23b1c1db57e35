import CommandPipeline.Proofs.Wire.Segmentation

/-!
# Decoding by positions, with checks

The scan and the second pass are written here a second time, on positions in the whole buffer and
with a check in front of every access: a byte or a slice that is not there, a count of missing
elements that would go below zero, and a string that ends behind its frame each make the result
`none`. For the scan these functions agree with the unchecked ones whenever no count is zero
(`Decoder.scan?_eq`), and for the second pass on every frame of the grammar (`Denotes.replyAt?`).
`Stream.decode?` puts the two together.
-/

namespace CommandPipeline

namespace Bytes

/-- The bytes from one position up to another one, if the byte string goes that far. -/
def slice? (bytes : Bytes) (start stop : Nat) : Option Bytes :=
  if start ≤ stop ∧ stop ≤ bytes.length then some ((bytes.take stop).drop start) else none

/-- A slice of three parts is the middle one. -/
@[simp] theorem slice?_append (before middle after : Bytes) :
    slice? (before ++ (middle ++ after)) before.length (before.length + middle.length) =
      some middle := by
  have hin : before.length ≤ before.length + middle.length ∧
      before.length + middle.length ≤ (before ++ (middle ++ after)).length := by
    simp only [List.length_append]
    omega
  rw [slice?, if_pos hin, ← List.append_assoc, List.take_left' (List.length_append ..),
    List.drop_left]

/-- The slice from a position to the end. -/
theorem slice?_length {bytes : Bytes} {start : Nat} (h : start ≤ bytes.length) :
    slice? bytes start bytes.length = some (bytes.drop start) := by
  rw [slice?, if_pos ⟨h, Nat.le_refl _⟩, List.take_length]

end Bytes

namespace Wire

open Bytes (OneLine crlf slice?)

/-! ## The scan with checks -/

/-- Whether the string is all there whose header, of `headerBytes` bytes, starts at a position. -/
def Element.stringAt? (data : Bytes) (start headerBytes size : Nat) : Option Element :=
  let stop := start + headerBytes + size + 2
  if data.length < stop then some .unfinished
  else
    match slice? data (stop - 2) stop with
    | none => none
    | some lineEnd =>
      some (if lineEnd = crlf then .whole (headerBytes + size + 2) 0
        else .malformed .unterminatedString)

/-- Measures the element at a position. -/
def Element.at? (data : Bytes) (start : Nat) : Option Element :=
  match data[start]? with
  | none => none
  | some marker =>
    match slice? data (start + 1) data.length with
    | none => none
    | some tail =>
      match Bytes.splitLine? tail with
      | none => some .unfinished
      | some (line, _) =>
        match Header.read marker line with
        | .error fault => some (.malformed fault)
        | .ok .plain => some (.whole (headerSize line) 0)
        | .ok (.string size) => stringAt? data start (headerSize line) size
        | .ok (.array count) => some (.whole (headerSize line) count)

/-- A string element is checked for its length first and then for its line end. -/
theorem Element.ofString_eq (headerBytes size : Nat) (rest : Bytes) :
    Element.ofString headerBytes size rest =
      if rest.length < size + 2 then .unfinished
      else if (rest.drop size).take 2 = crlf then .whole (headerBytes + size + 2) 0
      else .malformed .unterminatedString := by
  have hshort : rest.length < size + 2 ↔ (rest.drop size).length < 2 := by
    rw [List.length_drop]
    omega
  rw [Element.ofString]
  simp only [hshort]
  generalize rest.drop size = behind
  rcases behind with _ | ⟨a, _ | ⟨b, tail⟩⟩
  · rfl
  · rfl
  · rw [if_neg (by simp)]
    simp [crlf]

/-- With checks before every access, a string element is read in the same way. -/
theorem Element.stringAt?_append (before rest : Bytes) (headerBytes size start : Nat)
    (h : before.length = start + headerBytes) :
    stringAt? (before ++ rest) start headerBytes size = some (.ofString headerBytes size rest) := by
  rw [stringAt?, Element.ofString_eq, List.length_append, ← h]
  by_cases hshort : rest.length < size + 2
  · rw [if_pos hshort]
    exact if_pos (by omega)
  · -- The announced bytes and two more are there, so the slice is.
    have hslice : slice? (before ++ rest) (before.length + size) (before.length + size + 2) =
        some ((rest.drop size).take 2) := by
      rw [slice?, if_pos (by rw [List.length_append]; omega), List.drop_take,
        List.drop_length_add_append, Nat.add_sub_cancel_left]
    rw [if_neg hshort]
    show ite _ _ _ = _
    rw [if_neg (by omega), Nat.add_sub_cancel, hslice]

/-- With checks before every access, an element within the buffer is read in the same way. -/
theorem Element.at?_eq {data : Bytes} {start : Nat} (h : start < data.length) :
    at? data start = some (Element.read (data.drop start)) := by
  rw [List.drop_eq_getElem_cons h, at?, List.getElem?_eq_getElem h]
  simp only [Bytes.slice?_length (Nat.succ_le_of_lt h)]
  rw [Element.read]
  cases hsplit : Bytes.splitLine? (data.drop (start + 1)) with
  | none => rfl
  | some parts =>
      obtain ⟨line, rest⟩ := parts
      obtain ⟨-, htail⟩ := Bytes.splitLine?_eq_some_iff.1 hsplit
      dsimp only
      cases Header.read data[start] line with
      | error fault => rfl
      | ok header =>
          cases header with
          | plain => rfl
          | array count => rfl
          | string size =>
              -- What stands before the content are the bytes passed so far and the header.
              have hdata : data = (data.take start ++ data[start] :: (line ++ crlf)) ++ rest := by
                conv => lhs; rw [← List.take_append_drop start data, List.drop_eq_getElem_cons h,
                  htail]
                simp
              have hlen : (data.take start ++ data[start] :: (line ++ crlf)).length =
                  start + headerSize line := by
                rw [List.length_append, List.length_take_of_le (Nat.le_of_lt h)]
                simp [headerSize, crlf]
              have happend := stringAt?_append _ rest (headerSize line) size start hlen
              rwa [← hdata] at happend

/-- What the checked reader finds lies in the buffer, and the other one finds it too. -/
theorem Element.read_of_at? {data : Bytes} {start : Nat} {e : Element}
    (h : at? data start = some e) :
    start < data.length ∧ Element.read (data.drop start) = e := by
  by_cases hin : start < data.length
  · rw [at?_eq hin] at h
    exact ⟨hin, Option.some.inj h⟩
  · rw [at?, List.getElem?_eq_none (Nat.le_of_not_lt hin)] at h
    cases h

namespace Decoder

/-- No array that has begun is still counted once nothing of it is missing. -/
def Counting (missing : List Nat) : Prop := ∀ k ∈ missing, 0 < k

/-- Counts one element as there. A count of zero cannot go down. -/
def close? : List Nat → Option (List Nat)
  | [] => some []
  | 0 :: _ => none
  | 1 :: outer => close? outer
  | (k + 2) :: outer => some ((k + 1) :: outer)

/-- Where every array that is open misses an element, none is counted below zero. -/
theorem close?_eq {missing : List Nat} (h : Counting missing) :
    close? missing = some (close missing) := by
  fun_induction close? missing with
  | case1 => rfl
  | case2 outer => exact absurd (h 0 List.mem_cons_self) (Nat.lt_irrefl 0)
  | case3 outer ih =>
      rw [ih (List.forall_mem_cons.1 h).2, close, if_neg (Nat.lt_irrefl 1)]
  | case4 k outer =>
      rw [close, if_pos (by omega)]
      rfl

/-- An array that is still open behind an element misses a further one. -/
theorem Counting.close {missing : List Nat} (h : Counting missing) :
    Counting (Decoder.close missing) := by
  fun_induction Decoder.close missing with
  | case1 => exact h
  | case2 k outer hk =>
      obtain ⟨-, houter⟩ := List.forall_mem_cons.1 h
      exact List.forall_mem_cons.2 ⟨by omega, houter⟩
  | case3 k outer hk ih => exact ih (List.forall_mem_cons.1 h).2

/-- Counts of zero do not come up. -/
theorem Counting.scanFrom {d : Decoder} (h : Counting d.missing) (rest : Bytes) :
    Counting (d.scanFrom rest).1.missing := by
  fun_induction Decoder.scanFrom d rest with
  | case1 | case2 | case5 => exact h
  | case3 => exact List.forall_mem_nil _
  | case4 d rest size checked hread hclose ih => exact ih h.close
  | case6 d rest size k hread checked hk hdepth ih =>
      exact ih (List.forall_mem_cons.2 ⟨Nat.pos_of_ne_zero hk, h⟩)

/-- Scans the buffer from where the decoder stopped. -/
def scan? (d : Decoder) (data : Bytes) : Option (Decoder × Verdict) :=
  if data.length ≤ d.checked then some (d, .incomplete)
  else
    match _h : Element.at? data d.checked with
    | none => none
    | some .unfinished => some (d, .incomplete)
    | some (.malformed fault) => some (d, .malformed fault)
    | some (.whole size children) =>
      let checked := d.checked + size
      if children = 0 then
        match close? d.missing with
        | none => none
        | some [] => some (⟨checked, []⟩, .frame checked)
        | some missing => scan? ⟨checked, missing⟩ data
      else if nestingLimit ≤ d.missing.length then
        some (⟨checked, d.missing⟩, .malformed .tooDeep)
      else scan? ⟨checked, children :: d.missing⟩ data
termination_by data.length - d.checked
decreasing_by
  all_goals
    have hsize := (Element.read_whole (Element.read_of_at? _h).2).1
    omega

/-- No frame is empty. -/
theorem pos_of_scan?_frame {d d' : Decoder} {data : Bytes} {n : Nat}
    (h : d.scan? data = some (d', .frame n)) : 0 < n := by
  fun_induction scan? d data with
  | case1 | case2 | case3 | case4 | case5 | case8 => cases h
  | case6 d hin size checked hclose hat =>
      have hsize := (Element.read_whole (Element.read_of_at? hat).2).1
      simp only [Option.some.injEq, Prod.mk.injEq, Verdict.frame.injEq] at h
      omega
  | case7 d hin size checked missing hne hclose hat ih => exact ih h
  | case9 d hin size children hat checked hne hdepth ih => exact ih h

/-- The checked scan reads the same bytes as the other, and no access fails. -/
theorem scan?_eq {d : Decoder} (h : Counting d.missing) (data : Bytes) :
    d.scan? data = some (d.scan data) := by
  -- The cases are those of the checked scan, and in each the unchecked one reads the same element.
  fun_induction scan? d data with
  | case1 d hend => simp [scan, List.drop_eq_nil_of_le hend]
  | case2 d hin hat =>
      rw [Element.at?_eq (Nat.lt_of_not_le hin)] at hat
      cases hat
  | case3 d hin hat => rw [scan, d.scanFrom_unfinished (Element.read_of_at? hat).2]
  | case4 d hin fault hat => rw [scan, d.scanFrom_malformed (Element.read_of_at? hat).2]
  | case5 d hin size hclose hat =>
      rw [close?_eq h] at hclose
      cases hclose
  | case6 d hin size checked hclose hat =>
      rw [close?_eq h, Option.some.injEq] at hclose
      rw [scan, d.scanFrom_scalar (Element.read_of_at? hat).2, advance, hclose]
  | case7 d hin size checked missing hne hclose hat ih =>
      rw [close?_eq h, Option.some.injEq] at hclose
      subst hclose
      rw [scan, d.scanFrom_scalar (Element.read_of_at? hat).2, advance_of_close_ne_nil hne,
        List.drop_drop]
      exact ih h.close
  | case8 d hin size children hat checked hne hdeep =>
      rw [scan, d.scanFrom_tooDeep (Element.read_of_at? hat).2 hne hdeep]
  | case9 d hin size children hat checked hne hdepth ih =>
      rw [scan, d.scanFrom_array (Element.read_of_at? hat).2 hne (Nat.lt_of_not_le hdepth),
        List.drop_drop]
      exact ih (List.forall_mem_cons.2 ⟨Nat.pos_of_ne_zero hne, h⟩)

end Decoder

/-! ## The second pass with checks -/

namespace Frame

/-- Reads `count` replies one after the other with the given reader, after the ones in `passed`,
which are in reverse order. -/
def manyAt? (read : Nat → Option (Except Fault (Nat × Reply))) :
    Nat → List Reply → Nat → Option (Except Fault (Nat × List Reply))
  | 0, passed, start => some (.ok (start, passed.reverse))
  | count + 1, passed, start =>
    match read start with
    | none => none
    | some (.error e) => some (.error e)
    | some (.ok (stop, r)) => manyAt? read count (r :: passed) stop

/-- A string of `size` bytes that lies with its line end within the frame. -/
def stringAt? (frame : Bytes) (start size : Nat) : Option (Except Fault (Nat × Reply)) :=
  if frame.length < start + size + 2 then none
  else
    match slice? frame start (start + size) with
    | none => none
    | some content => some (.ok (start + size + 2, .string content))

/-- The reply that a header line starts. The bytes behind the line start at `next`, and `read` reads
the elements of an array. -/
def lineAt? (frame : Bytes) (read : Nat → Option (Except Fault (Nat × Reply))) (marker : UInt8)
    (line : Bytes) (next : Nat) : Option (Except Fault (Nat × Reply)) :=
  if marker = statusMarker then some (.ok (next, .status (Utf8.decodeLossy line)))
  else if marker = errorMarker then some (.ok (next, .error (Utf8.decodeLossy line)))
  else if marker = integerMarker then
    match Decimal.readHeader line with
    | .error e => some (.error (.ofNumber e))
    | .ok n => some (.ok (next, .integer n))
  else if marker = stringMarker then
    match readLength line with
    | .error e => some (.error e)
    | .ok none => some (.ok (next, .nil))
    | .ok (some size) => stringAt? frame next size
  else if marker = arrayMarker then
    match readLength line with
    | .error e => some (.error e)
    | .ok none => some (.ok (next, .nil))
    | .ok (some count) =>
      match manyAt? read count [] next with
      | none => none
      | some (.error e) => some (.error e)
      | some (.ok (stop, items)) => some (.ok (stop, .array items))
  else some (.error (.unexpectedMarker marker))

/-- Reads the reply at a position of a frame, with arrays nested less than `depth` deep, and gives
the position behind it. -/
def replyAt? (frame : Bytes) : Nat → Nat → Option (Except Fault (Nat × Reply))
  | 0, _ => some (.error .truncatedFrame)
  | depth + 1, start =>
    match frame[start]? with
    | none => some (.error .truncatedFrame)
    | some marker =>
      match slice? frame (start + 1) frame.length with
      | none => none
      | some tail =>
        match Bytes.splitLine? tail with
        | none => some (.error .truncatedFrame)
        | some (line, _) =>
          lineAt? frame (replyAt? frame depth) marker line (start + headerSize line)

/-- The reply that a frame holds, and the position behind it. -/
def reply? (frame : Bytes) : Option (Except Fault (Nat × Reply)) :=
  replyAt? frame (frame.length + 1) 0

/-- Behind the bytes in `before` the reader takes the line that stands there. -/
theorem replyAt?_line (depth : Nat) (before : Bytes) (marker : UInt8) {line : Bytes}
    (hline : OneLine line) (rest : Bytes) :
    replyAt? (before ++ marker :: (line ++ (crlf ++ rest))) (depth + 1) before.length =
      lineAt? (before ++ marker :: (line ++ (crlf ++ rest)))
        (replyAt? (before ++ marker :: (line ++ (crlf ++ rest))) depth) marker line
        (before.length + headerSize line) := by
  generalize hframe : before ++ marker :: (line ++ (crlf ++ rest)) = frame
  have hmarker : frame[before.length]? = some marker := by simp [← hframe]
  have htail : slice? frame (before.length + 1) frame.length = some (line ++ (crlf ++ rest)) := by
    rw [Bytes.slice?_length (by simp [← hframe])]
    simp [← hframe]
  have hsplit : Bytes.splitLine? (line ++ (crlf ++ rest)) = some (line, rest) :=
    Bytes.splitLine?_eq_some_iff.2 ⟨hline, rfl⟩
  simp only [replyAt?, hmarker, htail, hsplit]

/-- A line that is a frame of its own. -/
theorem replyAt?_wholeLine (depth : Nat) (before : Bytes) (marker : UInt8) {line : Bytes}
    (hline : OneLine line) (after : Bytes) {r : Reply}
    (h : ∀ frame read next, lineAt? frame read marker line next = some (.ok (next, r))) :
    replyAt? (before ++ (marker :: (line ++ crlf) ++ after)) (depth + 1) before.length =
      some (.ok (before.length + (marker :: (line ++ crlf)).length, r)) := by
  have hsize : (marker :: (line ++ crlf)).length = headerSize line := by simp [headerSize, crlf]
  rw [List.cons_append, List.append_assoc, replyAt?_line _ _ _ hline, h, hsize]

/-- The content of a string lies between its header and its line end. -/
theorem stringAt?_append (before content after : Bytes) :
    stringAt? (before ++ (content ++ (crlf ++ after))) before.length content.length =
      some (.ok (before.length + content.length + 2, .string content)) := by
  have hin : ¬ (before ++ (content ++ (crlf ++ after))).length <
      before.length + content.length + 2 := by
    simp only [List.length_append, crlf, List.length_cons, List.length_nil]
    omega
  rw [stringAt?, if_neg hin]
  simp

/-- An array is read by its header line and then its elements. -/
theorem lineAt?_array {frame line : Bytes} {read : Nat → Option (Except Fault (Nat × Reply))}
    {next count stop : Nat} {items : List Reply} (hcount : readLength line = .ok (some count))
    (hitems : manyAt? read count [] next = some (.ok (stop, items))) :
    lineAt? frame read arrayMarker line next = some (.ok (stop, .array items)) := by
  rw [lineAt?, hcount]
  dsimp only
  rw [hitems]
  rfl

end Frame

/-- A scalar is read in the middle of the bytes, and no access fails. -/
theorem Scalar.replyAt? {frame : Bytes} {r : Reply} (h : Scalar frame r) (depth : Nat)
    (before after : Bytes) :
    Frame.replyAt? (before ++ (frame ++ after)) (depth + 1) before.length =
      some (.ok (before.length + frame.length, r)) := by
  cases h with
  | status h => exact Frame.replyAt?_wholeLine _ _ _ h _ fun _ _ _ => rfl
  | error h => exact Frame.replyAt?_wholeLine _ _ _ h _ fun _ _ _ => rfl
  | integer h =>
      refine Frame.replyAt?_wholeLine _ _ _ h.oneLine _ fun _ _ _ => ?_
      rw [Frame.lineAt?, Decimal.readHeader_eq_ok_iff.2 h]
      rfl
  | nilString h hn =>
      refine Frame.replyAt?_wholeLine _ _ _ h.oneLine _ fun _ _ _ => ?_
      rw [Frame.lineAt?, readLength_eq_none_iff.2 ⟨_, hn, h⟩]
      rfl
  | @string line content h =>
      -- In front of the content stand the bytes passed so far and its header.
      have hsize : (before ++ stringMarker :: (line ++ crlf)).length =
          before.length + headerSize line := by simp [headerSize, crlf]
      have hcontent :=
        Frame.stringAt?_append (before ++ stringMarker :: (line ++ crlf)) content after
      have hstop : (stringMarker :: (line ++ (crlf ++ (content ++ crlf)))).length =
          headerSize line + content.length + 2 := by
        rw [length_header, List.length_append, ← Nat.add_assoc]
        rfl
      rw [hsize] at hcontent
      rw [hstop]
      simp only [List.cons_append, List.append_assoc] at hcontent ⊢
      rw [Frame.replyAt?_line _ _ _ h.oneLine, Frame.lineAt?, readLength_eq_some_iff.2 h]
      refine hcontent.trans ?_
      simp only [Nat.add_assoc]
  | nilArray h hn =>
      refine Frame.replyAt?_wholeLine _ _ _ h.oneLine _ fun _ _ _ => ?_
      rw [Frame.lineAt?, readLength_eq_none_iff.2 ⟨_, hn, h⟩]
      rfl

mutual

/-- A frame of the grammar is read in place, and no access is outside of it. -/
theorem Denotes.replyAt? {frame : Bytes} {r : Reply} (h : Denotes frame r) {depth : Nat}
    (hdepth : r.nesting < depth) (before after : Bytes) :
    Frame.replyAt? (before ++ (frame ++ after)) depth before.length =
      some (.ok (before.length + frame.length, r)) := by
  obtain ⟨depth, rfl⟩ : ∃ e, depth = e + 1 := ⟨depth - 1, by omega⟩
  cases h with
  | scalar h => exact h.replyAt? depth before after
  | @array line body items hline h =>
      rw [Reply.nesting] at hdepth
      have hitems := h.manyAt? (Nat.le_of_lt_succ hdepth) []
        (before ++ arrayMarker :: (line ++ crlf)) after
      have hsize : (before ++ arrayMarker :: (line ++ crlf)).length =
          before.length + headerSize line := by simp [headerSize, crlf]
      rw [hsize] at hitems
      simp only [List.cons_append, List.append_assoc] at hitems ⊢
      rw [Frame.replyAt?_line _ _ _ hline.oneLine,
        Frame.lineAt?_array (readLength_eq_some_iff.2 hline) hitems, length_header, Nat.add_assoc]
      rfl

/-- The elements of an array are read in the middle of the bytes, by induction on them. -/
theorem DenoteEach.manyAt? {body : Bytes} {items : List Reply} (h : DenoteEach body items)
    {depth : Nat} (hdepth : Reply.levels items ≤ depth) (passed : List Reply)
    (before after : Bytes) :
    Frame.manyAt? (Frame.replyAt? (before ++ (body ++ after)) depth) items.length passed
        before.length = some (.ok (before.length + body.length, passed.reverse ++ items)) := by
  cases h with
  | nil => simp [Frame.manyAt?]
  | @cons frame body r items hr hrest =>
      rw [Reply.levels] at hdepth
      have hnesting : r.nesting < depth := by omega
      have hlevels : Reply.levels items ≤ depth := by omega
      have hfirst := hr.replyAt? hnesting before (body ++ after)
      have hlater := hrest.manyAt? hlevels (r :: passed) (before ++ frame) after
      rw [List.append_assoc, List.length_append] at hlater
      rw [List.append_assoc, List.length_cons, Frame.manyAt?, hfirst]
      refine hlater.trans ?_
      rw [List.length_append, Nat.add_assoc, List.reverse_cons, List.append_assoc]
      rfl

end

/-- A whole frame is read, and no access fails. -/
theorem Denotes.reply? {frame : Bytes} {r : Reply} (h : Denotes frame r) :
    Frame.reply? frame = some (.ok (frame.length, r)) := by
  have hread := h.replyAt? (Nat.lt_succ_of_lt h.nesting_lt_length) [] []
  rwa [List.nil_append, List.append_nil, List.length_nil, Nat.zero_add] at hread

/-! ## Whole calls with checks -/

namespace Stream

/-- Takes every complete frame off the buffer, after the replies in `passed`, which are in reverse
order. -/
def decodeFrom? (passed : List Reply) (decoder : Decoder) (buffer : Bytes) : Option Decoded :=
  match _h : decoder.scan? buffer with
  | none => none
  | some (d, .incomplete) => some ⟨⟨d, buffer⟩, passed.reverse, none⟩
  | some (d, .malformed fault) => some ⟨⟨d, buffer⟩, passed.reverse, some fault⟩
  | some (d, .frame size) =>
    if buffer.length < size then none
    else
      match Frame.reply? (buffer.take size) with
      | none => none
      | some (.error fault) =>
        some ⟨⟨⟨0, d.missing⟩, buffer.drop size⟩, passed.reverse, some fault⟩
      | some (.ok (_, r)) => decodeFrom? (r :: passed) ⟨0, d.missing⟩ (buffer.drop size)
termination_by buffer.length
decreasing_by
  have hsize := Decoder.pos_of_scan?_frame _h
  rw [List.length_drop]
  omega

/-- One frame of a decoding. -/
theorem decodeFrom?_eq (passed : List Reply) (decoder : Decoder) (buffer : Bytes) :
    decodeFrom? passed decoder buffer =
      match decoder.scan? buffer with
      | none => none
      | some (d, .incomplete) => some ⟨⟨d, buffer⟩, passed.reverse, none⟩
      | some (d, .malformed fault) => some ⟨⟨d, buffer⟩, passed.reverse, some fault⟩
      | some (d, .frame size) =>
        if buffer.length < size then none
        else
          match Frame.reply? (buffer.take size) with
          | none => none
          | some (.error fault) =>
            some ⟨⟨⟨0, d.missing⟩, buffer.drop size⟩, passed.reverse, some fault⟩
          | some (.ok (_, r)) => decodeFrom? (r :: passed) ⟨0, d.missing⟩ (buffer.drop size) := by
  rw [decodeFrom?]
  split
  all_goals
    next hscan =>
    rw [hscan]

/-- Takes every complete reply off the buffer. -/
def decode? (s : Stream) : Option Decoded := decodeFrom? [] s.decoder s.buffer

end Stream

end Wire

end CommandPipeline
