import CommandPipeline.Wire.Encoding
import CommandPipeline.Proofs.Wire.Bounds

/-!
# Faults of a stream are final

A fault that has been met stands at a place in the buffer: the element there is malformed, and bytes
that arrive later do not change that. As long as the decoder is left in front of this element, every
later call meets it again and gives no reply.

`Decoder.examine` is one turn of the scan, and `Stream.Examines` says in which states a call looks
at an element. For all faults but one, the state in which the fault was met is the state that is
left. The exception is an array nested too deep. Its header is passed before the nesting is judged,
so later calls go on behind it, and a frame that has been refused may be completed after all.
-/

namespace CommandPipeline.Wire

open Bytes (crlf)

/-! ## One element of a scan -/

namespace Decoder

/-- What one element does to a scan. -/
inductive Turn where
  /-- The scan goes on behind the element. -/
  | goesOn (d : Decoder)
  /-- The scan comes to an end. -/
  | ends (d : Decoder) (v : Verdict)

/-- Looks at the element at the front of the bytes that are not checked yet. -/
def examine (d : Decoder) (rest : Bytes) : Turn :=
  match Element.read rest with
  | .unfinished => .ends d .incomplete
  | .malformed fault => .ends d (.malformed fault)
  | .whole size children =>
    let checked := d.checked + size
    if children = 0 then
      match close d.missing with
      | [] => .ends ⟨checked, []⟩ (.frame checked)
      | missing => .goesOn ⟨checked, missing⟩
    else if nestingLimit ≤ d.missing.length then .ends ⟨checked, d.missing⟩ (.malformed .tooDeep)
    else .goesOn ⟨checked, children :: d.missing⟩

variable {d e : Decoder} {rest : Bytes} {v : Verdict} {fault : Fault}

/-- A scan looks at one element after the other. -/
theorem scan_eq_examine (d : Decoder) (buffer : Bytes) :
    d.scan buffer =
      match d.examine (buffer.drop d.checked) with
      | .goesOn e => e.scan buffer
      | .ends e v => (e, v) := by
  rw [scan, scanFrom_eq, examine]
  cases hread : Element.read (buffer.drop d.checked) with
  | unfinished => rfl
  | malformed fault => rfl
  | whole size children =>
      dsimp only
      rw [List.drop_drop]
      split
      · cases hclose : close d.missing with
        | nil => rw [advance, hclose]
        | cons k outer =>
            rw [advance_of_close_ne_nil (by simp [hclose]), hclose]
            rfl
      · split
        · rfl
        · rfl

/-- The two ways in which an element can be refused. A malformed one leaves the decoder as it is, an
array nested too deep leaves it behind the header. -/
theorem cases_of_examine_malformed (h : d.examine rest = .ends e (.malformed fault)) :
    (fault ≠ .tooDeep ∧ e = d ∧ Element.read rest = .malformed fault) ∨
      (fault = .tooDeep ∧ nestingLimit ≤ d.missing.length ∧
        ∃ size children, children ≠ 0 ∧ Element.read rest = .whole size children ∧
          e = ⟨d.checked + size, d.missing⟩) := by
  rw [examine] at h
  cases hread : Element.read rest with
  | unfinished => rw [hread] at h; cases h
  | malformed fault' =>
      rw [hread] at h
      cases h
      refine .inl ⟨?_, rfl, rfl⟩
      rintro rfl
      exact absurd (Element.inElement_of_read hread) Bool.false_ne_true
  | whole size children =>
      rw [hread] at h
      dsimp only at h
      split at h
      · split at h <;> cases h
      · next hchildren =>
        split at h
        · next hdeep =>
          cases h
          exact .inr ⟨rfl, hdeep, size, children, hchildren, rfl, rfl⟩
        · cases h

end Decoder

namespace Stream

/-- The element at which the decoder stands. -/
def element (s : Stream) : Element := Element.read (s.buffer.drop s.decoder.checked)

/-- The turn of the scan at this element. -/
def turn (s : Stream) : Decoder.Turn := s.decoder.examine (s.buffer.drop s.decoder.checked)

/-- While the first stream is decoded, an element is looked at in the state of the second one: at
the start, behind each element that does not end the scan, and behind each frame. -/
inductive Examines : Stream → Stream → Prop where
  | start (s : Stream) : Examines s s
  | goesOn {s t : Stream} {d : Decoder} : s.turn = .goesOn d → Examines ⟨d, s.buffer⟩ t →
      Examines s t
  | next {s t : Stream} {d : Decoder} {n : Nat} : s.turn = .ends d (.frame n) →
      Examines ⟨⟨0, d.missing⟩, s.buffer.drop n⟩ t → Examines s t

/-- The streams that come of one by appending bytes and by decoding, whatever the outcome. -/
inductive Later : Stream → Stream → Prop where
  | now (s : Stream) : Later s s
  | append {s t : Stream} (bytes : Bytes) : Later s t → Later s (t.append bytes)
  | decode {s t : Stream} : Later s t → Later s t.decode.stream

/-- The fault of a call is atomic and final. -/
structure Final (s : Stream) (fault : Fault) : Prop where
  /-- What the call leaves is the state in which it looked at the element that it refused. -/
  atomic : ∃ t, s.Examines t ∧ t.turn = .ends t.decoder (.malformed fault) ∧ s.decode.stream = t
  /-- Every later call gives no reply and the same fault, and changes nothing. -/
  lasting : ∀ t, s.decode.stream.Later t → t.decode = ⟨t, [], some fault⟩

variable {s t u : Stream} {d : Decoder} {v : Verdict} {fault : Fault}

/-- Further parts of a scan go on where it stopped. -/
theorem Examines.trans (hst : s.Examines t) (htu : t.Examines u) : s.Examines u := by
  induction hst with
  | start => exact htu
  | goesOn hturn _ ih => exact .goesOn hturn (ih htu)
  | next hturn _ ih => exact .next hturn (ih htu)

/-- A scan that goes on has passed some bytes of the buffer. -/
theorem checked_lt_of_goesOn (h : s.turn = .goesOn d) :
    s.decoder.checked < s.buffer.length ∧ s.decoder.checked < d.checked := by
  rw [turn, Decoder.examine] at h
  cases hread : Element.read (s.buffer.drop s.decoder.checked) with
  | unfinished => rw [hread] at h; cases h
  | malformed fault => rw [hread] at h; cases h
  | whole size children =>
      obtain ⟨hsize, hne⟩ := Element.read_whole hread
      have hin : s.decoder.checked < s.buffer.length := by
        rwa [ne_eq, List.drop_eq_nil_iff, Nat.not_le] at hne
      have hpassed : d.checked = s.decoder.checked + size := by
        rw [hread] at h
        dsimp only at h
        split at h
        · split at h <;> cases h
          rfl
        · split at h <;> cases h
          rfl
      omega

/-- A scan ends with the turn at some element. -/
theorem exists_examines_of_scan {s : Stream} (h : s.decoder.scan s.buffer = (d, v)) :
    ∃ t, s.Examines t ∧ t.buffer = s.buffer ∧ t.turn = .ends d v := by
  rw [Decoder.scan_eq_examine] at h
  cases hturn : s.turn with
  | ends e w =>
      rw [show s.decoder.examine _ = .ends e w from hturn] at h
      cases h
      exact ⟨s, .start s, rfl, hturn⟩
  | goesOn e =>
      have hpassed := checked_lt_of_goesOn hturn
      rw [show s.decoder.examine _ = .goesOn e from hturn] at h
      obtain ⟨t, ht, hbuffer, hends⟩ := exists_examines_of_scan (s := ⟨e, s.buffer⟩) h
      exact ⟨t, .goesOn hturn ht, hbuffer, hends⟩
termination_by s.buffer.length - s.decoder.checked
decreasing_by omega

/-- A call gets to wherever it scans from where it has started. -/
theorem ScansAt.examines (h : s.ScansAt t) : s.Examines t := by
  induction h with
  | start s => exact .start s
  | next hscan _ ih =>
      obtain ⟨u, hu, hbuffer, hends⟩ := exists_examines_of_scan hscan
      rw [← hbuffer] at ih
      exact hu.trans (.next hends ih)

/-- The turn that has met the fault, and what the call leaves. -/
theorem Sound.exists_turn_of_fault (hs : s.Sound) (h : s.decode.fault = some fault) :
    ∃ t d, s.Examines t ∧ t.turn = .ends d (.malformed fault) ∧
      s.decode.stream = ⟨d, t.buffer⟩ := by
  obtain ⟨t, d, ht, hscan⟩ := hs.exists_scansAt_of_fault h
  obtain ⟨passed, hdecode⟩ := hs.exists_decodeFrom_eq ht []
  obtain ⟨u, hu, hbuffer, hends⟩ := exists_examines_of_scan hscan
  refine ⟨u, d, ht.examines.trans hu, hends, ?_⟩
  rw [decode, hdecode, decodeFrom_eq, hscan, hbuffer]

/-! ## A malformed element -/

/-- An element that is wrong stays wrong when more bytes follow. -/
theorem element_append (h : s.element = .malformed fault) (more : Bytes) :
    (s.append more).element = .malformed fault := by
  -- Past the end of the buffer there would be no element to find fault with.
  have hin : s.decoder.checked ≤ s.buffer.length := by
    refine Nat.le_of_not_lt fun hlong => ?_
    rw [element, List.drop_eq_nil_of_le (Nat.le_of_lt hlong)] at h
    cases h
  show Element.read ((s.buffer ++ more).drop s.decoder.checked) = _
  rw [List.drop_append_of_le_length hin, Element.read_append]
  · exact h
  · rw [show Element.read _ = _ from h]
    exact nofun

/-- A fault at the first frame leaves the bytes in the buffer. -/
theorem decode_of_malformed (h : s.decoder.scan s.buffer = (d, .malformed fault)) :
    s.decode = ⟨⟨d, s.buffer⟩, [], some fault⟩ := by
  rw [decode, decodeFrom_eq, h]
  rfl

/-- A decoder in front of a malformed element stays there. -/
theorem decode_of_element (h : s.element = .malformed fault) : s.decode = ⟨s, [], some fault⟩ :=
  decode_of_malformed (Decoder.scanFrom_malformed _ h)

/-- An element that is wrong is met again at any later time. -/
theorem Later.element_eq (h : s.Later t) (hs : s.element = .malformed fault) :
    t.element = .malformed fault := by
  induction h with
  | now => exact hs
  | append bytes _ ih => exact element_append ih bytes
  | decode _ ih => rwa [decode_of_element ih]

/-- The first fault that a decoder meets is atomic and final, unless it is an array nested too deep.
Then the call leaves the decoder behind the header of that array, as if it had not been there. -/
theorem Reached.decode_final (h : s.Reached) (hfault : s.decode.fault = some fault) :
    (fault ≠ .tooDeep → s.Final fault) ∧
      (fault = .tooDeep → ∃ t size children, s.Examines t ∧
        t.element = .whole size children ∧ children ≠ 0 ∧
        nestingLimit ≤ t.decoder.missing.length ∧
        s.decode.stream = ⟨⟨t.decoder.checked + size, t.decoder.missing⟩, t.buffer⟩) := by
  obtain ⟨t, d, ht, hturn, hstream⟩ := h.sound.exists_turn_of_fault hfault
  rcases Decoder.cases_of_examine_malformed hturn with
    ⟨hother, rfl, hread⟩ | ⟨hdeep, hlevels, size, children, hchildren, hread, rfl⟩
  · refine ⟨fun _ => ⟨⟨t, ht, hturn, hstream⟩, fun u hu => ?_⟩, fun hdeep => absurd hdeep hother⟩
    rw [hstream] at hu
    exact decode_of_element (hu.element_eq hread)
  · exact ⟨fun hother => absurd hdeep hother,
      fun _ => ⟨t, size, children, ht, hread, hchildren, hlevels, hstream⟩⟩

end Stream

/-! ## A refused frame that is completed

The header of an array, once more than arrays may be nested, is refused at the last one. The decoder
is left behind it, with all arrays but the last one open, so the element that arrives next closes
them all. The second pass does not count levels, and builds the reply.
-/

/-- The headers of arrays of one element, one inside the other. -/
def openings (n : Nat) : Bytes := (List.replicate n (arrayHeader 1)).flatten

/-- A reply inside arrays of one element. -/
def boxed (r : Reply) : Nat → Reply
  | 0 => r
  | n + 1 => .array [boxed r n]

/-- The outermost header comes first. -/
theorem openings_succ_append (n : Nat) (rest : Bytes) :
    openings (n + 1) ++ rest =
      arrayMarker :: (Decimal.ofNat 1 ++ (crlf ++ (openings n ++ rest))) := by
  simp [openings, List.replicate_succ, arrayHeader, header]

theorem spells_one : Decimal.Spells (Decimal.ofNat 1) (1 : Nat) :=
  Decimal.spells_ofNat (by decide)

/-- Behind the headers of arrays of one element a frame denotes its reply inside these arrays. -/
theorem denotes_openings {frame : Bytes} {r : Reply} (h : Denotes frame r) (n : Nat) :
    Denotes (openings n ++ frame) (boxed r n) := by
  induction n with
  | zero => exact h
  | succ n ih =>
      rw [openings_succ_append]
      exact .array spells_one (.singleton ih)

/-- Each header opens an array of which one element is missing. -/
theorem Decoder.scanFrom_openings {n : Nat} (d : Decoder)
    (h : n + d.missing.length ≤ nestingLimit) (rest : Bytes) :
    d.scanFrom (openings n ++ rest) =
      scanFrom ⟨d.checked + (openings n).length, List.replicate n 1 ++ d.missing⟩ rest := by
  induction n generalizing d with
  | zero => rfl
  | succ n ih =>
      have hread := Element.read_arrayHeader spells_one (openings n ++ rest)
      have hlength : (openings (n + 1)).length =
          headerSize (Decimal.ofNat 1) + (openings n).length := by
        have happend := congrArg List.length (openings_succ_append n [])
        rwa [List.append_nil, length_header, List.append_nil] at happend
      rw [openings_succ_append, d.scanFrom_array hread Nat.one_ne_zero (by omega),
        drop_headerSize, ih _ (by rw [List.length_cons]; omega), hlength, ← Nat.add_assoc,
        List.replicate_succ', List.append_assoc]
      rfl

/-- One element completes any number of arrays that miss only one. -/
@[simp] theorem Decoder.close_replicate_one (n : Nat) : close (List.replicate n 1) = [] := by
  induction n with
  | zero => rfl
  | succ n ih => simpa [List.replicate_succ, close] using ih

/-- The innermost header comes last. -/
theorem openings_succ (n : Nat) : openings (n + 1) = openings n ++ arrayHeader 1 := by
  simp [openings, List.replicate_succ']

/-- The last header is refused and passed. -/
theorem Decoder.scan_openings {n : Nat} (hn : n = nestingLimit) :
    Decoder.fresh.scan (openings (n + 1)) =
      (⟨(openings (n + 1)).length, List.replicate n 1⟩, .malformed .tooDeep) := by
  have hread : Element.read (arrayHeader 1) = .whole (arrayHeader 1).length 1 := by
    decide +kernel
  have hfull : nestingLimit ≤ (List.replicate n 1 ++ Decoder.fresh.missing).length := by
    rw [List.length_append, List.length_replicate, hn]
    exact Nat.le_add_right _ _
  have hopen := (Decoder.fresh.scanFrom_openings (Nat.le_of_eq hn) (arrayHeader 1)).trans
    (Decoder.scanFrom_tooDeep _ hread Nat.one_ne_zero hfull)
  rw [openings_succ, scan, List.length_append]
  refine hopen.trans ?_
  rw [show Decoder.fresh.missing = [] from rfl, List.append_nil,
    show Decoder.fresh.checked = 0 from rfl, Nat.zero_add]

/-- An element behind it closes all the arrays. -/
theorem Decoder.scan_openings_append {frame : Bytes} {r : Reply} (h : Scalar frame r) (n m : Nat) :
    scan ⟨(openings n).length, List.replicate m 1⟩ (openings n ++ frame) =
      (⟨(openings n ++ frame).length, []⟩, .frame (openings n ++ frame).length) := by
  have hread : Element.read frame = .whole frame.length 0 := by
    have hscalar := h.read []
    rwa [List.append_nil] at hscalar
  rw [scan, List.drop_left, scanFrom_scalar _ hread, advance]
  simp

namespace Stream

/-- A frame that takes the whole buffer. -/
theorem decode_of_whole {s : Stream} {r : Reply}
    (h : s.decoder.scan s.buffer = (⟨s.buffer.length, []⟩, .frame s.buffer.length))
    (hr : Denotes s.buffer r) : s.decode = ⟨.fresh, [r], none⟩ := by
  rw [decode, decodeFrom_frame h (by rwa [List.take_length]), List.drop_length, decodeFrom_eq]
  simp [Decoder.scan, fresh, Decoder.fresh]

/-- The header that opens one array too many is refused, and the decoder stands behind it. -/
theorem decode_openings {n : Nat} (hn : n = nestingLimit) :
    (Stream.fresh.append (openings (n + 1))).decode =
      ⟨⟨⟨(openings (n + 1)).length, List.replicate n 1⟩, openings (n + 1)⟩, [],
        some .tooDeep⟩ :=
  decode_of_malformed (Decoder.scan_openings hn)

/-- An element behind the header that was refused gives a reply that holds the refused array. -/
theorem decode_openings_append {n : Nat} (hn : n = nestingLimit) {frame : Bytes} {r : Reply}
    (h : Scalar frame r) :
    ((Stream.fresh.append (openings (n + 1))).decode.stream.append frame).decode =
      ⟨.fresh, [boxed r (n + 1)], none⟩ := by
  rw [decode_openings hn]
  exact decode_of_whole (Decoder.scan_openings_append h _ _) (denotes_openings (.scalar h) _)

/-- An array of which the second element is malformed, behind a whole reply and cut in front of this
element, and arrays nested too deep. -/
theorem Reached.decode_final_element :
    let s := (Stream.fresh.append (Utf8.encode "+A\r\n*2\r\n:7\r\n")).decode.stream.append
      (Utf8.encode ":x\r\n")
    let deep := Stream.fresh.append (openings (nestingLimit + 1))
    (s.Reached ∧ s.decoder = ⟨8, [1]⟩ ∧ s.decode.fault = some (.invalidDigit 120) ∧
        s.Final (.invalidDigit 120)) ∧
      (deep.Reached ∧ deep.decode.fault = some .tooDeep ∧
        ∃ t size children, deep.Examines t ∧ t.element = .whole size children ∧ children ≠ 0 ∧
          nestingLimit ≤ t.decoder.missing.length ∧
          deep.decode.stream = ⟨⟨t.decoder.checked + size, t.decoder.missing⟩, t.buffer⟩) := by
  intro s deep
  have hs : s.Reached := .append _ (.decode (.append _ .fresh) (by decide +kernel))
  have hfault : s.decode.fault = some (.invalidDigit 120) := by decide +kernel
  have hdeep : deep.Reached := .append _ .fresh
  have htooDeep : deep.decode.fault = some .tooDeep := by rw [decode_openings rfl]
  exact ⟨⟨hs, by decide +kernel, hfault, (hs.decode_final hfault).1 (by decide)⟩,
    hdeep, htooDeep, (hdeep.decode_final htooDeep).2 rfl⟩

/-- An array nested too deep is a fault that is neither atomic nor final: the header that was
refused has been passed, and an element behind it gives a reply. -/
theorem not_final_of_tooDeep :
    let s := Stream.fresh.append (openings (nestingLimit + 1))
    let t := s.decode.stream.append (Utf8.encode "+OK\r\n")
    (s.Reached ∧ s.decode.fault = some .tooDeep) ∧
      t.decode = ⟨.fresh, [boxed (.status "OK") (nestingLimit + 1)], none⟩ ∧
      ¬ s.Final .tooDeep := by
  intro s t
  have hfault : s.decode.fault = some .tooDeep := by rw [decode_openings rfl]
  have hok : Scalar (Utf8.encode "+OK\r\n") (.status "OK") := by
    have hstatus := @Scalar.status (Utf8.encode "OK") (by decide +kernel)
    rwa [show Utf8.decodeLossy (Utf8.encode "OK") = "OK" by decide +kernel,
      show statusMarker :: (Utf8.encode "OK" ++ crlf) = Utf8.encode "+OK\r\n" by
        decide +kernel] at hstatus
  have ht : t.decode = ⟨.fresh, [boxed (.status "OK") (nestingLimit + 1)], none⟩ :=
    decode_openings_append rfl hok
  refine ⟨⟨.append _ .fresh, hfault⟩, ht, fun h => ?_⟩
  rw [h.lasting t (.append _ (.now _))] at ht
  exact absurd (congrArg Decoded.fault ht) nofun

end Stream

end CommandPipeline.Wire
