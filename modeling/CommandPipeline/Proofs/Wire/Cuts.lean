import CommandPipeline.Proofs.Wire.Segmentation

/-!
# Cutting a stream elsewhere

Bytes that keep to the format may arrive in one piece or in several: the replies are the same, and
so is the stream that they leave, with its decoder. This needs that the decoder has gone as far into
its buffer as the bytes allow, which is so after every arrival. A fault cannot be made up for by
bytes that follow, so if the whole keeps to the format, each piece does. If it does not, one of the
pieces is the first that brings the fault, and the replies in front of the fault are the same as in
the whole.
-/

namespace CommandPipeline.Wire

/-- A fault is found again when more bytes follow. -/
theorem parse_append_of_error {bytes : Bytes} {fault : Fault} (h : parse bytes = .error fault)
    (more : Bytes) : parse (bytes ++ more) = .error fault := by
  rcases hscan : Decoder.fresh.scan bytes with ⟨d, v⟩
  cases v with
  | incomplete =>
      rw [parse, hscan] at h
      cases h
  | frame n =>
      -- The bytes of a frame have a value, so this is no fault.
      obtain ⟨hle, -, r, hr, hdepth⟩ := exists_denotes_of_scan hscan
      rw [parse_of_denotes hle hr hdepth] at h
      cases h
  | malformed fault' =>
      have hmore : Decoder.fresh.scan (bytes ++ more) = (d, .malformed fault') :=
        Decoder.scanFrom_append hscan (by simp) more
      rw [parse, hscan] at h
      rw [parse, hmore]
      exact h

/-- What has been found in front of a fault stays, and so does the fault. -/
theorem parseAll_append_of_fault {bytes : Bytes} {fault : Fault}
    (h : (parseAll bytes).fault = some fault) (more : Bytes) :
    parseAll (bytes ++ more) =
      ⟨(parseAll bytes).replies, (parseAll bytes).rest ++ more, some fault⟩ := by
  cases hparse : parse bytes with
  | error fault' =>
      rw [parseAll_of_error hparse] at h ⊢
      cases h
      exact parseAll_of_error (parse_append_of_error hparse more)
  | ok result =>
      cases result with
      | none =>
          rw [parseAll_of_none hparse] at h
          cases h
      | some first =>
          obtain ⟨n, r⟩ := first
          obtain ⟨hle, -, -⟩ := denotes_of_parse hparse
          rw [parseAll_of_some hparse] at h ⊢
          rw [parseAll_of_some (parse_append hparse more), List.drop_append_of_le_length hle,
            parseAll_append_of_fault h more]
termination_by bytes.length
decreasing_by exact length_drop_lt_of_parse hparse

/-- Bytes that keep to the format keep to it as far as they have arrived. -/
theorem parseAll_fault_of_append {bytes more : Bytes}
    (h : (parseAll (bytes ++ more)).fault = none) : (parseAll bytes).fault = none := by
  cases hfault : (parseAll bytes).fault with
  | none => rfl
  | some fault =>
      rw [parseAll_append_of_fault hfault] at h
      cases h

/-- A reply that bytes complete reaches into them. -/
theorem lt_of_parse_append {bytes more : Bytes} {n : Nat} {r : Reply}
    (hbefore : parse bytes = .ok none) (h : parse (bytes ++ more) = .ok (some (n, r))) :
    bytes.length < n := by
  obtain ⟨-, hr, hdepth⟩ := denotes_of_parse h
  refine Nat.lt_of_not_le fun hshort => ?_
  rw [List.take_append_of_le_length hshort] at hr
  rw [parse_of_denotes hshort hr hdepth] at hbefore
  cases hbefore

/-- One more byte completes a reply or brings a fault, but not both. -/
theorem parseAll_concat_of_fault {bytes : Bytes} {b : UInt8} {fault : Fault}
    (hbefore : parse bytes = .ok none) (h : (parseAll (bytes ++ [b])).fault = some fault) :
    (parseAll (bytes ++ [b])).replies = [] := by
  cases hparse : parse (bytes ++ [b]) with
  | error fault' => rw [parseAll_of_error hparse]
  | ok result =>
      cases result with
      | none => rw [parseAll_of_none hparse]
      | some first =>
          -- The reply takes all the bytes, and behind it there is nothing that could be wrong.
          obtain ⟨n, r⟩ := first
          have hlong := lt_of_parse_append hbefore hparse
          have hnil : (bytes ++ [b]).drop n = [] := by
            rw [List.drop_eq_nil_iff, List.length_append]
            exact hlong
          simp [parseAll_of_some hparse, hnil] at h

/-- What comes later is decoded as if it followed the bytes that were left. -/
theorem decodeOnce_append {bytes : Bytes} (h : (decodeOnce bytes).fault = none) (more : Bytes) :
    decodeOnce (bytes ++ more) =
      ⟨(decodeOnce ((decodeOnce bytes).stream.buffer ++ more)).stream,
        (decodeOnce bytes).replies ++
          (decodeOnce ((decodeOnce bytes).stream.buffer ++ more)).replies,
        (decodeOnce ((decodeOnce bytes).stream.buffer ++ more)).fault⟩ := by
  simp only [decodeOnce_eq] at h ⊢
  rw [parseAll_append h]

namespace Stream

/-- The decoder has gone as far into the buffer as the bytes allow, and no reply is left there. -/
def CaughtUp (s : Stream) : Prop := Decoder.fresh.scan s.buffer = (s.decoder, .incomplete)

/-- Without any bytes there is nothing to catch up with. -/
theorem caughtUp_fresh : Stream.fresh.CaughtUp := Decoder.scanFrom_nil _

namespace CaughtUp

variable {s : Stream} {bytes more : Bytes}

/-- A decoder that has caught up decodes like a fresh one on all the bytes that are left. -/
theorem feed_eq (h : s.CaughtUp) (bytes : Bytes) : s.feed bytes = decodeOnce (s.buffer ++ bytes) :=
  Stream.feed_eq_decodeOnce (Stream.resumes_of_scan h) bytes

/-- A decoder that has caught up does so again as long as there is no fault. -/
theorem stream_feed (h : s.CaughtUp) (hfault : (s.feed bytes).fault = none) :
    (s.feed bytes).stream.CaughtUp := by
  rw [h.feed_eq] at hfault ⊢
  exact scan_decodeOnce hfault

/-- No bytes bring nothing new. -/
theorem feed_nil (h : s.CaughtUp) : s.feed [] = ⟨s, [], none⟩ := by
  have hparse : parse s.buffer = .ok none := by rw [parse, h]
  rw [h.feed_eq, List.append_nil, decodeOnce_eq, parseAll_of_none hparse, h]

/-- Behind bytes that keep to the format the stream goes on as if they had come by themselves. -/
theorem feed_append_eq (h : s.CaughtUp) (hfirst : (s.feed bytes).fault = none) (more : Bytes) :
    s.feed (bytes ++ more) = ⟨((s.feed bytes).stream.feed more).stream,
      (s.feed bytes).replies ++ ((s.feed bytes).stream.feed more).replies,
      ((s.feed bytes).stream.feed more).fault⟩ := by
  rw [(h.stream_feed hfirst).feed_eq]
  rw [h.feed_eq] at hfirst ⊢
  rw [h.feed_eq, ← List.append_assoc]
  exact decodeOnce_append hfirst more

/-- A fault is final, and what arrives behind it completes no reply. -/
theorem feed_append_of_fault (h : s.CaughtUp) {fault : Fault}
    (hfault : (s.feed bytes).fault = some fault) (more : Bytes) :
    (s.feed (bytes ++ more)).replies = (s.feed bytes).replies ∧
      (s.feed (bytes ++ more)).fault = some fault := by
  rw [h.feed_eq, decodeOnce_eq] at hfault ⊢
  rw [h.feed_eq, decodeOnce_eq, ← List.append_assoc, parseAll_append_of_fault hfault]
  exact ⟨rfl, rfl⟩

/-- If all the bytes keep to the format, the first ones do. -/
theorem feed_fault_of_append (h : s.CaughtUp) (hfault : (s.feed (bytes ++ more)).fault = none) :
    (s.feed bytes).fault = none := by
  rw [h.feed_eq, decodeOnce_eq] at hfault ⊢
  rw [← List.append_assoc] at hfault
  exact parseAll_fault_of_append hfault

/-- Bytes that keep to the format may as well arrive in two pieces. -/
theorem feed_append (h : s.CaughtUp) (hfault : (s.feed (bytes ++ more)).fault = none) :
    (s.feed bytes).fault = none ∧ ((s.feed bytes).stream.feed more).fault = none ∧
      s.feed (bytes ++ more) = ⟨((s.feed bytes).stream.feed more).stream,
        (s.feed bytes).replies ++ ((s.feed bytes).stream.feed more).replies, none⟩ := by
  have hfirst := h.feed_fault_of_append hfault
  have hwhole := h.feed_append_eq hfirst more
  rw [hwhole] at hfault
  exact ⟨hfirst, hfault, hfault ▸ hwhole⟩

/-- A piece of at most one byte does not complete a reply if it brings a fault. -/
theorem replies_of_fault (h : s.CaughtUp) {fault : Fault}
    (hfault : (s.feed bytes).fault = some fault) (hlength : bytes.length ≤ 1) :
    (s.feed bytes).replies = [] := by
  rcases bytes with _ | ⟨b, _ | ⟨c, rest⟩⟩
  · rw [h.feed_nil]
  · have hparse : parse s.buffer = .ok none := by rw [parse, h]
    rw [h.feed_eq, decodeOnce_eq] at hfault ⊢
    exact parseAll_concat_of_fault hparse hfault
  · simp at hlength

/-- One of the pieces is the first that brings the fault. -/
theorem exists_first_fault {pieces : List Bytes} {fault : Fault} (h : s.CaughtUp)
    (hfault : (s.feed pieces.flatten).fault = some fault) :
    ∃ early last late, pieces = early ++ last :: late ∧ (s.feed early.flatten).fault = none ∧
      ((s.feed early.flatten).stream.feed last).fault = some fault := by
  induction pieces generalizing s with
  | nil =>
      rw [List.flatten_nil, h.feed_nil] at hfault
      cases hfault
  | cons piece pieces ih =>
      rw [List.flatten_cons] at hfault
      cases hpiece : (s.feed piece).fault with
      | some fault' =>
          rw [(h.feed_append_of_fault hpiece _).2] at hfault
          refine ⟨[], piece, pieces, rfl, ?_, ?_⟩
          · rw [List.flatten_nil, h.feed_nil]
          · rw [List.flatten_nil, h.feed_nil]
            exact hpiece.trans hfault
      | none =>
          have hlater := h.feed_append_eq hpiece
          rw [hlater] at hfault
          obtain ⟨early, last, late, rfl, hearly, hlast⟩ := ih (h.stream_feed hpiece) hfault
          refine ⟨piece :: early, last, late, rfl, ?_, ?_⟩
          · rw [List.flatten_cons, hlater]
            exact hearly
          · rw [List.flatten_cons, hlater]
            exact hlast

end CaughtUp

end Stream

end CommandPipeline.Wire
