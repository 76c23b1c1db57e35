import CommandPipeline.Proofs.Wire.Acceptance
import CommandPipeline.Proofs.Wire.Fronts

/-!
# Replies do not depend on how the stream is cut

The reference for a stream is `parseAll`, which applies `parse` to the bytes received so far, again
and again, without remembering anything. A kept decoder remembers how far it has checked the frame
at the front of its buffer. What it remembers is right when going on from there is the same as
starting over, whatever arrives next (`Stream.Resumes`), and every call of `decode` leaves it that
way. So each call gives what a fresh decoder gives on the same buffer, which is what `parse` gives.
-/

namespace CommandPipeline.Wire

/-! ## The reference -/

/-- How far a stream has been decoded. -/
structure Progress where
  /-- All replies so far. -/
  replies : List Reply
  /-- The bytes behind the last of them. -/
  rest : Bytes
  /-- What is wrong with the frame that starts there, if it is known to be malformed. -/
  fault : Option Fault

/-- A frame takes at least a byte off the front. -/
theorem length_drop_lt_of_parse {bytes : Bytes} {n : Nat} {r : Reply}
    (h : parse bytes = .ok (some (n, r))) : (bytes.drop n).length < bytes.length := by
  obtain ⟨hle, hr, -⟩ := denotes_of_parse h
  have hpos := hr.nesting_lt_length
  rw [List.length_take_of_le hle] at hpos
  rw [List.length_drop]
  omega

/-- Applies `parse` until it gives no reply, dropping the bytes of each reply. -/
def parseAll (bytes : Bytes) : Progress :=
  match _h : parse bytes with
  | .ok none => ⟨[], bytes, none⟩
  | .error fault => ⟨[], bytes, some fault⟩
  | .ok (some (n, r)) =>
    let p := parseAll (bytes.drop n)
    ⟨r :: p.replies, p.rest, p.fault⟩
termination_by bytes.length
decreasing_by exact length_drop_lt_of_parse _h

/-- The entries up to and including the first fault. -/
def upToFault : List Progress → List Progress
  | [] => []
  | p :: later => p :: if p.fault.isSome then [] else upToFault later

/-- Applies the reference to everything received so far, after each chunk that is appended to
`seen`. -/
def parseEach (seen : Bytes) (chunks : List Bytes) : List Progress :=
  (List.range chunks.length).map fun k => parseAll (seen ++ (chunks.take (k + 1)).flatten)

/-! ## The transcript of a decoder -/

/-- The progress after some calls that have given `passed`, and one more call. -/
def Decoded.progress (passed : List Reply) (o : Decoded) : Progress :=
  ⟨passed ++ o.replies, o.stream.buffer, o.fault⟩

/-- The progress after each call, given the outcomes of the calls. -/
def transcript (passed : List Reply) : List Decoded → List Progress
  | [] => []
  | o :: later => o.progress passed :: transcript (passed ++ o.replies) later

/-- Appends chunks one by one and decodes after each with a decoder of its own. A fault is final. -/
def decodeOnceEach (buffer : Bytes) : List Bytes → List Decoded
  | [] => []
  | chunk :: later =>
    let o := decodeOnce (buffer ++ chunk)
    match o.fault with
    | some _ => [o]
    | none => o :: decodeOnceEach o.stream.buffer later

/-! ## Parsing a growing stream -/

/-- Without a whole frame all the bytes are left. -/
theorem parseAll_of_none {bytes : Bytes} (h : parse bytes = .ok none) :
    parseAll bytes = ⟨[], bytes, none⟩ := by
  rw [parseAll]
  split <;> simp_all

/-- At a fault all the bytes are left. -/
theorem parseAll_of_error {bytes : Bytes} {fault : Fault} (h : parse bytes = .error fault) :
    parseAll bytes = ⟨[], bytes, some fault⟩ := by
  rw [parseAll]
  split <;> simp_all

/-- A frame at the front is taken off, and the rest is parsed in the same way. -/
theorem parseAll_of_some {bytes : Bytes} {n : Nat} {r : Reply}
    (h : parse bytes = .ok (some (n, r))) :
    parseAll bytes = ⟨r :: (parseAll (bytes.drop n)).replies, (parseAll (bytes.drop n)).rest,
      (parseAll (bytes.drop n)).fault⟩ := by
  rw [parseAll]
  split <;> simp_all

/-- There is no frame in no bytes. -/
@[simp] theorem parse_nil : parse [] = .ok none := by
  simp [parse, Decoder.scan]

@[simp] theorem parseAll_nil : parseAll [] = ⟨[], [], none⟩ := parseAll_of_none parse_nil

/-- A reply that is there stays there when more bytes arrive. -/
theorem parse_append {bytes : Bytes} {n : Nat} {r : Reply} (h : parse bytes = .ok (some (n, r)))
    (more : Bytes) : parse (bytes ++ more) = .ok (some (n, r)) := by
  obtain ⟨hle, hr, hdepth⟩ := denotes_of_parse h
  rw [← List.take_append_of_le_length hle] at hr
  exact parse_of_denotes (by rw [List.length_append]; omega) hr hdepth

/-- Parsing a longer stream goes on behind the replies that were there before. -/
theorem parseAll_append {bytes : Bytes} (h : (parseAll bytes).fault = none) (more : Bytes) :
    parseAll (bytes ++ more) =
      ⟨(parseAll bytes).replies ++ (parseAll ((parseAll bytes).rest ++ more)).replies,
        (parseAll ((parseAll bytes).rest ++ more)).rest,
        (parseAll ((parseAll bytes).rest ++ more)).fault⟩ := by
  cases hparse : parse bytes with
  | error fault =>
      rw [parseAll_of_error hparse] at h
      cases h
  | ok result =>
      cases result with
      | none =>
          rw [parseAll_of_none hparse]
          rfl
      | some first =>
          -- The first reply is the same for both, so what is left to compare starts behind it.
          obtain ⟨n, r⟩ := first
          obtain ⟨hle, -, -⟩ := denotes_of_parse hparse
          rw [parseAll_of_some hparse] at h ⊢
          rw [parseAll_of_some (parse_append hparse more), List.drop_append_of_le_length hle,
            parseAll_append h more]
          rfl
termination_by bytes.length
decreasing_by exact length_drop_lt_of_parse hparse

/-- Frames at the front of a stream give their replies, whatever follows them. -/
theorem parseAll_frames {body : Bytes} {items : List Reply} (h : DenoteEach body items)
    (hdepth : ∀ r ∈ items, r.nesting ≤ nestingLimit) (rest : Bytes) :
    parseAll (body ++ rest) =
      ⟨items ++ (parseAll rest).replies, (parseAll rest).rest, (parseAll rest).fault⟩ := by
  induction items generalizing body with
  | nil =>
      cases h
      rfl
  | cons r items ih =>
      cases h with
      | @cons frame body _ _ hr hitems =>
          obtain ⟨hfirst, hlater⟩ := List.forall_mem_cons.1 hdepth
          have hparse : parse (frame ++ (body ++ rest)) = .ok (some (frame.length, r)) :=
            parse_of_denotes (by simp) (by simpa using hr) hfirst
          rw [List.append_assoc, parseAll_of_some hparse, List.drop_left, ih hitems hlater]
          rfl

/-- A progress accounts for all bytes: they are the frames of the replies, in order and with nothing
between them, and then the rest, in which no further reply is found. -/
def Progress.Accounts (p : Progress) (bytes : Bytes) : Prop :=
  (∃ frames, DenoteEach frames p.replies ∧ bytes = frames ++ p.rest) ∧
  parse p.rest = match p.fault with
    | none => .ok none
    | some fault => .error fault

/-- No byte is lost and none is used twice, by induction on the frames. -/
theorem parseAll_accounts (bytes : Bytes) : (parseAll bytes).Accounts bytes := by
  cases hparse : parse bytes with
  | error fault =>
      rw [parseAll_of_error hparse]
      exact ⟨⟨[], .nil, rfl⟩, hparse⟩
  | ok result =>
      cases result with
      | none =>
          rw [parseAll_of_none hparse]
          exact ⟨⟨[], .nil, rfl⟩, hparse⟩
      | some first =>
          obtain ⟨n, r⟩ := first
          obtain ⟨-, hr, -⟩ := denotes_of_parse hparse
          obtain ⟨⟨frames, hframes, hbytes⟩, hrest⟩ := parseAll_accounts (bytes.drop n)
          rw [parseAll_of_some hparse]
          refine ⟨⟨bytes.take n ++ frames, .cons hr hframes, ?_⟩, hrest⟩
          rw [List.append_assoc, ← hbytes, List.take_append_drop]
termination_by bytes.length
decreasing_by exact length_drop_lt_of_parse hparse

/-! ## A fresh decoder -/

namespace Stream

/-- One frame of a decoding. -/
theorem decodeFrom_eq (passed : List Reply) (d : Decoder) (buffer : Bytes) :
    decodeFrom passed d buffer =
      match d.scan buffer with
      | (d', .incomplete) => ⟨⟨d', buffer⟩, passed.reverse, none⟩
      | (d', .malformed fault) => ⟨⟨d', buffer⟩, passed.reverse, some fault⟩
      | (d', .frame size) =>
        match Frame.reply (buffer.take size) with
        | .error fault => ⟨⟨⟨0, d'.missing⟩, buffer.drop size⟩, passed.reverse, some fault⟩
        | .ok r => decodeFrom (r :: passed) ⟨0, d'.missing⟩ (buffer.drop size) := by
  rw [decodeFrom]
  split
  · next hscan => rw [hscan]
  · next hscan => rw [hscan]
  · next size hscan =>
    cases hreply : Frame.reply (buffer.take size) <;> simp only [hscan, hreply]

/-- What is decoded depends on the decoder only by its next scan. -/
theorem decodeFrom_congr {d e : Decoder} {buffer : Bytes} (h : d.scan buffer = e.scan buffer)
    (passed : List Reply) : decodeFrom passed d buffer = decodeFrom passed e buffer := by
  rw [decodeFrom_eq, decodeFrom_eq, h]

/-- The value of a frame that has been found is built, and the decoder starts afresh. -/
theorem decodeFrom_frame {d : Decoder} {buffer : Bytes} {n : Nat} {r : Reply}
    (h : d.scan buffer = (⟨n, []⟩, .frame n)) (hr : Denotes (buffer.take n) r)
    (passed : List Reply) :
    decodeFrom passed d buffer = decodeFrom (r :: passed) .fresh (buffer.drop n) := by
  rw [decodeFrom_eq, h]
  show (match Frame.reply (buffer.take n) with
    | .error fault => _
    | .ok r => _) = _
  rw [hr.reply]
  rfl

/-- A decoder that goes on in a buffer finds what one that starts over would find, whatever
follows the buffer. -/
def Resumes (s : Stream) : Prop :=
  ∀ more, s.decoder.scan (s.buffer ++ more) = Decoder.fresh.scan (s.buffer ++ more)

/-- A fresh decoder has nothing to go on with. -/
theorem fresh_resumes : Stream.fresh.Resumes := fun _ => rfl

/-- A decoder that has run out of bytes in a buffer resumes in it. -/
theorem resumes_of_scan {d : Decoder} {buffer : Bytes}
    (h : Decoder.fresh.scan buffer = (d, .incomplete)) : Resumes ⟨d, buffer⟩ := by
  intro more
  obtain ⟨front, behind, rfl, hstands⟩ := Decoder.Stands.of_scanFrom h [] Decoder.stands_fresh
  show d.scanFrom ((front ++ behind ++ more).drop d.checked) =
    Decoder.fresh.scanFrom (front ++ behind ++ more)
  rw [hstands.checked, List.append_assoc, List.nil_append, List.drop_left]
  exact (hstands.resumes _).symm

/-- Decoding with a fresh decoder is parsing again and again. The decoder that is left has looked at
the bytes that are left and at no others. -/
theorem decodeFrom_fresh (passed : List Reply) (buffer : Bytes) :
    decodeFrom passed .fresh buffer =
      ⟨⟨(Decoder.fresh.scan (parseAll buffer).rest).1, (parseAll buffer).rest⟩,
        passed.reverse ++ (parseAll buffer).replies, (parseAll buffer).fault⟩ := by
  rcases hscan : Decoder.fresh.scan buffer with ⟨d, v⟩
  cases v with
  | incomplete =>
      have hparse : parse buffer = .ok none := by rw [parse, hscan]
      rw [parseAll_of_none hparse, decodeFrom_eq, hscan]
      simp
  | malformed fault =>
      have hparse : parse buffer = .error fault := by rw [parse, hscan]
      rw [parseAll_of_error hparse, decodeFrom_eq, hscan]
      simp
  | frame n =>
      -- Behind a frame the decoder is fresh again, so the rest is decoded as if it were all.
      obtain ⟨hle, rfl, r, hr, hdepth⟩ := exists_denotes_of_scan hscan
      have hparse := parse_of_denotes hle hr hdepth
      have hrest := decodeFrom_fresh (r :: passed) (buffer.drop n)
      rw [parseAll_of_some hparse, decodeFrom_frame hscan hr, hrest]
      simp
termination_by buffer.length
decreasing_by exact length_drop_lt_of_parse hparse

end Stream

/-- Decoding is repeated parsing, and then a scan of what is left. -/
theorem decodeOnce_eq (buffer : Bytes) :
    decodeOnce buffer =
      ⟨⟨(Decoder.fresh.scan (parseAll buffer).rest).1, (parseAll buffer).rest⟩,
        (parseAll buffer).replies, (parseAll buffer).fault⟩ :=
  Stream.decodeFrom_fresh [] buffer

/-- Decoding makes the progress of repeated parsing. -/
theorem decodeOnce_progress (passed : List Reply) (buffer : Bytes) :
    (decodeOnce buffer).progress passed =
      ⟨passed ++ (parseAll buffer).replies, (parseAll buffer).rest, (parseAll buffer).fault⟩ := by
  rw [decodeOnce_eq]
  rfl

/-- A parse that finds nothing has run out of bytes. -/
theorem scan_of_parse_none {bytes : Bytes} (h : parse bytes = .ok none) :
    Decoder.fresh.scan bytes = ((Decoder.fresh.scan bytes).1, .incomplete) := by
  rw [parse] at h
  rcases hscan : Decoder.fresh.scan bytes with ⟨d, v⟩
  rw [hscan] at h
  cases v with
  | incomplete => rfl
  | malformed fault => cases h
  | frame n =>
      dsimp only at h
      split at h <;> cases h

/-- Without a fault the decoder has gone as far into the bytes that are left as they allow. -/
theorem scan_decodeOnce {buffer : Bytes} (h : (decodeOnce buffer).fault = none) :
    Decoder.fresh.scan (decodeOnce buffer).stream.buffer =
      ((decodeOnce buffer).stream.decoder, .incomplete) := by
  obtain ⟨-, hrest⟩ := parseAll_accounts buffer
  rw [decodeOnce_eq] at h ⊢
  rw [show (parseAll buffer).fault = none from h] at hrest
  exact scan_of_parse_none hrest

/-- Without a fault the scan can go on where it has stopped. -/
theorem decodeOnce_resumes {buffer : Bytes} (h : (decodeOnce buffer).fault = none) :
    (decodeOnce buffer).stream.Resumes :=
  Stream.resumes_of_scan (scan_decodeOnce h)

/-! ## The kept decoder -/

/-- A call of a decoder that resumes does what a fresh decoder does on the same buffer. -/
theorem Stream.feed_eq_decodeOnce {s : Stream} (hs : s.Resumes) (chunk : Bytes) :
    s.feed chunk = decodeOnce (s.buffer ++ chunk) :=
  Stream.decodeFrom_congr (hs chunk) []

/-- A kept decoder does with each chunk what a fresh one does with all that is left, by induction on
the chunks. -/
theorem Stream.feedAll_eq_decodeOnceEach {s : Stream} (hs : s.Resumes) (chunks : List Bytes) :
    s.feedAll chunks = decodeOnceEach s.buffer chunks := by
  induction chunks generalizing s with
  | nil => rfl
  | cons chunk later ih =>
      rw [Stream.feedAll, decodeOnceEach, Stream.feed_eq_decodeOnce hs]
      cases hfault : (decodeOnce (s.buffer ++ chunk)).fault with
      | some fault => rfl
      | none => exact congrArg _ (ih (decodeOnce_resumes hfault))

theorem parseEach_cons (seen chunk : Bytes) (later : List Bytes) :
    parseEach seen (chunk :: later) =
      parseAll (seen ++ chunk) :: parseEach (seen ++ chunk) later := by
  rw [parseEach, parseEach, List.length_cons, List.range_succ_eq_map, List.map_cons, List.map_map]
  simp [Function.comp_def, List.append_assoc]

/-- Decoding the buffer after each chunk makes the same progress as parsing all that has been
received, as long as the buffer is what parsing has left over. -/
theorem transcript_decodeOnceEach {seen buffer : Bytes} {passed : List Reply}
    (hseen : parseAll seen = ⟨passed, buffer, none⟩) (chunks : List Bytes) :
    transcript passed (decodeOnceEach buffer chunks) = upToFault (parseEach seen chunks) := by
  induction chunks generalizing seen buffer passed with
  | nil => rfl
  | cons chunk later ih =>
      have hstep : (decodeOnce (buffer ++ chunk)).progress passed = parseAll (seen ++ chunk) := by
        have happend := @parseAll_append seen (by rw [hseen]) chunk
        rw [hseen] at happend
        rw [happend, decodeOnce_progress]
      rw [parseEach_cons, upToFault, decodeOnceEach, ← hstep]
      -- Both stop at a fault, and without one the new buffer is what parsing leaves over next.
      cases hfault : (decodeOnce (buffer ++ chunk)).fault with
      | some fault => simp [hfault, transcript, Decoded.progress]
      | none =>
          have hnext : parseAll (seen ++ chunk) =
              ⟨passed ++ (decodeOnce (buffer ++ chunk)).replies,
                (decodeOnce (buffer ++ chunk)).stream.buffer, none⟩ := by
            rw [← hstep, Decoded.progress, hfault]
          simp [hfault, transcript, Decoded.progress, ih hnext]

/-- However a stream is cut into chunks, the calls of a kept decoder make the progress of parsing
everything received so far, up to the first fault, and decoding with a fresh decoder after each
chunk makes the same progress. Parsing in its turn loses no byte and uses none twice. -/
theorem transcript_feedAll (chunks : List Bytes) :
    transcript [] (Stream.fresh.feedAll chunks) = upToFault (parseEach [] chunks) ∧
      transcript [] (decodeOnceEach [] chunks) = upToFault (parseEach [] chunks) ∧
      ∀ bytes, (parseAll bytes).Accounts bytes := by
  have honce := transcript_decodeOnceEach parseAll_nil chunks
  refine ⟨?_, honce, parseAll_accounts⟩
  rw [Stream.feedAll_eq_decodeOnceEach Stream.fresh_resumes]
  exact honce

end CommandPipeline.Wire
