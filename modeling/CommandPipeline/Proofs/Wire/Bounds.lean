import CommandPipeline.Proofs.Wire.Positions

/-!
# Every access of a decoding is in bounds

A decoder that has met no fault finds what one would find that starts over, and of no array that it
has begun are zero elements missing. Under these two conditions a call of `decode` goes through with
all checks in place. What a scan accepts is built by the second pass without a fault, so every fault
is one that a scan has met (`Stream.Reached.decode_in_bounds`).
-/

namespace CommandPipeline.Wire

namespace Stream

/-! ## The states of a decoder without a fault -/

/-- The streams that come of a fresh one by appending bytes and by decoding without a fault. -/
inductive Reached : Stream → Prop where
  | fresh : Reached .fresh
  | append {s : Stream} (bytes : Bytes) : Reached s → Reached (s.append bytes)
  | decode {s : Stream} : Reached s → s.decode.fault = none → Reached s.decode.stream

/-- While the first stream is decoded, the buffer is scanned in the state of the second one: at the
start, and behind each frame that is found. -/
inductive ScansAt : Stream → Stream → Prop where
  | start (s : Stream) : ScansAt s s
  | next {s t : Stream} {d : Decoder} {n : Nat} : s.decoder.scan s.buffer = (d, .frame n) →
      ScansAt ⟨⟨0, d.missing⟩, s.buffer.drop n⟩ t → ScansAt s t

/-- A scan finds in the buffer what one from its start would find, and no count is zero. -/
structure Sound (s : Stream) : Prop where
  scan_eq : s.decoder.scan s.buffer = Decoder.fresh.scan s.buffer
  counting : Decoder.Counting s.decoder.missing

/-- A fresh decoder is sound in front of any bytes. -/
theorem Sound.of_fresh (buffer : Bytes) : Sound ⟨.fresh, buffer⟩ :=
  ⟨rfl, List.forall_mem_nil _⟩

/-- More bytes do not change where the scan is to go on. -/
theorem Resumes.append {s : Stream} (h : s.Resumes) (bytes : Bytes) : (s.append bytes).Resumes := by
  intro more
  have hmore := h (bytes ++ more)
  rwa [← List.append_assoc] at hmore

/-- A stream that has kept pace decodes like a fresh one on the same bytes. -/
theorem Resumes.decode_eq {s : Stream} (h : s.Resumes) : s.decode = decodeOnce s.buffer := by
  have hnow := h []
  rw [List.append_nil] at hnow
  exact decodeFrom_congr hnow []

/-- Behind any bytes, every array that is open misses an element. -/
theorem counting_decodeOnce (buffer : Bytes) :
    Decoder.Counting (decodeOnce buffer).stream.decoder.missing := by
  rw [decodeOnce_eq]
  exact Decoder.Counting.scanFrom (d := .fresh) (List.forall_mem_nil _) _

namespace Reached

variable {s : Stream}

/-- A reached stream can go on where its scan has stopped. -/
theorem resumes (h : s.Reached) : s.Resumes := by
  induction h with
  | fresh => exact fresh_resumes
  | append bytes _ ih => exact ih.append bytes
  | decode _ hfault ih =>
      rw [ih.decode_eq] at hfault ⊢
      exact decodeOnce_resumes hfault

/-- In a reached stream every array that is open misses an element. -/
theorem counting (h : s.Reached) : Decoder.Counting s.decoder.missing := by
  induction h with
  | fresh => exact List.forall_mem_nil _
  | append bytes _ ih => exact ih
  | decode hbefore _ _ =>
      rw [hbefore.resumes.decode_eq]
      exact counting_decodeOnce _

/-- A reached stream is sound. -/
theorem sound (h : s.Reached) : s.Sound := by
  have hnow := h.resumes []
  rw [List.append_nil] at hnow
  exact ⟨hnow, h.counting⟩

end Reached

namespace Sound

variable {s t : Stream} {d : Decoder} {n : Nat}

/-- A frame that is found lies in the buffer and is one of the grammar. -/
theorem exists_denotes (hs : s.Sound) (h : s.decoder.scan s.buffer = (d, .frame n)) :
    n ≤ s.buffer.length ∧ d = ⟨n, []⟩ ∧ ∃ r, Denotes (s.buffer.take n) r := by
  rw [hs.scan_eq] at h
  obtain ⟨hle, hd, r, hr, -⟩ := exists_denotes_of_scan h
  exact ⟨hle, hd, r, hr⟩

/-- Behind a frame the decoder is fresh again. -/
theorem next (hs : s.Sound) (h : s.decoder.scan s.buffer = (d, .frame n)) :
    Sound ⟨⟨0, d.missing⟩, s.buffer.drop n⟩ := by
  obtain ⟨-, rfl, -⟩ := hs.exists_denotes h
  exact .of_fresh _

/-- A stream at which a call scans is as sound as the one that the call has started with. -/
theorem of_scansAt (hs : s.Sound) (h : s.ScansAt t) : t.Sound := by
  induction h with
  | start s => exact hs
  | next hscan _ ih => exact ih (hs.next hscan)

/-- The call that scans in a state goes on from there. -/
theorem exists_decodeFrom_eq (hs : s.Sound) (h : s.ScansAt t) (passed : List Reply) :
    ∃ later, decodeFrom passed s.decoder s.buffer = decodeFrom later t.decoder t.buffer := by
  induction h generalizing passed with
  | start s => exact ⟨passed, rfl⟩
  | @next s t d n hscan _ ih =>
      have hnext := hs.next hscan
      obtain ⟨-, rfl, r, hr⟩ := hs.exists_denotes hscan
      rw [decodeFrom_frame hscan hr]
      exact ih hnext (r :: passed)

/-- None of the checks fails. -/
theorem decodeFrom?_eq_some {s : Stream} (hs : s.Sound) (passed : List Reply) :
    decodeFrom? passed s.decoder s.buffer = some (decodeFrom passed s.decoder s.buffer) := by
  rcases hscan : s.decoder.scan s.buffer with ⟨d, v⟩
  rw [Stream.decodeFrom?_eq, Decoder.scan?_eq hs.counting, decodeFrom_eq, hscan]
  cases v with
  | incomplete => rfl
  | malformed fault => rfl
  | frame n =>
      obtain ⟨hle, -, r, hr⟩ := hs.exists_denotes hscan
      have hshorter := Decoder.length_drop_lt_of_scan hscan
      simp only [hr.reply?, hr.reply, if_neg (Nat.not_lt.2 hle)]
      exact (hs.next hscan).decodeFrom?_eq_some (r :: passed)
termination_by s.buffer.length
decreasing_by exact hshorter

/-- What stops a decoding has stopped a scan. -/
theorem exists_scansAt_of_fault {s : Stream} (hs : s.Sound) {passed : List Reply} {fault : Fault}
    (h : (decodeFrom passed s.decoder s.buffer).fault = some fault) :
    ∃ t d, s.ScansAt t ∧ t.decoder.scan t.buffer = (d, .malformed fault) := by
  rcases hscan : s.decoder.scan s.buffer with ⟨d, v⟩
  cases v with
  | incomplete =>
      rw [decodeFrom_eq, hscan] at h
      cases h
  | malformed fault' =>
      rw [decodeFrom_eq, hscan] at h
      cases h
      exact ⟨s, d, .start s, hscan⟩
  | frame n =>
      have hshorter := Decoder.length_drop_lt_of_scan hscan
      have hnext := hs.next hscan
      obtain ⟨-, rfl, r, hr⟩ := hs.exists_denotes hscan
      rw [decodeFrom_frame hscan hr] at h
      obtain ⟨t, d, ht, hfault⟩ := hnext.exists_scansAt_of_fault h
      exact ⟨t, d, .next hscan ht, hfault⟩
termination_by s.buffer.length
decreasing_by exact hshorter

end Sound

end Stream

/-! ## The faults of a scan -/

/-- The fault is one that an element can have by itself. -/
def Fault.inElement : Fault → Bool
  | .tooDeep | .truncatedFrame => false
  | _ => true

/-- A wrong number is a fault of the element that it stands in. -/
@[simp] theorem Fault.inElement_ofNumber (e : Decimal.Fault) :
    (Fault.ofNumber e).inElement = true := by
  cases e <;> rfl

/-- A wrong header is a fault of its element. -/
theorem Header.inElement_of_read {marker : UInt8} {line : Bytes} {fault : Fault}
    (h : Header.read marker line = .error fault) : fault.inElement = true := by
  have hnumber := Fault.inElement_ofNumber
  grind [Header.read, readLength, Fault.inElement]

/-- Whatever is wrong with an element is a fault in the element. -/
theorem Element.inElement_of_read {bytes : Bytes} {fault : Fault}
    (h : Element.read bytes = .malformed fault) : fault.inElement = true := by
  have hheader := @Header.inElement_of_read
  cases bytes with
  | nil => cases h
  | cons marker tail => grind [Element.read, Element.ofString, Fault.inElement]

/-- The scanner never calls a frame truncated, by induction on the scan. -/
theorem Decoder.scanFrom_ne_truncatedFrame (d : Decoder) (rest : Bytes) :
    (d.scanFrom rest).2 ≠ .malformed .truncatedFrame := by
  fun_induction Decoder.scanFrom d rest with
  | case1 | case3 | case5 => simp
  | case2 d rest fault hread =>
      rintro ⟨⟩
      exact Bool.false_ne_true (Element.inElement_of_read hread)
  | case4 _ _ _ _ _ _ ih => exact ih
  | case6 _ _ _ _ _ _ _ _ ih => exact ih

/-- In every call of a decoder that has met no fault before, no access is out of bounds and no count
of missing elements goes below zero: with a check in front of each the call does the same. What one
of its scans accepts lies within the buffer and leaves no array open, and the second pass builds a
reply of all of it. So every fault is one that a scan has met, and no frame is truncated. -/
theorem Stream.Reached.decode_in_bounds {s : Stream} (h : s.Reached) :
    s.decode? = some s.decode ∧
      (∀ t, s.ScansAt t →
        (∃ passed, s.decode = Stream.decodeFrom passed t.decoder t.buffer) ∧
          ∀ d n, t.decoder.scan t.buffer = (d, .frame n) →
            d.missing = [] ∧ n ≤ t.buffer.length ∧
              ∃ r, Frame.reply? (t.buffer.take n) = some (.ok (n, r)) ∧
                Frame.reply (t.buffer.take n) = .ok r) ∧
      (∀ fault, s.decode.fault = some fault → fault ≠ .truncatedFrame ∧
        ∃ t d, s.ScansAt t ∧ t.decoder.scan t.buffer = (d, .malformed fault)) := by
  refine ⟨h.sound.decodeFrom?_eq_some [], ?_, ?_⟩
  · intro t ht
    refine ⟨h.sound.exists_decodeFrom_eq ht [], fun d n hscan => ?_⟩
    obtain ⟨hle, rfl, r, hr⟩ := (h.sound.of_scansAt ht).exists_denotes hscan
    have hread := hr.reply?
    rw [List.length_take_of_le hle] at hread
    exact ⟨rfl, hle, r, hread, hr.reply⟩
  · intro fault hfault
    obtain ⟨t, d, ht, hscan⟩ := h.sound.exists_scansAt_of_fault hfault
    refine ⟨?_, t, d, ht, hscan⟩
    rintro rfl
    exact Decoder.scanFrom_ne_truncatedFrame _ _ (congrArg Prod.snd hscan)

/-- A nested array cut within its string, with a whole reply and a malformed one behind it. -/
theorem Stream.Reached.decode_in_bounds_nested :
    let cut := Stream.fresh.append (Utf8.encode "*2\r\n*1\r\n$3\r\nab")
    let s := cut.decode.stream.append (Utf8.encode "c\r\n:7\r\n+OK\r\n?\r\n")
    (s.Reached ∧ s.decoder = ⟨8, [1, 2]⟩ ∧
        s.decoder.scan s.buffer = (⟨21, []⟩, .frame 21) ∧
        s.decode.fault = some (.unexpectedMarker 63)) ∧
      s.decode? = some s.decode ∧
      (21 ≤ s.buffer.length ∧ ∃ r, Frame.reply? (s.buffer.take 21) = some (.ok (21, r)) ∧
        Frame.reply (s.buffer.take 21) = .ok r) ∧
      ∃ t d, s.ScansAt t ∧ t.decoder.scan t.buffer = (d, .malformed (.unexpectedMarker 63)) := by
  intro cut s
  have hreached : s.Reached := .append _ (.decode (.append _ .fresh) (by decide +kernel))
  have hstart : s.decoder = ⟨8, [1, 2]⟩ := by decide +kernel
  have hscan : s.decoder.scan s.buffer = (⟨21, []⟩, .frame 21) := by decide +kernel
  have hfault : s.decode.fault = some (.unexpectedMarker 63) := by decide +kernel
  obtain ⟨hchecked, hframes, hfaults⟩ := Stream.Reached.decode_in_bounds hreached
  exact ⟨⟨hreached, hstart, hscan, hfault⟩, hchecked,
    ((hframes s (.start s)).2 ⟨21, []⟩ 21 hscan).2, (hfaults _ hfault).2⟩

end CommandPipeline.Wire
