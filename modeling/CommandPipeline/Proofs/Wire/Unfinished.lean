import CommandPipeline.Proofs.Wire.Bounds
import CommandPipeline.Proofs.Wire.Prefixes

/-!
# What a decoder knows of an unfinished frame

A decoder that stands behind the front of a frame knows what completes it. Of the innermost array as
many elements are due as its count says, and of every array around it one less, since the array
inside is itself one of those that are counted (`due`). Nesting within the limit, these frames and
no other bytes complete the front (`Stands.isFrame_append_iff`).

`Stream.Represents` says all that the state of a decoder stands for. It holds after every history
without a fault. While no frame is completed a decoder never goes back, and it never looks again at
bytes that it has checked.
-/

namespace CommandPipeline.Wire

/-! ## What completes a frame -/

/-- The bytes are whole frames, as many as the counts say: first elements of the innermost array,
then of the array around it, and so on. None of them is nested too deep, together with the arrays
that it lies in. -/
inductive Fills : List Nat → Bytes → Prop where
  | nil : Fills [] []
  | cons {body rest : Bytes} {items : List Reply} {counts : List Nat} : DenoteEach body items →
      Reply.levels items + counts.length ≤ nestingLimit → Fills counts rest →
      Fills (items.length :: counts) (body ++ rest)

/-- What is missing from arrays one inside the other, where each of them is counted as missing from
the one around it. -/
def due : List Nat → List Nat
  | [] => []
  | n :: outer => n :: outer.map (· - 1)

/-- With no array open nothing is missing. -/
theorem fills_nil_iff {w : Bytes} : Fills [] w ↔ w = [] := by
  constructor
  · rintro ⟨⟩
    rfl
  · rintro rfl
    exact .nil

/-- The innermost array is filled first. -/
theorem fills_cons_iff {n : Nat} {counts : List Nat} {w : Bytes} :
    Fills (n :: counts) w ↔ ∃ body items rest, w = body ++ rest ∧ DenoteEach body items ∧
      items.length = n ∧ Reply.levels items + counts.length ≤ nestingLimit ∧ Fills counts rest := by
  constructor
  · rintro ⟨⟩
    next hitems hlevels hrest => exact ⟨_, _, _, rfl, hitems, rfl, hlevels, hrest⟩
  · rintro ⟨body, items, rest, rfl, hitems, rfl, hlevels, hrest⟩
    exact .cons hitems hlevels hrest

/-- An array of which nothing is missing takes no bytes. -/
theorem fills_zero_cons_iff {counts : List Nat} {w : Bytes} (h : counts.length ≤ nestingLimit) :
    Fills (0 :: counts) w ↔ Fills counts w := by
  rw [fills_cons_iff]
  constructor
  · rintro ⟨body, items, rest, rfl, hitems, hlength, -, hrest⟩
    obtain rfl := List.eq_nil_of_length_eq_zero hlength
    cases hitems
    exact hrest
  · intro hw
    exact ⟨[], [], w, rfl, .nil, rfl, by rwa [Reply.levels, Nat.zero_add], hw⟩

namespace Decoder

variable {outer : List Nat}

/-- A scan inside an array finds the end of the outermost frame if the missing elements are there
and it finds the end behind them. -/
theorem scanFrom_frame_iff (houter : outer.length < nestingLimit) (k c n : Nat) (w : Bytes) :
    (scanFrom ⟨c, (k + 1) :: outer⟩ w).2 = .frame n ↔
      ∃ body items rest, w = body ++ rest ∧ DenoteEach body items ∧ items.length = k + 1 ∧
        Reply.levels items + outer.length ≤ nestingLimit ∧
        (advance ⟨c + body.length, outer⟩ rest).2 = .frame n := by
  constructor
  · intro h
    have hscan : scanFrom ⟨c, (k + 1) :: outer⟩ w = (_, .frame n) := Prod.ext rfl h
    obtain ⟨body, items, rest, hw, hitems, hlength, hlevels, hadvance⟩ :=
      exists_elements_of_scanFrom (fun e more _ he hmore => passesFrame_of_scanFrom he hmore)
        houter k c (Nat.lt_succ_self _) hscan
    exact ⟨body, items, rest, hw, hitems, hlength, hlevels, congrArg Prod.snd hadvance⟩
  · rintro ⟨body, items, rest, rfl, hitems, hlength, hlevels, hadvance⟩
    have hne : items ≠ [] := by
      rintro rfl
      cases hlength
    rwa [← hlength, hitems.scanFrom_append hne c outer hlevels]

/-- It finds the end just behind the bytes if these are the missing elements, and then what leads to
the end behind the array. -/
theorem scanFrom_frame_iff_fills {c : Nat} {counts : List Nat}
    (hcounts : counts.length = outer.length) (houter : outer.length < nestingLimit)
    (hbehind : ∀ c w, (advance ⟨c, outer⟩ w).2 = .frame (c + w.length) ↔ Fills counts w)
    (k : Nat) (w : Bytes) :
    (scanFrom ⟨c, (k + 1) :: outer⟩ w).2 = .frame (c + w.length) ↔
      Fills ((k + 1) :: counts) w := by
  have hend : ∀ body rest : Bytes,
      (advance ⟨c + body.length, outer⟩ rest).2 = .frame (c + (body ++ rest).length) ↔
        Fills counts rest := by
    intro body rest
    rw [List.length_append, ← Nat.add_assoc, hbehind]
  rw [scanFrom_frame_iff houter, fills_cons_iff, hcounts]
  constructor
  · rintro ⟨body, items, rest, rfl, hitems, hlength, hlevels, hadvance⟩
    exact ⟨body, items, rest, rfl, hitems, hlength, hlevels, (hend body rest).1 hadvance⟩
  · rintro ⟨body, items, rest, rfl, hitems, hlength, hlevels, hfills⟩
    exact ⟨body, items, rest, rfl, hitems, hlength, hlevels, (hend body rest).2 hfills⟩

/-- Behind an element the scan ends with the bytes if they are what is missing from the arrays
around it. -/
theorem advance_frame_iff (hcounting : ∀ n ∈ outer, 0 < n) (hdepth : outer.length ≤ nestingLimit)
    (c : Nat) (w : Bytes) :
    (advance ⟨c, outer⟩ w).2 = .frame (c + w.length) ↔ Fills (outer.map (· - 1)) w := by
  induction outer generalizing c w with
  | nil =>
      simp [fills_nil_iff]
  | cons m outer ih =>
      obtain ⟨hm, hrest⟩ := List.forall_mem_cons.1 hcounting
      have hbehind := ih hrest (Nat.le_of_succ_le hdepth)
      -- The element may be the last one that is missing from the array around it.
      rcases m with _ | _ | k
      · exact absurd hm (Nat.lt_irrefl 0)
      · rw [advance_one, hbehind, List.map_cons]
        exact (fills_zero_cons_iff (by rw [List.length_map]; exact Nat.le_of_succ_le hdepth)).symm
      · rw [advance_add_two]
        exact scanFrom_frame_iff_fills (List.length_map _) hdepth hbehind k w

end Decoder

/-- A byte string is a frame exactly if the scan ends with it. -/
theorem isFrame_iff {bytes : Bytes} :
    IsFrame bytes ↔ (Decoder.fresh.scan bytes).2 = .frame bytes.length := by
  constructor
  · rintro ⟨r, hr⟩
    obtain ⟨hle, hdenotes, hdepth⟩ := denotes_of_parse hr
    rw [List.take_length] at hdenotes
    have hscan := hdenotes.scan hdepth []
    rw [List.append_nil] at hscan
    rw [hscan]
  · intro h
    have hscan : Decoder.fresh.scan bytes = (_, .frame bytes.length) := Prod.ext rfl h
    obtain ⟨hle, -, r, hr, hdepth⟩ := exists_denotes_of_scan hscan
    exact ⟨r, parse_of_denotes hle hr hdepth⟩

/-- Bytes complete a frame that has begun exactly if they are the frames that are due. -/
theorem Decoder.Stands.isFrame_append_iff {d : Decoder} {front : Bytes} (h : d.Stands front)
    (hne : d.missing ≠ []) (w : Bytes) : IsFrame (front ++ w) ↔ Fills (due d.missing) w := by
  have hcounting := h.begins.counting
  have hdepth := h.depth
  rw [isFrame_iff, List.length_append, ← h.checked, Decoder.scan]
  show (Decoder.fresh.scanFrom (front ++ w)).2 = _ ↔ _
  rw [h.resumes]
  obtain ⟨c, _ | ⟨_ | k, outer⟩⟩ := d
  · exact absurd rfl hne
  · exact absurd (hcounting 0 List.mem_cons_self) (Nat.lt_irrefl 0)
  · have hbehind := Decoder.advance_frame_iff (List.forall_mem_cons.1 hcounting).2
      (Nat.le_of_succ_le hdepth)
    exact Decoder.scanFrom_frame_iff_fills (List.length_map _) hdepth hbehind k w

/-! ## All histories of a decoder -/

/-- A scan never goes back, by induction on it. -/
theorem Decoder.checked_le_scanFrom (d : Decoder) (rest : Bytes) :
    d.checked ≤ (d.scanFrom rest).1.checked := by
  fun_induction scanFrom d rest with
  | case1 | case2 => exact Nat.le_refl _
  | case3 | case5 => exact Nat.le_add_right _ _
  | case4 d rest size checked _ _ ih => exact Nat.le_trans (Nat.le_add_right _ size) ih
  | case6 d rest size k _ checked _ _ ih => exact Nat.le_trans (Nat.le_add_right _ size) ih

/-- Where no reply is parsed, all bytes are left. -/
theorem parseAll_rest_of_replies {bytes : Bytes} (h : (parseAll bytes).replies = []) :
    (parseAll bytes).rest = bytes := by
  rcases hparse : parse bytes with fault | _ | ⟨n, r⟩
  · rw [parseAll_of_error hparse]
  · rw [parseAll_of_none hparse]
  · rw [parseAll_of_some hparse] at h
    cases h

namespace Stream

variable {s : Stream}

/-- A call that completes no frame keeps all bytes and only goes on with the scan. -/
theorem Resumes.stream_feed (h : s.Resumes) {chunk : Bytes} (hnone : (s.feed chunk).replies = []) :
    (s.feed chunk).stream = ⟨(s.decoder.scan (s.buffer ++ chunk)).1, s.buffer ++ chunk⟩ := by
  rw [feed_eq_decodeOnce h, decodeOnce_eq] at hnone ⊢
  rw [parseAll_rest_of_replies hnone, h chunk]

/-- The later stream has the same bytes and perhaps some more, and as many of them are checked and
perhaps some more. -/
structure GrowsTo (s t : Stream) : Prop where
  buffer : s.buffer <+: t.buffer
  checked : s.decoder.checked ≤ t.decoder.checked

/-- What grows step by step grows altogether. -/
theorem GrowsTo.trans {t u : Stream} (h : s.GrowsTo t) (hlater : t.GrowsTo u) : s.GrowsTo u :=
  ⟨h.buffer.trans hlater.buffer, Nat.le_trans h.checked hlater.checked⟩

/-- What the decoder of a stream knows is true of its buffer. -/
structure Represents (s : Stream) : Prop where
  /-- What is checked is there. -/
  within : s.decoder.checked ≤ s.buffer.length
  /-- No array that is complete is counted. -/
  counting : ∀ n ∈ s.decoder.missing, 1 ≤ n
  depth : s.decoder.missing.length ≤ nestingLimit
  /-- Between frames nothing is checked, and inside a frame something is. -/
  between : s.decoder.missing = [] ↔ s.decoder.checked = 0
  /-- The checked bytes are whole headers and elements, and the counts belong to the arrays that
  have begun there. -/
  begins : Begins (s.buffer.take s.decoder.checked) s.decoder.missing
  /-- They are completed by the frames that are due, and by nothing else. -/
  completes : s.decoder.missing ≠ [] → ∀ w,
    IsFrame (s.buffer.take s.decoder.checked ++ w) ↔ Fills (due s.decoder.missing) w
  /-- As long as no frame is completed no byte is checked again. -/
  grows : ∀ chunks, (∀ o ∈ s.feedAll chunks, o.replies = [] ∧ o.fault = none) →
    (s :: (s.feedAll chunks).map Decoded.stream).Pairwise GrowsTo
  /-- With other bytes in place of the checked ones, the scan goes on to find what one from the
  start finds in the true ones. -/
  forgets : ∀ other, other.length = s.decoder.checked → ∀ more,
    s.decoder.scan? (other ++ (s.buffer.drop s.decoder.checked ++ more)) =
      some (Decoder.fresh.scan (s.buffer ++ more))

namespace Reached

/-- The decoder stands behind the front of a frame. -/
theorem exists_stands (h : s.Reached) :
    ∃ front behind, s.buffer = front ++ behind ∧ s.decoder.Stands front := by
  induction h with
  | fresh => exact ⟨[], [], rfl, Decoder.stands_fresh⟩
  | append bytes _ ih =>
      obtain ⟨front, behind, hbuffer, hstands⟩ := ih
      refine ⟨front, behind ++ bytes, ?_, hstands⟩
      rw [Stream.append, hbuffer, List.append_assoc]
  | decode hbefore hfault _ =>
      rw [hbefore.resumes.decode_eq] at hfault ⊢
      obtain ⟨passed, behind, hbuffer, hstands⟩ :=
        Decoder.Stands.of_scanFrom (scan_decodeOnce hfault) [] Decoder.stands_fresh
      exact ⟨passed, behind, hbuffer, hstands⟩

/-- A chunk that brings no reply moves the decoder on or leaves it. -/
theorem growsTo (h : s.Reached) {chunk : Bytes} (hnone : (s.feed chunk).replies = []) :
    s.GrowsTo (s.feed chunk).stream := by
  rw [h.resumes.stream_feed hnone]
  exact ⟨List.prefix_append _ _, Decoder.checked_le_scanFrom _ _⟩

/-- As long as no reply comes, each chunk moves the decoder on or leaves it, and so do any further
ones. -/
theorem pairwise_growsTo (h : s.Reached) (chunks : List Bytes)
    (hnone : ∀ o ∈ s.feedAll chunks, o.replies = [] ∧ o.fault = none) :
    (s :: (s.feedAll chunks).map Decoded.stream).Pairwise GrowsTo := by
  induction chunks generalizing s with
  | nil => exact List.pairwise_singleton _ _
  | cons chunk later ih =>
      have hcalls : s.feedAll (chunk :: later) =
          s.feed chunk :: (s.feed chunk).stream.feedAll later := by
        have hfault : (s.feed chunk).fault = none := by
          refine (hnone _ ?_).2
          rw [feedAll]
          split <;> exact List.mem_cons_self
        rw [feedAll, hfault]
      rw [hcalls] at hnone ⊢
      obtain ⟨⟨hreplies, hfault⟩, hlater⟩ := List.forall_mem_cons.1 hnone
      have hfirst := h.growsTo hreplies
      have hrest := ih (.decode (.append chunk h) hfault) hlater
      refine List.pairwise_cons.2 ⟨fun t ht => ?_, hrest⟩
      rcases List.mem_cons.1 ht with rfl | hmem
      · exact hfirst
      · exact hfirst.trans ((List.pairwise_cons.1 hrest).1 t hmem)

/-- After every history of appends and of calls without a fault, the counts of a decoder and the
number of bytes that it has checked stand for what its buffer holds. -/
theorem represents (h : s.Reached) : s.Represents := by
  obtain ⟨front, behind, hbuffer, hstands⟩ := h.exists_stands
  have htake : s.buffer.take s.decoder.checked = front := by
    rw [hbuffer, hstands.checked, List.take_left]
  refine ⟨?_, h.counting, hstands.depth, ?_, ?_, ?_, h.pairwise_growsTo, ?_⟩
  · rw [hbuffer, hstands.checked, List.length_append]
    exact Nat.le_add_right _ _
  · rw [hstands.begins.eq_nil_iff, hstands.checked, List.length_eq_zero_iff]
  · rw [htake]
    exact hstands.begins
  · intro hne w
    rw [htake]
    exact hstands.isFrame_append_iff hne w
  · intro other hother more
    rw [Decoder.scan?_eq h.counting, ← h.resumes more, Decoder.scan, Decoder.scan, ← hother,
      List.drop_left, List.drop_append_of_le_length]
    rw [hother, hbuffer, hstands.checked, List.length_append]
    exact Nat.le_add_right _ _

/-- One array inside another one, cut within a string: one element is missing from the inner array,
and two from the outer one, of which the inner array is the first. -/
theorem represents_nested :
    let s := (Stream.fresh.append (Utf8.encode "*2\r\n*1\r\n$3\r\nab")).decode.stream
    let one := Utf8.encode ":1\r\n"
    (s.Reached ∧ s.decoder = ⟨8, [1, 2]⟩ ∧ due s.decoder.missing = [1, 1]) ∧ s.Represents ∧
      IsFrame (s.buffer.take 8 ++ (one ++ one)) ∧
      (s.feedAll [Utf8.encode "c\r", Utf8.encode "\n:"]).map (·.stream.decoder) =
        [⟨8, [1, 2]⟩, ⟨17, [1]⟩] := by
  intro s one
  have hs : s.Reached := .decode (.append _ .fresh) (by decide +kernel)
  have hdecoder : s.decoder = ⟨8, [1, 2]⟩ := by decide +kernel
  have hdue : due s.decoder.missing = [1, 1] := by rw [hdecoder]; rfl
  have hparse : parse one = .ok (some (4, .integer 1)) := by decide +kernel
  have hone : DenoteEach one [.integer 1] := .singleton (denotes_of_parse hparse).2.1
  have hfills := Fills.cons hone (by decide) (.cons hone (by decide) .nil)
  rw [List.append_nil] at hfills
  have hframe := (represents hs).completes (by rw [hdecoder]; decide) (one ++ one)
  rw [hdue, hdecoder] at hframe
  exact ⟨⟨hs, hdecoder, hdue⟩, represents hs, hframe.2 hfills, by decide +kernel⟩

end Reached

end Stream

end CommandPipeline.Wire
