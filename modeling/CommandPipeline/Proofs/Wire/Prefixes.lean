import Mathlib.Control.Monad.Basic
import CommandPipeline.Proofs.Wire.Cuts

/-!
# Answers that more bytes do not change

Parsing says nothing until it is sure. Once it has given an answer, a reply or a fault, it gives the
same answer however the bytes go on (`parse_append_of_ne_none`), so on a prefix it has said the same
already or nothing yet (`parse_of_prefix`). What is accepted is therefore accepted at the first
moment possible and at no other size, what is refused could not have been saved by more bytes, and
no frame begins another one.
-/

namespace CommandPipeline.Wire

variable {bytes front : Bytes} {n : Nat} {r : Reply}

/-- An answer is final. -/
theorem parse_append_of_ne_none (h : parse bytes ≠ .ok none) (more : Bytes) :
    parse (bytes ++ more) = parse bytes := by
  rcases hparse : parse bytes with fault | _ | ⟨n, r⟩
  · exact parse_append_of_error hparse more
  · exact absurd hparse h
  · exact parse_append hparse more

/-- A prefix has no answer yet, or the answer of the whole. -/
theorem parse_of_prefix (h : front <+: bytes) :
    parse front = .ok none ∨ parse front = parse bytes := by
  obtain ⟨more, rfl⟩ := h
  by_cases hnone : parse front = .ok none
  · exact .inl hnone
  · exact .inr (parse_append_of_ne_none hnone more).symm

/-- A reply is there as soon as its last byte is, and not before. -/
theorem parse_prefix_eq_ite (h : parse bytes = .ok (some (n, r))) (hfront : front <+: bytes) :
    parse front = if n ≤ front.length then .ok (some (n, r)) else .ok none := by
  obtain ⟨-, hr, hdepth⟩ := denotes_of_parse h
  split
  · next hle =>
    obtain ⟨more, rfl⟩ := hfront
    rw [List.take_append_of_le_length hle] at hr
    exact parse_of_denotes hle hr hdepth
  · next hshort =>
    rcases parse_of_prefix hfront with hnone | hwhole
    · exact hnone
    · -- An answer takes no more bytes than there are.
      exact absurd (denotes_of_parse (hwhole.trans h)).1 hshort

/-- A reply that a line completes takes up the whole line. -/
theorem parse_append_line {text : Bytes} (hbefore : parse bytes = .ok none)
    (htext : Bytes.lf ∉ text) (h : parse (bytes ++ (text ++ [Bytes.lf])) = .ok (some (n, r))) :
    n = (bytes ++ (text ++ [Bytes.lf])).length := by
  have hlong := lt_of_parse_append hbefore h
  obtain ⟨hle, hr, -⟩ := denotes_of_parse h
  by_contra hne
  -- The frame would end inside the text, with a line feed.
  have hrest : n - bytes.length ≤ text.length := by
    simp only [List.length_append, List.length_singleton] at hle hne
    omega
  obtain ⟨before, hend⟩ := hr.crlf_suffix
  rw [List.take_append, List.take_of_length_le (Nat.le_of_lt hlong),
    List.take_append_of_le_length hrest] at hend
  have hnonempty : text.take (n - bytes.length) ≠ [] := by
    rw [ne_eq, List.take_eq_nil_iff, not_or, ← List.length_eq_zero_iff]
    omega
  have hlast := congrArg List.getLast? hend
  rw [List.getLast?_append, List.getLast?_append, List.getLast?_eq_some_getLast hnonempty,
    Option.some_or] at hlast
  have hmem : Bytes.lf ∈ text.take (n - bytes.length) := by
    rw [show Bytes.lf = _ from Option.some.inj hlast]
    exact List.getLast_mem hnonempty
  exact htext (List.mem_of_mem_take hmem)

/-- When a line has completed a reply nothing of it is left. -/
theorem Stream.CaughtUp.buffer_feed_line {s : Stream} {text : Bytes} (h : s.CaughtUp)
    (htext : Bytes.lf ∉ text) (hreplies : (s.feed (text ++ [Bytes.lf])).replies ≠ []) :
    (s.feed (text ++ [Bytes.lf])).stream.buffer = [] := by
  have hbefore : parse s.buffer = .ok none := by rw [parse, h]
  rw [h.feed_eq, decodeOnce_eq] at hreplies ⊢
  rcases hparse : parse (s.buffer ++ (text ++ [Bytes.lf])) with fault | _ | ⟨n, r⟩
  · rw [parseAll_of_error hparse] at hreplies
    exact absurd rfl hreplies
  · rw [parseAll_of_none hparse] at hreplies
    exact absurd rfl hreplies
  · rw [parseAll_of_some hparse, parse_append_line hbefore htext hparse]
    simp

/-- A byte string that is a whole frame. -/
def IsFrame (bytes : Bytes) : Prop := ∃ r, parse bytes = .ok (some (bytes.length, r))

/-- No frame begins another one. -/
theorem IsFrame.eq_of_prefix (hfront : IsFrame front) (hbytes : IsFrame bytes)
    (h : front <+: bytes) : front = bytes := by
  obtain ⟨r, hr⟩ := hfront
  obtain ⟨s, hs⟩ := hbytes
  have hprefix := parse_prefix_eq_ite hs h
  rw [hr] at hprefix
  split at hprefix
  · next hle => exact h.eq_of_length_le hle
  · cases hprefix

/-- What parsing says of some bytes does not depend on those that follow. A reply is given for every
longer input, and for the prefixes that are long enough to hold its frame, while shorter ones are
incomplete. A fault is reported for every longer input too, and no prefix of such bytes is a frame.
No frame is a proper prefix of another one. -/
theorem parse_stable (bytes : Bytes) :
    (∀ n r, parse bytes = .ok (some (n, r)) →
        (∀ more, parse (bytes ++ more) = .ok (some (n, r))) ∧
        ∀ front, front <+: bytes →
          parse front = if n ≤ front.length then .ok (some (n, r)) else .ok none) ∧
      (∀ fault, parse bytes = .error fault →
        (∀ more, parse (bytes ++ more) = .error fault) ∧
        ∀ front, front <+: bytes → parse front = .ok none ∨ parse front = .error fault) ∧
      (IsFrame bytes → ∀ front, front <+: bytes → IsFrame front → front = bytes) := by
  refine ⟨fun n r h => ⟨parse_append h, fun front => parse_prefix_eq_ite h⟩, ?_, ?_⟩
  · intro fault h
    refine ⟨parse_append_of_error h, fun front hfront => ?_⟩
    rw [← h]
    exact parse_of_prefix hfront
  · exact fun hbytes front hprefix hfront => hfront.eq_of_prefix hbytes hprefix

/-- A string of a line end, in an array, with the marker of a further reply behind it, and a string
that is longer than announced. -/
theorem parse_stable_lineEnd :
    let frame := Utf8.encode "*1\r\n$2\r\n\r\n\r\n"
    let bytes := frame ++ Utf8.encode "+"
    let broken := Utf8.encode "*2\r\n:1\r\n$2\r\nabc\r\n"
    (parse bytes = .ok (some (12, .array [.string Bytes.crlf])) ∧
        (∀ more, parse (bytes ++ more) = .ok (some (12, .array [.string Bytes.crlf]))) ∧
        parse (bytes.take 11) = .ok none) ∧
      (parse broken = .error .unterminatedString ∧
        (∀ more, parse (broken ++ more) = .error .unterminatedString) ∧
        (parse (broken.take 13) = .ok none ∨ parse (broken.take 13) = .error .unterminatedString)) ∧
      (IsFrame frame ∧ ∀ front, front <+: frame → IsFrame front → front = frame) := by
  intro frame bytes broken
  have hreply : parse bytes = .ok (some (12, .array [.string Bytes.crlf])) := by decide +kernel
  have hfault : parse broken = .error .unterminatedString := by decide +kernel
  have hframe : IsFrame frame := ⟨.array [.string Bytes.crlf], by decide +kernel⟩
  obtain ⟨hlonger, hshorter⟩ := (parse_stable bytes).1 _ _ hreply
  obtain ⟨hstill, hbefore⟩ := (parse_stable broken).2.1 _ hfault
  exact ⟨⟨hreply, hlonger, hshorter _ (List.take_prefix 11 bytes)⟩,
    ⟨hfault, hstill, hbefore _ (List.take_prefix 13 broken)⟩,
    hframe, (parse_stable frame).2.2 hframe⟩

end CommandPipeline.Wire
