import CommandPipeline.Proofs.Wire.Grammar

/-!
# Elements and the grammar

`Element.read` measures what stands at the front of a byte string. It finds a scalar frame, or the
header of an array, exactly where the grammar has one. What it says about an element that is whole
or malformed rests on bytes that are all there, so bytes that arrive later do not change it.
-/

namespace CommandPipeline.Wire

open Bytes (OneLine crlf cr lf splitLine?)
open Decimal (Spells)

/-! ## Headers -/

/-- What the line behind a marker announces, by the grammar. -/
inductive Announces : UInt8 → Bytes → Header → Prop where
  | status {line : Bytes} : Announces statusMarker line .plain
  | error {line : Bytes} : Announces errorMarker line .plain
  | integer {line : Bytes} {n : Int} : Spells line n → Announces integerMarker line .plain
  | nilString {line : Bytes} {n : Int} : Spells line n → n < 0 → Announces stringMarker line .plain
  | string {line : Bytes} {k : Nat} : Spells line k → Announces stringMarker line (.string k)
  | nilArray {line : Bytes} {n : Int} : Spells line n → n < 0 → Announces arrayMarker line .plain
  | array {line : Bytes} {k : Nat} : Spells line k → Announces arrayMarker line (.array k)

/-- A header line that keeps to the grammar is read as its header. -/
theorem Announces.read {marker : UInt8} {line : Bytes} {header : Header}
    (h : Announces marker line header) : Header.read marker line = .ok header := by
  cases h with
  | status => rfl
  | error => rfl
  | integer h =>
      unfold Header.read
      rw [Decimal.readHeader_eq_ok_iff.2 h]
      rfl
  | nilString h hn =>
      unfold Header.read
      rw [readLength_eq_none_iff.2 ⟨_, hn, h⟩]
      rfl
  | string h =>
      unfold Header.read
      rw [readLength_eq_some_iff.2 h]
      rfl
  | nilArray h hn =>
      unfold Header.read
      rw [readLength_eq_none_iff.2 ⟨_, hn, h⟩]
      rfl
  | array h =>
      unfold Header.read
      rw [readLength_eq_some_iff.2 h]
      rfl

/-- A line is read as a header only if it keeps to the grammar. -/
theorem announces_of_read {marker : UInt8} {line : Bytes} {header : Header}
    (h : Header.read marker line = .ok header) : Announces marker line header := by
  rw [Header.read] at h
  split at h
  · next hm =>
    obtain rfl := Except.ok.inj h
    rcases hm with rfl | rfl
    · exact .status
    · exact .error
  · split at h
    · next hm =>
      subst hm
      split at h
      · cases h
      · next n hn =>
        obtain rfl := Except.ok.inj h
        exact .integer (Decimal.readHeader_eq_ok_iff.1 hn)
    · split at h
      · next hm =>
        subst hm
        split at h
        · cases h
        · next hn =>
          obtain rfl := Except.ok.inj h
          obtain ⟨n, hneg, hspells⟩ := readLength_eq_none_iff.1 hn
          exact .nilString hspells hneg
        · next k hk =>
          obtain rfl := Except.ok.inj h
          exact .string (readLength_eq_some_iff.1 hk)
      · split at h
        · next hm =>
          subst hm
          split at h
          · cases h
          · next hn =>
            obtain rfl := Except.ok.inj h
            obtain ⟨n, hneg, hspells⟩ := readLength_eq_none_iff.1 hn
            exact .nilArray hspells hneg
          · next k hk =>
            obtain rfl := Except.ok.inj h
            exact .array (readLength_eq_some_iff.1 hk)
        · cases h

/-- A line that is all there is makes a scalar frame. -/
theorem Announces.exists_scalar {marker : UInt8} {line : Bytes} (h : Announces marker line .plain)
    (hline : OneLine line) : ∃ r, Scalar (marker :: (line ++ crlf)) r := by
  cases h with
  | status => exact ⟨_, .status hline⟩
  | error => exact ⟨_, .error hline⟩
  | integer h => exact ⟨_, .integer h⟩
  | nilString h hn => exact ⟨_, .nilString h hn⟩
  | nilArray h hn => exact ⟨_, .nilArray h hn⟩

/-! ## Measuring elements -/

/-- Measuring cuts off the first line and goes by what it announces. -/
theorem Element.read_line (marker : UInt8) {line : Bytes} (hline : OneLine line) (rest : Bytes) :
    Element.read (marker :: (line ++ (crlf ++ rest))) =
      match Header.read marker line with
      | .error fault => .malformed fault
      | .ok .plain => .whole (headerSize line) 0
      | .ok (.string size) => .ofString (headerSize line) size rest
      | .ok (.array count) => .whole (headerSize line) count := by
  rw [Element.read]
  generalize hsplit : Bytes.splitLine? (line ++ (crlf ++ rest)) = parts
  obtain rfl := hsplit.symm.trans (Bytes.splitLine?_eq_some_iff.2 ⟨hline, rfl⟩)
  rfl

theorem length_header (marker : UInt8) (line body : Bytes) :
    (marker :: (line ++ (crlf ++ body))).length = headerSize line + body.length := by
  simp only [headerSize, List.length_cons, List.length_append, crlf, List.length_nil]
  omega

/-- Behind a header comes what follows its line end. -/
@[simp] theorem drop_headerSize (marker : UInt8) (line rest : Bytes) :
    (marker :: (line ++ (crlf ++ rest))).drop (headerSize line) = rest := by
  rw [headerSize, List.drop_succ_cons, ← List.append_assoc]
  exact List.drop_left' (by simp [crlf])

/-- The content of a string with its line end, and what follows. -/
theorem Element.ofString_content (headerBytes : Nat) (content rest : Bytes) :
    Element.ofString headerBytes content.length (content ++ (crlf ++ rest)) =
      .whole (headerBytes + content.length + 2) 0 := by
  rw [Element.ofString, List.drop_left]
  simp [crlf]

/-- A string element that is whole has its content and a line end in front of what follows. -/
theorem Element.exists_content_of_ofString {headerBytes size n c : Nat} {rest : Bytes}
    (h : Element.ofString headerBytes size rest = .whole n c) :
    c = 0 ∧ n = headerBytes + size + 2 ∧
      ∃ content tail, content.length = size ∧ rest = content ++ (crlf ++ tail) := by
  rw [Element.ofString] at h
  split at h
  · next a b tail hdrop =>
    split at h
    · next hend =>
      obtain ⟨rfl, rfl⟩ := hend
      obtain ⟨rfl, rfl⟩ := Element.whole.inj h
      have hlen := congrArg List.length hdrop
      rw [List.length_drop, List.length_cons, List.length_cons] at hlen
      refine ⟨rfl, rfl, rest.take size, tail, by rw [List.length_take]; omega, ?_⟩
      conv => lhs; rw [← List.take_append_drop size rest, hdrop]
      rfl
    · cases h
  · cases h

/-- A scalar frame is one element, to which no others belong. -/
theorem Scalar.read {frame : Bytes} {r : Reply} (h : Scalar frame r) (rest : Bytes) :
    Element.read (frame ++ rest) = .whole frame.length 0 := by
  cases h with
  | status h =>
      rw [List.cons_append, List.append_assoc, Element.read_line _ h, Announces.status.read]
      simp [headerSize, crlf]
  | error h =>
      rw [List.cons_append, List.append_assoc, Element.read_line _ h, Announces.error.read]
      simp [headerSize, crlf]
  | integer h =>
      rw [List.cons_append, List.append_assoc, Element.read_line _ h.oneLine,
        (Announces.integer h).read]
      simp [headerSize, crlf]
  | nilString h hn =>
      rw [List.cons_append, List.append_assoc, Element.read_line _ h.oneLine,
        (Announces.nilString h hn).read]
      simp [headerSize, crlf]
  | @string line content h =>
      simp only [List.cons_append, List.append_assoc]
      rw [Element.read_line _ h.oneLine, (Announces.string h).read]
      show Element.ofString _ _ _ = _
      rw [Element.ofString_content]
      simp only [headerSize, List.length_cons, List.length_append, crlf, List.length_nil,
        Element.whole.injEq, and_true]
      omega
  | nilArray h hn =>
      rw [List.cons_append, List.append_assoc, Element.read_line _ h.oneLine,
        (Announces.nilArray h hn).read]
      simp [headerSize, crlf]

/-- The header of an array is an element to which its elements belong. -/
theorem Element.read_arrayHeader {line : Bytes} {k : Nat} (h : Spells line k) (rest : Bytes) :
    Element.read (arrayMarker :: (line ++ (crlf ++ rest))) = .whole (headerSize line) k := by
  rw [Element.read_line _ h.oneLine, (Announces.array h).read]

/-- A whole element is a scalar frame or the header of an array. -/
theorem Element.cases_of_read_whole {bytes : Bytes} {n k : Nat}
    (h : Element.read bytes = .whole n k) :
    (k = 0 ∧ ∃ frame r rest, Scalar frame r ∧ n = frame.length ∧ bytes = frame ++ rest) ∨
      ∃ line rest, Spells line k ∧ n = headerSize line ∧
        bytes = arrayMarker :: (line ++ (crlf ++ rest)) := by
  unfold Element.read at h
  split at h
  · cases h
  · next marker tail =>
    split at h
    · cases h
    · next line rest hsplit =>
      obtain ⟨hline, rfl⟩ := Bytes.splitLine?_eq_some_iff.1 hsplit
      split at h
      · cases h
      · next hread =>
        obtain ⟨rfl, rfl⟩ := Element.whole.inj h
        obtain ⟨r, hr⟩ := (announces_of_read hread).exists_scalar hline
        exact .inl ⟨rfl, _, r, rest, hr, by simp [headerSize, crlf], by simp⟩
      · next size hread =>
        obtain ⟨rfl, rfl, content, tail, rfl, rfl⟩ := Element.exists_content_of_ofString h
        cases announces_of_read hread with
        | string hspells =>
            refine .inl ⟨rfl, _, _, tail, .string hspells, ?_, by simp⟩
            simp only [headerSize, List.length_cons, List.length_append, crlf, List.length_nil]
            omega
      · next count hread =>
        obtain ⟨rfl, rfl⟩ := Element.whole.inj h
        cases announces_of_read hread with
        | array hspells => exact .inr ⟨line, rest, hspells, rfl, rfl⟩

/-! ## Bytes that arrive later -/

/-- More bytes do not change what a string element has turned out to be. -/
theorem Element.ofString_append {headerBytes size : Nat} {rest : Bytes}
    (h : Element.ofString headerBytes size rest ≠ .unfinished) (more : Bytes) :
    Element.ofString headerBytes size (rest ++ more) = Element.ofString headerBytes size rest := by
  rw [Element.ofString] at h
  split at h
  · next a b tail hdrop =>
    have hsize : size ≤ rest.length := by
      have hlen := congrArg List.length hdrop
      rw [List.length_drop, List.length_cons] at hlen
      omega
    rw [Element.ofString, Element.ofString, List.drop_append_of_le_length hsize, hdrop]
    rfl
  · exact absurd rfl h

/-- An element that is not unfinished stays what it is. -/
theorem Element.read_append {bytes : Bytes} (h : Element.read bytes ≠ .unfinished) (more : Bytes) :
    Element.read (bytes ++ more) = Element.read bytes := by
  unfold Element.read at h
  split at h
  · exact absurd rfl h
  · next marker tail =>
    split at h
    · exact absurd rfl h
    · next line rest hsplit =>
      obtain ⟨hline, rfl⟩ := Bytes.splitLine?_eq_some_iff.1 hsplit
      have hmore : marker :: (line ++ (crlf ++ rest)) ++ more =
          marker :: (line ++ (crlf ++ (rest ++ more))) := by simp
      rw [hmore, Element.read_line _ hline, Element.read_line _ hline]
      cases hread : Header.read marker line with
      | error fault => rfl
      | ok header =>
          cases header with
          | plain => rfl
          | array count => rfl
          | string size =>
              rw [hread] at h
              exact Element.ofString_append h more

end CommandPipeline.Wire
