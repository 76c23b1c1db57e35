import CommandPipeline.Wire.Fault

/-!
# Elements of the reply stream

A reply stream is a sequence of elements. An element starts with a marker byte and a line; a string
element continues with the announced number of bytes and a line end, and an array element announces
how many further elements belong to it. Every other element stands for itself.

`Element.read` looks at the front of a byte string and measures the first element there, without
building a value. It reads no byte past the element, so an element that is whole stays the same
when more bytes arrive.
-/

namespace CommandPipeline.Wire

/-! ## Markers -/

/-- Starts a status line. -/
def statusMarker : UInt8 := 43

/-- Starts an error line. -/
def errorMarker : UInt8 := 45

/-- Starts an integer. -/
def integerMarker : UInt8 := 58

/-- Starts the length of a string. -/
def stringMarker : UInt8 := 36

/-- Starts the length of an array. -/
def arrayMarker : UInt8 := 42

/-! ## Headers -/

/-- What the first line of an element announces. -/
inductive Header where
  /-- The line is all there is, a value in itself. -/
  | plain
  /-- A string of this many bytes follows. -/
  | string (size : Nat)
  /-- An array of this many elements follows. -/
  | array (count : Nat)
  deriving DecidableEq, Repr

/-- The length that a header line announces. A negative one stands for nil. -/
def readLength (line : Bytes) : Except Fault (Option Nat) :=
  match Decimal.readHeader line with
  | .error e => .error (.ofNumber e)
  | .ok n => .ok (if n < 0 then none else some n.toNat)

/-- Reads the first line of an element, given without its marker. -/
def Header.read (marker : UInt8) (line : Bytes) : Except Fault Header :=
  if marker = statusMarker ∨ marker = errorMarker then .ok .plain
  else if marker = integerMarker then
    match Decimal.readHeader line with
    | .error e => .error (.ofNumber e)
    | .ok _ => .ok .plain
  else if marker = stringMarker then
    match readLength line with
    | .error e => .error e
    | .ok none => .ok .plain
    | .ok (some size) => .ok (.string size)
  else if marker = arrayMarker then
    match readLength line with
    | .error e => .error e
    | .ok none => .ok .plain
    | .ok (some count) => .ok (.array count)
  else .error (.unexpectedMarker marker)

/-! ## Elements -/

/-- The first element of a byte string. -/
inductive Element where
  /-- The element is not all there yet. -/
  | unfinished
  /-- No bytes that may follow can make this an element. -/
  | malformed (fault : Fault)
  /-- A whole element of `size` bytes, to which the next `children` elements belong. -/
  | whole (size children : Nat)
  deriving DecidableEq, Repr

/-- The bytes of a marker, a line and its line end. -/
def headerSize (line : Bytes) : Nat := line.length + 3

/-- The bytes that follow a header: whether the announced string and its line end are there. -/
def Element.ofString (headerBytes size : Nat) (rest : Bytes) : Element :=
  match rest.drop size with
  | a :: b :: _ =>
    if a = Bytes.cr ∧ b = Bytes.lf then .whole (headerBytes + size + 2) 0
    else .malformed .unterminatedString
  | _ => .unfinished

/-- Measures the element at the front of a byte string. The line must have ended before anything
about it is judged. -/
def Element.read (bytes : Bytes) : Element :=
  match bytes with
  | [] => .unfinished
  | marker :: tail =>
    match Bytes.splitLine? tail with
    | none => .unfinished
    | some (line, rest) =>
      match Header.read marker line with
      | .error fault => .malformed fault
      | .ok .plain => .whole (headerSize line) 0
      | .ok (.string size) => .ofString (headerSize line) size rest
      | .ok (.array count) => .whole (headerSize line) count

/-- A whole string element takes its header, its content and a line end. -/
theorem Element.ofString_whole {headerBytes size n c : Nat} {rest : Bytes}
    (h : Element.ofString headerBytes size rest = .whole n c) : n = headerBytes + size + 2 := by
  unfold Element.ofString at h
  split at h
  · split at h
    · injection h with h _
      exact h.symm
    · exact Element.noConfusion h
  · exact Element.noConfusion h

/-- A whole element has at least three bytes, and there is something to read. -/
theorem Element.read_whole {bytes : Bytes} {n c : Nat} (h : Element.read bytes = .whole n c) :
    3 ≤ n ∧ bytes ≠ [] := by
  unfold Element.read at h
  split at h
  · exact Element.noConfusion h
  · refine ⟨?_, List.cons_ne_nil _ _⟩
    split at h
    · exact Element.noConfusion h
    · split at h
      · exact Element.noConfusion h
      · injection h with h _
        subst h
        exact Nat.le_add_left ..
      · rw [Element.ofString_whole h]
        simp only [headerSize]
        omega
      · injection h with h _
        subst h
        exact Nat.le_add_left ..

/-- What is left behind a whole element is shorter. -/
theorem Element.length_drop_lt {bytes : Bytes} {n c : Nat} (h : Element.read bytes = .whole n c) :
    (bytes.drop n).length < bytes.length := by
  obtain ⟨hn, hne⟩ := Element.read_whole h
  have := List.length_pos_iff.2 hne
  rw [List.length_drop]
  omega

end CommandPipeline.Wire
