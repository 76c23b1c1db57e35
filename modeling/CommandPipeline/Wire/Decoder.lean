import CommandPipeline.Wire.Frame

/-!
# The resumable decoder

Replies arrive in pieces that bear no relation to their boundaries. A decoder remembers how far it
has checked the reply at the front of the buffer: the number of bytes already measured, and for each
array begun there how many elements are missing. `scan` goes on from there and either runs out of
bytes, finds the end of the frame, or meets a fault.

A fault leaves the decoder where the element at fault starts. The one exception is an array nested
too deep: its header has been measured before the nesting is judged, so it counts as checked.
-/

namespace CommandPipeline.Wire

/-- How far the frame at the front of the buffer is known to be well formed. -/
structure Decoder where
  /-- Bytes at the front of the buffer that are measured already. -/
  checked : Nat
  /-- Elements missing from each array that has begun, innermost first. -/
  missing : List Nat
  deriving DecidableEq, Repr

/-- What a scan found. -/
inductive Verdict where
  /-- The frame goes on past the bytes at hand. -/
  | incomplete
  /-- The frame ends after this many bytes. -/
  | frame (size : Nat)
  /-- The stream breaks the format. -/
  | malformed (fault : Fault)
  deriving DecidableEq, Repr

namespace Decoder

/-- A decoder at the start of a frame. -/
def fresh : Decoder := ⟨0, []⟩

/-- Counts one element as there. An array that misses nothing any more counts as an element of the
array around it. -/
def close : List Nat → List Nat
  | [] => []
  | n :: outer => if 1 < n then (n - 1) :: outer else close outer

/-- Goes on scanning at `rest`, the bytes behind those checked. -/
def scanFrom (d : Decoder) (rest : Bytes) : Decoder × Verdict :=
  match _h : Element.read rest with
  | .unfinished => (d, .incomplete)
  | .malformed fault => (d, .malformed fault)
  | .whole size children =>
    let checked := d.checked + size
    if children = 0 then
      match close d.missing with
      | [] => (⟨checked, []⟩, .frame checked)
      | missing => scanFrom ⟨checked, missing⟩ (rest.drop size)
    else if nestingLimit ≤ d.missing.length then (⟨checked, d.missing⟩, .malformed .tooDeep)
    else scanFrom ⟨checked, children :: d.missing⟩ (rest.drop size)
termination_by rest.length
decreasing_by all_goals exact Element.length_drop_lt _h

/-- Scans the buffer from where the decoder stopped. -/
def scan (d : Decoder) (buffer : Bytes) : Decoder × Verdict := d.scanFrom (buffer.drop d.checked)

/-- Without bytes the scan waits where it is. -/
@[simp] theorem scanFrom_nil (d : Decoder) : d.scanFrom [] = (d, .incomplete) := by
  simp [scanFrom, Element.read]

/-- A frame found by a scan has at least one byte. -/
theorem pos_of_scanFrom_frame {d d' : Decoder} {rest : Bytes} {n : Nat}
    (h : d.scanFrom rest = (d', .frame n)) : 0 < n := by
  fun_induction scanFrom d rest with
  | case1 => simp at h
  | case2 => simp at h
  | case3 d rest size checked _ hread =>
    have := Element.read_whole hread
    simp only [Prod.mk.injEq, Verdict.frame.injEq] at h
    omega
  | case4 _ _ _ _ _ _ ih => exact ih h
  | case5 => simp at h
  | case6 _ _ _ _ _ _ _ _ ih => exact ih h

/-- Taking a found frame off the buffer leaves fewer bytes. -/
theorem length_drop_lt_of_scan {d d' : Decoder} {buffer : Bytes} {n : Nat}
    (h : d.scan buffer = (d', .frame n)) : (buffer.drop n).length < buffer.length := by
  have hn := pos_of_scanFrom_frame h
  have hne : buffer.drop d.checked ≠ [] := by
    intro hnil
    rw [scan, hnil, scanFrom_nil] at h
    simp at h
  have hlen : 0 < buffer.length := by
    have := List.length_pos_iff.2 hne
    rw [List.length_drop] at this
    omega
  rw [List.length_drop]
  omega

end Decoder

end CommandPipeline.Wire
