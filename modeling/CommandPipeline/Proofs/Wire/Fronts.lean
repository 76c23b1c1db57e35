import CommandPipeline.Proofs.Wire.Scanning

/-!
# Fronts of frames

In the middle of a frame a decoder keeps a number of bytes and a list of counts. The bytes are the
headers of the arrays that have begun, each with those of its elements that are there, and the
counts say how many are missing from each (`Begins`). An array that is not complete is still counted
as missing from the one around it.

One element of a scan keeps this reading (`Stands.pass` and `Stands.enter`), and therefore a whole
scan does, as long as it has not found the end of the frame (`Stands.of_scanFrom`). Where the scan
stands it can also be taken up, whatever follows.
-/

namespace CommandPipeline.Wire

open Bytes (crlf)
open Decimal (Spells)

/-! ## What is there, and what is missing -/

/-- The bytes are the front of a frame, from which elements are missing: headers of arrays, one
inside the other, each with the elements that are there. The array that is missing the counted
elements innermost comes last. -/
inductive Begins : Bytes → List Nat → Prop where
  | nothing : Begins [] []
  | array {front line body : Bytes} {outer : List Nat} {items : List Reply} {n : Nat} :
      Begins front outer → Spells line (items.length + n : Nat) → 0 < n → DenoteEach body items →
      Begins (front ++ arrayMarker :: (line ++ (crlf ++ body))) (n :: outer)

namespace Begins

variable {front : Bytes} {missing : List Nat}

/-- An array that is open misses an element. -/
theorem counting (h : Begins front missing) : ∀ n ∈ missing, 0 < n := by
  induction h with
  | nothing => exact List.forall_mem_nil _
  | array _ _ hpos _ ih => exact List.forall_mem_cons.2 ⟨hpos, ih⟩

/-- Only at the start is no array open. -/
theorem eq_nil_iff (h : Begins front missing) : missing = [] ↔ front = [] := by
  cases h <;> simp

/-- One more element closes the arrays of which it is the last that is missing. -/
theorem close (h : Begins front missing) {frame : Bytes} {r : Reply} (hr : Denotes frame r)
    (hclose : Decoder.close missing ≠ []) : Begins (front ++ frame) (Decoder.close missing) := by
  induction h generalizing frame r with
  | nothing => exact absurd rfl hclose
  | @array front line body outer items n houter hline hpos hitems ih =>
      have hbody := hitems.append (.singleton hr)
      have hlength : (items ++ [r]).length = items.length + 1 := List.length_append
      rw [Decoder.close] at hclose ⊢
      by_cases hmore : 1 < n
      · rw [if_pos hmore, List.append_assoc, List.cons_append, List.append_assoc, List.append_assoc]
        refine .array houter ?_ (by omega) hbody
        rwa [hlength, show items.length + 1 + (n - 1) = items.length + n by omega]
      · -- The array is complete, and is itself an element of the one around it.
        rw [if_neg hmore] at hclose ⊢
        have harray : Denotes (arrayMarker :: (line ++ (crlf ++ (body ++ frame)))) _ :=
          .array (by rwa [hlength, show items.length + 1 = items.length + n by omega]) hbody
        rw [List.append_assoc, List.cons_append, List.append_assoc, List.append_assoc]
        exact ih harray hclose

end Begins

/-! ## Where a scan stands -/

/-- A whole element is a frame without nesting, or the header of an array that has elements. -/
theorem Element.frame_or_header_of_read {rest : Bytes} {size k : Nat}
    (h : Element.read rest = .whole size k) :
    (k = 0 ∧ ∃ frame r behind, rest = frame ++ behind ∧ size = frame.length ∧ Denotes frame r ∧
      r.nesting = 0) ∨
    (k ≠ 0 ∧ ∃ line behind, rest = arrayMarker :: (line ++ (crlf ++ behind)) ∧
      size = headerSize line ∧ Spells line k) := by
  rcases Element.cases_of_read_whole h with
    ⟨hk, frame, r, behind, hscalar, hsize, hrest⟩ | ⟨line, behind, hline, hsize, hrest⟩
  · exact .inl ⟨hk, frame, r, behind, hrest, hsize, .scalar hscalar, by cases hscalar <;> rfl⟩
  · by_cases hk : k = 0
    · subst hk
      refine .inl ⟨rfl, _, .array [], behind, ?_, ?_, .array hline .nil, rfl⟩
      · rw [hrest]
        simp
      · rw [hsize, length_header]
        rfl
    · exact .inr ⟨hk, line, behind, hrest, hsize, hline⟩

namespace Decoder

/-- The decoder stands behind the front of a frame, and goes on there as a scan of the frame does
when it gets there. -/
structure Stands (d : Decoder) (front : Bytes) : Prop where
  checked : d.checked = front.length
  begins : Begins front d.missing
  depth : d.missing.length ≤ nestingLimit
  resumes : ∀ w, fresh.scanFrom (front ++ w) = d.scanFrom w

/-- A fresh decoder stands in front of everything. -/
theorem stands_fresh : fresh.Stands [] := ⟨rfl, .nothing, Nat.zero_le _, fun _ => rfl⟩

/-- Completing an element opens no array. -/
theorem length_close_le (missing : List Nat) : (close missing).length ≤ missing.length := by
  fun_induction close missing with
  | case1 => exact Nat.le_refl _
  | case2 n outer hn => exact Nat.le_refl _
  | case3 n outer hn ih => exact Nat.le_succ_of_le ih

namespace Stands

variable {d : Decoder} {front : Bytes}

/-- Passing a frame that does not complete the outermost one. -/
theorem pass (h : d.Stands front) {frame : Bytes} {r : Reply} (hr : Denotes frame r)
    (hnesting : r.nesting = 0) (hclose : close d.missing ≠ []) :
    Stands ⟨d.checked + frame.length, close d.missing⟩ (front ++ frame) where
  checked := by rw [h.checked, List.length_append]
  begins := h.begins.close hr hclose
  depth := Nat.le_trans (length_close_le _) h.depth
  resumes w := by
    have hdepth : r.nesting + d.missing.length ≤ nestingLimit := by
      rw [hnesting, Nat.zero_add]
      exact h.depth
    rw [List.append_assoc, h.resumes, hr.scanFrom_append d hdepth, advance_of_close_ne_nil hclose]

/-- Entering an array. -/
theorem enter (h : d.Stands front) {line : Bytes} {k : Nat} (hline : Spells line k) (hk : k ≠ 0)
    (hdepth : d.missing.length < nestingLimit) :
    Stands ⟨d.checked + headerSize line, k :: d.missing⟩
      (front ++ arrayMarker :: (line ++ (crlf ++ []))) where
  checked := by
    rw [h.checked, List.length_append, length_header]
    rfl
  begins := .array h.begins (by rwa [List.length_nil, Nat.zero_add]) (Nat.pos_of_ne_zero hk) .nil
  depth := hdepth
  resumes w := by
    have hread := Element.read_arrayHeader hline w
    rw [List.append_assoc, h.resumes]
    simp only [List.append_nil, List.cons_append, List.append_assoc]
    rw [d.scanFrom_array hread hk hdepth, drop_headerSize]

/-- A scan that has run out of bytes stands behind those that it has passed. -/
theorem of_scanFrom {d d' : Decoder} {rest : Bytes} (hscan : d.scanFrom rest = (d', .incomplete)) :
    ∀ front, d.Stands front → ∃ passed behind, rest = passed ++ behind ∧
      d'.Stands (front ++ passed) := by
  -- The cases are those of the scan. It goes on behind a frame and behind a header.
  fun_induction scanFrom d rest with
  | case1 d rest hread =>
      intro front h
      cases hscan
      exact ⟨[], rest, rfl, by rwa [List.append_nil]⟩
  | case2 d rest fault hread => cases hscan
  | case3 d rest size checked hclose hread => cases hscan
  | case4 d rest size checked hread hclose ih =>
      intro front h
      rcases Element.frame_or_header_of_read hread with
        ⟨-, frame, r, behind, rfl, rfl, hr, hnesting⟩ | ⟨hne, -⟩
      · rw [List.drop_left] at ih hscan
        obtain ⟨passed, later, rfl, hstands⟩ := ih hscan _ (h.pass hr hnesting hclose)
        exact ⟨frame ++ passed, later, by rw [List.append_assoc], by rwa [← List.append_assoc]⟩
      · exact absurd rfl hne
  | case5 d rest size k hread checked hk hdeep => cases hscan
  | case6 d rest size k hread checked hk hdepth ih =>
      intro front h
      rcases Element.frame_or_header_of_read hread with
        ⟨hzero, -⟩ | ⟨-, line, behind, rfl, rfl, hline⟩
      · exact absurd hzero hk
      · rw [drop_headerSize] at ih hscan
        obtain ⟨passed, later, rfl, hstands⟩ :=
          ih hscan _ (h.enter hline hk (Nat.lt_of_not_le hdepth))
        refine ⟨_, later, ?_, by rwa [← List.append_assoc]⟩
        simp

end Stands

end Decoder

end CommandPipeline.Wire
