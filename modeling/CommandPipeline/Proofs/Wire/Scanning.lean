import CommandPipeline.Wire.Decoder
import CommandPipeline.Proofs.Wire.Elements

/-!
# Scanning whole frames

The scanner keeps the number of missing elements of every array that has begun, where the grammar
nests frames. The two meet in `advance`, which says what happens once a whole frame has been passed:
it counts as an element of the innermost array, and the scan goes on behind it unless that was the
last frame to come. In front of a frame the scanner advances behind it, whatever follows
(`Denotes.scanFrom_append`), and a scan that finds the end of the outermost frame has passed a frame
first (`passesFrame_of_scanFrom`).
-/

namespace CommandPipeline.Wire

open Bytes (OneLine crlf)
open Decimal (Spells)

/-- A whole element lies in the bytes. -/
theorem Element.size_le_of_read {bytes : Bytes} {n k : Nat} (h : Element.read bytes = .whole n k) :
    n ≤ bytes.length := by
  rcases Element.cases_of_read_whole h with
    ⟨-, frame, r, rest, -, rfl, rfl⟩ | ⟨line, rest, -, rfl, rfl⟩
  · simp
  · rw [length_header]
    exact Nat.le_add_right ..

namespace Decoder

/-- Goes on behind a whole frame. -/
def advance (d : Decoder) (rest : Bytes) : Decoder × Verdict :=
  match close d.missing with
  | [] => (⟨d.checked, []⟩, .frame d.checked)
  | missing => scanFrom ⟨d.checked, missing⟩ rest

/-! ## One element at a time -/

/-- One element of a scan. -/
theorem scanFrom_eq (d : Decoder) (rest : Bytes) :
    d.scanFrom rest =
      match Element.read rest with
      | .unfinished => (d, .incomplete)
      | .malformed fault => (d, .malformed fault)
      | .whole size k =>
        if k = 0 then advance ⟨d.checked + size, d.missing⟩ (rest.drop size)
        else if nestingLimit ≤ d.missing.length then
          (⟨d.checked + size, d.missing⟩, .malformed .tooDeep)
        else scanFrom ⟨d.checked + size, k :: d.missing⟩ (rest.drop size) := by
  rw [scanFrom]
  split
  · next hread => rw [hread]
  · next hread => rw [hread]
  · next hread => rw [hread]; rfl

/-- Behind a scalar the scan advances. -/
theorem scanFrom_scalar (d : Decoder) {rest : Bytes} {size : Nat}
    (h : Element.read rest = .whole size 0) :
    d.scanFrom rest = advance ⟨d.checked + size, d.missing⟩ (rest.drop size) := by
  rw [scanFrom_eq, h]
  rfl

/-- Behind the header of an array it goes on inside the array. -/
theorem scanFrom_array (d : Decoder) {rest : Bytes} {size k : Nat}
    (h : Element.read rest = .whole size k) (hk : k ≠ 0) (hd : d.missing.length < nestingLimit) :
    d.scanFrom rest = scanFrom ⟨d.checked + size, k :: d.missing⟩ (rest.drop size) := by
  rw [scanFrom_eq, h]
  show ite _ _ _ = _
  rw [if_neg hk, if_neg (Nat.not_le.2 hd)]

/-- A header that opens one array too many is passed and refused. -/
theorem scanFrom_tooDeep (d : Decoder) {rest : Bytes} {size k : Nat}
    (h : Element.read rest = .whole size k) (hk : k ≠ 0) (hd : nestingLimit ≤ d.missing.length) :
    d.scanFrom rest = (⟨d.checked + size, d.missing⟩, .malformed .tooDeep) := by
  rw [scanFrom_eq, h]
  show ite _ _ _ = _
  rw [if_neg hk, if_pos hd]

/-- In front of an unfinished element the scan stops and waits. -/
theorem scanFrom_unfinished (d : Decoder) {rest : Bytes} (h : Element.read rest = .unfinished) :
    d.scanFrom rest = (d, .incomplete) := by
  rw [scanFrom_eq, h]

/-- In front of a wrong element it stops with the fault. -/
theorem scanFrom_malformed (d : Decoder) {rest : Bytes} {fault : Fault}
    (h : Element.read rest = .malformed fault) : d.scanFrom rest = (d, .malformed fault) := by
  rw [scanFrom_eq, h]

/-- The last missing element completes its array, which then counts itself. -/
@[simp] theorem advance_one (c : Nat) (outer : List Nat) (rest : Bytes) :
    advance ⟨c, 1 :: outer⟩ rest = advance ⟨c, outer⟩ rest := by
  rw [advance, advance, close, if_neg (by decide)]

/-- An array that misses more than one element misses one less. -/
@[simp] theorem advance_add_two (c k : Nat) (outer : List Nat) (rest : Bytes) :
    advance ⟨c, (k + 2) :: outer⟩ rest = scanFrom ⟨c, (k + 1) :: outer⟩ rest := by
  rw [advance, close, if_pos (by simp)]
  rfl

/-- While an array is open, the scan goes on. -/
theorem advance_of_close_ne_nil {missing : List Nat} (h : close missing ≠ []) (c : Nat)
    (rest : Bytes) : advance ⟨c, missing⟩ rest = scanFrom ⟨c, close missing⟩ rest := by
  rw [advance]
  split
  · next hnil => exact absurd hnil h
  · rfl

@[simp] theorem advance_nil (c : Nat) (rest : Bytes) :
    advance ⟨c, []⟩ rest = (⟨c, []⟩, .frame c) := rfl

end Decoder

/-! ## From frames to the scan -/

mutual

/-- In front of a frame the scanner advances behind it. -/
theorem Denotes.scanFrom_append {frame : Bytes} {r : Reply} (h : Denotes frame r) (d : Decoder)
    (hdepth : r.nesting + d.missing.length ≤ nestingLimit) (rest : Bytes) :
    d.scanFrom (frame ++ rest) =
      Decoder.advance ⟨d.checked + frame.length, d.missing⟩ rest := by
  cases h with
  | scalar h =>
      rw [d.scanFrom_scalar (h.read rest), List.drop_left]
  | @array line body items hline h =>
      have hread : Element.read (arrayMarker :: (line ++ (crlf ++ (body ++ rest)))) =
          .whole (headerSize line) items.length := Element.read_arrayHeader hline _
      simp only [List.cons_append, List.append_assoc]
      rw [length_header, ← Nat.add_assoc]
      by_cases hne : items = []
      · -- An array without elements ends with its header and opens no level.
        subst hne
        cases h
        rw [d.scanFrom_scalar hread, drop_headerSize]
        rfl
      · have hk : items.length ≠ 0 := fun hk => hne (List.eq_nil_of_length_eq_zero hk)
        have hpos : 0 < Reply.levels items := by
          obtain ⟨s, hs⟩ := List.exists_mem_of_ne_nil items hne
          exact Nat.zero_lt_of_lt (Reply.nesting_lt_levels hs)
        rw [Reply.nesting] at hdepth
        rw [d.scanFrom_array hread hk (by omega), drop_headerSize]
        exact h.scanFrom_append hne _ _ hdepth rest

/-- In front of the last missing frames of an array the scanner advances behind the array. -/
theorem DenoteEach.scanFrom_append {body : Bytes} {items : List Reply} (h : DenoteEach body items)
    (hne : items ≠ []) (c : Nat) (outer : List Nat)
    (hdepth : Reply.levels items + outer.length ≤ nestingLimit) (rest : Bytes) :
    Decoder.scanFrom ⟨c, items.length :: outer⟩ (body ++ rest) =
      Decoder.advance ⟨c + body.length, outer⟩ rest := by
  cases h with
  | nil => exact absurd rfl hne
  | @cons frame body r items hr hrest =>
      rw [Reply.levels] at hdepth
      have hfirst := hr.scanFrom_append ⟨c, (items.length + 1) :: outer⟩
        (by rw [List.length_cons]; omega) (body ++ rest)
      rw [List.length_cons, List.append_assoc, hfirst, List.length_append, ← Nat.add_assoc]
      -- Behind the last frame the scan goes on behind the array, else in front of the next frame.
      cases items with
      | nil =>
          cases hrest
          simp
      | cons s items =>
          rw [List.length_cons, Decoder.advance_add_two]
          exact hrest.scanFrom_append (List.cons_ne_nil _ _) _ _ (by omega) rest

end

/-! ## From the scan to frames -/

namespace Decoder

/-- The scan passes a whole frame first and then finds the end of the outermost one. -/
def PassesFrame (d d' : Decoder) (rest : Bytes) (n : Nat) : Prop :=
  ∃ frame r tail, rest = frame ++ tail ∧ Denotes frame r ∧
    r.nesting + d.missing.length ≤ nestingLimit ∧
    advance ⟨d.checked + frame.length, d.missing⟩ tail = (d', .frame n)

/-- A scan that passes single frames passes the missing elements of the innermost array, one by
one. -/
theorem exists_elements_of_scanFrom {d' : Decoder} {n bound : Nat}
    (hsingle : ∀ (d : Decoder) (rest : Bytes), rest.length < bound →
      d.missing.length ≤ nestingLimit → d.scanFrom rest = (d', .frame n) → PassesFrame d d' rest n)
    {outer : List Nat} (houter : outer.length < nestingLimit) (k c : Nat) {rest : Bytes}
    (hbound : rest.length < bound)
    (h : scanFrom ⟨c, (k + 1) :: outer⟩ rest = (d', .frame n)) :
    ∃ body items tail, rest = body ++ tail ∧ DenoteEach body items ∧ items.length = k + 1 ∧
      Reply.levels items + outer.length ≤ nestingLimit ∧
      advance ⟨c + body.length, outer⟩ tail = (d', .frame n) := by
  induction k generalizing c rest with
  | zero =>
      obtain ⟨frame, r, tail, rfl, hr, hdepth, hadvance⟩ :=
        hsingle ⟨c, 1 :: outer⟩ _ hbound houter h
      simp only [advance_one] at hadvance
      refine ⟨frame, [r], tail, rfl, .singleton hr, rfl, ?_, hadvance⟩
      simp only [Reply.levels, List.length_cons] at hdepth ⊢
      omega
  | succ k ih =>
      obtain ⟨frame, r, tail, rfl, hr, hdepth, hadvance⟩ :=
        hsingle ⟨c, (k + 2) :: outer⟩ _ hbound houter h
      rw [advance_add_two] at hadvance
      have hshorter : tail.length < bound := by
        rw [List.length_append] at hbound
        omega
      obtain ⟨body, items, tail, rfl, hitems, hlen, hlevels, hrest⟩ := ih _ hshorter hadvance
      refine ⟨frame ++ body, r :: items, tail, by simp, .cons hr hitems, by simp [hlen], ?_, ?_⟩
      · simp only [Reply.levels, List.length_cons] at hdepth ⊢
        omega
      · rw [List.length_append, ← Nat.add_assoc]
        exact hrest

/-- A scan that finds the end of a frame has passed one, by induction on the bytes. -/
theorem passesFrame_of_scanFrom {d d' : Decoder} {rest : Bytes} {n : Nat}
    (hd : d.missing.length ≤ nestingLimit) (h : d.scanFrom rest = (d', .frame n)) :
    PassesFrame d d' rest n := by
  cases hread : Element.read rest with
  | unfinished => rw [d.scanFrom_unfinished hread] at h; cases h
  | malformed fault => rw [d.scanFrom_malformed hread] at h; cases h
  | whole size k =>
      rcases Element.cases_of_read_whole hread with
        ⟨rfl, frame, r, tail, hscalar, rfl, rfl⟩ | ⟨line, tail, hline, rfl, rfl⟩
      · rw [d.scanFrom_scalar hread, List.drop_left] at h
        refine ⟨frame, r, tail, rfl, .scalar hscalar, ?_, h⟩
        cases hscalar <;> simpa [Reply.nesting] using hd
      · cases k with
        | zero =>
            -- The header of an array without elements is a whole frame by itself.
            rw [d.scanFrom_scalar hread, drop_headerSize] at h
            refine ⟨_, .array [], tail, ?_, .array hline .nil, ?_, ?_⟩
            · simp
            · simpa [Reply.nesting, Reply.levels] using hd
            · rwa [length_header]
        | succ k =>
            by_cases hdeep : nestingLimit ≤ d.missing.length
            · rw [d.scanFrom_tooDeep hread (Nat.succ_ne_zero k) hdeep] at h
              cases h
            · have hshort : d.missing.length < nestingLimit := Nat.lt_of_not_le hdeep
              rw [d.scanFrom_array hread (Nat.succ_ne_zero k) hshort, drop_headerSize] at h
              have hlen : tail.length < (arrayMarker :: (line ++ (crlf ++ tail))).length := by
                rw [length_header, headerSize]
                omega
              obtain ⟨body, items, tail', rfl, hitems, hcount, hlevels, hadvance⟩ :=
                exists_elements_of_scanFrom
                  (fun e more _ he hscan => passesFrame_of_scanFrom he hscan) hshort k _ hlen h
              refine ⟨_, .array items, tail', ?_, .array (hcount ▸ hline) hitems, ?_, ?_⟩
              · simp
              · rwa [Reply.nesting]
              · rwa [length_header, ← Nat.add_assoc]
termination_by rest.length

/-! ## Bytes that arrive later -/

/-- More bytes do not change a whole element, and they come behind it. -/
theorem read_append_whole {rest : Bytes} {size k : Nat} (h : Element.read rest = .whole size k)
    (more : Bytes) :
    Element.read (rest ++ more) = .whole size k ∧
      (rest ++ more).drop size = rest.drop size ++ more := by
  refine ⟨?_, List.drop_append_of_le_length (Element.size_le_of_read h)⟩
  rw [Element.read_append (by simp [h]), h]

/-- A scan that has come to an end ends there also when more bytes follow. -/
theorem scanFrom_append {d d' : Decoder} {rest : Bytes} {v : Verdict}
    (h : d.scanFrom rest = (d', v)) (hv : v ≠ .incomplete) (more : Bytes) :
    d.scanFrom (rest ++ more) = (d', v) := by
  -- The cases are those of the scan, one for each thing that an element can turn out to be.
  fun_induction scanFrom d rest with
  | case1 d rest hread =>
      cases h
      exact absurd rfl hv
  | case2 d rest fault hread =>
      have hmore : Element.read (rest ++ more) = .malformed fault := by
        rw [Element.read_append (by simp [hread]), hread]
      rw [d.scanFrom_malformed hmore, h]
  | case3 d rest size checked hclose hread =>
      obtain ⟨hmore, -⟩ := read_append_whole hread more
      rw [d.scanFrom_scalar hmore, advance, hclose]
      exact h
  | case4 d rest size checked hread hclose ih =>
      obtain ⟨hmore, hdrop⟩ := read_append_whole hread more
      rw [d.scanFrom_scalar hmore, hdrop, advance_of_close_ne_nil hclose]
      exact ih h
  | case5 d rest size k hread checked hk hdeep =>
      obtain ⟨hmore, -⟩ := read_append_whole hread more
      rw [d.scanFrom_tooDeep hmore hk hdeep]
      exact h
  | case6 d rest size k hread checked hk hdepth ih =>
      obtain ⟨hmore, hdrop⟩ := read_append_whole hread more
      rw [d.scanFrom_array hmore hk (Nat.lt_of_not_le hdepth), hdrop]
      exact ih h

end Decoder

end CommandPipeline.Wire
