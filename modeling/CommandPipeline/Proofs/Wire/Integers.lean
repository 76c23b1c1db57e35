import CommandPipeline.Proofs.Characters
import CommandPipeline.Proofs.Wire.Finality

/-!
# The two readers of integers

An integer can arrive as an integer reply, and as a string reply that spells it. The first is read
by the decoder with `readHeader`, the second when it is asked for, with `readSigned?`. On numerals
the two differ at one integer only. The decoder builds the magnitude first and applies the sign
last, so the least 64-bit integer, of which the magnitude is not in range, is out of range for it.
-/

namespace CommandPipeline

namespace Decimal

/-! ## Runs of digits -/

/-- A run of digits is read, or found too large as a whole. -/
theorem accumulate_of_digits {limit v : Nat} {digits : Bytes} (hv : v ≤ limit)
    (h : ∀ b ∈ digits, IsDigit b) :
    accumulate limit v digits =
      if digits.foldl (fun n b => n * 10 + (b.toNat - 48)) v ≤ limit then
        .ok (digits.foldl (fun n b => n * 10 + (b.toNat - 48)) v)
      else .error .tooLarge := by
  induction digits generalizing v with
  | nil => exact (if_pos hv).symm
  | cons b digits ih =>
      obtain ⟨hb, hdigits⟩ := List.forall_mem_cons.1 h
      have hgrow := le_foldl_digits digits (v * 10 + (b.toNat - 48))
      rw [accumulate, digitValue?_eq_some_iff.2 ⟨hb, rfl⟩, List.foldl_cons]
      dsimp only
      split
      · next hle => exact ih hle hdigits
      · next hgt => rw [if_neg fun hle => hgt (Nat.le_trans hgrow hle)]

/-- Digits are read unless they exceed the limit. -/
theorem readDigits_of_digits (limit : Nat) {digits : Bytes} (hne : digits ≠ [])
    (h : ∀ b ∈ digits, IsDigit b) :
    readDigits limit digits =
      if value digits ≤ limit then .ok (value digits) else .error .tooLarge := by
  rw [readDigits, if_neg (by simpa using hne), accumulate_of_digits (Nat.zero_le _) h]
  rfl

/-! ## Numerals -/

/-- An optional minus sign and at least one digit, with any number of leading zeros. -/
structure Numeral where
  /-- Whether a minus sign stands in front. -/
  negative : Bool
  digits : Bytes
  ne_nil : digits ≠ []
  isDigit : ∀ b ∈ digits, IsDigit b

/-- The signed integers of 64 bits. -/
def InRange (n : Int) : Prop := -(Nat.pow 2 63 : Nat) ≤ n ∧ n < (Nat.pow 2 63 : Nat)

instance (n : Int) : Decidable (InRange n) := inferInstanceAs (Decidable (_ ∧ _))

/-- The least of them. -/
def leastInt : Int := -(Nat.pow 2 63 : Nat)

/-- The least integer is the only one whose magnitude exceeds the limit of a header line. -/
theorem inRange_iff {n : Int} : InRange n ↔ n = leastInt ∨ n.natAbs ≤ headerLimit := by
  have hpow : Nat.pow 2 63 = 9223372036854775808 := rfl
  rw [InRange, leastInt, headerLimit, hpow]
  omega

theorem leastInt_inRange : InRange leastInt := inRange_iff.2 (.inl rfl)

theorem headerLimit_lt_natAbs_leastInt : headerLimit < leastInt.natAbs := by decide

namespace Numeral

/-- The bytes of a numeral. -/
def text (s : Numeral) : Bytes := if s.negative then minus :: s.digits else s.digits

/-- The integer that a numeral stands for, of whatever size. -/
def toInt (s : Numeral) : Int := if s.negative then -(value s.digits) else value s.digits

/-- The shortest numeral for an integer. -/
def ofInt (n : Int) : Numeral :=
  ⟨n < 0, ofNat n.natAbs, ofNat_ne_nil _, fun _ => isDigit_of_mem_ofNat⟩

/-- The numeral of an integer is its decimal notation. -/
@[simp] theorem text_ofInt (n : Int) : (ofInt n).text = Decimal.ofInt n := by
  rcases n with n | n
  · rfl
  · simp [text, ofInt, Decimal.ofInt, Int.negSucc_lt_zero]

/-- It stands for the integer. -/
@[simp] theorem toInt_ofInt (n : Int) : (ofInt n).toInt = n := by
  rw [toInt]
  simp only [ofInt, value_ofNat, decide_eq_true_eq]
  split <;> omega

/-- The magnitude of a numeral is the value of its digits. -/
theorem natAbs_toInt (s : Numeral) : s.toInt.natAbs = value s.digits := by
  rw [toInt]
  split <;> omega

/-- The first digit is not taken for a sign. -/
theorem exists_digits_eq (s : Numeral) :
    ∃ b rest, s.digits = b :: rest ∧ b ≠ minus ∧ b ≠ plus := by
  obtain ⟨b, rest, hdigits⟩ := List.exists_cons_of_ne_nil s.ne_nil
  have hb := s.isDigit b (by simp [hdigits])
  refine ⟨b, rest, hdigits, ?_, ?_⟩
  · rintro rfl
    exact absurd hb (by decide)
  · rintro rfl
    exact absurd hb (by decide)

/-- A header line reads a numeral by its magnitude. -/
theorem readHeader_text (s : Numeral) :
    readHeader s.text =
      if s.toInt.natAbs ≤ headerLimit then .ok s.toInt else .error .tooLarge := by
  have hread := readDigits_of_digits headerLimit s.ne_nil s.isDigit
  obtain ⟨b, rest, hdigits, hminus, -⟩ := s.exists_digits_eq
  rw [natAbs_toInt]
  by_cases hneg : s.negative
  · rw [text, toInt, if_pos hneg, if_pos hneg, readHeader, if_pos rfl, hread]
    split <;> rfl
  · rw [text, toInt, if_neg hneg, if_neg hneg, hdigits, readHeader, if_neg hminus, ← hdigits,
      hread]
    split <;> rfl

/-- A text is read as a numeral by the integer that it stands for. -/
theorem readSigned?_text (s : Numeral) :
    readSigned? s.text = if InRange s.toInt then some s.toInt else none := by
  have hpow : Nat.pow 2 63 = 9223372036854775808 := rfl
  obtain ⟨b, rest, hdigits, hminus, hplus⟩ := s.exists_digits_eq
  by_cases hneg : s.negative
  · have hrange : InRange (-(value s.digits)) ↔ value s.digits ≤ Nat.pow 2 63 := by
      rw [InRange, hpow]
      omega
    rw [text, toInt, if_pos hneg, if_pos hneg, readSigned?, if_pos rfl,
      readDigits_of_digits _ s.ne_nil s.isDigit]
    simp only [hrange]
    split <;> rfl
  · have hrange : InRange (value s.digits) ↔ value s.digits ≤ headerLimit := by
      rw [InRange, headerLimit, hpow]
      omega
    rw [text, toInt, if_neg hneg, if_neg hneg, hdigits, readSigned?, if_neg hminus,
      if_neg hplus, ← hdigits, readDigits_of_digits _ s.ne_nil s.isDigit]
    simp only [hrange]
    split <;> rfl

/-- A numeral has digits and at most a sign. -/
theorem of_mem_text {s : Numeral} {b : UInt8} (h : b ∈ s.text) : b = minus ∨ IsDigit b := by
  rw [text] at h
  split at h
  · exact (List.mem_cons.1 h).imp_right (s.isDigit b)
  · exact .inr (s.isDigit b h)

/-- A numeral is a text. -/
theorem exists_encode_text (s : Numeral) : ∃ shown, Utf8.encode shown = s.text := by
  apply Utf8.exists_encode_eq
  intro b hb
  rcases of_mem_text hb with rfl | hdigit
  · decide
  · exact UInt8.lt_of_le_of_lt hdigit.2 (by decide)

/-- No line end occurs in a numeral, whatever its size. -/
theorem oneLine_text (s : Numeral) : Bytes.OneLine s.text := by
  apply Bytes.oneLine_of_not_mem
  intro hcr
  rcases of_mem_text hcr with hminus | hdigit
  · exact absurd hminus (by decide)
  · exact absurd hdigit (by decide)

end Numeral

end Decimal

open Bytes (crlf)
open Decimal (InRange Numeral headerLimit leastInt)

namespace Decimal.Numeral

/-- The integer reply with a numeral. -/
def frame (s : Numeral) : Bytes := Wire.integerMarker :: (s.text ++ crlf)

/-- Both readers read a numeral as the same integers, and refuse it together. -/
def ReadAlike (s : Numeral) : Prop :=
  (∀ n, Wire.decodeOnce s.frame = ⟨.fresh, [.integer n], none⟩ ↔
    (Reply.string s.text).toNumber = .ok n) ∧
  ((Wire.decodeOnce s.frame).fault ≠ none ↔
    ∃ shown, (Reply.string s.text).toNumber = .error (.notAnInteger shown))

/-- The decoder reads a numeral whose magnitude is in range. -/
theorem decodeOnce_frame (s : Numeral) :
    Wire.decodeOnce s.frame =
      if s.toInt.natAbs ≤ headerLimit then ⟨.fresh, [.integer s.toInt], none⟩
      else ⟨⟨.fresh, s.frame⟩, [], some .numberOutOfRange⟩ := by
  have hread := s.readHeader_text
  split
  · next hle =>
    rw [if_pos hle] at hread
    have hscalar := Wire.Scalar.integer (readHeader_eq_ok_iff.1 hread)
    have hscan := (Wire.Denotes.scalar hscalar).scan (Nat.zero_le _) []
    rw [List.append_nil] at hscan
    exact Wire.Stream.decode_of_whole hscan (.scalar hscalar)
  · next hgt =>
    rw [if_neg hgt] at hread
    have helement : Wire.Element.read s.frame = .malformed .numberOutOfRange := by
      have hline := Wire.Element.read_line Wire.integerMarker s.oneLine_text []
      rw [List.append_nil] at hline
      have hheader : Wire.Header.read Wire.integerMarker s.text = .error .numberOutOfRange := by
        unfold Wire.Header.read
        rw [hread]
        rfl
      rw [frame, hline, hheader]
    exact Wire.Stream.decode_of_element helement

/-- A string reply reads as a numeral whose value is in range. -/
theorem toNumber_text (s : Numeral) :
    ∃ shown, Utf8.encode shown = s.text ∧
      (Reply.string s.text).toNumber =
        if InRange s.toInt then .ok s.toInt else .error (.notAnInteger shown) := by
  obtain ⟨shown, hshown⟩ := s.exists_encode_text
  refine ⟨shown, hshown, ?_⟩
  have htext : Reply.textOf s.text = .ok shown := by
    rw [← hshown, Reply.textOf_encode]
  show Reply.integerOf s.text = _
  rw [Reply.integerOf, htext, readSigned?_text]
  by_cases hrange : InRange s.toInt
  · rw [if_pos hrange, if_pos hrange]
    rfl
  · rw [if_neg hrange, if_neg hrange]
    rfl

/-- Both ranges are the same but for the least integer. -/
theorem readAlike_of_ne_leastInt {s : Numeral} (h : s.toInt ≠ leastInt) : s.ReadAlike := by
  obtain ⟨shown, -, hnumber⟩ := s.toNumber_text
  have hframe := s.decodeOnce_frame
  have hrange : InRange s.toInt ↔ s.toInt.natAbs ≤ headerLimit :=
    inRange_iff.trans (or_iff_right h)
  rw [ReadAlike, hnumber, hframe]
  simp only [hrange]
  by_cases hle : s.toInt.natAbs ≤ headerLimit
  · simp [hle, eq_comm]
  · simp [hle]

/-- The least integer is refused by a header line and read from a string. -/
theorem readers_of_leastInt {s : Numeral} (h : s.toInt = leastInt) :
    Wire.decodeOnce s.frame = ⟨⟨.fresh, s.frame⟩, [], some .numberOutOfRange⟩ ∧
      (Reply.string s.text).toNumber = .ok leastInt := by
  obtain ⟨shown, -, hnumber⟩ := s.toNumber_text
  have hframe := s.decodeOnce_frame
  rw [h, if_neg (Nat.not_le.2 headerLimit_lt_natAbs_leastInt)] at hframe
  rw [h, if_pos leastInt_inRange] at hnumber
  exact ⟨hframe, hnumber⟩

/-- The two readers of integers agree on a numeral unless it is one of the least integer, which only
a string reply can carry. With this exception an integer of 64 bits is read as itself, whatever
numeral of it arrives, and there is one of every integer (`toInt_ofInt`). -/
theorem readAlike_iff (s : Numeral) :
    (s.ReadAlike ↔ s.toInt ≠ leastInt) ∧
      (s.toInt = leastInt →
        Wire.decodeOnce s.frame = ⟨⟨.fresh, s.frame⟩, [], some .numberOutOfRange⟩) ∧
      (InRange s.toInt → (Reply.string s.text).toNumber = .ok s.toInt ∧
        (s.toInt ≠ leastInt →
          Wire.decodeOnce s.frame = ⟨.fresh, [.integer s.toInt], none⟩)) := by
  refine ⟨⟨?_, readAlike_of_ne_leastInt⟩, fun hleast => (readers_of_leastInt hleast).1, ?_⟩
  · intro halike hleast
    obtain ⟨hframe, hnumber⟩ := readers_of_leastInt hleast
    have hdecoded := (halike.1 leastInt).2 hnumber
    rw [hframe] at hdecoded
    exact absurd (congrArg Wire.Decoded.fault hdecoded) nofun
  · intro hrange
    obtain ⟨shown, -, hnumber⟩ := s.toNumber_text
    rw [if_pos hrange] at hnumber
    exact ⟨hnumber, fun hne => ((readAlike_of_ne_leastInt hne).1 s.toInt).2 hnumber⟩

/-- Leading zeros do not count: thirty digits that stand for the greatest integer are read as this
integer, and twenty of the least one are still refused. -/
theorem readAlike_iff_greatest :
    let s : Numeral :=
      ⟨false, Utf8.encode "000000000009223372036854775807", by decide +kernel, by decide +kernel⟩
    let t : Numeral :=
      ⟨true, Utf8.encode "09223372036854775808", by decide +kernel, by decide +kernel⟩
    (InRange s.toInt ∧ s.toInt ≠ leastInt ∧ s.ReadAlike ∧
        (Reply.string s.text).toNumber = .ok s.toInt ∧
        Wire.decodeOnce s.frame = ⟨.fresh, [.integer s.toInt], none⟩) ∧
      (t.toInt = leastInt ∧
        Wire.decodeOnce t.frame = ⟨⟨.fresh, t.frame⟩, [], some .numberOutOfRange⟩) := by
  intro s t
  have hrange : InRange s.toInt := by decide +kernel
  have hne : s.toInt ≠ leastInt := by decide +kernel
  have hleast : t.toInt = leastInt := by decide +kernel
  obtain ⟨hiff, -, hread⟩ := readAlike_iff s
  obtain ⟨hnumber, hframe⟩ := hread hrange
  exact ⟨⟨hrange, hne, hiff.2 hne, hnumber, hframe hne⟩, hleast, (readAlike_iff t).2.1 hleast⟩

/-- The least integer as it is written: the decoder refuses what a string reply reads. -/
theorem not_readAlike_leastInt :
    let s := ofInt (-9223372036854775808)
    s.text = Utf8.encode "-9223372036854775808" ∧
      (Wire.decodeOnce s.frame).fault = some .numberOutOfRange ∧
      (Reply.string s.text).toNumber = .ok (-9223372036854775808) ∧ ¬ s.ReadAlike := by
  intro s
  have htext : s.text = Utf8.encode "-9223372036854775808" := by
    rw [show s.text = Decimal.ofInt (-9223372036854775808) from text_ofInt _]
    decide +kernel
  have hleast : s.toInt = leastInt := toInt_ofInt _
  obtain ⟨hframe, hnumber⟩ := readers_of_leastInt hleast
  have hfault : (Wire.decodeOnce s.frame).fault = some .numberOutOfRange := by rw [hframe]
  refine ⟨htext, hfault, hnumber, fun halike => ?_⟩
  have hdecoded := (halike.1 _).2 hnumber
  rw [hdecoded] at hfault
  exact absurd hfault nofun

end Decimal.Numeral

end CommandPipeline
