import CommandPipeline.Wire.Element
import CommandPipeline.Proofs.Lines

/-!
# Numerals

A header line spells an integer with an optional minus sign and at least one digit. Leading zeros
are admitted, and the magnitude has the same limit on both sides of zero. The reader of header lines
accepts these spellings and no others. Positions, counts and ports are unsigned numerals, which may
have a plus sign and are read up to a limit of their own.
-/

namespace CommandPipeline

namespace Decimal

/-- The byte is one of the ten digits. -/
def IsDigit (b : UInt8) : Prop := 48 ≤ b ∧ b ≤ 57

instance (b : UInt8) : Decidable (IsDigit b) := inferInstanceAs (Decidable (_ ∧ _))

/-- The number that a run of digits stands for. -/
def value (digits : Bytes) : Nat := digits.foldl (fun n b => n * 10 + (b.toNat - 48)) 0

/-- The line is a numeral for the integer. -/
inductive Spells : Bytes → Int → Prop where
  | unsigned {digits : Bytes} : digits ≠ [] → (∀ b ∈ digits, IsDigit b) →
      value digits ≤ headerLimit → Spells digits (value digits)
  | negated {digits : Bytes} : digits ≠ [] → (∀ b ∈ digits, IsDigit b) →
      value digits ≤ headerLimit → Spells (minus :: digits) (-(value digits : Int))

/-- Only a digit has a value, which is its distance from the digit zero. -/
theorem digitValue?_eq_some_iff {b : UInt8} {d : Nat} :
    digitValue? b = some d ↔ IsDigit b ∧ d = b.toNat - 48 := by
  rw [digitValue?, IsDigit]
  split
  · next h => simp [h, eq_comm]
  · next h => simp [h]

/-- The value only grows while digits are appended. -/
theorem le_foldl_digits (digits : Bytes) (n : Nat) :
    n ≤ digits.foldl (fun n b => n * 10 + (b.toNat - 48)) n := by
  induction digits generalizing n with
  | nil => exact Nat.le_refl n
  | cons b digits ih =>
      have hstep : n ≤ n * 10 + (b.toNat - 48) := by omega
      exact Nat.le_trans hstep (ih _)

/-- Since the value only grows, staying within the limit throughout is ending within it. -/
theorem accumulate_eq_ok_iff {limit v n : Nat} {digits : Bytes} (hv : v ≤ limit) :
    accumulate limit v digits = .ok n ↔ (∀ b ∈ digits, IsDigit b) ∧
      n = digits.foldl (fun n b => n * 10 + (b.toNat - 48)) v ∧ n ≤ limit := by
  induction digits generalizing v with
  | nil =>
      simp only [accumulate, Except.ok.injEq, List.foldl_nil]
      constructor
      · rintro rfl
        exact ⟨by simp, rfl, hv⟩
      · rintro ⟨-, rfl, -⟩
        rfl
  | cons b digits ih =>
      have hgrow := le_foldl_digits digits (v * 10 + (b.toNat - 48))
      rw [accumulate]
      split
      · next hnone =>
        have hb : ¬ IsDigit b := fun hb => by
          simp [digitValue?_eq_some_iff.2 ⟨hb, rfl⟩] at hnone
        simp [hb]
      · next d hd =>
        obtain ⟨hb, rfl⟩ := digitValue?_eq_some_iff.1 hd
        split
        · next hle => rw [ih hle]; simp [hb]
        · next hgt =>
          -- The reader stops here, and no further digit can bring the value back below the limit.
          simp only [reduceCtorEq, List.foldl_cons, false_iff]
          rintro ⟨-, rfl, hle⟩
          exact hgt (Nat.le_trans hgrow hle)

/-- Digits are read as the number that they spell, if there are any and the number is within the
limit. -/
theorem readDigits_eq_ok_iff {limit n : Nat} {digits : Bytes} :
    readDigits limit digits = .ok n ↔
      digits ≠ [] ∧ (∀ b ∈ digits, IsDigit b) ∧ n = value digits ∧ n ≤ limit := by
  rw [readDigits]
  cases digits with
  | nil => simp
  | cons b digits =>
      rw [if_neg (by simp), accumulate_eq_ok_iff (Nat.zero_le _)]
      simp [value]

theorem not_isDigit_minus : ¬ IsDigit minus := by decide

/-- Digits with a sign in front of them, read as one number. -/
theorem map_readDigits_eq_ok_iff {digits : Bytes} {sign : Int → Int} {n : Int} :
    (readDigits headerLimit digits >>= fun m => pure (m : Int)).map sign = .ok n ↔
      digits ≠ [] ∧ (∀ b ∈ digits, IsDigit b) ∧ value digits ≤ headerLimit ∧
        n = sign (value digits) := by
  constructor
  · intro h
    cases hread : readDigits headerLimit digits with
    | error e => simp [hread, Except.map, bind, Except.bind] at h
    | ok m =>
        obtain ⟨hne, hdigits, rfl, hle⟩ := readDigits_eq_ok_iff.1 hread
        rw [hread] at h
        exact ⟨hne, hdigits, hle, (Except.ok.inj h).symm⟩
  · rintro ⟨hne, hdigits, hle, rfl⟩
    rw [readDigits_eq_ok_iff.2 ⟨hne, hdigits, rfl, hle⟩]
    rfl

/-- Reading a header line accepts exactly the numerals. -/
theorem readHeader_eq_ok_iff {line : Bytes} {n : Int} :
    readHeader line = .ok n ↔ Spells line n := by
  constructor
  · intro h
    cases line with
    | nil => simp [readHeader] at h
    | cons b digits =>
        rw [readHeader] at h
        split at h
        · next hb =>
          subst hb
          obtain ⟨hne, hdigits, hle, rfl⟩ := map_readDigits_eq_ok_iff.1 h
          exact .negated hne hdigits hle
        · obtain ⟨hne, hdigits, hle, rfl⟩ := map_readDigits_eq_ok_iff.1 h
          exact .unsigned hne hdigits hle
  · intro h
    cases h with
    | @unsigned digits hne hdigits hle =>
        -- The first digit is not taken for a sign.
        obtain ⟨b, rest, rfl⟩ := List.exists_cons_of_ne_nil hne
        have hb : b ≠ minus := by
          rintro rfl
          exact not_isDigit_minus (hdigits minus (by simp))
        rw [readHeader, if_neg hb]
        exact map_readDigits_eq_ok_iff.2 ⟨hne, hdigits, hle, rfl⟩
    | negated hne hdigits hle =>
        rw [readHeader, if_pos rfl]
        exact map_readDigits_eq_ok_iff.2 ⟨hne, hdigits, hle, rfl⟩

/-- No line end occurs in a numeral. -/
theorem Spells.oneLine {line : Bytes} {n : Int} (h : Spells line n) : Bytes.OneLine line := by
  have hcr : ¬ IsDigit Bytes.cr := by decide
  apply Bytes.oneLine_of_not_mem
  cases h with
  | unsigned _ hdigits _ => exact fun hmem => hcr (hdigits _ hmem)
  | negated _ hdigits _ =>
      intro hmem
      rcases List.mem_cons.1 hmem with h | hmem
      · exact absurd h (by decide)
      · exact hcr (hdigits _ hmem)

/-- No numeral goes beyond the limit. -/
theorem Spells.natAbs_le {line : Bytes} {n : Int} (h : Spells line n) : n.natAbs ≤ headerLimit := by
  cases h with
  | unsigned _ _ hle => exact hle
  | negated _ _ hle =>
      rw [Int.natAbs_neg]
      exact hle

/-! ## Numbers that are written -/

/-- The digits follow each other from 48 on. -/
theorem toNat_digit {d : Nat} (hd : d < 10) : (digit d).toNat = 48 + d := by
  rw [digit, UInt8.toNat_ofNat']
  omega

theorem isDigit_digit {d : Nat} (hd : d < 10) : IsDigit (digit d) := by
  have hnat := toNat_digit hd
  rw [IsDigit, UInt8.le_iff_toNat_le, UInt8.le_iff_toNat_le, hnat]
  constructor
  · exact Nat.le_add_right 48 d
  · show 48 + d ≤ 57
    omega

/-- A number is written with digits only. -/
theorem isDigit_of_mem_ofNat {n : Nat} {b : UInt8} (h : b ∈ ofNat n) : IsDigit b := by
  fun_induction ofNat n with
  | case1 n hn =>
      rw [List.mem_singleton.1 h]
      exact isDigit_digit hn
  | case2 n hn ih =>
      rcases List.mem_append.1 h with hfront | hlast
      · exact ih hfront
      · rw [List.mem_singleton.1 hlast]
        exact isDigit_digit (Nat.mod_lt n (by decide))

/-- Every number, zero included, has a digit. -/
theorem ofNat_ne_nil (n : Nat) : ofNat n ≠ [] := by
  rw [ofNat]
  split <;> simp

/-- A further digit multiplies what was read so far by ten. -/
@[simp] theorem value_concat (digits : Bytes) (b : UInt8) :
    value (digits ++ [b]) = value digits * 10 + (b.toNat - 48) := by
  simp [value]

/-- What is written stands for the number that was to be written. -/
@[simp] theorem value_ofNat (n : Nat) : value (ofNat n) = n := by
  fun_induction ofNat n with
  | case1 n hn =>
      have hdigit := toNat_digit hn
      rw [← List.nil_append [digit n], value_concat, hdigit]
      show 0 * 10 + (48 + n - 48) = n
      omega
  | case2 n hn ih =>
      have hdigit := toNat_digit (Nat.mod_lt n (by decide : 10 > 0))
      simp only [value_concat, ih, hdigit]
      omega

/-- Different numbers are written differently. -/
theorem ofNat_injective : Function.Injective ofNat :=
  Function.LeftInverse.injective value_ofNat

/-- A number within the limit is written as a numeral that a header line may carry. -/
theorem spells_ofNat {n : Nat} (h : n ≤ headerLimit) : Spells (ofNat n) n := by
  have hspells := Spells.unsigned (ofNat_ne_nil n) (fun b hb => isDigit_of_mem_ofNat hb)
    (by simpa using h)
  simpa using hspells

/-- No line end occurs in a number, whatever its size. -/
theorem oneLine_ofNat (n : Nat) : Bytes.OneLine (ofNat n) := by
  have hcr : ¬ IsDigit Bytes.cr := by decide
  exact Bytes.oneLine_of_not_mem fun hmem => hcr (isDigit_of_mem_ofNat hmem)

/-! ## Unsigned numerals -/

/-- The text is a numeral for the number, which is within the limit. A plus may stand in front. -/
inductive SpellsUnsigned (limit : Nat) : Bytes → Nat → Prop where
  | plain {digits : Bytes} : digits ≠ [] → (∀ b ∈ digits, IsDigit b) → value digits ≤ limit →
      SpellsUnsigned limit digits (value digits)
  | signed {digits : Bytes} : digits ≠ [] → (∀ b ∈ digits, IsDigit b) → value digits ≤ limit →
      SpellsUnsigned limit (plus :: digits) (value digits)

variable {limit n : Nat} {text : Bytes}

theorem not_isDigit_plus : ¬ IsDigit plus := by decide

/-- A text is read as a number exactly if it spells it. -/
theorem readUnsigned_eq_ok_iff :
    readUnsigned limit text = .ok n ↔ SpellsUnsigned limit text n := by
  constructor
  · intro h
    cases text with
    | nil => cases h
    | cons b digits =>
        rw [readUnsigned] at h
        by_cases hb : b = plus
        · rw [if_pos hb] at h
          split at h
          · cases h
          · obtain ⟨hne, hdigits, rfl, hle⟩ := readDigits_eq_ok_iff.1 h
            exact hb ▸ .signed hne hdigits hle
        · rw [if_neg hb] at h
          obtain ⟨hne, hdigits, rfl, hle⟩ := readDigits_eq_ok_iff.1 h
          exact .plain hne hdigits hle
  · intro h
    cases h with
    | plain hne hdigits hle =>
        -- The first digit is not taken for a sign.
        obtain ⟨b, rest, rfl⟩ := List.exists_cons_of_ne_nil hne
        have hb : b ≠ plus := by
          rintro rfl
          exact not_isDigit_plus (hdigits plus (by simp))
        rw [readUnsigned, if_neg hb]
        exact readDigits_eq_ok_iff.2 ⟨hne, hdigits, rfl, hle⟩
    | @signed digits hne hdigits hle =>
        have hnonempty : digits.isEmpty = false := by simpa using hne
        rw [readUnsigned, if_pos rfl, hnonempty]
        exact readDigits_eq_ok_iff.2 ⟨hne, hdigits, rfl, hle⟩

/-- What is written is read back. -/
theorem readUnsigned_ofNat (h : n ≤ limit) :
    readUnsigned limit (ofNat n) = .ok n := by
  have hspells := SpellsUnsigned.plain (ofNat_ne_nil n) (fun b hb => isDigit_of_mem_ofNat hb)
    (by simpa using h)
  exact readUnsigned_eq_ok_iff.2 (by simpa using hspells)

end Decimal

namespace Wire

/-- The length that a line announces is the number that it spells. -/
theorem readLength_eq_some_iff {line : Bytes} {k : Nat} :
    readLength line = .ok (some k) ↔ Decimal.Spells line k := by
  rw [readLength, ← Decimal.readHeader_eq_ok_iff]
  cases Decimal.readHeader line with
  | error e => simp
  | ok n =>
      simp only [Except.ok.injEq]
      split <;> simp <;> omega

/-- A negative number announces that there is no value. -/
theorem readLength_eq_none_iff {line : Bytes} :
    readLength line = .ok none ↔ ∃ n < 0, Decimal.Spells line n := by
  simp only [readLength, ← Decimal.readHeader_eq_ok_iff]
  cases Decimal.readHeader line with
  | error e => simp
  | ok n =>
      simp only [Except.ok.injEq]
      split <;> simp <;> omega

end Wire

end CommandPipeline
