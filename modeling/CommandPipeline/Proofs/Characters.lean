import CommandPipeline.Reply.Reading

/-!
# Text read back from its bytes

The lossy reader takes one byte at a time. On the bytes of a character it goes from the leading
byte, which fixes how many bytes are due and what the next one may be, through the continuation
bytes, six bits at a time, to the character itself. It finds nothing to replace, so the bytes of a
text are read back as that text (`decodeLossy_encode`).

The ranges that the reader allows behind some leading bytes cut off overlong forms, surrogates and
numbers past the last plane. A character is none of these, and that is what the bounds in
`exists_lead_three` and `exists_lead_four` say. The strict reader does not look at single bytes
here: a text carries the proof that its bytes are well formed.
-/

namespace CommandPipeline.Utf8

/-! ## Single bytes -/

/-- The continuation byte that carries the last six bits of a number. -/
def tailByte (n : Nat) : UInt8 := UInt8.ofNat (n % 64 + 128)

@[simp] theorem toNat_tailByte (n : Nat) : (tailByte n).toNat = n % 64 + 128 := by
  rw [tailByte, UInt8.toNat_ofNat']
  omega

/-- A continuation byte within its range puts six more bits behind those read so far. -/
theorem step_tailByte {low high : UInt8} {due n : Nat} (hlow : low.toNat ≤ n % 64 + 128)
    (hhigh : n % 64 + 128 ≤ high.toNat) (passed : List Char) :
    Reader.step ⟨passed, some ⟨due, low, high, n / 64⟩⟩ (tailByte n) =
      if due = 1 then ⟨Char.ofNat n :: passed, none⟩
      else ⟨passed, some ⟨due - 1, 0x80, 0xBF, n⟩⟩ := by
  have hrange : low ≤ tailByte n ∧ tailByte n ≤ high := by
    simpa [UInt8.le_iff_toNat_le] using ⟨hlow, hhigh⟩
  have hvalue : n / 64 * 64 + ((tailByte n).toNat - 0x80) = n := by
    simp only [toNat_tailByte]
    omega
  unfold Reader.step
  dsimp only
  rw [if_pos hrange, hvalue]

/-- Behind the first of them, continuation bytes have the full range. -/
theorem step_tailByte_full (due n : Nat) (passed : List Char) :
    Reader.step ⟨passed, some ⟨due, 0x80, 0xBF, n / 64⟩⟩ (tailByte n) =
      if due = 1 then ⟨Char.ofNat n :: passed, none⟩
      else ⟨passed, some ⟨due - 1, 0x80, 0xBF, n⟩⟩ :=
  step_tailByte (Nat.le_add_left 128 _) (by simp; omega) passed

/-- A byte below 128 is a character by itself. -/
theorem step_ascii {n : Nat} (hn : n < 0x80) (passed : List Char) :
    Reader.step ⟨passed, none⟩ (UInt8.ofNat n) = ⟨Char.ofNat n :: passed, none⟩ := by
  have hnat : (UInt8.ofNat n).toNat = n := UInt8.toNat_ofNat_of_lt' (Nat.lt_trans hn (by decide))
  have hascii : UInt8.ofNat n < 0x80 := by
    rw [UInt8.lt_iff_toNat_lt, hnat]
    exact hn
  show Reader.start passed (UInt8.ofNat n) = _
  rw [Reader.start, if_pos hascii, hnat]

/-- A leading byte by its number. -/
theorem Unfinished.ofLead?_ofNat {n : Nat} (hn : n < 256) :
    ofLead? (UInt8.ofNat n) =
      if 0xC2 ≤ n ∧ n ≤ 0xDF then some ⟨1, 0x80, 0xBF, n - 0xC0⟩
      else if n = 0xE0 then some ⟨2, 0xA0, 0xBF, 0⟩
      else if n = 0xED then some ⟨2, 0x80, 0x9F, 0xD⟩
      else if 0xE1 ≤ n ∧ n ≤ 0xEF then some ⟨2, 0x80, 0xBF, n - 0xE0⟩
      else if n = 0xF0 then some ⟨3, 0x90, 0xBF, 0⟩
      else if 0xF1 ≤ n ∧ n ≤ 0xF3 then some ⟨3, 0x80, 0xBF, n - 0xF0⟩
      else if n = 0xF4 then some ⟨3, 0x80, 0x8F, 4⟩
      else none := by
  have hnat : (UInt8.ofNat n).toNat = n := UInt8.toNat_ofNat_of_lt' hn
  rw [ofLead?]
  simp only [UInt8.le_iff_toNat_le, ← UInt8.toNat_inj, hnat]
  rfl

/-- A leading byte puts a character under way. -/
theorem step_lead {n : Nat} {lead : Unfinished} (hn : n < 256) (hascii : 0x80 ≤ n)
    (hlead : Unfinished.ofLead? (UInt8.ofNat n) = some lead) (passed : List Char) :
    Reader.step ⟨passed, none⟩ (UInt8.ofNat n) = ⟨passed, some lead⟩ := by
  have hnot : ¬ UInt8.ofNat n < 0x80 := by
    rw [UInt8.lt_iff_toNat_lt, UInt8.toNat_ofNat_of_lt' hn]
    exact Nat.not_lt.2 hascii
  show Reader.start passed (UInt8.ofNat n) = _
  rw [Reader.start, if_neg hnot, hlead]

/-! ## Leading bytes of characters -/

/-- The lead byte of two announces one more byte. -/
theorem ofLead?_two {v : Nat} (hlow : 0x80 ≤ v) (hhigh : v < 0x800) :
    Unfinished.ofLead? (UInt8.ofNat (v / 64 % 32 + 192)) = some ⟨1, 0x80, 0xBF, v / 64⟩ := by
  have hvalue : v / 64 % 32 + 192 - 0xC0 = v / 64 := by omega
  rw [Unfinished.ofLead?_ofNat (by omega), if_pos (by omega), hvalue]

/-- The first continuation byte of three bytes is in the range that the leading byte allows. -/
theorem exists_lead_three {v : Nat} (hlow : 0x800 ≤ v) (hhigh : v < 0x10000)
    (hvalid : v < 0xD800 ∨ 0xDFFF < v) :
    ∃ low high : UInt8,
      Unfinished.ofLead? (UInt8.ofNat (v / 4096 % 16 + 224)) = some ⟨2, low, high, v / 64 / 64⟩ ∧
        low.toNat ≤ v / 64 % 64 + 128 ∧ v / 64 % 64 + 128 ≤ high.toNat := by
  rw [Unfinished.ofLead?_ofNat (by omega), if_neg (by omega)]
  by_cases hfirst : v < 0x1000
  · -- Shorter forms would start with these six bits below `0x20`.
    have hvalue : v / 64 / 64 = 0 := by omega
    rw [if_pos (by omega), hvalue]
    exact ⟨0xA0, 0xBF, rfl, by simp; omega, by simp; omega⟩
  rw [if_neg (by omega)]
  by_cases hsurrogates : 0xD000 ≤ v ∧ v ≤ 0xDFFF
  · have hvalue : v / 64 / 64 = 0xD := by omega
    rw [if_pos (by omega), hvalue]
    exact ⟨0x80, 0x9F, rfl, by simp, by simp; omega⟩
  · have hvalue : v / 4096 % 16 + 224 - 0xE0 = v / 64 / 64 := by omega
    rw [if_neg (by omega), if_pos (by omega), hvalue]
    exact ⟨0x80, 0xBF, rfl, by simp, by simp; omega⟩

/-- The first continuation byte of four bytes is in the range that the leading byte allows. -/
theorem exists_lead_four {v : Nat} (hlow : 0x10000 ≤ v) (hhigh : v < 0x110000) :
    ∃ low high : UInt8,
      Unfinished.ofLead? (UInt8.ofNat (v / 262144 % 8 + 240)) =
        some ⟨3, low, high, v / 64 / 64 / 64⟩ ∧
        low.toNat ≤ v / 64 / 64 % 64 + 128 ∧ v / 64 / 64 % 64 + 128 ≤ high.toNat := by
  rw [Unfinished.ofLead?_ofNat (by omega), if_neg (by omega), if_neg (by omega),
    if_neg (by omega), if_neg (by omega)]
  by_cases hfirst : v < 0x40000
  · have hvalue : v / 64 / 64 / 64 = 0 := by omega
    rw [if_pos (by omega), hvalue]
    exact ⟨0x90, 0xBF, rfl, by simp; omega, by simp; omega⟩
  rw [if_neg (by omega)]
  by_cases hmiddle : v < 0x100000
  · have hvalue : v / 262144 % 8 + 240 - 0xF0 = v / 64 / 64 / 64 := by omega
    rw [if_pos (by omega), hvalue]
    exact ⟨0x80, 0xBF, rfl, by simp, by simp; omega⟩
  · have hvalue : v / 64 / 64 / 64 = 4 := by omega
    rw [if_neg (by omega), if_pos (by omega), hvalue]
    exact ⟨0x80, 0x8F, rfl, by simp, by simp; omega⟩

/-! ## Characters and texts -/

/-- The bytes of a character by its number, the first of them leading. -/
theorem utf8EncodeChar_eq (c : Char) :
    String.utf8EncodeChar c =
      if c.toNat ≤ 127 then [UInt8.ofNat c.toNat]
      else if c.toNat ≤ 2047 then [UInt8.ofNat (c.toNat / 64 % 32 + 192), tailByte c.toNat]
      else if c.toNat ≤ 65535 then
        [UInt8.ofNat (c.toNat / 4096 % 16 + 224), tailByte (c.toNat / 64), tailByte c.toNat]
      else
        [UInt8.ofNat (c.toNat / 262144 % 8 + 240), tailByte (c.toNat / 64 / 64),
          tailByte (c.toNat / 64), tailByte c.toNat] := by
  have hdiv : c.toNat / 64 / 64 = c.toNat / 4096 := Nat.div_div_eq_div_mul _ 64 64
  rw [hdiv]
  rfl

/-- The bytes of a character are read as that character. -/
@[simp] theorem foldl_step_char (c : Char) (passed : List Char) :
    (String.utf8EncodeChar c).foldl Reader.step ⟨passed, none⟩ = ⟨c :: passed, none⟩ := by
  have hchar : Char.ofNat c.toNat = c := Char.ofNat_toNat c
  have hvalid : c.toNat < 0xD800 ∨ 0xDFFF < c.toNat ∧ c.toNat < 0x110000 := c.valid
  rw [utf8EncodeChar_eq]
  generalize c.toNat = v at *
  split
  · rw [List.foldl_cons, step_ascii (by omega), hchar]
    rfl
  · split
    · have hlead := ofLead?_two (v := v) (by omega) (by omega)
      rw [List.foldl_cons, step_lead (by omega) (by omega) hlead, List.foldl_cons,
        step_tailByte_full, if_pos rfl, hchar]
      rfl
    · split
      · obtain ⟨low, high, hlead, hlow, hhigh⟩ :=
          exists_lead_three (v := v) (by omega) (by omega) (by omega)
        rw [List.foldl_cons, step_lead (by omega) (by omega) hlead, List.foldl_cons,
          step_tailByte hlow hhigh, if_neg (by decide), List.foldl_cons, step_tailByte_full,
          if_pos rfl, hchar]
        rfl
      · obtain ⟨low, high, hlead, hlow, hhigh⟩ :=
          exists_lead_four (v := v) (by omega) (by omega)
        rw [List.foldl_cons, step_lead (by omega) (by omega) hlead, List.foldl_cons,
          step_tailByte hlow hhigh, if_neg (by decide), List.foldl_cons, step_tailByte_full,
          if_neg (by decide), List.foldl_cons, step_tailByte_full, if_pos rfl, hchar]
        rfl

/-- The reader takes the bytes of characters for these characters. -/
@[simp] theorem foldl_step_chars (chars passed : List Char) :
    (chars.flatMap String.utf8EncodeChar).foldl Reader.step ⟨passed, none⟩ =
      ⟨chars.reverse ++ passed, none⟩ := by
  induction chars generalizing passed with
  | nil => rfl
  | cons c chars ih =>
      simp [ih]

/-- The bytes of a text are those of its characters, one after the other. -/
theorem encode_eq_flatMap (text : String) :
    encode text = text.toList.flatMap String.utf8EncodeChar := by
  rw [encode, ← String.utf8Encode_toList]
  simp [List.utf8Encode]

/-- Nothing is lost of a text. -/
@[simp] theorem decodeLossy_encode (text : String) : decodeLossy (encode text) = text := by
  simp [decodeLossy, encode_eq_flatMap, Reader.finish]

/-! ## The strict reader -/

/-- The bytes of a text are read as that text. -/
@[simp] theorem decode?_encode (text : String) : decode? (encode text) = some text := by
  have hbytes : (encode text).toByteArray = text.toByteArray := by
    apply ByteArray.ext
    rw [List.data_toByteArray, encode, Array.toArray_toList]
  rw [decode?, hbytes, String.fromUTF8?, dif_pos text.isValidUTF8]
  rfl

/-- No other bytes are read as that text. -/
theorem encode_of_decode? {bytes : Bytes} {text : String} (h : decode? bytes = some text) :
    encode text = bytes := by
  rw [decode?, String.fromUTF8?] at h
  split at h
  · cases h
    simp [encode, String.fromUTF8]
  · cases h

/-- Bytes below 128 are the bytes of a text, one character each. -/
theorem exists_encode_eq {bytes : Bytes} (h : ∀ b ∈ bytes, b < 0x80) :
    ∃ text, encode text = bytes := by
  refine ⟨String.ofList (bytes.map fun b => Char.ofNat b.toNat), ?_⟩
  rw [encode_eq_flatMap, String.toList_ofList, List.flatMap_map]
  induction bytes with
  | nil => rfl
  | cons b bytes ih =>
      obtain ⟨hb, hbytes⟩ := List.forall_mem_cons.1 h
      have hlt : b.toNat < 128 := UInt8.lt_iff_toNat_lt.1 hb
      have hchar : (Char.ofNat b.toNat).toNat = b.toNat := by
        rw [Char.ofNat, dif_pos (.inl (by omega))]
        rfl
      rw [List.flatMap_cons, ih hbytes, utf8EncodeChar_eq, hchar, if_pos (by omega),
        UInt8.ofNat_toNat]
      rfl

end CommandPipeline.Utf8

namespace CommandPipeline.Reply

/-- A string reply that holds a text is read as that text. -/
@[simp] theorem textOf_encode (text : String) : textOf (Utf8.encode text) = .ok text := by
  simp [textOf]

end CommandPipeline.Reply
