import CommandPipeline.Command.Reading
import CommandPipeline.Proofs.Pages
import CommandPipeline.Proofs.Wire.Encoding

/-!
# Commands of any length are read back

Fields are bytes of any content and carry no types, so a command with as many fields as its caller
wants has to say which of them is which. A script call says how many keys there are. An update of a
sorted set has its flags between the key and the first score, and a score is never taken for a flag:
it starts with a digit or a sign, or it is the word for an undefined number. So what the server
reads is what was meant, even if keys and members look like numbers or flags.
-/

namespace CommandPipeline

/-! ## Frames that are read back -/

/-- What is meant by a command can be read from its frame, whatever its fields hold. -/
structure Command.ReadsBack {α : Type} (c : Command) (read? : List Bytes → Option α) (meant : α) :
    Prop where
  /-- The frame is decoded into the name and the fields, as long as their sizes can be written in a
  header line. -/
  decoded : Wire.Stream.fresh.feed c.frame = ⟨.fresh, [.array (c.parts.map .string)], none⟩ ↔
    c.Fits
  read : read? c.parts = some meant
  /-- A command that is written alike, of whatever size, means the same. -/
  alone : ∀ other : Command, other.frame = c.frame → read? other.parts = some meant

/-! ## Script calls -/

/-- The number of keys splits what stands behind it where the values begin. -/
@[simp] theorem ScriptCall.read?_evalsha (digest : String) (keys values : List Bytes) :
    read? (Command.evalsha digest keys values).parts =
      some ⟨Command.word digest, keys, values⟩ := by
  have hcount : keys.length ≤ (keys ++ values).length := by simp
  show read? (Command.word "EVALSHA" :: Command.word digest :: Decimal.ofNat keys.length ::
    (keys ++ values)) = _
  rw [read?, if_pos rfl, Decimal.readUnsigned_ofNat hcount]
  dsimp only
  rw [List.take_left, List.drop_left]

/-! ## Scores are no flags -/

/-- A first character that is ASCII is written as one byte. -/
theorem Utf8.encode_ofList_cons {c : Char} (h : c.toNat ≤ 127) (rest : List Char) :
    encode (String.ofList (c :: rest)) = UInt8.ofNat c.toNat :: encode (String.ofList rest) := by
  rw [encode_eq_flatMap, encode_eq_flatMap, String.toList_ofList, String.toList_ofList,
    List.flatMap_cons, utf8EncodeChar_eq, if_pos h]
  rfl

namespace Score

/-- A number in positional form starts with a digit. -/
theorem exists_positional_eq (d : Decimal.Scientific) :
    ∃ c rest, positional [] d = c :: rest ∧ c.isDigit = true := by
  obtain ⟨c, rest, hdigits⟩ := List.exists_cons_of_ne_nil
    (Nat.toDigits_ne_nil (n := d.digits) (b := 10))
  have hc : c.isDigit = true := by
    apply Nat.isDigit_of_mem_toDigits (b := 10) (n := d.digits) (by decide) (by decide)
    rw [hdigits]
    exact List.mem_cons_self
  rw [positional, hdigits]
  dsimp only
  split
  · exact ⟨c, _, rfl, hc⟩
  · split
    · next hplaces =>
      obtain ⟨k, hk⟩ := Nat.exists_eq_add_of_lt (Nat.sub_pos_of_lt hplaces)
      rw [hk, Nat.zero_add, List.take_succ_cons]
      exact ⟨c, _, rfl, hc⟩
    · exact ⟨'0', _, rfl, rfl⟩

/-- The first character of a number is a minus sign or a digit, so it comes before all letters. -/
theorem exists_signed_eq (negative : Bool) (m : Nat) (q : Int) :
    ∃ c rest, signed negative (if m = 0 then ['0'] else positional [] (Decimal.shortest m q)) =
      c :: rest ∧ c.toNat < 65 := by
  cases negative with
  | true => exact ⟨'-', _, rfl, by decide⟩
  | false =>
      show ∃ (c : Char) (rest : List Char), (if m = 0 then _ else _) = c :: rest ∧ c.toNat < 65
      by_cases hm : m = 0
      · rw [if_pos hm]
        exact ⟨'0', [], rfl, by decide⟩
      · obtain ⟨c, rest, hpositional, hc⟩ := exists_positional_eq (Decimal.shortest m q)
        have hdigit : c.toNat ≤ 57 := by
          rw [Char.isDigit, Bool.and_eq_true, decide_eq_true_eq, decide_eq_true_eq] at hc
          exact UInt32.le_iff_toNat_le.1 hc.2
        rw [if_neg hm, hpositional]
        exact ⟨c, rest, rfl, by omega⟩

end Score

namespace UpdateFlag

/-- A field is no flag if it starts with none of their letters. -/
theorem of?_eq_none {b : UInt8} {rest : Bytes} (h : b < 65) : of? (b :: rest) = none := by
  have hcase : upperCase b = b := by
    apply if_neg
    rintro ⟨hle, -⟩
    exact absurd (UInt8.lt_of_le_of_lt hle h) (by decide)
  rw [of?, List.find?_eq_none]
  intro flag _ hword
  have hword : flag.word = b :: rest.map upperCase := by
    have heq := of_decide_eq_true hword
    rwa [List.map_cons, hcase] at heq
  have hletter : ∀ b ∈ flag.word.head?, 65 ≤ b := by cases flag <;> decide +kernel
  rw [hword] at hletter
  exact absurd (UInt8.lt_of_lt_of_le h (hletter b rfl)) (UInt8.lt_irrefl b)

/-- Every flag is read back from its word. -/
@[simp] theorem of?_word (flag : UpdateFlag) : of? flag.word = some flag := by
  cases flag <;> decide +kernel

/-- No score is written like a flag. -/
@[simp] theorem of?_wireText (s : Score) : of? (Command.word s.wireText) = none := by
  rw [Score.wireText]
  cases s.value with
  | nan => decide +kernel
  | infinite negative => cases negative <;> decide +kernel
  | finite negative m q =>
      obtain ⟨c, rest, hsigned, hc⟩ := Score.exists_signed_eq negative m q
      have hascii : (UInt8.ofNat c.toNat).toNat = c.toNat :=
        UInt8.toNat_ofNat_of_lt' (Nat.lt_trans hc (by decide))
      dsimp only
      rw [hsigned, Command.word, Utf8.encode_ofList_cons (by omega)]
      apply of?_eq_none
      rw [UInt8.lt_iff_toNat_lt, hascii]
      exact hc

/-- Flags are taken as far as they go. -/
theorem take_words (flags : List UpdateFlag) {rest : List Bytes} (h : take rest = ([], rest)) :
    take (flags.map word ++ rest) = (flags, rest) := by
  induction flags with
  | nil => exact h
  | cons flag flags ih => simp [take, ih]

/-- The flags that stand for a policy and the wish to count changes. -/
def announced (policy : UpdatePolicy) (changed : Bool) : List UpdateFlag :=
  (match policy with
    | .updateOnly => [existingOnly]
    | .addOnly => [newOnly]
    | .upsert => []) ++ if changed then [.changed] else []

/-- The words of the announced flags are those that the command writes. -/
@[simp] theorem words_announced (policy : UpdatePolicy) (changed : Bool) :
    (announced policy changed).map word =
      policy.flags ++ if changed then [Command.word "CH"] else [] := by
  cases policy <;> cases changed <;> rfl

/-- The policy is told from its flags. -/
@[simp] theorem policy?_announced (policy : UpdatePolicy) (changed : Bool) :
    policy? (announced policy changed) = some policy := by
  cases policy <;> cases changed <;> rfl

@[simp] theorem changed_mem_announced_iff (policy : UpdatePolicy) (changed : Bool) :
    .changed ∈ announced policy changed ↔ changed = true := by
  cases policy <;> cases changed <;> decide

end UpdateFlag

/-! ## Updates -/

namespace Update

/-- The fields of members with their scores. -/
def memberFields (members : List (Score × Bytes)) : List Bytes :=
  members.flatMap fun (score, member) => [Command.word score.wireText, member]

/-- The reader finds the members with their scores in the fields that were written for them. -/
@[simp] theorem pairs?_memberFields (members : List (Score × Bytes)) :
    pairs? (memberFields members) =
      some (members.map fun (score, member) => (Command.word score.wireText, member)) := by
  induction members with
  | nil => rfl
  | cons entry members ih =>
      obtain ⟨score, member⟩ := entry
      show (pairs? (memberFields members)).map _ = _
      simp [ih]

/-- The first score ends the flags. -/
@[simp] theorem take_memberFields (members : List (Score × Bytes)) :
    UpdateFlag.take (memberFields members) = ([], memberFields members) := by
  cases members with
  | nil => rfl
  | cons entry members =>
      obtain ⟨score, member⟩ := entry
      show UpdateFlag.take (Command.word score.wireText :: member :: memberFields members) = _
      rw [UpdateFlag.take, UpdateFlag.of?_wireText]
      rfl

/-- Whatever the key and the members are, the flags are found between them. -/
@[simp] theorem read?_zadd (key : Bytes) (policy : UpdatePolicy) (changed : Bool)
    (members : List (Score × Bytes)) :
    read? (Command.zadd key policy changed members).parts =
      some ⟨key, policy, changed,
        members.map fun (score, member) => (Command.word score.wireText, member)⟩ := by
  have hfields : (Command.zadd key policy changed members).parts =
      Command.word "ZADD" :: key ::
        ((UpdateFlag.announced policy changed).map UpdateFlag.word ++ memberFields members) := by
    simp [Command.zadd, Command.parts, Command.word, memberFields]
  rw [hfields, read?, if_pos rfl, UpdateFlag.take_words _ (take_memberFields members)]
  simp

end Update

/-! ## Frames -/

namespace Command

/-- Commands are written alike only if they have the same name and fields. -/
theorem parts_eq_of_frame_eq {c other : Command} (h : other.frame = c.frame) :
    other.parts = c.parts := by
  have hframes : Wire.fieldsFrame other.parts ++ [] = Wire.fieldsFrame c.parts ++ [] :=
    congrArg (· ++ []) h
  exact (Wire.fieldsFrame_append_inj hframes).1

/-- A command that can be read from its parts can be read from its frame, and no other command is
written alike. -/
theorem readsBack_of_read {α : Type} {c : Command} {read? : List Bytes → Option α} {meant : α}
    (h : read? c.parts = some meant) : c.ReadsBack read? meant where
  decoded := by
    have hframes : _ ↔ ∀ other ∈ [c], other.Fits := feed_frames_iff
    rwa [List.flatMap_singleton, List.forall_mem_singleton] at hframes
  read := h
  alone other hother := by rw [parts_eq_of_frame_eq hother, h]

/-- A script call with keys and values of any shape and number is written as the digest, the number
of the fields that the keys have, these fields and those of the values, and this number is where the
server splits them. An update is written so that the server finds the key, the flags, and the
members with their scores, whatever bytes these are. Both are decoded if their sizes can be written
in a header line, which those of what is in memory always can, and no other command is written
alike. -/
theorem variable_frames_read_back :
    (∀ (digest : String) (keys values : Arguments),
      let keyFields := keys.values.map Argument.field
      let valueFields := values.values.map Argument.field
      (runScript digest keys values).parts =
          [word "EVALSHA", word digest, Decimal.ofNat keyFields.length] ++ keyFields ++
            valueFields ∧
        (runScript digest keys values).ReadsBack ScriptCall.read?
          ⟨word digest, keyFields, valueFields⟩) ∧
      ∀ (key : Bytes) (policy : UpdatePolicy) (changed : Bool) (members : List (Score × Bytes)),
        (zadd key policy changed members).ReadsBack Update.read? ⟨key, policy, changed,
          members.map fun (score, member) => (word score.wireText, member)⟩ := by
  refine ⟨fun digest keys values => ?_, fun key policy changed members => ?_⟩
  · intro keyFields valueFields
    rw [runScript_eq]
    exact ⟨rfl, readsBack_of_read (ScriptCall.read?_evalsha digest keyFields valueFields)⟩
  · exact readsBack_of_read (Update.read?_zadd key policy changed members)

/-- The key and the members look like flags, and one score is negative infinity. -/
example :
    Update.read? (zadd (word "NX") .updateOnly true [(⟨0xFFF0000000000000⟩, word "ch"),
        (⟨0x4000000000000000⟩, word "XX")]).parts =
      some ⟨word "NX", .updateOnly, true, [(word "-inf", word "ch"), (word "2", word "XX")]⟩ := by
  decide +kernel

end Command

end CommandPipeline
