import CommandPipeline.Proofs.CommandReading
import CommandPipeline.Proofs.Wire.Integers

/-!
# Values that are written are read back

An integer of 64 bits is written as a field in its shortest numeral and read with the reader of
string replies, which applies the sign first, so both ends of the range survive. A text is written
in UTF-8. A position is unsigned and has a reader of its own: the server sends back the numeral that
the cursor has written, as the position of a page.
-/

namespace CommandPipeline

/-! ## Integers and texts -/

namespace Decimal

/-- The integers of the machine are the integers in range. -/
theorem inRange_toInt (n : Int64) : InRange n.toInt := ⟨n.le_toInt, n.toInt_lt⟩

/-- A word of 64 bits is within the limit up to which positions are read. -/
theorem toNat_le_wordLimit (n : UInt64) : n.toNat ≤ wordLimit := Nat.le_pred_of_lt n.toNat_lt

end Decimal

namespace Argument

/-- The shortest numeral of an integer is read as the integer. -/
@[simp] theorem toNumber_integer (n : Int64) :
    (Reply.string (integer n.toInt).field).toNumber = .ok n.toInt := by
  obtain ⟨shown, -, hnumber⟩ := (Decimal.Numeral.ofInt n.toInt).toNumber_text
  simpa [field, Decimal.inRange_toInt n] using hnumber

/-- A text is written as its bytes and read back from them. -/
@[simp] theorem toText_text (s : String) : (Reply.string (text s).field).toText = .ok s :=
  Reply.textOf_encode s

end Argument

/-! ## Positions -/

namespace Cursor

/-- The position is written as its numeral, behind the key if there is one. -/
theorem parts_command (c : Cursor) :
    c.command.parts[c.collection.key?.toList.length + 1]? = some (Decimal.ofNat c.position) := by
  rw [Command.parts, command, List.getElem?_cons_succ, List.append_assoc, List.append_assoc,
    List.getElem?_append_right (Nat.le_refl _), Nat.sub_self]
  rfl

/-- A page with a position of 64 bits as it is written has this position. -/
@[simp] theorem readPage_ofNat (position : UInt64) (entries : Reply) :
    readPage (.array [.string (Decimal.ofNat position.toNat), entries]) =
      entries.toByteStrings.map (position.toNat, ·) := by
  have hspells := Decimal.readUnsigned_eq_ok_iff.1
    (Decimal.readUnsigned_ofNat (Decimal.toNat_le_wordLimit position))
  have hposition := readPosition_eq_ok_iff.2 ⟨_, rfl, hspells⟩
  simp only [readPage, Reply.toItems, bind, Except.bind, hposition]
  cases entries.toByteStrings <;> rfl

end Cursor

/-! ## Through the frame of a command -/

namespace Command

/-- One part of a command, read as a string reply. -/
def readPart {α : Type} (read : Reply → α) (i : Nat) (parts : List Bytes) : Option α :=
  parts[i]?.map fun part => read (.string part)

/-- An argument is one of the parts. -/
@[simp] theorem parts_call (name : String) (args : Arguments) (i : Nat) :
    (call name args).parts[i + 1]? = args.values[i]?.map Argument.field := by
  simp [parts, call]

/-- Wherever an argument stands, it is read back from the frame if its field can be read. -/
theorem readsBack_argument {α : Type} {read : Reply → α} {value : Argument} {meant : α}
    {args : Arguments} {i : Nat} (name : String) (hvalue : args.values[i]? = some value)
    (hread : read (.string value.field) = meant) :
    (call name args).ReadsBack (readPart read (i + 1)) meant := by
  apply readsBack_of_read
  simp [readPart, hvalue, hread]

/-- Every integer of 64 bits and every text is read back from the frame of a command in which it is
an argument. Every position of 64 bits is read back from the request for a page, and when the server
sends the same text as the position of a page, it is read as this position. -/
theorem values_read_back (name : String) (args : Arguments) (i : Nat) :
    (∀ n : Int64, args.values[i]? = some (.integer n.toInt) →
      (call name args).ReadsBack (readPart Reply.toNumber (i + 1)) (.ok n.toInt)) ∧
    (∀ s : String, args.values[i]? = some (.text s) →
      (call name args).ReadsBack (readPart Reply.toText (i + 1)) (.ok s)) ∧
    ∀ (c : Cursor) (position : UInt64), c.position = position.toNat →
      ∃ text, c.command.ReadsBack (·[c.collection.key?.toList.length + 1]?) text ∧
        ∀ entries, Cursor.readPage (.array [.string text, entries]) =
          entries.toByteStrings.map (position.toNat, ·) := by
  refine ⟨?_, ?_, ?_⟩
  · intro n hvalue
    exact readsBack_argument name hvalue (by simp)
  · intro s hvalue
    exact readsBack_argument name hvalue (by simp)
  · intro c position hposition
    refine ⟨_, readsBack_of_read c.parts_command, fun entries => ?_⟩
    simp [hposition]

/-- Both ends of the signed range and the end of the unsigned one, and a text that is not ASCII. -/
theorem values_read_back_extremes :
    let args := Arguments.tuple [.text "clé", .integer (-9223372036854775808),
      .integer 9223372036854775807]
    let c := call "RPUSH" args
    let cursor : Cursor := ⟨.set [115], none, 18446744073709551615, false, []⟩
    c.Fits ∧ cursor.command.Fits ∧
      c.ReadsBack (readPart Reply.toText 1) (.ok "clé") ∧
      c.ReadsBack (readPart Reply.toNumber 2) (.ok (-9223372036854775808)) ∧
      c.ReadsBack (readPart Reply.toNumber 3) (.ok 9223372036854775807) ∧
      ∃ text, cursor.command.ReadsBack (·[2]?) text ∧
        Cursor.readPage (.array [.string text, .array [.string [97], .nil]]) =
          .ok (18446744073709551615, [[97], []]) := by
  intro args c cursor
  obtain ⟨-, htext, -⟩ := values_read_back "RPUSH" args 0
  obtain ⟨hleast, -, -⟩ := values_read_back "RPUSH" args 1
  obtain ⟨hgreatest, -, hposition⟩ := values_read_back "RPUSH" args 2
  obtain ⟨text, hrequest, hpage⟩ := hposition cursor 18446744073709551615 rfl
  refine ⟨by decide +kernel, by decide +kernel, htext "clé" rfl, hleast Int64.minValue rfl,
    hgreatest Int64.maxValue rfl, text, hrequest, hpage _⟩

end Command

end CommandPipeline
