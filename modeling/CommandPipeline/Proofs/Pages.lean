import CommandPipeline.Cursor
import CommandPipeline.Proofs.Characters
import CommandPipeline.Proofs.Numerals
import Mathlib.Data.List.Forall2

/-!
# What a page is

`Cursor.IsPage` says which replies are pages, without reference to any reader: an array of just two
elements, the next position as a decimal text within 64 bits and an array of entries. An entry is a
string, or nil for an empty one. The reader of pages accepts these replies and no others.
-/

namespace CommandPipeline

/-! ## Positions -/

namespace Decimal

variable {limit n : Nat} {text : Bytes}

/-- A numeral is plain text. -/
theorem SpellsUnsigned.exists_encode_eq (h : SpellsUnsigned limit text n) :
    ∃ shown, Utf8.encode shown = text := by
  have hdigit : ∀ b : UInt8, IsDigit b → b < 0x80 := by
    intro b hb
    exact UInt8.lt_of_le_of_lt hb.2 (by decide)
  apply Utf8.exists_encode_eq
  cases h with
  | plain _ hdigits _ => exact fun b hb => hdigit b (hdigits b hb)
  | signed _ hdigits _ =>
      rw [List.forall_mem_cons]
      exact ⟨by decide, fun b hb => hdigit b (hdigits b hb)⟩

end Decimal

/-! ## Entries -/

namespace Reply

variable {r : Reply} {bytes : Bytes}

/-- The reply is an entry of a page: a string, or nil for an empty one. -/
inductive IsEntry : Reply → Bytes → Prop where
  | string (bytes : Bytes) : IsEntry (.string bytes) bytes
  | nil : IsEntry .nil []

/-- A reply is read as bytes exactly if it is an entry with these bytes. -/
theorem toBytes_eq_ok_iff : r.toBytes = .ok bytes ↔ r.IsEntry bytes := by
  constructor
  · intro h
    cases r with
    | string content =>
        cases h
        exact .string content
    | nil =>
        cases h
        exact .nil
    | _ => cases h
  · rintro (_ | _) <;> rfl

/-- A list of replies is read as entries exactly if each of them is one. -/
theorem mapM_toBytes_eq_ok_iff {items : List Reply} {entries : List Bytes} :
    items.mapM toBytes = .ok entries ↔ List.Forall₂ IsEntry items entries := by
  induction items generalizing entries with
  | nil => cases entries <;> simp [pure, Except.pure]
  | cons r items ih =>
      rw [List.mapM_cons]
      cases hr : r.toBytes with
      | error e =>
          have hnot : ∀ bytes, ¬ r.IsEntry bytes := by
            intro bytes hentry
            rw [toBytes_eq_ok_iff.2 hentry] at hr
            cases hr
          cases entries <;> simp [bind, Except.bind, hnot]
      | ok bytes =>
          have hentry : ∀ other, r.toBytes = .ok other ↔ r.IsEntry other :=
            fun _ => toBytes_eq_ok_iff
          simp only [hr, Except.ok.injEq] at hentry
          cases hitems : items.mapM toBytes with
          | error e => cases entries <;> simp [bind, Except.bind, ← ih, hitems]
          | ok rest =>
              cases entries <;>
                simp [bind, Except.bind, pure, Except.pure, ← ih, hitems, ← hentry]

/-- A reply is read as a list of entries exactly if it is an array of them. -/
theorem toByteStrings_eq_ok_iff {entries : List Bytes} :
    r.toByteStrings = .ok entries ↔
      ∃ items, r = .array items ∧ List.Forall₂ IsEntry items entries := by
  cases r with
  | array items =>
      rw [show (array items).toByteStrings = items.mapM toBytes from rfl, mapM_toBytes_eq_ok_iff]
      simp
  | _ => simp [toByteStrings, toItems, bind, Except.bind]

end Reply

/-! ## Pages -/

namespace Cursor

open Decimal (SpellsUnsigned)
open Reply (IsEntry)

variable {r : Reply} {position : Nat} {entries : List Bytes}

/-- The reply is a page with the next position and the entries. -/
inductive IsPage : Reply → Nat → List Bytes → Prop where
  | intro {text : Bytes} {items : List Reply} {next : Nat} {entries : List Bytes} :
      SpellsUnsigned Decimal.wordLimit text next → List.Forall₂ IsEntry items entries →
      IsPage (.array [.string text, .array items]) next entries

/-- A reply is read as a position exactly if it is a string that spells a word. -/
theorem readPosition_eq_ok_iff :
    readPosition r = .ok position ↔
      ∃ text, r = .string text ∧ SpellsUnsigned Decimal.wordLimit text position := by
  have hstring : ∀ bytes, readPosition (.string bytes) = .ok position ↔
      SpellsUnsigned Decimal.wordLimit bytes position := by
    intro bytes
    cases htext : Utf8.decode? bytes with
    | none =>
        have hread : readPosition (.string bytes) = .error .notUtf8 := by
          show (Reply.textOf bytes >>= _) = _
          rw [Reply.textOf, htext]
          rfl
        -- A numeral would have been text.
        rw [hread]
        constructor
        · intro h
          cases h
        · intro h
          obtain ⟨shown, rfl⟩ := h.exists_encode_eq
          simp at htext
    | some text =>
        have hread : (Reply.string bytes).toText = .ok text := by
          show Reply.textOf bytes = _
          rw [Reply.textOf, htext]
        rw [← Decimal.readUnsigned_eq_ok_iff, readPosition, hread]
        simp only [bind, Except.bind, Utf8.encode_of_decode? htext]
        cases Decimal.readUnsigned Decimal.wordLimit bytes <;> simp
  cases r with
  | string bytes =>
      rw [hstring]
      constructor
      · intro h
        exact ⟨bytes, rfl, h⟩
      · rintro ⟨text, hr, h⟩
        cases hr
        exact h
  | _ =>
      constructor
      · intro h
        cases h
      · rintro ⟨text, hr, -⟩
        cases hr

/-- The reader of pages accepts the pages and nothing else. -/
theorem readPage_eq_ok_iff : readPage r = .ok (position, entries) ↔ IsPage r position entries := by
  constructor
  · intro h
    cases r with
    | array items =>
        rw [readPage] at h
        rcases items with _ | ⟨first, _ | ⟨second, _ | ⟨third, more⟩⟩⟩
        · cases h
        · cases h
        · simp only [Reply.toItems, bind, Except.bind] at h
          cases hposition : readPosition first with
          | error e =>
              rw [hposition] at h
              cases h
          | ok next =>
              cases hentries : second.toByteStrings with
              | error e =>
                  rw [hposition, hentries] at h
                  cases h
              | ok found =>
                  rw [hposition, hentries] at h
                  cases h
                  obtain ⟨text, rfl, htext⟩ := readPosition_eq_ok_iff.1 hposition
                  obtain ⟨items, rfl, hitems⟩ := Reply.toByteStrings_eq_ok_iff.1 hentries
                  exact .intro htext hitems
        · cases h
    | _ => cases h
  · intro h
    cases h with
    | @intro text items _ _ htext hitems =>
        have hposition := readPosition_eq_ok_iff.2 ⟨text, rfl, htext⟩
        have hentries := Reply.toByteStrings_eq_ok_iff.2 ⟨items, rfl, hitems⟩
        simp only [readPage, Reply.toItems, bind, Except.bind, hposition, hentries]

end Cursor

end CommandPipeline
