import CommandPipeline.Reply
import CommandPipeline.Text.Utf8
import CommandPipeline.Proofs.Numerals

/-!
# The grammar of replies

`Denotes frame r` says that a byte string is a whole frame and that its value is the reply `r`. It
is written down without reference to any reader: a frame is a scalar, or the header of an array
followed by one frame for each element. The nesting of arrays is not part of the grammar. It is
counted on the reply, by `Reply.nesting`, where arrays without elements open no level.
-/

namespace CommandPipeline

namespace Reply

mutual

/-- The number of arrays with elements that lie inside one another. -/
def nesting : Reply → Nat
  | .array items => levels items
  | _ => 0

/-- The nesting of an array with these elements. -/
def levels : List Reply → Nat
  | [] => 0
  | r :: rest => max (nesting r + 1) (levels rest)

end

/-- An element is not as deep as the list that it is in. -/
theorem nesting_lt_levels {r : Reply} {items : List Reply} (h : r ∈ items) :
    r.nesting < levels items := by
  induction items with
  | nil => exact absurd h List.not_mem_nil
  | cons s items ih =>
      rw [levels]
      rcases List.mem_cons.1 h with rfl | h
      · omega
      · have := ih h
        omega

end Reply

namespace Wire

open Bytes (OneLine crlf)
open Decimal (Spells)

/-- The frame of a value that has no parts. A negative length stands for nil. -/
inductive Scalar : Bytes → Reply → Prop where
  | status {text : Bytes} : OneLine text →
      Scalar (statusMarker :: (text ++ crlf)) (.status (Utf8.decodeLossy text))
  | error {text : Bytes} : OneLine text →
      Scalar (errorMarker :: (text ++ crlf)) (.error (Utf8.decodeLossy text))
  | integer {line : Bytes} {n : Int} : Spells line n →
      Scalar (integerMarker :: (line ++ crlf)) (.integer n)
  | nilString {line : Bytes} {n : Int} : Spells line n → n < 0 →
      Scalar (stringMarker :: (line ++ crlf)) .nil
  | string {line content : Bytes} : Spells line content.length →
      Scalar (stringMarker :: (line ++ (crlf ++ (content ++ crlf)))) (.string content)
  | nilArray {line : Bytes} {n : Int} : Spells line n → n < 0 →
      Scalar (arrayMarker :: (line ++ crlf)) .nil

mutual

/-- The bytes are a frame that holds the reply. -/
inductive Denotes : Bytes → Reply → Prop where
  | scalar {frame : Bytes} {r : Reply} : Scalar frame r → Denotes frame r
  | array {line body : Bytes} {items : List Reply} : Spells line items.length →
      DenoteEach body items → Denotes (arrayMarker :: (line ++ (crlf ++ body))) (.array items)

/-- The bytes are frames, one after the other, that hold the replies. -/
inductive DenoteEach : Bytes → List Reply → Prop where
  | nil : DenoteEach [] []
  | cons {frame rest : Bytes} {r : Reply} {items : List Reply} : Denotes frame r →
      DenoteEach rest items → DenoteEach (frame ++ rest) (r :: items)

end

theorem DenoteEach.singleton {frame : Bytes} {r : Reply} (h : Denotes frame r) :
    DenoteEach frame [r] := by
  have hone := DenoteEach.cons h .nil
  rwa [List.append_nil] at hone

/-- Lists of frames can be put one behind the other. -/
theorem DenoteEach.append {front back : Bytes} {items more : List Reply}
    (h : DenoteEach front items) (hmore : DenoteEach back more) :
    DenoteEach (front ++ back) (items ++ more) := by
  induction items generalizing front with
  | nil =>
      cases h
      exact hmore
  | cons r items ih =>
      cases h with
      | cons hr hitems =>
          rw [List.append_assoc]
          exact .cons hr (ih hitems)

/-! ## Sizes -/

mutual

/-- Every level of nesting takes bytes of the frame. -/
theorem Denotes.nesting_lt_length {frame : Bytes} {r : Reply} (h : Denotes frame r) :
    r.nesting < frame.length := by
  cases h with
  | scalar h => cases h <;> simp [Reply.nesting]
  | array _ h =>
      have := h.levels_le_length
      simp only [Reply.nesting, List.length_cons, List.length_append]
      omega

/-- Every level takes at least a byte. -/
theorem DenoteEach.levels_le_length {body : Bytes} {items : List Reply}
    (h : DenoteEach body items) :
    Reply.levels items ≤ body.length := by
  cases h with
  | nil => simp [Reply.levels]
  | cons h hrest =>
      have := h.nesting_lt_length
      have := hrest.levels_le_length
      rw [Reply.levels, List.length_append]
      omega

end

/-! ## Ends -/

/-- A scalar ends with a line end. -/
theorem Scalar.crlf_suffix {frame : Bytes} {r : Reply} (h : Scalar frame r) : crlf <:+ frame := by
  cases h <;> simp only [← List.append_assoc, ← List.cons_append, List.suffix_append]

mutual

/-- Every frame ends with a line end. -/
theorem Denotes.crlf_suffix {frame : Bytes} {r : Reply} (h : Denotes frame r) : crlf <:+ frame := by
  cases h with
  | scalar h => exact h.crlf_suffix
  | @array line body items _ hitems =>
      have hbody := hitems.crlf_suffix_append
      exact (hbody.trans (List.suffix_append line _)).trans (List.suffix_cons _ _)

/-- So does a line end with frames behind it. -/
theorem DenoteEach.crlf_suffix_append {body : Bytes} {items : List Reply}
    (h : DenoteEach body items) : crlf <:+ crlf ++ body := by
  cases h with
  | nil => exact List.suffix_refl crlf
  | @cons frame rest r items hfirst hrest =>
      obtain ⟨front, rfl⟩ := hfirst.crlf_suffix
      have hend := hrest.crlf_suffix_append
      rw [List.append_assoc, ← List.append_assoc crlf front]
      exact hend.trans (List.suffix_append _ _)

end

end Wire

end CommandPipeline
