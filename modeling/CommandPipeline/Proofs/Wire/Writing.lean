import CommandPipeline.Proofs.Characters
import CommandPipeline.Proofs.Wire.Encoding
import CommandPipeline.Proofs.Wire.Prefixes

/-!
# Replies that are written are read back

`Written frame r` says that a byte string is the wire form of a reply, as a server writes it:
numbers without leading zeros, strings and arrays behind their sizes, nil in either of its two
forms. The grammar of replies admits more spellings than these, and `Written.denotes` says that it
admits these. So what is written one reply after the other is decoded into the same replies, and
since no frame begins another one, a frame that is not all there yet stays in the buffer.

A server can only write what its format can carry. Numbers and sizes are bounded (no byte string or
array in memory is too large for its size to be written), a status or error text must be one line,
and arrays nest only so deep. `Reply.Sendable` collects these conditions.
-/

namespace CommandPipeline

/-! ## What can be sent -/

namespace Reply

open Bytes (OneLine)
open Decimal (headerLimit)

mutual

/-- All numbers and sizes of a reply can be written in a header line, and its texts are lines. The
sizes of what is in memory always can. -/
def Fits : Reply → Prop
  | .integer n => n.natAbs ≤ headerLimit
  | .string bytes => bytes.length ≤ headerLimit
  | .array items => items.length ≤ headerLimit ∧ FitEach items
  | .error message => OneLine (Utf8.encode message)
  | .status text => OneLine (Utf8.encode text)
  | .nil => True

/-- All of the replies fit. -/
def FitEach : List Reply → Prop
  | [] => True
  | r :: rest => Fits r ∧ FitEach rest

end

mutual

instance decidableFits : (r : Reply) → Decidable r.Fits
  | .integer _ => inferInstanceAs (Decidable (_ ≤ _))
  | .string _ => inferInstanceAs (Decidable (_ ≤ _))
  | .array items =>
    have := decidableFitEach items
    inferInstanceAs (Decidable (_ ∧ _))
  | .error message => inferInstanceAs (Decidable (OneLine (Utf8.encode message)))
  | .status text => inferInstanceAs (Decidable (OneLine (Utf8.encode text)))
  | .nil => inferInstanceAs (Decidable True)

instance decidableFitEach : (items : List Reply) → Decidable (FitEach items)
  | [] => inferInstanceAs (Decidable True)
  | r :: rest =>
    have := decidableFits r
    have := decidableFitEach rest
    inferInstanceAs (Decidable (_ ∧ _))

end

/-- A reply that the wire format can carry. -/
def Sendable (r : Reply) : Prop := r.Fits ∧ r.nesting ≤ Wire.nestingLimit

instance (r : Reply) : Decidable r.Sendable := inferInstanceAs (Decidable (_ ∧ _))

/-- Replies that all fit, fit as elements. -/
theorem fitEach_of_forall {items : List Reply} (h : ∀ r ∈ items, r.Fits) : FitEach items := by
  induction items with
  | nil => trivial
  | cons r items ih =>
      obtain ⟨hfirst, hlater⟩ := List.forall_mem_cons.1 h
      exact ⟨hfirst, ih hlater⟩

end Reply

namespace Decimal

/-- An integer within the limits is written as a numeral of a header line. -/
theorem spells_ofInt {n : Int} (h : n.natAbs ≤ headerLimit) : Spells (ofInt n) n := by
  cases n with
  | ofNat n => exact spells_ofNat h
  | negSucc n =>
      have hspells := Spells.negated (ofNat_ne_nil (n + 1)) (fun b hb => isDigit_of_mem_ofNat hb)
        (by simpa using h)
      rwa [value_ofNat] at hspells

end Decimal

namespace Wire

open Bytes (crlf)

/-! ## Wire forms -/

mutual

/-- The bytes are the reply as it is written. Nil is written as a string or as an array of negative
length. -/
inductive Written : Bytes → Reply → Prop where
  | integer (n : Int) : Written (integerMarker :: (Decimal.ofInt n ++ crlf)) (.integer n)
  | string (content : Bytes) : Written (stringElement content) (.string content)
  | array {body : Bytes} {items : List Reply} : WrittenEach body items →
      Written (arrayHeader items.length ++ body) (.array items)
  | error (message : String) :
      Written (errorMarker :: (Utf8.encode message ++ crlf)) (.error message)
  | status (text : String) : Written (statusMarker :: (Utf8.encode text ++ crlf)) (.status text)
  | nilString : Written (stringMarker :: (Decimal.ofInt (-1) ++ crlf)) .nil
  | nilArray : Written (arrayMarker :: (Decimal.ofInt (-1) ++ crlf)) .nil

/-- The bytes are the replies as they are written, one after the other. -/
inductive WrittenEach : Bytes → List Reply → Prop where
  | nil : WrittenEach [] []
  | cons {frame body : Bytes} {r : Reply} {items : List Reply} : Written frame r →
      WrittenEach body items → WrittenEach (frame ++ body) (r :: items)

end

mutual

/-- Every reply can be written. -/
theorem exists_written : (r : Reply) → ∃ frame, Written frame r
  | .integer n => ⟨_, .integer n⟩
  | .string content => ⟨_, .string content⟩
  | .array items =>
    have ⟨_, hbody⟩ := exists_writtenEach items
    ⟨_, .array hbody⟩
  | .error message => ⟨_, .error message⟩
  | .status text => ⟨_, .status text⟩
  | .nil => ⟨_, .nilString⟩

/-- Every list of replies can be written. -/
theorem exists_writtenEach : (items : List Reply) → ∃ body, WrittenEach body items
  | [] => ⟨_, .nil⟩
  | r :: items =>
    have ⟨_, hframe⟩ := exists_written r
    have ⟨_, hbody⟩ := exists_writtenEach items
    ⟨_, .cons hframe hbody⟩

end

mutual

/-- The grammar has what is written. -/
theorem Written.denotes {frame : Bytes} {r : Reply} (h : Written frame r) (hfits : r.Fits) :
    Denotes frame r := by
  cases h with
  | integer n => exact .scalar (.integer (Decimal.spells_ofInt hfits))
  | string content => exact denotes_stringElement hfits
  | @array body items hbody =>
      have harray := Denotes.array (Decimal.spells_ofNat hfits.1) (hbody.denoteEach hfits.2)
      rw [arrayHeader, header]
      simpa using harray
  | error message =>
      have hscalar := Scalar.error hfits
      exact .scalar (by simpa using hscalar)
  | status text =>
      have hscalar := Scalar.status hfits
      exact .scalar (by simpa using hscalar)
  | nilString => exact .scalar (.nilString (Decimal.spells_ofInt (by decide)) (by decide))
  | nilArray => exact .scalar (.nilArray (Decimal.spells_ofInt (by decide)) (by decide))

/-- The written form of a list denotes each of its replies. -/
theorem WrittenEach.denoteEach {body : Bytes} {items : List Reply} (h : WrittenEach body items)
    (hfits : Reply.FitEach items) : DenoteEach body items := by
  cases h with
  | nil => exact .nil
  | cons hframe hbody => exact .cons (hframe.denotes hfits.1) (hbody.denoteEach hfits.2)

end

/-! ## Reading back -/

/-- A reply that can be sent is parsed from its written form. -/
theorem Written.parse {frame : Bytes} {r : Reply} (h : Written frame r) (hr : r.Sendable) :
    parse frame = .ok (some (frame.length, r)) :=
  parse_of_denotes (Nat.le_refl _) (by simpa using h.denotes hr.1) hr.2

/-- Replies that the wire format can carry are decoded as they were written, in either form of nil,
and the front part of a further one is left in the buffer. -/
theorem feed_written (items : List Reply) (next : Reply) (hitems : ∀ r ∈ items, r.Sendable)
    (hnext : next.Sendable) :
    (∃ body, WrittenEach body items) ∧ (∃ frame, Written frame next) ∧
      ∀ body frame rest, WrittenEach body items → Written frame next → rest <+: frame →
        rest ≠ frame → ∃ d, Stream.fresh.feed (body ++ rest) = ⟨⟨d, rest⟩, items, none⟩ := by
  refine ⟨exists_writtenEach items, exists_written next, ?_⟩
  intro body frame rest hbody hframe hfront hproper
  have hdenotes := hbody.denoteEach (Reply.fitEach_of_forall fun r hr => (hitems r hr).1)
  have hrest : parse rest = .ok none := by
    have hshort : ¬ frame.length ≤ rest.length := fun hle => hproper (hfront.eq_of_length_le hle)
    rw [parse_prefix_eq_ite (hframe.parse hnext) hfront, if_neg hshort]
  have hparse := parseAll_frames hdenotes (fun r hr => (hitems r hr).2) rest
  rw [parseAll_of_none hrest, List.append_nil] at hparse
  refine ⟨(Decoder.fresh.scan rest).1, ?_⟩
  rw [Stream.feed_eq_decodeOnce Stream.fresh_resumes]
  show decodeOnce (body ++ rest) = _
  rw [decodeOnce_eq, hparse]

/-- Nil in both of its forms beside a string of a line end, an empty array, and a text that ends in
a lone CR. The number that follows lacks the last byte of its line end. -/
theorem feed_written_bothNils :
    let items : List Reply :=
      [.array [.nil, .string crlf, .nil], .array [], .status "é\r"]
    let body := Utf8.encode "*3\r\n$-1\r\n$2\r\n\r\n\r\n*-1\r\n*0\r\n+é\r\r\n"
    let frame := Utf8.encode ":-7\r\n"
    let rest := Utf8.encode ":-7\r"
    ((∀ r ∈ items, r.Sendable) ∧ (Reply.integer (-7)).Sendable ∧ WrittenEach body items ∧
        Written frame (.integer (-7)) ∧ rest <+: frame ∧ rest ≠ frame) ∧
      ∃ d, Stream.fresh.feed (body ++ rest) = ⟨⟨d, rest⟩, items, none⟩ := by
  intro items body frame rest
  have hitems : ∀ r ∈ items, r.Sendable := by decide +kernel
  have hnext : (Reply.integer (-7)).Sendable := by decide +kernel
  have hbody : WrittenEach body items :=
    Eq.subst (motive := fun bytes => WrittenEach bytes items) (by decide +kernel)
      (WrittenEach.cons (.array (.cons .nilString (.cons (.string crlf) (.cons .nilArray .nil))))
        (.cons (.array .nil) (.cons (.status "é\r") .nil)))
  have hframe : Written frame (.integer (-7)) :=
    Eq.subst (motive := fun bytes => Written bytes (.integer (-7))) (by decide +kernel)
      (Written.integer (-7))
  have hfront : rest <+: frame := by decide +kernel
  have hproper : rest ≠ frame := by decide +kernel
  obtain ⟨-, -, hread⟩ := feed_written items (.integer (-7)) hitems hnext
  exact ⟨⟨hitems, hnext, hbody, hframe, hfront, hproper⟩,
    hread body frame rest hbody hframe hfront hproper⟩

end Wire

end CommandPipeline
