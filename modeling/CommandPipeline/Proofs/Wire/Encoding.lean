import CommandPipeline.Command
import CommandPipeline.Proofs.Wire.Segmentation

/-!
# What is written can be told apart

A command on the wire says for each field how long it is, so a field may hold any bytes, line ends
and frames included. Two facts follow. Whatever stands behind a frame, the frame and its fields can
be told from it, so no two lists of commands are written alike (`flatMap_fieldsFrame_injective`).
And a written command is a frame of the reply grammar: a decoder reads it as the array of its
fields.

Numbers of any size can be told apart, but a header line carries them only up to a limit. No byte
string in memory is longer than that, and no command has more fields.
-/

namespace CommandPipeline

namespace Wire

open Bytes (crlf)
open Decimal (headerLimit)

/-! ## Telling frames apart -/

/-- The number of a header is known from the bytes, and so is where the header ends. -/
theorem header_append_inj {marker : UInt8} {m n : Nat} {rest rest' : Bytes}
    (h : header marker m ++ rest = header marker n ++ rest') : m = n ∧ rest = rest' := by
  simp only [header, List.cons_append, List.append_assoc, List.cons.injEq, true_and] at h
  -- Both numbers are the first line of the same bytes.
  have hm : Bytes.splitLine? (Decimal.ofNat m ++ (crlf ++ rest)) = some (Decimal.ofNat m, rest) :=
    Bytes.splitLine?_eq_some_iff.2 ⟨Decimal.oneLine_ofNat m, rfl⟩
  have hn : Bytes.splitLine? (Decimal.ofNat n ++ (crlf ++ rest')) = some (Decimal.ofNat n, rest') :=
    Bytes.splitLine?_eq_some_iff.2 ⟨Decimal.oneLine_ofNat n, rfl⟩
  rw [h, hn, Option.some.injEq, Prod.mk.injEq] at hm
  exact ⟨(Decimal.ofNat_injective hm.1).symm, hm.2.symm⟩

/-- A string element tells its content and its end. -/
theorem stringElement_append_inj {a b rest rest' : Bytes}
    (h : stringElement a ++ rest = stringElement b ++ rest') : a = b ∧ rest = rest' := by
  simp only [stringElement, List.append_assoc] at h
  obtain ⟨hlength, hbody⟩ := header_append_inj h
  obtain ⟨hcontent, hrest⟩ := List.append_inj hbody hlength
  exact ⟨hcontent, List.append_cancel_left hrest⟩

/-- Equally many string elements tell their contents and their end, by induction on them. -/
theorem stringElements_append_inj {fields fields' : List Bytes} {rest rest' : Bytes}
    (hlength : fields.length = fields'.length)
    (h : fields.flatMap stringElement ++ rest = fields'.flatMap stringElement ++ rest') :
    fields = fields' ∧ rest = rest' := by
  induction fields generalizing fields' with
  | nil =>
      obtain rfl := List.length_eq_zero_iff.1 hlength.symm
      exact ⟨rfl, h⟩
  | cons field fields ih =>
      obtain ⟨field', fields', rfl⟩ := List.exists_cons_of_length_eq_add_one hlength.symm
      rw [List.flatMap_cons, List.flatMap_cons, List.append_assoc, List.append_assoc] at h
      obtain ⟨rfl, hlater⟩ := stringElement_append_inj h
      obtain ⟨rfl, hrest⟩ := ih (Nat.succ.inj hlength) hlater
      exact ⟨rfl, hrest⟩

/-- A frame tells its fields and its end, since its header has their number. -/
theorem fieldsFrame_append_inj {fields fields' : List Bytes} {rest rest' : Bytes}
    (h : fieldsFrame fields ++ rest = fieldsFrame fields' ++ rest') :
    fields = fields' ∧ rest = rest' := by
  simp only [fieldsFrame, arrayHeader, List.append_assoc] at h
  obtain ⟨hcount, hfields⟩ := header_append_inj h
  exact stringElements_append_inj hcount hfields

theorem fieldsFrame_ne_nil (fields : List Bytes) : fieldsFrame fields ≠ [] := by
  simp [fieldsFrame, arrayHeader, header]

/-- Frames that follow one another can be told apart. -/
theorem flatMap_fieldsFrame_injective :
    Function.Injective fun lists : List (List Bytes) => lists.flatMap fieldsFrame := by
  intro lists lists' h
  dsimp only at h
  induction lists generalizing lists' with
  | nil =>
      cases lists' with
      | nil => rfl
      | cons fields' lists' =>
          rw [List.flatMap_nil, List.flatMap_cons] at h
          exact absurd (List.append_eq_nil_iff.1 h.symm).1 (fieldsFrame_ne_nil fields')
  | cons fields lists ih =>
      cases lists' with
      | nil =>
          rw [List.flatMap_nil, List.flatMap_cons] at h
          exact absurd (List.append_eq_nil_iff.1 h).1 (fieldsFrame_ne_nil fields)
      | cons fields' lists' =>
          rw [List.flatMap_cons, List.flatMap_cons] at h
          obtain ⟨rfl, hlater⟩ := fieldsFrame_append_inj h
          rw [ih hlater]

/-! ## Reading frames back -/

/-- A string element denotes its content if the size fits a header line. -/
theorem denotes_stringElement {content : Bytes} (h : content.length ≤ headerLimit) :
    Denotes (stringElement content) (.string content) := by
  have hscalar := Scalar.string (Decimal.spells_ofNat h)
  rw [stringElement, header]
  simpa using Denotes.scalar hscalar

/-- String elements denote their contents one by one if the sizes fit a header line. -/
theorem denoteEach_stringElements {fields : List Bytes}
    (h : ∀ field ∈ fields, field.length ≤ headerLimit) :
    DenoteEach (fields.flatMap stringElement) (fields.map .string) := by
  induction fields with
  | nil => exact .nil
  | cons field fields ih =>
      obtain ⟨hfield, hlater⟩ := List.forall_mem_cons.1 h
      rw [List.flatMap_cons]
      exact .cons (denotes_stringElement hfield) (ih hlater)

/-- A frame of fields holds the array of these fields. -/
theorem denotes_fieldsFrame {fields : List Bytes} (hcount : fields.length ≤ headerLimit)
    (hfields : ∀ field ∈ fields, field.length ≤ headerLimit) :
    Denotes (fieldsFrame fields) (.array (fields.map .string)) := by
  have hspells : Decimal.Spells (Decimal.ofNat fields.length) (fields.map Reply.string).length := by
    rw [List.length_map]
    exact Decimal.spells_ofNat hcount
  have harray := Denotes.array hspells (denoteEach_stringElements hfields)
  rw [fieldsFrame, arrayHeader, header]
  simpa using harray

/-- No frame holds a string that is too long for a header line. -/
theorem Denotes.length_le {frame content : Bytes} (h : Denotes frame (.string content)) :
    content.length ≤ headerLimit := by
  cases h with
  | scalar h =>
      cases h with
      | string hspells => exact hspells.natAbs_le

/-- Every element of a list that is denoted is denoted by some part. -/
theorem DenoteEach.exists_denotes {body : Bytes} {items : List Reply} (h : DenoteEach body items)
    {r : Reply} (hr : r ∈ items) : ∃ frame, Denotes frame r := by
  induction items generalizing body with
  | nil => exact absurd hr List.not_mem_nil
  | cons s items ih =>
      cases h with
      | cons hfirst hitems =>
          rcases List.mem_cons.1 hr with rfl | hlater
          · exact ⟨_, hfirst⟩
          · exact ih hitems hlater

/-- Strings are one level deep. -/
theorem levels_strings_le (fields : List Bytes) : Reply.levels (fields.map .string) ≤ 1 := by
  induction fields with
  | nil => exact Nat.zero_le 1
  | cons field fields ih =>
      have hfield : (Reply.string field).nesting = 0 := rfl
      rw [List.map_cons, Reply.levels, hfield]
      omega

end Wire

/-! ## Commands -/

namespace Command

open Decimal (headerLimit)

/-- The name of a command and its fields, as they are sent. -/
def parts (c : Command) : List Bytes := Utf8.encode c.name :: c.fields

/-- A command as a reply: what a server would say if it sent the command back. -/
def echo (c : Command) : Reply := .array (c.parts.map .string)

/-- All sizes of a command are numbers that a header line carries. -/
def Fits (c : Command) : Prop :=
  c.parts.length ≤ headerLimit ∧ ∀ part ∈ c.parts, part.length ≤ headerLimit

instance (c : Command) : Decidable c.Fits := inferInstanceAs (Decidable (_ ∧ _))

/-- A command is never nested too deeply. -/
theorem nesting_echo_le (c : Command) : c.echo.nesting ≤ Wire.nestingLimit := by
  have hlevels := Wire.levels_strings_le c.parts
  rw [echo, Reply.nesting, Wire.nestingLimit]
  omega

/-- The frame of a command denotes its echo, if all its sizes fit. -/
theorem denotes_frame {c : Command} (h : c.Fits) : Wire.Denotes c.frame c.echo :=
  Wire.denotes_fieldsFrame h.1 h.2

/-- The frames of commands denote their echoes one by one, if all sizes fit. -/
theorem denoteEach_frames {commands : List Command} (h : ∀ c ∈ commands, c.Fits) :
    Wire.DenoteEach (commands.flatMap frame) (commands.map echo) := by
  induction commands with
  | nil => exact .nil
  | cons c commands ih =>
      obtain ⟨hfirst, hlater⟩ := List.forall_mem_cons.1 h
      rw [List.flatMap_cons]
      exact .cons (denotes_frame hfirst) (ih hlater)

/-- A command that is read back fits. -/
theorem fits_of_denotes {c : Command} {bytes : Bytes} (h : Wire.Denotes bytes c.echo) :
    c.Fits := by
  rw [echo] at h
  cases h with
  | scalar h => cases h
  | array hspells hbody =>
      have hcount := hspells.natAbs_le
      rw [List.length_map] at hcount
      refine ⟨hcount, fun part hpart => ?_⟩
      obtain ⟨frame, hframe⟩ := hbody.exists_denotes (List.mem_map_of_mem hpart)
      exact hframe.length_le

/-- Commands one after the other are read back as they were written, and nothing is left over,
exactly if all of them fit. -/
theorem feed_frames_iff {commands : List Command} :
    Wire.Stream.fresh.feed (commands.flatMap frame) = ⟨.fresh, commands.map echo, none⟩ ↔
      ∀ c ∈ commands, c.Fits := by
  rw [Wire.Stream.feed_eq_decodeOnce Wire.Stream.fresh_resumes]
  show Wire.decodeOnce (commands.flatMap frame) = _ ↔ _
  constructor
  · intro h c hc
    obtain ⟨⟨frames, hframes, -⟩, -⟩ := Wire.parseAll_accounts (commands.flatMap frame)
    rw [Wire.decodeOnce_eq] at h
    rw [show (Wire.parseAll (commands.flatMap frame)).replies = commands.map echo from
      congrArg Wire.Decoded.replies h] at hframes
    obtain ⟨bytes, hbytes⟩ := hframes.exists_denotes (List.mem_map_of_mem hc)
    exact fits_of_denotes hbytes
  · intro h
    have hdepth : ∀ r ∈ commands.map echo, r.nesting ≤ Wire.nestingLimit := by
      intro r hr
      obtain ⟨c, -, rfl⟩ := List.mem_map.1 hr
      exact c.nesting_echo_le
    have hparse := Wire.parseAll_frames (denoteEach_frames h) hdepth []
    simp only [List.append_nil, Wire.parseAll_nil] at hparse
    simp [Wire.decodeOnce_eq, hparse, Wire.Decoder.scan, Wire.Stream.fresh]

/-- Commands are written one behind the other, behind what is there. -/
@[simp] theorem appendAll_eq (buffer : Bytes) (commands : List Command) :
    appendAll buffer commands = buffer ++ commands.flatMap frame := by
  induction commands generalizing buffer with
  | nil => simp [appendAll]
  | cons c commands ih =>
      rw [appendAll, List.foldl_cons]
      refine (ih _).trans ?_
      simp

/-- The echo of a call is its name and then the fields of its arguments. -/
@[simp] theorem echo_call (name : String) (args : Arguments) :
    (call name args).echo =
      .array (.string (Utf8.encode name) :: args.values.map fun value => .string value.field) := by
  simp [echo, parts, call, Function.comp_def]

/-- Commands with arguments in any shape are written behind what the buffer holds, one frame after
the other. A decoder reads them back one array for each command, of the name and then the fields,
with nothing left over and no fault, as long as all their sizes can be written in a header line. The
sizes of what is in memory always can. No two lists of field lists are written alike, of whatever
size. -/
theorem calls_read_back (buffer : Bytes) (calls : List (String × Arguments)) :
    let commands := calls.map fun (name, args) => call name args
    appendAll buffer commands = buffer ++ commands.flatMap frame ∧
      (Wire.Stream.fresh.feed (commands.flatMap frame) =
          ⟨.fresh, calls.map fun (name, args) =>
            .array (.string (Utf8.encode name) :: args.values.map fun value => .string value.field),
            none⟩ ↔
        ∀ c ∈ commands, c.Fits) ∧
      Function.Injective fun lists : List (List Bytes) => lists.flatMap Wire.fieldsFrame := by
  intro commands
  refine ⟨appendAll_eq buffer commands, ?_, Wire.flatMap_fieldsFrame_injective⟩
  have hechoes : (calls.map fun (name, args) => Reply.array
      (.string (Utf8.encode name) :: args.values.map fun value => .string value.field)) =
        commands.map echo := by
    simp [commands]
  rw [hechoes]
  exact feed_frames_iff

/-- A field that holds a whole frame, a field without bytes, and a command without arguments. -/
example :
    Wire.Stream.fresh.feed (appendAll []
        [call "SET" (.tuple [.bytes (Utf8.encode "*1\r\n$1\r\nx\r\n"), .bytes []]),
          call "" .none]) =
      ⟨.fresh, [.array [.string (Utf8.encode "SET"),
          .string (Utf8.encode "*1\r\n$1\r\nx\r\n"), .string []],
        .array [.string []]], none⟩ := by
  rw [appendAll_eq]
  refine feed_frames_iff.2 ?_
  decide +kernel

end Command

end CommandPipeline
