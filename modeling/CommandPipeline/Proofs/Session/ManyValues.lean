import CommandPipeline.Proofs.Session.OneShot

/-!
# Queries for several values

Four queries expect an array of strings. Before such a reply is read it has been looked through for
errors, so an error at any depth comes first, then the kind of the whole reply, and then the kinds
of the elements from the left. `Query.Gives` states these rules in this order, without reference to
any reader. The queries differ in what they make of nil: for `hmget` an element that is nil is a
missing value, and for the others an empty one, and `zrangebyscore` admits nil as a whole reply.
-/

namespace CommandPipeline

namespace Reply

variable {r : Reply} {contents : List (Option Bytes)}

/-! ## Values -/

/-- A value as a server sends it, nil in place of a missing one. -/
def ofValue : Option Bytes → Reply
  | some bytes => .string bytes
  | none => .nil

/-- A value is read as what it was written for. -/
@[simp] theorem toOptional_ofValue (content : Option Bytes) :
    (ofValue content).toOptional = .ok content := by
  cases content <;> rfl

/-- Every other reply is refused with its kind. -/
theorem toOptional_of_kind (h : r.kind ≠ .string ∧ r.kind ≠ .nil) :
    r.toOptional = .error (.mismatch .string r.kind) := by
  cases r with
  | string bytes => exact absurd rfl h.1
  | nil => exact absurd rfl h.2
  | _ => rfl

/-- A reply of the right kind is the reply for some value. -/
theorem exists_eq_ofValue (h : ¬ (r.kind ≠ .string ∧ r.kind ≠ .nil)) :
    ∃ content, r = ofValue content := by
  cases r with
  | string bytes => exact ⟨some bytes, rfl⟩
  | nil => exact ⟨none, rfl⟩
  | _ => exact absurd ⟨nofun, nofun⟩ h

/-- A list of replies consists of values, or one of them is the first that is none. -/
theorem eq_map_ofValue_or (items : List Reply) :
    (∃ contents : List (Option Bytes), items = contents.map ofValue) ∨
      ∃ (front : List (Option Bytes)) (r : Reply) (back : List Reply),
        items = front.map ofValue ++ r :: back ∧ r.kind ≠ .string ∧ r.kind ≠ .nil := by
  induction items with
  | nil => exact .inl ⟨[], rfl⟩
  | cons s items ih =>
      by_cases hs : s.kind ≠ .string ∧ s.kind ≠ .nil
      · exact .inr ⟨[], s, items, rfl, hs⟩
      · obtain ⟨content, rfl⟩ := exists_eq_ofValue hs
        rcases ih with ⟨contents, rfl⟩ | ⟨front, r, back, rfl, hr⟩
        · exact .inl ⟨content :: contents, rfl⟩
        · exact .inr ⟨content :: front, r, back, rfl, hr⟩

/-- There is no error among values. -/
theorem not_holdsError_ofValues (contents : List (Option Bytes)) :
    ¬ (array (contents.map ofValue)).HoldsError := by
  rintro (_ | ⟨hmem, herror⟩)
  obtain ⟨content, -, rfl⟩ := List.mem_map.1 hmem
  cases content <;> cases herror

/-! ## Reading them -/

/-- An array of values is read as these values, by induction on them. -/
@[simp] theorem toOptionals_ofValues (contents : List (Option Bytes)) :
    (array (contents.map ofValue)).toOptionals = .ok contents := by
  show (contents.map ofValue).mapM toOptional = _
  induction contents with
  | nil => rfl
  | cons content contents ih => simp [ih, bind, Except.bind, pure, Except.pure]

/-- The first element that is no value decides the error. -/
theorem toOptionals_of_kind (front : List (Option Bytes)) (back : List Reply)
    (h : r.kind ≠ .string ∧ r.kind ≠ .nil) :
    (array (front.map ofValue ++ r :: back)).toOptionals = .error (.mismatch .string r.kind) := by
  show (front.map ofValue ++ r :: back).mapM toOptional = _
  induction front with
  | nil =>
      simp [toOptional_of_kind h, bind, Except.bind]
  | cons content front ih =>
      simp [ih, bind, Except.bind]

/-- What is no array is refused by its kind. -/
theorem toOptionals_of_ne_array (h : r.kind ≠ .array) :
    r.toOptionals = .error (.mismatch .array r.kind) := by
  cases r with
  | array items => exact absurd rfl h
  | _ => rfl

/-- Reading nil as empty is reading it as missing, with nothing in its place. -/
theorem toByteStrings_eq (r : Reply) :
    r.toByteStrings = r.toOptionals.map fun contents => contents.map (·.getD []) := by
  cases r with
  | array items =>
      show items.mapM toBytes = (items.mapM toOptional).map _
      induction items with
      | nil => rfl
      | cons s items ih =>
          rw [List.mapM_cons, List.mapM_cons, ih, toBytes]
          cases s.toOptional with
          | error e => rfl
          | ok content => cases items.mapM toOptional <;> rfl
  | _ => rfl

end Reply

/-! ## What the queries give -/

namespace Query

open Reply (ofValue)

/-- What a query for several values makes of them. -/
def collect? : Query → Option (List (Option Bytes) → Answer)
  | .hmget .. => some .values
  | .smembers _ | .srandmembers .. | .zrangebyscore .. =>
    some fun contents => .members (some (contents.map (·.getD [])))
  | _ => none

/-- Nil as a whole reply stands for a missing collection. -/
def admitsNil : Query → Bool
  | .zrangebyscore .. => true
  | _ => false

/-- What a query gives for the reply to its command. -/
def result (q : Query) (r : Reply) : Except ClientError Answer :=
  match r.outcome with
  | .error e => .error e
  | .ok r => (q.read r).mapError .reading

/-- What a query for several values is to give for a reply, where `collect` makes an answer of
them. -/
inductive Gives (q : Query) (collect : List (Option Bytes) → Answer) :
    Reply → Except ClientError Answer → Prop where
  /-- An error at any depth comes first. All of them are counted. -/
  | failed {r : Reply} : r.HoldsError →
      Gives q collect r (.error (.batch ⟨r.errorCount, r.messages.take 3, 1⟩))
  /-- There is no collection. -/
  | missing : q.admitsNil → Gives q collect .nil (.ok (.members none))
  /-- An array of values, one entry for each. -/
  | values (contents : List (Option Bytes)) :
      Gives q collect (.array (contents.map ofValue)) (.ok (collect contents))
  /-- Any other reply that is no array is refused with its kind. -/
  | noArray {r : Reply} : ¬ r.HoldsError → r.kind ≠ .array → ¬ (q.admitsNil ∧ r = .nil) →
      Gives q collect r (.error (.reading (.mismatch .array r.kind)))
  /-- Any other array is refused with the kind of the first element that is no value. -/
  | noValue {front : List (Option Bytes)} {r : Reply} {back : List Reply} :
      ¬ (Reply.array (front.map ofValue ++ r :: back)).HoldsError →
      r.kind ≠ .string → r.kind ≠ .nil →
      Gives q collect (.array (front.map ofValue ++ r :: back))
        (.error (.reading (.mismatch .string r.kind)))

variable {q : Query} {collect : List (Option Bytes) → Answer} {r : Reply}
  {given : Except ClientError Answer}

/-- The four queries read a reply alike, unless nil is admitted as a whole. -/
theorem read_eq (hq : q.collect? = some collect) (hr : ¬ (q.admitsNil ∧ r = .nil)) :
    q.read r = r.toOptionals.map collect := by
  have hbytes := r.toByteStrings_eq
  cases q with
  | hmget key fields =>
      cases hq
      rfl
  | smembers key =>
      cases hq
      show r.toByteStrings.map _ = _
      rw [hbytes]
      cases r.toOptionals <;> rfl
  | srandmembers key count =>
      cases hq
      show r.toByteStrings.map _ = _
      rw [hbytes]
      cases r.toOptionals <;> rfl
  | zrangebyscore key low high withScores =>
      cases hq
      have hnil : r ≠ .nil := fun hnil => hr ⟨rfl, hnil⟩
      have hread : r.toByteStrings? = r.toByteStrings.map some := by
        cases r with
        | nil => exact absurd rfl hnil
        | _ => rfl
      show r.toByteStrings?.map _ = _
      rw [hread, hbytes]
      cases r.toOptionals <;> rfl
  | _ => cases hq

/-- Where nil is admitted, it is read as no members at all. -/
theorem read_nil (hq : q.admitsNil) : q.read .nil = .ok (.members none) := by
  cases q with
  | zrangebyscore key low high withScores => rfl
  | _ => cases hq

/-- Errors come before all else, and all of them are counted. -/
theorem result_of_holdsError (h : r.HoldsError) :
    q.result r = .error (.batch ⟨r.errorCount, r.messages.take 3, 1⟩) := by
  rw [result, Reply.outcome_of_holdsError h]

/-- Without an error the reply is read. -/
theorem result_of_not_holdsError (h : ¬ r.HoldsError) :
    q.result r = (q.read r).mapError .reading := by
  rw [result, Reply.outcome_of_not_holdsError h]

/-- The rules say what is given. -/
theorem Gives.result_eq (hq : q.collect? = some collect) (h : q.Gives collect r given) :
    q.result r = given := by
  have harray : ∀ items, ¬ (q.admitsNil ∧ Reply.array items = .nil) := by rintro _ ⟨-, ⟨⟩⟩
  cases h with
  | failed herror => exact result_of_holdsError herror
  | missing hnil =>
      have herror : ¬ Reply.nil.HoldsError := by rintro ⟨⟩
      rw [result_of_not_holdsError herror, read_nil hnil]
      rfl
  | values contents =>
      rw [result_of_not_holdsError (Reply.not_holdsError_ofValues contents),
        read_eq hq (harray _), Reply.toOptionals_ofValues]
      rfl
  | noArray herror hkind hnil =>
      rw [result_of_not_holdsError herror, read_eq hq hnil, Reply.toOptionals_of_ne_array hkind]
      rfl
  | noValue herror hstring hnil =>
      rw [result_of_not_holdsError herror, read_eq hq (harray _),
        Reply.toOptionals_of_kind _ _ ⟨hstring, hnil⟩]
      rfl

/-- There is a rule for every reply. -/
theorem exists_gives (q : Query) (collect : List (Option Bytes) → Answer) (r : Reply) :
    ∃ given, q.Gives collect r given := by
  by_cases herror : r.HoldsError
  · exact ⟨_, .failed herror⟩
  by_cases hnil : q.admitsNil ∧ r = .nil
  · obtain ⟨hadmits, rfl⟩ := hnil
    exact ⟨_, .missing hadmits⟩
  cases r with
  | array items =>
      rcases Reply.eq_map_ofValue_or items with ⟨contents, rfl⟩ | ⟨front, s, back, rfl, hs, hs'⟩
      · exact ⟨_, .values contents⟩
      · exact ⟨_, .noValue herror hs hs'⟩
  | _ => exact ⟨_, .noArray herror nofun hnil⟩

/-- The result is what the rules give. -/
theorem result_eq_iff (hq : q.collect? = some collect) :
    q.result r = given ↔ q.Gives collect r given := by
  refine ⟨?_, Gives.result_eq hq⟩
  rintro rfl
  obtain ⟨given, hgiven⟩ := exists_gives q collect r
  rwa [hgiven.result_eq hq]

end Query

/-! ## The queries of a client -/

namespace Client

open Session

/-- A query gives what it makes of the reply to its command. -/
theorem query_of_ready {client : Client} {stream : Wire.Stream} {owed : List Ticket}
    (hready : client.session.Ready) (hbusy : client.session.isBusy = false)
    (hlink : client.session.link = .up stream owed) (server : Server) (q : Query) :
    (client.query server q).2.2 =
      q.result (stream.replyBehind owed.length (server.answer q.command.frame).2) := by
  have hask := ask_eq_endCall? hready hbusy hlink server q.command
  rw [query_result, hask]
  rfl

/-- A query for several values gives what the rules say, for every reply, and the reply is the one
to its command, after every history that leaves the client with a link and a free permit. -/
theorem run_gives_many_values {q : Query} {collect : List (Option Bytes) → Answer}
    (hq : q.collect? = some collect) :
    (∀ r given, q.result r = given ↔ q.Gives collect r given) ∧
      ∀ (ceiling : Nat) (history : List Step) (server : Server) (stream : Wire.Stream)
        (owed : List Ticket),
        let client := (ofCeiling ceiling).run history
        client.session.link = .up stream owed → client.session.isBusy = false →
          (client.query server q).2.2 =
            q.result (stream.replyBehind owed.length (server.answer q.command.frame).2) := by
  refine ⟨fun r given => Query.result_eq_iff hq, ?_⟩
  intro ceiling history server stream owed client hlink hbusy
  obtain ⟨-, hready⟩ := leads_run_ofCeiling ceiling history
  exact query_of_ready hready hbusy hlink server q

/-- Nil is a missing value for one query, an empty one for another, and no members for a third, and
the error inside the last element comes before the integer in front of it. -/
theorem run_gives_many_values_of_mixed :
    let client := (ofCeiling 2).run [.connect .established]
    let gives (q : Query) (text : String) : Except ClientError Answer :=
      (client.query (.ofAnswers [Utf8.encode text]) q).2.2
    gives (.hmget [104] [[102], [103]]) "*2\r\n$1\r\na\r\n$-1\r\n" =
        .ok (.values [some [97], none]) ∧
      gives (.srandmembers [115] 2) "*2\r\n$1\r\na\r\n$-1\r\n" =
        .ok (.members (some [[97], []])) ∧
      gives (.zrangebyscore [122] (.inclusive ⟨0⟩) (.inclusive ⟨0⟩) false) "*-1\r\n" =
        .ok (.members none) ∧
      gives (.smembers [115]) "*3\r\n$1\r\na\r\n:1\r\n*1\r\n-ERR\r\n" =
        .error (.batch ⟨1, ["ERR"], 1⟩) ∧
      gives (.smembers [115]) "*3\r\n$1\r\na\r\n:1\r\n*0\r\n" =
        .error (.reading (.mismatch .string .integer)) := by
  intro client gives
  have hlink : client.session.link = .up .fresh [] := by decide +kernel
  have hbusy : client.session.isBusy = false := by decide +kernel
  have hgives {q : Query} {collect : List (Option Bytes) → Answer} (hq : q.collect? = some collect)
      (text : String) {r : Reply} (hr : Wire.Stream.fresh.replyBehind 0 (Utf8.encode text) = r) :
      gives q text = q.result r := by
    obtain ⟨-, hrun⟩ := run_gives_many_values hq
    rw [← hr]
    exact hrun 2 [.connect .established] (.ofAnswers [Utf8.encode text]) .fresh [] hlink hbusy
  refine ⟨?_, ?_, ?_, ?_, ?_⟩
  · rw [hgives rfl _ (r := .array [.string [97], .nil]) (by decide +kernel)]
    rfl
  · rw [hgives rfl _ (r := .array [.string [97], .nil]) (by decide +kernel)]
    rfl
  · rw [hgives rfl _ (r := .nil) (by decide +kernel)]
    rfl
  · rw [hgives rfl _ (r := .array [.string [97], .integer 1, .array [.error "ERR"]])
      (by decide +kernel)]
    rfl
  · rw [hgives rfl _ (r := .array [.string [97], .integer 1, .array []]) (by decide +kernel)]
    rfl

end Client

end CommandPipeline
