import Mathlib.Algebra.Ring.Nat
import CommandPipeline.History

/-!
# Reports on failed replies

The errors of a reply are counted by one recursion and collected by another one, which passes the
messages shown so far through siblings, levels and replies and stops taking them in at the limit.
Both are compared with the list of all messages, depth first from left to right: the count is its
length, and what is shown is its front. A batch is reported on without being changed, so it is
reported on alike each time.
-/

namespace CommandPipeline

namespace Reply

mutual

/-- The messages of all errors of a reply, depth first from left to right. -/
def messages : Reply → List String
  | .error message => [message]
  | .array items => messagesAll items
  | _ => []

/-- The messages of all errors of several replies, from left to right. -/
def messagesAll : List Reply → List String
  | [] => []
  | r :: rest => messages r ++ messagesAll rest

end

/-- The messages of a list of replies are those of its replies, in their order. -/
@[simp] theorem messagesAll_eq_flatMap (rs : List Reply) :
    messagesAll rs = rs.flatMap messages := by
  induction rs with
  | nil => simp [messagesAll]
  | cons r rest ih => simp [messagesAll, ih]

/-- Counting on from a number adds the errors of all the replies to it. -/
theorem errorCountFrom_eq (counted : Nat) (rs : List Reply) :
    errorCountFrom counted rs = counted + (rs.map errorCount).sum := by
  induction rs generalizing counted with
  | nil => simp [errorCountFrom]
  | cons r rest ih =>
      simp [errorCountFrom, ih, Nat.add_assoc]

/-- An array holds the errors of its elements. -/
@[simp] theorem errorCount_array (items : List Reply) :
    (array items).errorCount = (items.map errorCount).sum := by
  simp [errorCount, errorCountFrom_eq]

mutual

/-- The two recursions over a nested reply agree: there are as many messages as errors. -/
@[simp] theorem length_messages : (r : Reply) → r.messages.length = r.errorCount
  | .error _ => by simp [messages, errorCount]
  | .array items => by simpa [messages] using length_messagesAll items
  | .integer _ | .string _ | .status _ | .nil => by simp [messages, errorCount]

/-- The two recursions over nested replies agree: there are as many messages as errors. -/
theorem length_messagesAll :
    (rs : List Reply) → (messagesAll rs).length = (rs.map errorCount).sum
  | [] => by simp [messagesAll]
  | r :: rest => by
    rw [messagesAll, List.length_append, length_messages r, length_messagesAll rest, List.map_cons,
      List.sum_cons]

end

/-! ## Errors at any depth -/

variable {r : Reply}

/-- An error stands somewhere in the reply. -/
inductive HoldsError : Reply → Prop where
  | error (message : String) : HoldsError (.error message)
  | array {r : Reply} {items : List Reply} : r ∈ items → HoldsError r → HoldsError (.array items)

/-- An error at any depth is counted. -/
theorem HoldsError.errorCount_pos (h : r.HoldsError) : 0 < r.errorCount := by
  induction h with
  | error message => exact Nat.one_pos
  | @array r items hr _ ih =>
      rw [errorCount_array, List.sum_pos_iff_exists_pos_nat]
      exact ⟨_, List.mem_map_of_mem hr, ih⟩

mutual

/-- What is counted stands somewhere in the reply. -/
theorem holdsError_of_errorCount : (r : Reply) → 0 < r.errorCount → r.HoldsError
  | .error message, _ => .error message
  | .array items, h =>
    have ⟨_, hr, herror⟩ := exists_holdsError_of_sum items (by simpa using h)
    .array hr herror
  | .integer _, h | .string _, h | .status _, h | .nil, h => absurd h (by simp [errorCount])

/-- If the errors of a list are not none, one of its replies holds one. -/
theorem exists_holdsError_of_sum :
    (rs : List Reply) → 0 < (rs.map errorCount).sum → ∃ r ∈ rs, r.HoldsError
  | [], h => absurd h (Nat.lt_irrefl 0)
  | r :: rest, h => by
    rw [List.map_cons, List.sum_cons] at h
    by_cases hr : 0 < r.errorCount
    · exact ⟨r, List.mem_cons_self, holdsError_of_errorCount r hr⟩
    · obtain ⟨s, hs, herror⟩ := exists_holdsError_of_sum rest (by omega)
      exact ⟨s, List.mem_cons_of_mem r hs, herror⟩

end

/-- There is something to count exactly if there is an error. -/
theorem errorCount_pos_iff : 0 < r.errorCount ↔ r.HoldsError :=
  ⟨holdsError_of_errorCount r, HoldsError.errorCount_pos⟩

end Reply

namespace BatchFailure

open Reply

variable (seen : List String)

/-- Whatever number of messages has been seen, the first ones of them are shown. -/
@[simp] theorem quote_take (message : String) :
    quote (seen.take shownLimit) message = (seen ++ [message]).take shownLimit := by
  unfold quote
  rw [List.length_take]
  by_cases h : seen.length < shownLimit
  · rw [if_pos (by omega), List.take_of_length_le (by omega), List.take_of_length_le]
    rw [List.length_append, List.length_singleton]
    omega
  · rw [if_neg (by omega), List.take_append_of_le_length (by omega)]

mutual

/-- Behind the messages seen so far, a reply adds its own, as far as there is room. -/
theorem collect_take : (seen : List String) → (r : Reply) →
    collect (seen.take shownLimit) r = ((seen ++ r.messages).take shownLimit, r.errorCount)
  | seen, .error message => by simp [collect, messages, errorCount]
  | seen, .array items => by simp [collect, messages, collectAll_take seen items]
  | seen, .integer _ | seen, .string _ | seen, .status _ | seen, .nil => by
    simp [collect, messages, errorCount]

/-- The room that is left is passed on from one reply to the next. -/
theorem collectAll_take : (seen : List String) → (rs : List Reply) →
    collectAll (seen.take shownLimit) rs =
      ((seen ++ messagesAll rs).take shownLimit, (rs.map errorCount).sum)
  | seen, [] => by simp [collectAll, messagesAll]
  | seen, r :: rest => by
    simp [collectAll, collect_take seen r, collectAll_take (seen ++ r.messages) rest, messagesAll]

end

/-- A report counts all errors and shows the first messages. -/
theorem ofReplies?_eq (rs : List Reply) :
    ofReplies? rs = if (rs.map errorCount).sum = 0 then none
      else some ⟨(rs.map errorCount).sum, (rs.flatMap messages).take shownLimit, rs.length⟩ := by
  unfold ofReplies?
  rw [show collectAll [] rs = _ from collectAll_take [] rs, messagesAll_eq_flatMap, List.nil_append]

end BatchFailure

namespace Client

/-- The replies of a settled batch are read without a change to anything. -/
theorem step_read {client : Client} {label : String} {b : Batch}
    (hb : client.session.batch? (.named label) = some b) (hsettled : b.isSettled) :
    client.step (.read label) = (client, .replies b.replies) := by
  show client.withSettled label (fun b => (client, .replies b.replies)) = _
  rw [withSettled, hb]
  exact if_pos hsettled

/-- However often a settled batch has been looked at, its report is the same: none if its replies
hold no error at any depth, and otherwise one that counts all errors and all commands and shows the
first three messages, or all of them if there are fewer, in the order of the replies. -/
theorem report_of_settled (client : Client) (label : String) (b : Batch)
    (hb : client.session.batch? (.named label) = some b) (hsettled : b.isSettled) (looks : Nat) :
    let errors := (b.replies.map Reply.errorCount).sum
    let messages := b.replies.flatMap Reply.messages
    client.run (.replicate looks (.read label)) = client ∧
      client.step (.read label) = (client, .replies b.replies) ∧
      messages.length = errors ∧
      b.failure? =
        if errors = 0 then none else some ⟨errors, messages.take (min 3 errors), b.size⟩ := by
  intro errors messages
  have hlook := step_read hb hsettled
  have hlength : messages.length = errors := by
    simp [messages, errors, List.length_flatMap]
  refine ⟨?_, hlook, hlength, ?_⟩
  · induction looks with
    | zero => rfl
    | succ looks ih =>
        rw [List.replicate_succ, run, List.foldl_cons, hlook]
        exact ih
  · have hsize : b.replies.length = b.size := by
      rw [Batch.replies, List.length_map, Array.length_toList, Batch.size]
    have htake : messages.take (min 3 errors) = messages.take BatchFailure.shownLimit := by
      rw [← hlength, ← List.take_eq_take_min]
      rfl
    rw [Batch.failure?, BatchFailure.ofReplies?_eq, hsize, htake]

/-- Four errors at different depths of two replies out of three: the report counts four, shows the
first three and says so again when it is asked for after two more looks. -/
theorem report_of_settled_nested :
    let client := (ofCeiling 3).run [.connect .established, .openBatch "b",
      .submit "b" .ping none, .submit "b" .ping none, .submit "b" .ping none,
      .send (Utf8.encode ("*2\r\n-ERR 1\r\n*2\r\n-ERR 2\r\n$-1\r\n" ++
        "+OK\r\n*2\r\n*1\r\n-ERR 3\r\n-ERR 4\r\n"))]
    ∃ b, client.session.batch? (.named "b") = some b ∧ b.isSettled ∧
      client.run [.read "b", .read "b"] = client ∧
      b.failure? = some ⟨4, ["ERR 1", "ERR 2", "ERR 3"], 3⟩ := by
  intro client
  let b := (client.session.batch? (.named "b")).getD .empty
  have hb : client.session.batch? (.named "b") = some b := by decide +kernel
  have hsettled : b.isSettled := by decide +kernel
  obtain ⟨hlooks, -, -, hreport⟩ := report_of_settled client "b" b hb hsettled 2
  refine ⟨b, hb, hsettled, hlooks, ?_⟩
  rw [hreport]
  decide +kernel

end Client

end CommandPipeline
