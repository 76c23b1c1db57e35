import CommandPipeline.Proofs.Session.Agreement
import CommandPipeline.Proofs.Session.Scripts
import CommandPipeline.Proofs.Session.Teardown
import CommandPipeline.Proofs.Session.Waiting

/-!
# One-shot calls give their replies

A caller can make a call by hand, on a batch of its own: it opens the batch, submits the command,
looks for errors when the batch is settled, and takes the reply. The one-shot call does the same
behind its own name, and the queries are one-shot calls whose replies are read. All of them give
what `Reply.outcome` makes of the one reply to the command, and leave the session in the same state.
-/

namespace CommandPipeline

open Equiv (swap)

/-- What an arrival of bytes brings to a command that is owed behind a number of others, when the
server ends the link if it brings nothing. -/
def Wire.Stream.replyBehind (stream : Stream) (ahead : Nat) (bytes : Bytes) : Reply :=
  match (stream.feed bytes).fault with
  | some fault => .error fault.message
  | none => (stream.feed bytes).replies.getD ahead (.error Session.closedByServer)

/-- An answer that breaks the format, or does not get as far as the command, brings the news of the
end of the link. -/
theorem Wire.Stream.replyBehind_of_lost {stream : Stream} {ahead : Nat} {bytes : Bytes}
    (h : (stream.feed bytes).fault ≠ none ∨ (stream.feed bytes).replies.length ≤ ahead) :
    stream.replyBehind ahead bytes =
      .error (((stream.feed bytes).fault.map Fault.message).getD Session.closedByServer) := by
  rw [replyBehind]
  cases hfault : (stream.feed bytes).fault with
  | some fault => rfl
  | none =>
      have hshort := h.resolve_left fun hne => hne hfault
      dsimp only
      rw [List.getD_eq_getElem?_getD, List.getElem?_eq_none hshort]
      rfl

namespace Act

variable {ahead : Nat}

/-- Replies that are handed on go to the commands in turn. -/
theorem replyBehind_answers (replies : List Reply) (later : List Act) :
    replyBehind ahead (replies.map .answer ++ later) =
      match replies[ahead]? with
      | some r => some r
      | none => replyBehind (ahead - replies.length) later := by
  induction replies generalizing ahead with
  | nil => simp
  | cons reply replies ih =>
      cases ahead with
      | zero => rfl
      | succ ahead =>
          rw [List.map_cons, List.cons_append, replyBehind, ih, List.getElem?_cons_succ,
            List.length_cons, Nat.add_sub_add_right]

/-- A call that has waited in vain is told of the end of the link. -/
theorem replyBehind_goDown {meanwhile : List Act} (hnone : replyBehind ahead meanwhile = none)
    (message : String) (error : Option String) (later : List Act) :
    replyBehind ahead (meanwhile ++ .goDown message error :: later) = some (.error message) := by
  induction meanwhile generalizing ahead with
  | nil => rw [List.nil_append, replyBehind]
  | cons a meanwhile ih =>
      rw [List.cons_append]
      cases a with
      | answer r =>
          cases ahead with
          | zero => cases hnone
          | succ ahead => exact ih hnone
      | goDown message error =>
          rw [replyBehind] at hnone
          cases hnone
      | _ =>
          rw [replyBehind_of_quiet (by rintro _ ⟨⟩) (by rintro _ _ ⟨⟩)] at hnone ⊢
          exact ih hnone

/-- An act that is about another batch is foreign to this one. -/
theorem foreign_of_subject? {a : Act} {name : BatchName} (h : a.subject? ≠ some name) :
    a.Foreign name := by
  cases a with
  | connect attempt => trivial
  | arrive bytes => trivial
  | answer r => trivial
  | goDown message error => trivial
  | _ => exact fun heq => h (congrArg some heq)

/-- What comes from the link is foreign to every batch. -/
theorem OfLink.foreign {a : Act} (h : a.OfLink) (name : BatchName) : a.Foreign name := by
  cases a with
  | arrive bytes => trivial
  | answer r => trivial
  | goDown message error => trivial
  | _ => exact absurd h id

end Act

namespace Session

variable {s t : Session} {name other : BatchName} {acts : List Act} {r : Reply}

/-! ## Calls on any fresh batch -/

section

variable (hbalanced : s.Balanced) (hname : s.batch? name = none) (hup : s.isUp = true)
  (hbusy : s.isBusy = false)

include hbalanced hname hup hbusy

/-- The command of a call is submitted behind all others. -/
theorem callWaits_startCall : (s.startCall name).CallWaits name s.owed.length := by
  have hopened : (s.openBatch name).Balanced :=
    Registry.Balances.openBatch hbalanced (isFree_of_none hname)
  have hthere : (s.openBatch name).batch? name = some .empty :=
    (Registry.batch?_openBatch (Registry.Balances.names hbalanced)).trans (if_pos rfl)
  have hsome : ((s.openBatch name).batch? name).isSome := by rw [hthere]; rfl
  refine ⟨hopened.submit hbusy hsome, ?_, ?_⟩
  · rw [startCall, size_submit hthere, if_pos rfl, size_eq_of_batch? hthere]
    rfl
  · have howed : (s.startCall name).owed = s.owed ++ [⟨name, 0⟩] :=
      (owed_submit hthere).trans (if_pos hup)
    rw [howed, List.getElem?_concat_length]

/-- A call has ended when the reply behind the others has been handed on, and it gives what is made
of that reply. -/
theorem endCall?_of_plays (hplays : (s.startCall name).Plays acts t)
    (hforeign : ∀ a ∈ acts, a.Foreign name) :
    t.endCall? name =
      (Act.replyBehind s.owed.length acts).map fun r => (t.closeBatch name, r.outcome) := by
  have hend := (callWaits_startCall hbalanced hname hup hbusy).plays hplays hforeign
  cases hreply : Act.replyBehind s.owed.length acts with
  | none =>
      rw [hreply] at hend
      obtain ⟨left, hwaits⟩ := hend
      exact hwaits.endCall?_eq
  | some r =>
      rw [hreply] at hend
      exact hend.endCall?_eq

end

/-! ## The same call on another batch -/

/-- A call can be started under another name. -/
@[simp] theorem startCall_rename (f : Equiv.Perm BatchName) (s : Session) (name : BatchName) :
    (s.rename f).startCall (f name) = (s.startCall name).rename f := by
  have hopened := act_rename f s (.openBatch name)
  have hsubmitted := act_rename f (s.openBatch name) (.submit name)
  exact (congrArg (Session.submit · (f name)) hopened).trans hsubmitted

/-- A call can be ended under another name, with the same result. -/
@[simp] theorem endCall?_rename (f : Equiv.Perm BatchName) (t : Session) (name : BatchName) :
    (t.rename f).endCall? (f name) =
      (t.endCall? name).map fun (u, result) => (u.rename f, result) := by
  simp only [endCall?, batch?_rename]
  cases t.batch? name with
  | none => rfl
  | some b =>
      dsimp only
      have hclosed : (t.rename f).closeBatch (f name) = (t.closeBatch name).rename f :=
        act_rename f t (.closeBatch name)
      rw [hclosed]
      split <;> rfl

/-- A call that has ended leaves the session without its batch, which was settled. -/
theorem of_endCall?_eq_some {u : Session} {result : Except ClientError Reply}
    (hend : t.endCall? name = some (u, result)) : u = t.closeBatch name ∧ t.IsFree name := by
  rw [endCall?] at hend
  cases hb : t.batch? name with
  | none =>
      rw [hb] at hend
      cases hend
  | some b =>
      rw [hb] at hend
      dsimp only at hend
      split at hend
      · next hsettled =>
          cases hend
          exact ⟨rfl, isFree_of_some hb hsettled⟩
      · cases hend

section

variable (hbalanced : s.Balanced) (hname : s.batch? name = none) (hother : s.batch? other = none)
  (hplays : (s.startCall name).Plays acts t)
  (hforeign : ∀ a ∈ acts, a.Foreign name ∧ a.Foreign other)

include hbalanced hname hother hplays hforeign

/-- What happens in the meantime can happen in just the same way if the call is made on another
batch. -/
theorem plays_rename_startCall :
    (s.startCall other).Plays acts (t.rename (swap name other)) := by
  have hsame : s.rename (swap name other) = s :=
    hbalanced.rename_swap (batch?_eq_none_iff.1 hname) (batch?_eq_none_iff.1 hother)
  have hstart := startCall_rename (swap name other) s name
  have hacts : acts.map (Act.rename (swap name other)) = acts := by
    apply (List.map_congr_left _).trans (List.map_id acts)
    intro a ha
    exact Act.rename_swap_of_foreign (hforeign a ha).1 (hforeign a ha).2
  have hrenamed := hplays.rename (swap name other)
  rwa [hacts, ← hstart, hsame, Equiv.swap_apply_left] at hrenamed

omit hbalanced in
/-- And the call ends in the same way, with the same session. -/
theorem endCall?_rename_swap (hne : name ≠ other) (ht : t.Balanced) :
    (t.rename (swap name other)).endCall? other = t.endCall? name := by
  have hrenamed := endCall?_rename (swap name other) t name
  rw [Equiv.swap_apply_left] at hrenamed
  rw [hrenamed]
  cases hend : t.endCall? name with
  | none => rfl
  | some ended =>
      obtain ⟨u, result⟩ := ended
      obtain ⟨hclosed, hfree⟩ := of_endCall?_eq_some hend
      have hu : u.Balanced := hclosed ▸ ht.act (a := .closeBatch name) hfree
      -- Neither name is left: one batch has been closed, the other was never opened.
      have hnotName : name ∉ u.names := by
        rw [hclosed, show (t.closeBatch name).names = _ from names_act t (.closeBatch name)]
        exact (Registry.Balances.names ht).not_mem_erase
      have hnotOther : other ∉ u.names := by
        have hopened : other ∉ (s.startCall name).names := by
          simp only [startCall, names_submit]
          intro hmem
          rcases List.mem_cons.1 hmem with rfl | hold
          · exact hne rfl
          · rw [Batches.names_erase] at hold
            exact batch?_eq_none_iff.1 hother (List.mem_of_mem_erase hold)
        have hlater := hplays.not_mem_names (fun a ha => (hforeign a ha).2) hopened
        rw [hclosed, show (t.closeBatch name).names = _ from names_act t (.closeBatch name)]
        exact fun hmem => hlater (List.mem_of_mem_erase hmem)
      show some (u.rename (swap name other), result) = some (u, result)
      rw [hu.rename_swap hnotName hnotOther]

end

/-! ## The one-shot call -/

variable {stream : Wire.Stream} {owed : List Ticket}

/-- The command of a call goes to the end of the queue of the link. -/
theorem exists_link_startCall (hbalanced : s.Balanced) (hname : s.batch? name = none)
    (hlink : s.link = .up stream owed) :
    ∃ registry, s.startCall name = ⟨registry, .up stream (owed ++ [⟨name, 0⟩])⟩ := by
  have hthere : (s.openBatch name).batch? name = some .empty :=
    (Registry.batch?_openBatch (Registry.Balances.names hbalanced)).trans (if_pos rfl)
  rw [startCall, submit, nextTicket?_eq_some hthere]
  obtain ⟨registry, link⟩ := s
  cases hlink
  exact ⟨_, rfl⟩

/-- What an arrival of bytes brings to a command, unless it leaves it waiting. -/
theorem getD_replyBehind_receiveActs (registry : Registry) (stream : Wire.Stream)
    (owed : List Ticket) (ahead : Nat) (bytes : Bytes) :
    (Act.replyBehind ahead (receiveActs ⟨registry, .up stream owed⟩ bytes)).getD
        (.error closedByServer) = stream.replyBehind ahead bytes := by
  rw [receiveActs_up, Wire.Stream.replyBehind]
  cases (stream.feed bytes).fault with
  | some fault => cases ahead <;> rfl
  | none =>
      have hanswers := @Act.replyBehind_answers ahead (stream.feed bytes).replies []
      rw [List.append_nil] at hanswers
      dsimp only
      rw [Act.replyBehind_of_quiet (by rintro _ ⟨⟩) (by rintro _ _ ⟨⟩), hanswers,
        List.getD_eq_getElem?_getD]
      cases (stream.feed bytes).replies[ahead]? <;> rfl

/-- The exchange of a one-shot call ends the link if the answer has not ended the call. -/
theorem exchange_eq (s : Session) (server : Server) (c : Command) :
    ((s.openBatch .oneShot).exchange server c).1 =
      let answered := (s.startCall .oneShot).receive (server.answer c.frame).2
      if (answered.endCall? .oneShot).isSome ∨ answered.batch? .oneShot = none then answered
      else answered.goDown closedByServer (some closedByServer) := by
  have hstart : (s.openBatch .oneShot).submit .oneShot = s.startCall .oneShot := rfl
  rw [exchange_fst, hstart]
  generalize (s.startCall .oneShot).receive (server.answer c.frame).2 = answered
  dsimp only
  rw [endCall?]
  cases answered.batch? .oneShot with
  | none => rw [if_pos (.inr rfl)]
  | some b =>
      cases hsettled : b.isSettled with
      | true => simp [hsettled]
      | false =>
          simp only [hsettled, Bool.false_eq_true, if_false, Option.isSome_none, reduceCtorEq,
            or_self]
          rfl

/-- What a one-shot call waits for: the bytes with which the server answers, and the end of the link
if they leave the command unanswered. -/
theorem exists_meanwhile (hready : s.Ready) (hbusy : s.isBusy = false)
    (hlink : s.link = .up stream owed) (server : Server) (c : Command) :
    ∃ meanwhile, (∀ a ∈ meanwhile, a.OfLink) ∧
      (s.startCall .oneShot).Plays meanwhile ((s.openBatch .oneShot).exchange server c).1 ∧
      Act.replyBehind owed.length meanwhile =
        some (stream.replyBehind owed.length (server.answer c.frame).2) := by
  have hup : s.isUp = true := by rw [isUp, hlink]
  have howed : s.owed = owed := by rw [Session.owed, hlink]
  have hnone := batch?_eq_none_iff.2 hready.noCall
  have hstarted := callWaits_startCall hready.balanced hnone hup hbusy
  obtain ⟨registry, hstart⟩ := exists_link_startCall hready.balanced hnone hlink
  have hreply := getD_replyBehind_receiveActs registry stream (owed ++ [⟨.oneShot, 0⟩]) owed.length
    (server.answer c.frame).2
  rw [← hstart] at hreply
  have hreceived := plays_receive (s.startCall .oneShot) (server.answer c.frame).2
  have hfrom := ofLink_receiveActs (s.startCall .oneShot) (server.answer c.frame).2
  have hend := hstarted.plays hreceived (fun a ha => (hfrom a ha).foreign .oneShot)
  rw [howed] at hend
  rw [exchange_eq]
  generalize (s.startCall .oneShot).receive (server.answer c.frame).2 = answered at *
  generalize (s.startCall .oneShot).receiveActs (server.answer c.frame).2 = acts at *
  cases hwaited : Act.replyBehind owed.length acts with
  | some r =>
      rw [hwaited] at hend hreply
      rw [if_pos (.inl (by rw [hend.endCall?_eq]; rfl))]
      exact ⟨acts, hfrom, hreceived, by rw [hwaited, ← hreply]; rfl⟩
  | none =>
      rw [hwaited] at hend hreply
      obtain ⟨left, hwaits⟩ := hend
      obtain ⟨b, -, hb, -, -⟩ := exists_batch_of_size hwaits.size
      rw [if_neg (by rw [hwaits.endCall?_eq, hb]; simp)]
      refine ⟨acts ++ [.goDown closedByServer (some closedByServer)], ?_, ?_, ?_⟩
      · exact List.forall_mem_append.2 ⟨hfrom, List.forall_mem_singleton.2 trivial⟩
      · exact hreceived.append (.single (a := .goDown closedByServer _) trivial)
      · rw [Act.replyBehind_goDown hwaited, ← hreply]
        rfl

/-- An answer that breaks the format, or does not get as far as the call, ends the link. -/
theorem isUp_exchange_of_lost (hready : s.Ready) (hbusy : s.isBusy = false)
    (hlink : s.link = .up stream owed) (server : Server) (c : Command)
    (hlost : (stream.feed (server.answer c.frame).2).fault ≠ none ∨
      (stream.feed (server.answer c.frame).2).replies.length ≤ owed.length) :
    ((s.openBatch .oneShot).exchange server c).1.isUp = false := by
  have hup : s.isUp = true := by rw [isUp, hlink]
  have howed : s.owed = owed := by rw [Session.owed, hlink]
  have hnone := batch?_eq_none_iff.2 hready.noCall
  obtain ⟨registry, hstart⟩ := exists_link_startCall hready.balanced hnone hlink
  rw [exchange_eq]
  dsimp only
  cases hfault : (stream.feed (server.answer c.frame).2).fault with
  | some fault =>
      split
      · simp [hstart, receive_up, hfault]
      · simp
  | none =>
      have hshort := hlost.resolve_left fun hne => hne hfault
      -- The answer has no reply for the call, so the call still waits for one.
      have hwaited : Act.replyBehind owed.length
          ((s.startCall .oneShot).receiveActs (server.answer c.frame).2) = none := by
        have hanswers := @Act.replyBehind_answers owed.length
          (stream.feed (server.answer c.frame).2).replies []
        rw [List.append_nil, List.getElem?_eq_none hshort] at hanswers
        rw [hstart, receiveActs_up, hfault]
        dsimp only
        rw [Act.replyBehind_of_quiet (by rintro _ ⟨⟩) (by rintro _ _ ⟨⟩), hanswers,
          Act.replyBehind]
      have hend := (callWaits_startCall hready.balanced hnone hup hbusy).plays
        ((s.startCall .oneShot).plays_receive (server.answer c.frame).2)
        (fun a ha => (ofLink_receiveActs _ _ a ha).foreign .oneShot)
      rw [howed, hwaited] at hend
      obtain ⟨left, hwaits⟩ := hend
      obtain ⟨b, -, hb, -, -⟩ := exists_batch_of_size hwaits.size
      rw [if_neg (by rw [hwaits.endCall?_eq, hb]; simp)]
      simp

/-- A one-shot call is a call on a batch of its own. -/
theorem ask_eq_endCall? (hready : s.Ready) (hbusy : s.isBusy = false)
    (hlink : s.link = .up stream owed) (server : Server) (c : Command) :
    s.ask server c = (((s.openBatch .oneShot).exchange server c).1.closeBatch .oneShot,
      (server.answer c.frame).1,
      (stream.replyBehind owed.length (server.answer c.frame).2).outcome) := by
  have hup : s.isUp = true := by rw [isUp, hlink]
  have howed : s.owed = owed := by rw [Session.owed, hlink]
  have hnone := batch?_eq_none_iff.2 hready.noCall
  obtain ⟨meanwhile, hfrom, hplays, hreply⟩ := exists_meanwhile hready hbusy hlink server c
  have hstarted := callWaits_startCall hready.balanced hnone hup hbusy
  have hend := hstarted.plays hplays (fun a ha => (hfrom a ha).foreign .oneShot)
  rw [howed, hreply] at hend
  obtain ⟨b, hb, hreplies⟩ := hend.exists_batch
  rw [ask, if_pos hup]
  simp [hb, singleReply_eq_verdict hreplies]

/-- A call that gets no reply takes the link down. -/
theorem isUp_ask_of_lost (hready : s.Ready) (hbusy : s.isBusy = false)
    (hlink : s.link = .up stream owed) (server : Server) (c : Command)
    (hlost : (stream.feed (server.answer c.frame).2).fault ≠ none ∨
      (stream.feed (server.answer c.frame).2).replies.length ≤ owed.length) :
    (s.ask server c).1.isUp = false := by
  rw [ask_eq_endCall? hready hbusy hlink server c]
  exact isUp_exchange_of_lost hready hbusy hlink server c hlost

end Session

/-! ## Calls of a client -/

namespace Client

open Session

/-- The end of a call that a caller makes by hand. The caller looks for errors as soon as the batch
is settled. If there is one the call fails and drops the batch, and otherwise the caller takes the
replies and keeps the first. -/
def takeReply? (client : Client) (label : String) : Option (Client × Except ClientError Reply) :=
  match (client.step (.read label)).2 with
  | .replies rs =>
    match BatchFailure.ofReplies? rs with
    | some failure => some ((client.step (.dropBatch label)).1, .error (.batch failure))
    | none =>
      match client.step (.takeReplies label) with
      | (client, .replies rs) => some (client, .ok (rs.headD .nil))
      | _ => none
  | _ => none

/-- Calls that are refused since there is no link: nothing is sent and nothing changes. -/
structure RefusesCalls (client : Client) : Prop where
  ask : ∀ server c, client.ask server c = (client, server, .error .notConnected)
  query : ∀ server q, client.query server q = (client, server, .error .notConnected)
  openBatch : ∀ label, client.session.batch? (.named label) = none →
    client.step (.openBatch label) = (client, .refused .notConnected)

/-- What calls give on a link with a free permit, whichever way they are made. -/
structure CallsFaithfully (client : Client) : Prop where
  /-- A caller who opens a fresh batch and submits a command on it starts a call. -/
  starts : ∀ label c, client.session.batch? (.named label) = none →
    (client.step (.openBatch label)).2 = .done ∧
      (client.step (.openBatch label)).1.step (.submit label c none) =
        (client.onSession fun s => s.startCall (.named label), .submitted (some c.frame) 1)
  /-- Looking for errors and taking the reply is how a caller ends a call. -/
  ends : ∀ (later : Client) label, later.takeReply? label =
    (later.session.endCall? (.named label)).map fun (s, result) => (⟨s, later.scripts⟩, result)
  /-- Whatever happens in the meantime, a call waits for the reply behind the commands owed before,
  and gives what is made of that reply. -/
  waits : ∀ name meanwhile t, client.session.batch? name = none →
    (∀ a ∈ meanwhile, a.Foreign name) → (client.session.startCall name).Plays meanwhile t →
    t.endCall? name = (Act.replyBehind client.session.owed.length meanwhile).map fun r =>
      (t.closeBatch name, r.outcome)
  /-- So it is with a call that is made by hand, whatever steps are taken in the meantime that do
  not change its batch. -/
  steps : ∀ label c later, client.session.batch? (.named label) = none →
    (∀ step ∈ later, step.changed? ≠ some label) →
    let called := client.run [.openBatch label, .submit label c none]
    let done := called.run later
    done.takeReply? label =
      (Act.replyBehind client.session.owed.length (called.acts later)).map fun r =>
        (done.onSession fun s => s.closeBatch (.named label), r.outcome)
  /-- If the link goes down first, the call fails with what commands are told, and nothing else. -/
  told : ∀ name meanwhile message error t, client.session.batch? name = none →
    (∀ a ∈ meanwhile, a.Foreign name) →
    (client.session.startCall name).Plays (meanwhile ++ [.goDown message error]) t →
    Act.replyBehind client.session.owed.length meanwhile = none →
    t.endCall? name = some (t.closeBatch name, .error (.batch ⟨1, [message], 1⟩))
  /-- The same call on another fresh batch ends in the same way, and all other batches are the
  same all the while. -/
  separate : ∀ name other meanwhile t, name ≠ other → client.session.batch? name = none →
    client.session.batch? other = none → (∀ a ∈ meanwhile, a.Foreign name ∧ a.Foreign other) →
    (client.session.startCall name).Plays meanwhile t →
    let moved := t.rename (swap name other)
    (client.session.startCall other).Plays meanwhile moved ∧
      moved.endCall? other = t.endCall? name ∧
      ∀ n, n ≠ name → n ≠ other → moved.batch? n = t.batch? n
  /-- A one-shot call sends its command and gives what is made of the reply behind the commands owed
  before. It ends as the call on any fresh batch does that gets as much from the link. -/
  asks : ∀ stream owed server c, client.session.link = .up stream owed →
    let reply := stream.replyBehind owed.length (server.answer c.frame).2
    (client.ask server c).2 = ((server.answer c.frame).1, reply.outcome) ∧
      ∃ meanwhile, (∀ a ∈ meanwhile, a.OfLink) ∧
        Act.replyBehind owed.length meanwhile = some reply ∧
        ∀ name, client.session.batch? name = none → ∃ t,
          (client.session.startCall name).Plays meanwhile t ∧
            t.endCall? name = some ((client.ask server c).1.session, reply.outcome)
  /-- A query is the one-shot call of its command, whose reply is read. -/
  queries : ∀ server q,
    (client.query server q).1.session = (client.ask server q.command).1.session ∧
      (client.query server q).2 = ((client.ask server q.command).2.1,
        match (client.ask server q.command).2.2 with
        | .error e => .error e
        | .ok r => (q.read r).mapError .reading)

variable {client : Client}

/-- A settled batch is looked at and then dropped or taken, and otherwise the caller waits. -/
theorem takeReply?_eq (later : Client) (label : String) :
    later.takeReply? label = (later.session.endCall? (.named label)).map fun (s, result) =>
      (⟨s, later.scripts⟩, result) := by
  obtain ⟨s, scripts⟩ := later
  rw [takeReply?, endCall?]
  simp only [step, withSettled]
  cases hb : s.batch? (.named label) with
  | none => rfl
  | some b =>
      dsimp only
      cases hsettled : b.isSettled with
      | false => rfl
      | true =>
          simp only [if_true, Option.map_some]
          rw [singleReply, Batch.failure?]
          cases BatchFailure.ofReplies? b.replies <;> rfl

/-- The server hears of a query what it hears of its command. -/
theorem query_snd_fst (client : Client) (server : Server) (q : Query) :
    (client.query server q).2.1 = (client.ask server q.command).2.1 := by
  rw [query]
  obtain ⟨later, server, e | r⟩ := client.ask server q.command
  · rfl
  · dsimp only
    cases q.read r <;> rfl

/-- Without a link every call is refused and changes nothing. -/
theorem refusesCalls_of_down (hdown : client.session.isUp = false) : client.RefusesCalls := by
  have hask : ∀ server c, client.ask server c = (client, server, .error .notConnected) := by
    intro server c
    rw [Client.ask, ask_eq_of_down hdown]
  refine ⟨hask, ?_, ?_⟩
  · intro server q
    rw [query, hask]
  · intro label hnone
    show client.openBatch label = _
    rw [Client.openBatch, hnone]
    show openBatch.start client label = _
    rw [openBatch.start, hdown]
    rfl

/-- A batch of one's own is opened, and a command is submitted on it at once. -/
theorem step_submit_of_fresh (hready : client.session.Ready) (hup : client.session.isUp = true)
    (hbusy : client.session.isBusy = false) {label : String}
    (hnone : client.session.batch? (.named label) = none) (c : Command) :
    client.step (.openBatch label) =
        (client.onSession fun s => s.openBatch (.named label), .done) ∧
      (client.onSession fun s => s.openBatch (.named label)).step (.submit label c none) =
        (client.onSession fun s => s.startCall (.named label), .submitted (some c.frame) 1) := by
  have hthere : (client.session.openBatch (.named label)).batch? (.named label) = some .empty :=
    (Registry.batch?_openBatch (Registry.Balances.names hready.balanced)).trans (if_pos rfl)
  have hsize := (callWaits_startCall hready.balanced hnone hup hbusy).size
  constructor
  · show client.openBatch label = _
    rw [Client.openBatch, hnone]
    show openBatch.start client label = _
    rw [openBatch.start, if_pos hup]
  · show Client.submit _ label c none = _
    have hpermit : (client.session.openBatch (.named label)).isBusy = false := hbusy
    have hlink : (client.session.openBatch (.named label)).isUp = true := hup
    rw [Client.submit]
    simp only [onSession, hthere, hpermit, submitNow, hlink, Option.isNone_some, if_true,
      Bool.false_eq_true, if_false]
    exact congrArg (fun size => (_, Outcome.submitted (some c.frame) size)) hsize

/-- What is done by steps that do not change a batch is foreign to it. -/
theorem foreign_acts (client : Client) {label : String} {later : List Step}
    (hlater : ∀ step ∈ later, step.changed? ≠ some label) :
    ∀ a ∈ client.acts later, a.Foreign (.named label) := by
  refine forall_mem_acts ?_ ?_ client later ?_
  · intro a hsubject _
    exact Act.foreign_of_subject? (by rw [hsubject]; exact nofun)
  · intro a hsubject
    exact Act.foreign_of_subject? (by rw [hsubject]; exact nofun)
  · intro step hstep other hother a hsubject
    have hne : other ≠ label := fun heq => hlater step hstep (heq ▸ hother)
    apply Act.foreign_of_subject?
    rw [hsubject]
    intro heq
    cases heq
    exact hne rfl

/-- A call that is made by hand, with other steps in between. -/
theorem takeReply?_run (hready : client.session.Ready) (hup : client.session.isUp = true)
    (hbusy : client.session.isBusy = false) {label : String}
    (hnone : client.session.batch? (.named label) = none) (c : Command) {later : List Step}
    (hlater : ∀ step ∈ later, step.changed? ≠ some label) :
    let called := client.run [.openBatch label, .submit label c none]
    let done := called.run later
    done.takeReply? label =
      (Act.replyBehind client.session.owed.length (called.acts later)).map fun r =>
        (done.onSession fun s => s.closeBatch (.named label), r.outcome) := by
  obtain ⟨hopened, hsubmitted⟩ := step_submit_of_fresh hready hup hbusy hnone c
  have hcalled : client.run [.openBatch label, .submit label c none] =
      client.onSession fun s => s.startCall (.named label) := by
    rw [run, List.foldl_cons, List.foldl_cons, List.foldl_nil, hopened, hsubmitted]
  rw [hcalled]
  intro called done
  have hstarted := callWaits_startCall hready.balanced hnone hup hbusy
  have hnoCall : .oneShot ∉ called.session.names := by
    show .oneShot ∉ ((client.session.openBatch (.named label)).submit (.named label)).names
    simpa using noCall_openBatch hready label
  have hcalling : called.session.Ready := ⟨hstarted.balanced, hnoCall⟩
  obtain ⟨hplays, -⟩ := leads_run hcalling later
  rw [takeReply?_eq, endCall?_of_plays hready.balanced hnone hup hbusy hplays
    (foreign_acts called hlater), Option.map_map]
  rfl

/-- Both ways of calling give the outcome of the reply behind those owed before. -/
theorem callsFaithfully_of_ready (hready : client.session.Ready)
    (hup : client.session.isUp = true) (hbusy : client.session.isBusy = false) :
    client.CallsFaithfully where
  starts label c hnone := by
    obtain ⟨hopened, hsubmitted⟩ := step_submit_of_fresh hready hup hbusy hnone c
    rw [hopened]
    exact ⟨rfl, hsubmitted⟩
  ends := takeReply?_eq
  waits name meanwhile t hnone hforeign hplays :=
    endCall?_of_plays hready.balanced hnone hup hbusy hplays hforeign
  steps label c later hnone hlater := takeReply?_run hready hup hbusy hnone c hlater
  told name meanwhile message error t hnone hforeign hplays hwaits := by
    have hacts : ∀ a ∈ meanwhile ++ [.goDown message error], a.Foreign name :=
      List.forall_mem_append.2 ⟨hforeign, List.forall_mem_singleton.2 trivial⟩
    rw [endCall?_of_plays hready.balanced hnone hup hbusy hplays hacts,
      Act.replyBehind_goDown hwaits]
    rfl
  separate name other meanwhile t hne hname hother hforeign hplays := by
    have hstarted := callWaits_startCall hready.balanced hname hup hbusy
    refine ⟨plays_rename_startCall hready.balanced hname hother hplays hforeign,
      endCall?_rename_swap hname hother hplays hforeign hne (hplays.balanced hstarted.balanced), ?_⟩
    intro n hn hn'
    have hrenamed := batch?_rename (swap name other) t n
    rwa [Equiv.swap_apply_of_ne_of_ne hn hn'] at hrenamed
  asks stream owed server c hlink := by
    obtain ⟨meanwhile, hfrom, hplays, hreply⟩ := exists_meanwhile hready hbusy hlink server c
    have howed : client.session.owed = owed := by rw [Session.owed, hlink]
    have hone := batch?_eq_none_iff.2 hready.noCall
    have hasked := ask_eq_endCall? hready hbusy hlink server c
    have hend := endCall?_of_plays hready.balanced hone hup hbusy hplays
      (fun a ha => (hfrom a ha).foreign .oneShot)
    rw [howed, hreply] at hend
    refine ⟨congrArg Prod.snd hasked, meanwhile, hfrom, hreply, ?_⟩
    intro name hname
    have hsession : (client.ask server c).1.session =
        ((client.session.openBatch .oneShot).exchange server c).1.closeBatch .oneShot :=
      congrArg Prod.fst hasked
    by_cases hsame : name = .oneShot
    · subst hsame
      exact ⟨_, hplays, by rw [hend, hsession]; rfl⟩
    · have hforeign : ∀ a ∈ meanwhile, a.Foreign .oneShot ∧ a.Foreign name :=
        fun a ha => ⟨(hfrom a ha).foreign _, (hfrom a ha).foreign _⟩
      have hbalanced := hplays.balanced
        (callWaits_startCall hready.balanced hone hup hbusy).balanced
      refine ⟨_, plays_rename_startCall hready.balanced hone hname hplays hforeign, ?_⟩
      rw [endCall?_rename_swap hone hname hplays hforeign (Ne.symm hsame) hbalanced, hend, hsession]
      rfl
  queries server q :=
    ⟨query_session client server q, Prod.ext (query_snd_fst client server q)
      (query_result client server q)⟩

/-- Calls are faithful after every history. Without a link they are refused and change nothing. On a
link with a free permit they give the reply to their command if it holds no error, and the report on
it if it does, whichever way they are made and whatever other callers do in the meantime. -/
theorem run_calls_faithful (ceiling : Nat) (history : List Step) :
    let client := (ofCeiling ceiling).run history
    (client.session.isUp = false → client.RefusesCalls) ∧
      (client.session.isUp = true → client.session.isBusy = false → client.CallsFaithfully) := by
  intro client
  obtain ⟨-, hready⟩ := leads_run_ofCeiling ceiling history
  exact ⟨refusesCalls_of_down, callsFaithfully_of_ready hready⟩

/-- A command is owed a reply when a call is made. The error inside the second reply is the call's,
for a one-shot call and for one that is made by hand. -/
theorem run_calls_faithful_behind :
    let client := (ofCeiling 2).run [.connect .established, .openBatch "a", .submit "a" .ping none]
    let bytes := Utf8.encode "+A\r\n*2\r\n-ERR 1\r\n:1\r\n"
    let report : Except ClientError Reply := .error (.batch ⟨1, ["ERR 1"], 1⟩)
    (ofCeiling 2).RefusesCalls ∧
      (client.session.isUp = true ∧ client.session.isBusy = false) ∧
      (client.ask (.ofAnswers [bytes]) .ping).2.2 = report ∧
      (((client.run [.openBatch "b", .submit "b" .ping none]).run [.send bytes]).takeReply?
        "b").map Prod.snd = some report := by
  intro client bytes report
  have hup : client.session.isUp = true := by decide +kernel
  have hbusy : client.session.isBusy = false := by decide +kernel
  have hlink : client.session.link = .up .fresh [⟨.named "a", 0⟩] := by decide +kernel
  have hdown := (run_calls_faithful 2 []).1 rfl
  have hcalls := (run_calls_faithful 2
    [.connect .established, .openBatch "a", .submit "a" .ping none]).2 hup hbusy
  obtain ⟨hasked, -⟩ := hcalls.asks _ _ (.ofAnswers [bytes]) .ping hlink
  have hnone : client.session.batch? (.named "b") = none := by decide +kernel
  have hmade := hcalls.steps "b" .ping [.send bytes] hnone (by simp [Step.changed?])
  have hreply : Wire.Stream.fresh.replyBehind 1 bytes = .array [.error "ERR 1", .integer 1] := by
    decide +kernel
  have hbehind : Act.replyBehind client.session.owed.length
      ((client.run [.openBatch "b", .submit "b" .ping none]).acts [.send bytes]) =
        some (.array [.error "ERR 1", .integer 1]) := by
    decide +kernel
  refine ⟨hdown, ⟨hup, hbusy⟩, ?_, ?_⟩
  · rw [hasked]
    exact congrArg Reply.outcome hreply
  · rw [hmade, hbehind]
    rfl

end Client

end CommandPipeline
