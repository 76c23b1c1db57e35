import CommandPipeline.Proofs.Session.Balance

/-!
# Traffic and one-shot calls

What happens on a link is carried out by acts, each of which is allowed when its turn comes: bytes
that arrive, the end of the link, and the one-shot call, which submits a command and waits for it.

A one-shot call leaves nothing owed. Its command is the last of the queue, and replies come in the
order of the queue, so when it has been answered all others have been; and if it has not been
answered, the link is ended. So after a call the session is ready for another one.
-/

namespace CommandPipeline

/-! ## Names that traffic keeps -/

namespace Registry

variable {r : Registry} {owed : List Ticket}

/-- The names of the batches. -/
def names (r : Registry) : List BatchName := r.batches.map Prod.fst

theorem batch?_eq_none_iff {n : BatchName} : r.batch? n = none ↔ n ∉ r.names :=
  Batches.get?_eq_none_iff

@[simp] theorem names_enter (r : Registry) (n : BatchName) : (r.enter n).names = r.names :=
  Batches.names_modify _

@[simp] theorem names_deliver (r : Registry) (t : Ticket) (reply : Reply) :
    (r.deliver t reply).names = r.names :=
  Batches.names_modify _

@[simp] theorem names_failAll (message : String) : (r.failAll owed message).names = r.names := by
  induction owed generalizing r with
  | nil => rfl
  | cons t owed ih => exact ih.trans (r.names_deliver t _)

@[simp] theorem names_update (r : Registry) (n : BatchName) (f : Batch → Batch) :
    (r.update n f).names = r.names :=
  Batches.names_modify _

/-- A batch that is opened takes the place of the one that had its name, if there was one. -/
@[simp] theorem names_openBatch (r : Registry) (n : BatchName) :
    (r.openBatch n).names = n :: r.names.erase n :=
  congrArg (n :: ·) Batches.names_erase

@[simp] theorem names_closeBatch (r : Registry) (n : BatchName) :
    (r.closeBatch n).names = r.names.erase n :=
  Batches.names_erase

/-- Without replies nothing is handed on. -/
@[simp] theorem dispatch_none (r : Registry) (owed : List Ticket) :
    r.dispatch owed [] = (r, owed) := by
  cases owed <;> rfl

/-- Replies to nothing are dropped. -/
@[simp] theorem dispatch_nil (r : Registry) (replies : List Reply) :
    r.dispatch [] replies = (r, []) := by
  cases replies <;> rfl

@[simp] theorem names_dispatch (replies : List Reply) :
    (r.dispatch owed replies).1.names = r.names := by
  induction replies generalizing r owed with
  | nil => simp
  | cons reply replies ih =>
      cases owed with
      | nil => simp
      | cons t owed => exact ih.trans (r.names_deliver t reply)

/-- What is owed after some replies is the end of what was owed before. -/
theorem dispatch_suffix (replies : List Reply) : (r.dispatch owed replies).2 <:+ owed := by
  induction replies generalizing r owed with
  | nil => cases owed <;> exact List.suffix_refl _
  | cons reply replies ih =>
      cases owed with
      | nil => exact List.suffix_refl []
      | cons t owed => exact ih.trans (List.suffix_cons t owed)

end Registry

namespace Session

variable {s t : Session} {acts : List Act}

/-- The names of the batches. -/
def names (s : Session) : List BatchName := s.registry.names

theorem batch?_eq_none_iff {n : BatchName} : s.batch? n = none ↔ n ∉ s.names :=
  Registry.batch?_eq_none_iff

/-- A batch is found exactly if its name is listed. -/
theorem isSome_batch?_iff {n : BatchName} : (s.batch? n).isSome ↔ n ∈ s.names := by
  rw [Option.isSome_iff_ne_none, ne_eq, batch?_eq_none_iff, Decidable.not_not]

@[simp] theorem names_connect (s : Session) (attempt : Attempt) :
    (s.connect attempt).names = s.names := by
  obtain ⟨registry, link⟩ := s
  cases link with
  | up stream owed => rfl
  | down error => cases attempt <;> rfl

@[simp] theorem names_goDown (s : Session) (message : String) (error : Option String) :
    (s.goDown message error).names = s.names := by
  obtain ⟨registry, link⟩ := s
  cases link with
  | down error => rfl
  | up stream owed => exact Registry.names_failAll message

@[simp] theorem names_lose (s : Session) (reason : String) : (s.lose reason).names = s.names :=
  s.names_goDown reason (some reason)

@[simp] theorem names_disconnect (s : Session) : s.disconnect.names = s.names :=
  s.names_goDown closedByClient none

/-- A submission finds its batch or does nothing. -/
@[simp] theorem names_submit (s : Session) (name : BatchName) :
    (s.submit name).names = s.names := by
  obtain ⟨registry, link⟩ := s
  rw [submit]
  cases nextTicket? ⟨registry, link⟩ name with
  | none => rfl
  | some ticket =>
      cases link with
      | up stream owed => exact registry.names_enter name
      | down error => exact (Registry.names_deliver _ _ _).trans (registry.names_enter name)

@[simp] theorem names_update (s : Session) (name : BatchName) (f : Batch → Batch) :
    (s.update name f).names = s.names :=
  s.registry.names_update name f

@[simp] theorem names_openBatch (s : Session) (name : BatchName) :
    (s.openBatch name).names = name :: s.names.erase name :=
  s.registry.names_openBatch name

@[simp] theorem names_closeBatch (s : Session) (name : BatchName) :
    (s.closeBatch name).names = s.names.erase name :=
  s.registry.names_closeBatch name

/-! ## The acts of what happens on a link -/

/-- There is no link after it has gone down. -/
@[simp] theorem isUp_goDown (s : Session) (message : String) (error : Option String) :
    (s.goDown message error).isUp = false := by
  obtain ⟨registry, link⟩ := s
  cases link <;> rfl

/-- Nothing is owed after the link has gone down. -/
@[simp] theorem owed_goDown (s : Session) (message : String) (error : Option String) :
    (s.goDown message error).owed = [] := by
  obtain ⟨registry, link⟩ := s
  cases link <;> rfl

/-- All that is left of a link that is down is the reason. -/
theorem exists_of_down (hdown : s.isUp = false) :
    ∃ registry error, s = ⟨registry, .down error⟩ := by
  obtain ⟨registry, link⟩ := s
  cases link with
  | down error => exact ⟨registry, error, rfl⟩
  | up stream owed => cases hdown

theorem owed_of_down (hdown : s.isUp = false) : s.owed = [] := by
  obtain ⟨registry, error, rfl⟩ := exists_of_down hdown
  rfl

/-- The end of a link is one act, or none if there was no link. -/
theorem plays_goDown (s : Session) (message : String) (error : Option String) :
    s.Plays (s.downActs message error) (s.goDown message error) := by
  obtain ⟨registry, link⟩ := s
  cases link with
  | down error => exact .nil _
  | up stream owed => exact .single trivial

/-- Replies that are handed on one by one are dispatched. -/
theorem plays_answers (registry : Registry) (stream : Wire.Stream) (owed : List Ticket)
    (replies : List Reply) :
    Plays ⟨registry, .up stream owed⟩ (replies.map .answer)
      ⟨(registry.dispatch owed replies).1, .up stream (registry.dispatch owed replies).2⟩ := by
  induction replies generalizing registry owed with
  | nil => simpa using .nil _
  | cons reply replies ih =>
      cases owed with
      | nil =>
          have hrest := ih registry []
          simp only [Registry.dispatch_nil] at hrest ⊢
          exact .cons trivial hrest
      | cons t owed => exact .cons trivial (ih (registry.deliver t reply) owed)

/-- What an arrival of bytes does: it takes the link down, or it leaves the stream behind its
replies, which are dispatched. -/
theorem receive_up (registry : Registry) (stream : Wire.Stream) (owed : List Ticket)
    (bytes : Bytes) :
    receive ⟨registry, .up stream owed⟩ bytes =
      match (stream.feed bytes).fault with
      | some fault => goDown ⟨registry, .up stream owed⟩ fault.message (some fault.message)
      | none => ⟨(registry.dispatch owed (stream.feed bytes).replies).1,
          .up (stream.feed bytes).stream
            (registry.dispatch owed (stream.feed bytes).replies).2⟩ := rfl

/-- The acts of an arrival: the end of the link, or the arrival and one reply after the other. -/
theorem receiveActs_up (registry : Registry) (stream : Wire.Stream) (owed : List Ticket)
    (bytes : Bytes) :
    receiveActs ⟨registry, .up stream owed⟩ bytes =
      match (stream.feed bytes).fault with
      | some fault => downActs ⟨registry, .up stream owed⟩ fault.message (some fault.message)
      | none => .arrive bytes :: (stream.feed bytes).replies.map .answer := rfl

/-- An arrival of bytes is carried out by its acts. -/
theorem plays_receive (s : Session) (bytes : Bytes) :
    s.Plays (s.receiveActs bytes) (s.receive bytes) := by
  obtain ⟨registry, link⟩ := s
  cases link with
  | down error => exact .nil _
  | up stream owed =>
      rw [receiveActs_up, receive_up]
      cases hfault : (stream.feed bytes).fault with
      | some fault => exact plays_goDown _ _ _
      | none =>
          refine .cons (a := .arrive bytes) ?_ (plays_answers registry _ owed _)
          rintro _ _ ⟨⟩
          exact hfault

/-- Bytes from the server open and close no batch. -/
@[simp] theorem names_receive (s : Session) (bytes : Bytes) :
    (s.receive bytes).names = s.names := by
  obtain ⟨registry, link⟩ := s
  cases link with
  | down error => rfl
  | up stream owed =>
      rw [receive_up]
      cases (stream.feed bytes).fault with
      | some fault => simp
      | none => exact Registry.names_dispatch _

/-- Bytes from the server add nothing to the queue. -/
theorem owed_receive_suffix (s : Session) (bytes : Bytes) : (s.receive bytes).owed <:+ s.owed := by
  obtain ⟨registry, link⟩ := s
  cases link with
  | down error => exact List.suffix_refl _
  | up stream owed =>
      rw [receive_up]
      cases (stream.feed bytes).fault with
      | some fault => simp
      | none => exact Registry.dispatch_suffix _

/-- Without a link no bytes arrive. -/
@[simp] theorem receive_down (hdown : s.isUp = false) (bytes : Bytes) : s.receive bytes = s := by
  obtain ⟨registry, error, rfl⟩ := exists_of_down hdown
  rfl

@[simp] theorem hangUp_down (hdown : s.isUp = false) (bytes : Bytes) : s.hangUp bytes = s := by
  obtain ⟨registry, error, rfl⟩ := exists_of_down hdown
  rfl

/-- A hang-up is an arrival of bytes and then the end of the link. -/
theorem plays_hangUp (s : Session) (bytes : Bytes) :
    s.Plays (s.hangUpActs bytes) (s.hangUp bytes) :=
  (s.plays_receive bytes).append (plays_goDown _ _ _)

/-- What allowed acts lead to is balanced, if they start from a balanced session. -/
theorem Plays.balanced (h : s.Plays acts t) (hs : s.Balanced) : t.Balanced :=
  h.preserves (P := Balanced) (fun _ _ hs ha => hs.act ha) hs

/-! ## One-shot calls -/

theorem isFree_of_none {name : BatchName} (hb : s.batch? name = none) : s.IsFree name := by
  intro b hsome
  rw [hb] at hsome
  cases hsome

theorem isFree_of_some {name : BatchName} {b : Batch} (hb : s.batch? name = some b)
    (hsettled : b.isSettled = true) : s.IsFree name := by
  intro b' hsome
  rw [hb, Option.some.injEq] at hsome
  exact hsome ▸ hsettled

/-- A link that owes nothing has no batch with unanswered commands. -/
theorem Balanced.isFree (h : s.Balanced) (howed : s.owed = []) (name : BatchName) :
    s.IsFree name := by
  intro b hb
  have hwaiting := Registry.Balances.positions_eq h hb
  have hcount := Registry.Balances.outstanding h name b hb
  rw [howed] at hwaiting
  rw [← hwaiting] at hcount
  exact decide_eq_true hcount

/-- A link that owes nothing has a permit to give. -/
theorem Balanced.isBusy_eq_false (h : s.Balanced) (howed : s.owed = []) : s.isBusy = false := by
  have htaken : s.registry.permits.taken = 0 := by
    rw [Registry.Balances.taken h, howed]
    rfl
  have hpos := Registry.Balances.ceiling_pos h
  rw [isBusy, Permits.isFull, htaken, decide_eq_false (by omega), Bool.and_false]

/-- Without its batch a command is not submitted. -/
theorem submit_of_none {name : BatchName} (hb : s.batch? name = none) : s.submit name = s := by
  rw [submit, nextTicket?, hb]
  rfl

/-- On a link the command goes to the end of the queue, and without a link nothing is owed. -/
theorem owed_submit {name : BatchName} {b : Batch} (hb : s.batch? name = some b) :
    (s.submit name).owed = if s.isUp then s.owed ++ [⟨name, b.size⟩] else [] := by
  rw [submit, nextTicket?_eq_some hb]
  obtain ⟨registry, link⟩ := s
  cases link <;> rfl

/-- The session after the command of a one-shot call and the answer to it. -/
theorem exchange_fst (s : Session) (server : Server) (c : Command) :
    (s.exchange server c).1 =
      let answered := (s.submit .oneShot).receive (server.answer c.frame).2
      match answered.batch? .oneShot with
      | some b => if b.isSettled then answered else answered.lose closedByServer
      | none => answered := by
  rw [exchange]
  dsimp only
  cases batch? ((s.submit .oneShot).receive (server.answer c.frame).2) .oneShot <;> rfl

/-- An exchange is a submission, an arrival and, if the call is still unanswered, the end of the
link. -/
theorem plays_exchange (server : Server) (c : Command) (hbusy : s.isBusy = false)
    (hname : (s.batch? .oneShot).isSome) :
    s.Plays (s.exchangeActs server c) (s.exchange server c).1 := by
  have hanswered := Plays.cons (a := .submit .oneShot) ⟨hbusy, hname⟩
    (plays_receive (s.submit .oneShot) (server.answer c.frame).2)
  rw [exchange_fst, exchangeActs]
  apply hanswered.append
  dsimp only
  generalize (s.submit .oneShot).receive (server.answer c.frame).2 = answered
  cases answered.batch? .oneShot with
  | none => exact .nil _
  | some b =>
      dsimp only
      split
      · exact .nil _
      · exact plays_goDown _ _ _

/-- A one-shot call leaves nothing owed. -/
theorem owed_exchange (server : Server) (c : Command) (h : s.Balanced) (hbusy : s.isBusy = false)
    (hname : (s.batch? .oneShot).isSome) : (s.exchange server c).1.owed = [] := by
  obtain ⟨b₀, hb₀⟩ := Option.isSome_iff_exists.1 hname
  have hsubmitted := owed_submit hb₀
  have hsuffix := (s.submit .oneShot).owed_receive_suffix (server.answer c.frame).2
  have hbalanced := (plays_receive (s.submit .oneShot) (server.answer c.frame).2).balanced
    (h.submit hbusy hname)
  have hthere : .oneShot ∈ ((s.submit .oneShot).receive (server.answer c.frame).2).names := by
    simpa using isSome_batch?_iff.1 hname
  rw [exchange_fst]
  generalize (s.submit .oneShot).receive (server.answer c.frame).2 = answered at *
  dsimp only
  cases hb : answered.batch? .oneShot with
  | none => exact absurd hthere (batch?_eq_none_iff.1 hb)
  | some b =>
      dsimp only
      by_cases hsettled : b.isSettled
      · -- The call's own command is the last one owed, so it is owed as long as any is.
        rw [if_pos hsettled]
        have hnone : Ticket.positions .oneShot answered.owed = [] :=
          (Registry.Balances.positions_eq hbalanced hb).trans
            (Registry.Balances.waiting_eq_nil hbalanced hb hsettled)
        rw [hsubmitted] at hsuffix
        split at hsuffix
        · rcases List.suffix_concat_iff.1 hsuffix with hnil | ⟨before, hlast, -⟩
          · exact hnil
          · have hmem : b₀.size ∈ Ticket.positions .oneShot answered.owed :=
              Ticket.mem_positions_iff.2 (by simp [hlast])
            rw [hnone] at hmem
            exact absurd hmem List.not_mem_nil
        · exact List.suffix_nil.1 hsuffix
      · rw [if_neg hsettled]
        exact owed_goDown _ _ _

/-- What holds of a session between two steps. -/
structure Ready (s : Session) : Prop where
  balanced : s.Balanced
  /-- No one-shot call is under way. -/
  noCall : .oneShot ∉ s.names

/-- A session that has never been connected is ready. -/
theorem ready_ofCeiling (ceiling : Nat) : (ofCeiling ceiling).Ready where
  balanced := balanced_ofCeiling ceiling
  noCall := List.not_mem_nil

/-- Between two steps no one-shot call has a batch. -/
theorem Ready.isFree_oneShot (h : s.Ready) : s.IsFree .oneShot :=
  isFree_of_none (batch?_eq_none_iff.2 h.noCall)

theorem ask_up (hup : s.isUp = true) (server : Server) (c : Command) :
    (s.ask server c).1 = ((s.openBatch .oneShot).exchange server c).1.closeBatch .oneShot := by
  rw [ask, if_pos hup]

@[simp] theorem ask_down (hdown : s.isUp = false) (server : Server) (c : Command) :
    (s.ask server c).1 = s := by
  rw [ask, hdown]
  rfl

/-- The exchange of a one-shot call is carried out by its acts, and leaves nothing owed. -/
theorem Ready.exchange (h : s.Ready) (hbusy : s.isBusy = false) (server : Server) (c : Command) :
    s.Plays (.openBatch .oneShot :: (s.openBatch .oneShot).exchangeActs server c)
        ((s.openBatch .oneShot).exchange server c).1 ∧
      ((s.openBatch .oneShot).exchange server c).1.owed = [] := by
  have hopened : (s.openBatch .oneShot).Balanced :=
    Registry.Balances.openBatch h.balanced h.isFree_oneShot
  have hpermit : (s.openBatch .oneShot).isBusy = false := hbusy
  have hthere : ((s.openBatch .oneShot).batch? .oneShot).isSome := by
    rw [isSome_batch?_iff]
    exact List.mem_cons_self
  exact ⟨.cons (a := .openBatch .oneShot) h.isFree_oneShot (plays_exchange server c hpermit hthere),
    owed_exchange server c hopened hpermit hthere⟩

/-- A one-shot call is carried out by its acts, and afterwards the session is ready for another. -/
theorem Ready.ask (h : s.Ready) (hbusy : s.isBusy = false) (server : Server) (c : Command) :
    s.Plays (s.askActs server c) (s.ask server c).1 ∧ (s.ask server c).1.Ready ∧
      (s.ask server c).1.isBusy = false := by
  cases hup : s.isUp with
  | false =>
      rw [ask_down hup, askActs, hup]
      exact ⟨.nil s, h, hbusy⟩
  | true =>
      obtain ⟨hexchange, howed⟩ := h.exchange hbusy server c
      have hbalanced := hexchange.balanced h.balanced
      have hfree := hbalanced.isFree howed .oneShot
      rw [ask_up hup, askActs, if_pos hup]
      generalize ((s.openBatch .oneShot).exchange server c).1 = answered at *
      have hclosed : (answered.closeBatch .oneShot).Balanced :=
        Registry.Balances.closeBatch hbalanced hfree
      refine ⟨hexchange.append (.single (a := .closeBatch .oneShot) hfree), ⟨hclosed, ?_⟩,
        hclosed.isBusy_eq_false howed⟩
      exact batch?_eq_none_iff.1 ((Batches.get?_erase hbalanced.names).trans (if_pos rfl))

/-- Acts that leave no one-shot call under way lead from a ready session to a ready one. -/
theorem Ready.of_plays (h : s.Ready) (hplays : s.Plays acts t) (hnames : .oneShot ∉ t.names) :
    t.Ready :=
  ⟨hplays.balanced h.balanced, hnames⟩

/-- What plays without changing the list of batches keeps a session ready. -/
theorem Ready.of_names (h : s.Ready) (hplays : s.Plays acts t) (hnames : t.names = s.names) :
    t.Ready :=
  h.of_plays hplays (hnames ▸ h.noCall)

end Session

end CommandPipeline
