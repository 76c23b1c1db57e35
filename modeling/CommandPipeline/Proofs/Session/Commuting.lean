import CommandPipeline.Proofs.Session.Dispatch
import CommandPipeline.Proofs.Wire.Cuts

/-!
# Submissions and arrivals in either order

A command that is submitted goes to the end of the queue, and a reply goes to its front. So as long
as there is a command for each reply, it makes no difference whether bytes arrive before some
commands are submitted or after them. Nor does it make a difference in how many pieces bytes arrive,
as long as they keep to the format.

The number of permits plays no part here: with commands brought forward, more of them may be taken
in between than there are.
-/

namespace CommandPipeline

/-! ## One command and one reply -/

namespace Batch

/-- A reply to one of the commands and a further command leave the same batch in either order. -/
theorem resolve_push {b : Batch} {i : Nat} (hi : i < b.size) (hcount : 0 < b.outstanding)
    (r : Reply) : b.push.resolve i r = (b.resolve i r).push := by
  have hne : i ≠ b.slots.size := Nat.ne_of_lt hi
  have hslots : (b.slots.push .empty).modify i (fun slot => slot.fill r) =
      (b.slots.modify i fun slot => slot.fill r).push .empty := by
    apply Array.ext_getElem?
    intro j
    simp only [Array.getElem?_modify, Array.getElem?_push, Array.size_modify]
    by_cases hj : i = j
    · subst hj
      simp [hne]
    · simp [hj]
  have houtstanding : b.outstanding + 1 - 1 = b.outstanding - 1 + 1 := by omega
  exact congr (congrArg Batch.mk hslots) houtstanding

end Batch

namespace Batches

variable {batches : Batches} {name n : BatchName}

/-- Only what a change does to the batch that is there matters. -/
theorem modify_congr {f g : Batch → Batch} (h : ∀ b, get? name batches = some b → f b = g b) :
    modify name f batches = modify name g batches := by
  induction batches with
  | nil => rfl
  | cons entry batches ih =>
      obtain ⟨m, b⟩ := entry
      rw [modify, modify]
      rw [get?] at h
      by_cases hm : m = name
      · rw [if_pos hm] at h
        rw [if_pos hm, if_pos hm, h b rfl]
      · rw [if_neg hm] at h
        rw [if_neg hm, if_neg hm, ih h]

/-- Two changes to one batch are one change. -/
theorem modify_modify_self (f g : Batch → Batch) :
    modify name f (modify name g batches) = modify name (fun b => f (g b)) batches := by
  induction batches with
  | nil => rfl
  | cons entry batches ih =>
      obtain ⟨m, b⟩ := entry
      by_cases hm : m = name
      · simp [modify, hm]
      · simp [modify, hm, ih]

/-- Changes to different batches can be made in either order. -/
theorem modify_modify_of_ne (hne : name ≠ n) (f g : Batch → Batch) :
    modify name f (modify n g batches) = modify n g (modify name f batches) := by
  induction batches with
  | nil => rfl
  | cons entry batches ih =>
      obtain ⟨m, b⟩ := entry
      by_cases hm : m = name
      · have hmn : m ≠ n := fun h => hne (hm.symm.trans h)
        simp [modify, hm, hne]
      · by_cases hn : m = n
        · have hnn : n ≠ name := fun h => hne h.symm
          simp [modify, hn, hnn]
        · simp [modify, hm, hn, ih]

end Batches

namespace Registry

variable {r : Registry} {t : Ticket} {owed : List Ticket}

/-- The command of a ticket is there and waits: it holds a permit, and its batch counts it. -/
structure Live (r : Registry) (t : Ticket) : Prop where
  taken : 0 < r.permits.taken
  counted : ∃ b, r.batch? t.batch = some b ∧ t.index < b.size ∧ 0 < b.outstanding

/-- A further command does not answer the one that waits. -/
theorem Live.enter (h : r.Live t) (name : BatchName) : (r.enter name).Live t where
  taken := Nat.succ_pos _
  counted := by
    obtain ⟨b, hb, hindex, hcount⟩ := h.counted
    rw [batch?_enter]
    split
    · exact ⟨b.push, by simp [hb], by simpa using Nat.lt_succ_of_lt hindex, Nat.succ_pos _⟩
    · exact ⟨b, hb, hindex, hcount⟩

/-- A reply to a command that waits and a further command leave the same registry in either
order. -/
theorem Live.deliver_enter (h : r.Live t) (name : BatchName) (reply : Reply) :
    (r.enter name).deliver t reply = (r.deliver t reply).enter name := by
  have hpermits : r.permits.take.release = r.permits.release.take := by
    have hpos := h.taken
    have htaken : r.permits.take.release.taken = r.permits.release.take.taken := by
      have hfirst := Permits.taken_release_add_one (p := r.permits.take) (Nat.succ_pos _)
      exact (Nat.succ.inj hfirst).trans (Permits.taken_release_add_one hpos).symm
    exact congrArg (Permits.mk r.permits.ceiling) htaken
  have hbatches : Batches.modify t.batch (fun b => b.resolve t.index reply)
      (Batches.modify name Batch.push r.batches) =
        Batches.modify name Batch.push
          (Batches.modify t.batch (fun b => b.resolve t.index reply) r.batches) := by
    by_cases hname : t.batch = name
    · subst hname
      rw [Batches.modify_modify_self, Batches.modify_modify_self]
      apply Batches.modify_congr
      obtain ⟨b, hb, hindex, hcount⟩ := h.counted
      intro b' hb'
      obtain rfl : b = b' := Option.some.inj (hb.symm.trans hb')
      exact Batch.resolve_push hindex hcount reply
    · exact Batches.modify_modify_of_ne hname _ _
  exact congr (congrArg Registry.mk hpermits) hbatches

/-- The command at the front of the queue waits. -/
theorem Balances.live (h : r.Balances (t :: owed)) : r.Live t := by
  obtain ⟨b, hb, hwaiting⟩ := h.exists_front
  have hslot : b.slots[t.index]? = some .empty := by
    rw [← Batch.mem_waiting_iff, hwaiting]
    exact List.mem_cons_self
  obtain ⟨hindex, -⟩ := Array.getElem?_eq_some_iff.1 hslot
  refine ⟨?_, b, hb, hindex, ?_⟩
  · rw [h.taken]
    exact Nat.succ_pos _
  · rw [h.outstanding t.batch b hb, hwaiting]
    exact Nat.succ_pos _

end Registry

namespace Session

variable {s : Session}

/-- A reply adds no command, so the next ticket stays the same. -/
@[simp] theorem nextTicket?_answer (s : Session) (name : BatchName) (reply : Reply) :
    (s.answer reply).nextTicket? name = s.nextTicket? name := by
  obtain ⟨registry, link⟩ := s
  cases link with
  | down error => rfl
  | up stream owed =>
      cases owed with
      | nil => rfl
      | cons t owed =>
          show ((registry.deliver t reply).batch? name).map _ = (registry.batch? name).map _
          rw [Registry.batch?_deliver]
          split
          · cases registry.batch? name <;> simp
          · rfl

/-! ## Many commands -/

/-- There is a command for the next reply. -/
def FrontLive (s : Session) : Prop := ∃ t owed, s.owed = t :: owed ∧ s.registry.Live t

/-- As long as anything is owed, the next reply finds its command waiting. -/
theorem Balanced.frontLive (h : s.Balanced) (hne : s.owed ≠ []) : s.FrontLive := by
  obtain ⟨t, owed, howed⟩ := List.exists_cons_of_ne_nil hne
  have hbalances : s.registry.Balances (t :: owed) := howed ▸ h
  exact ⟨t, owed, howed, hbalances.live⟩

/-- A submission goes behind the command at the front. -/
theorem FrontLive.submit (h : s.FrontLive) (name : BatchName) : (s.submit name).FrontLive := by
  obtain ⟨t, owed, howed, hlive⟩ := h
  obtain ⟨registry, link⟩ := s
  cases link with
  | down error => cases howed
  | up stream owed' =>
      cases howed
      rw [Session.submit]
      cases nextTicket? ⟨registry, .up stream (t :: owed)⟩ name with
      | none => exact ⟨t, owed, rfl, hlive⟩
      | some ticket => exact ⟨t, owed ++ [ticket], rfl, hlive.enter name⟩

/-- A reply and a submission can change places while a command waits for the reply. -/
theorem FrontLive.answer_submit (h : s.FrontLive) (name : BatchName) (reply : Reply) :
    (s.submit name).answer reply = (s.answer reply).submit name := by
  have hticket := s.nextTicket?_answer name reply
  obtain ⟨t, owed, howed, hlive⟩ := h
  obtain ⟨registry, link⟩ := s
  cases link with
  | down error => cases howed
  | up stream owed' =>
      cases howed
      rw [Session.submit, Session.submit, hticket]
      cases nextTicket? ⟨registry, .up stream (t :: owed)⟩ name with
      | none => rfl
      | some ticket =>
          show Session.mk ((registry.enter name).deliver t reply) _ = _
          rw [hlive.deliver_enter]
          rfl

/-- The decoder and the queue do not see each other, so bytes may arrive before or after a
submission. -/
theorem arrive_submit (s : Session) (name : BatchName) (bytes : Bytes) :
    (s.submit name).arrive bytes = (s.arrive bytes).submit name := by
  have hticket : (s.arrive bytes).nextTicket? name = s.nextTicket? name := by
    obtain ⟨registry, link⟩ := s
    cases link <;> rfl
  obtain ⟨registry, link⟩ := s
  rw [submit, submit, hticket]
  cases nextTicket? ⟨registry, link⟩ name <;> cases link <;> rfl

/-- Submits commands on batches, one after the other. -/
def submitAll (s : Session) (names : List BatchName) : Session := names.foldl submit s

/-- A reply can change places with any number of submissions. -/
theorem FrontLive.answer_submitAll (h : s.FrontLive) (names : List BatchName) (reply : Reply) :
    (s.submitAll names).answer reply = (s.answer reply).submitAll names := by
  induction names generalizing s with
  | nil => rfl
  | cons name names ih =>
      show ((s.submit name).submitAll names).answer reply =
        ((s.answer reply).submit name).submitAll names
      rw [ih (h.submit name), h.answer_submit]

/-- Bytes may arrive before or after any number of submissions. -/
theorem arrive_submitAll (s : Session) (names : List BatchName) (bytes : Bytes) :
    (s.submitAll names).arrive bytes = (s.arrive bytes).submitAll names := by
  induction names generalizing s with
  | nil => rfl
  | cons name names ih =>
      show ((s.submit name).submitAll names).arrive bytes =
        ((s.arrive bytes).submit name).submitAll names
      rw [ih, arrive_submit]

/-- Each reply takes one command off the queue. -/
@[simp] theorem owed_answer (s : Session) (reply : Reply) :
    (s.answer reply).owed = s.owed.tail := by
  obtain ⟨registry, link⟩ := s
  cases link with
  | down error => rfl
  | up stream owed => cases owed <;> rfl

/-- As long as there is a command for each of them, replies may be handed on before further commands
are submitted or afterwards. -/
theorem Balanced.answers_submitAll (h : s.Balanced) {replies : List Reply}
    (hcount : replies.length ≤ s.owed.length) (names : List BatchName) :
    (s.submitAll names).play (replies.map .answer) =
      (s.play (replies.map .answer)).submitAll names := by
  induction replies generalizing s with
  | nil => rfl
  | cons reply replies ih =>
      have hne : s.owed ≠ [] := by
        intro hnil
        rw [hnil] at hcount
        exact Nat.not_succ_le_zero _ hcount
      have hnext : (s.answer reply).Balanced := h.act (a := .answer reply) trivial
      have hrest : replies.length ≤ (s.answer reply).owed.length := by
        simpa using Nat.le_sub_one_of_lt hcount
      show ((s.submitAll names).answer reply).play _ = ((s.answer reply).play _).submitAll names
      rw [(h.frontLive hne).answer_submitAll, ih hnext hrest]

/-- The tickets of commands that are submitted one after the other. A name without a batch gets
none. -/
def newTickets (s : Session) : List BatchName → List Ticket
  | [] => []
  | name :: names => (s.nextTicket? name).toList ++ (s.submit name).newTickets names

/-- On a link a submission adds its ticket to the queue. -/
theorem link_submit {stream : Wire.Stream} {owed : List Ticket} (hlink : s.link = .up stream owed)
    (name : BatchName) :
    (s.submit name).link = .up stream (owed ++ (s.nextTicket? name).toList) := by
  obtain ⟨registry, link⟩ := s
  cases hlink
  rw [submit]
  cases nextTicket? ⟨registry, .up stream owed⟩ name with
  | none => exact congrArg (Link.up stream) (List.append_nil owed).symm
  | some ticket => rfl

/-- Commands go to the end of the queue and leave the stream alone. -/
theorem link_submitAll {stream : Wire.Stream} {owed : List Ticket}
    (hlink : s.link = .up stream owed) (names : List BatchName) :
    (s.submitAll names).link = .up stream (owed ++ s.newTickets names) := by
  induction names generalizing s owed with
  | nil => exact hlink.trans (congrArg (Link.up stream) (List.append_nil owed).symm)
  | cons name names ih =>
      show ((s.submit name).submitAll names).link = _
      rw [ih (link_submit hlink name), newTickets, List.append_assoc]

/-! ## Arrivals -/

section

variable {stream : Wire.Stream} {owed : List Ticket} {bytes : Bytes}

/-- Bytes that keep to the format are set aside as replies, and these are handed on. -/
theorem receive_eq_play (hlink : s.link = .up stream owed)
    (hfault : (stream.feed bytes).fault = none) :
    s.receive bytes = (s.arrive bytes).play ((stream.feed bytes).replies.map .answer) := by
  have hplays := s.plays_receive bytes
  obtain ⟨registry, link⟩ := s
  cases hlink
  rw [receiveActs_up, hfault] at hplays
  exact hplays.play_eq.symm

/-- Bytes may arrive before some commands are submitted or afterwards, if they keep to the format
and there is a command for each reply in them already. -/
theorem Balanced.receive_submitAll (h : s.Balanced) (hlink : s.link = .up stream owed)
    (hfault : (stream.feed bytes).fault = none)
    (hcount : (stream.feed bytes).replies.length ≤ owed.length) (names : List BatchName) :
    (s.submitAll names).receive bytes = (s.receive bytes).submitAll names := by
  have hsubmitted := link_submitAll hlink names
  have harrived : (s.arrive bytes).Balanced := by
    refine h.act (a := .arrive bytes) ?_
    rintro stream' owed' hlink'
    rw [hlink] at hlink'
    cases hlink'
    exact hfault
  have howed : (s.arrive bytes).owed = owed := by
    obtain ⟨registry, link⟩ := s
    cases hlink
    rfl
  rw [receive_eq_play hsubmitted hfault, receive_eq_play hlink hfault, arrive_submitAll,
    harrived.answers_submitAll (howed ▸ hcount)]

/-- Bytes that keep to the format may as well arrive in two pieces. -/
theorem receive_append (hlink : s.link = .up stream owed) (hstream : stream.CaughtUp)
    {more : Bytes} (hfault : (stream.feed (bytes ++ more)).fault = none) :
    (s.receive bytes).receive more = s.receive (bytes ++ more) := by
  obtain ⟨hfirst, hlater, hwhole⟩ := hstream.feed_append hfault
  obtain ⟨registry, link⟩ := s
  cases hlink
  rw [receive_up registry stream owed (bytes ++ more), hwhole, receive_up, hfirst]
  dsimp only
  rw [receive_up, hlater, Registry.dispatch_append]

/-- Bytes that keep to the format take a command off the queue for each reply in them. -/
theorem link_receive (hlink : s.link = .up stream owed)
    (hfault : (stream.feed bytes).fault = none) :
    (s.receive bytes).link =
      .up (stream.feed bytes).stream (owed.drop (stream.feed bytes).replies.length) := by
  obtain ⟨registry, link⟩ := s
  cases hlink
  rw [receive_up, hfault]
  simp

/-- No bytes change nothing once the decoder has caught up. -/
theorem receive_nil (hlink : s.link = .up stream owed) (hstream : stream.CaughtUp) :
    s.receive [] = s := by
  obtain ⟨registry, link⟩ := s
  cases hlink
  rw [receive_up, hstream.feed_nil]
  simp

end

end Session

end CommandPipeline
