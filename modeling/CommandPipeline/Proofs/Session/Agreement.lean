import CommandPipeline.Proofs.Session.Dispatch

/-!
# Sessions that agree

Two sessions agree on the batches that were opened under some labels when they have the same link,
the same permits and the same batches under these labels. What else they hold may differ, as long as
the link does not concern it: the queue has commands of agreed batches only, and every other batch
is settled.

Whatever happens on the link keeps them in agreement, and so does everything that is done to an
agreed batch. The batch of one-shot calls is always agreed, so these calls give the same results.
-/

namespace CommandPipeline

/-- The batch was opened under one of the labels, or it is that of one-shot calls. -/
def BatchName.Own (opened : List String) : BatchName → Prop
  | .named label => label ∈ opened
  | .oneShot => True

/-- One more label makes the batch of that label one of the caller's own. -/
theorem BatchName.own_cons_iff {opened : List String} {label : String} {n : BatchName} :
    n.Own (label :: opened) ↔ n = .named label ∨ n.Own opened := by
  cases n with
  | named other => simp [Own]
  | oneShot => simp [Own]

theorem BatchName.own_named {opened : List String} {label : String} (h : label ∈ opened) :
    (BatchName.named label).Own opened := h

/-- The batch of a one-shot call is always among one's own. -/
theorem BatchName.own_oneShot (opened : List String) : BatchName.oneShot.Own opened := trivial

namespace Registry

/-- Two registries agree on the batches opened under the labels, and all other batches are
settled. -/
structure Agrees (opened : List String) (r q : Registry) : Prop where
  names : r.names.Nodup ∧ q.names.Nodup
  permits : r.permits = q.permits
  own : ∀ n, n.Own opened → r.batch? n = q.batch? n
  others : ∀ n, ¬ n.Own opened → ∀ b, r.batch? n = some b ∨ q.batch? n = some b →
    b.isSettled = true

namespace Agrees

variable {opened : List String} {r q : Registry} {name : BatchName} {owed : List Ticket}

/-- Both registries change an agreed batch in the same way and leave all others alone. -/
theorem change (h : r.Agrees opened q) (hname : name.Own opened) {r' q' : Registry}
    (g : Option Batch → Option Batch)
    (hr : ∀ n, r'.batch? n = if n = name then g (r.batch? n) else r.batch? n)
    (hq : ∀ n, q'.batch? n = if n = name then g (q.batch? n) else q.batch? n)
    (hnames : r'.names.Nodup ∧ q'.names.Nodup) (hpermits : r'.permits = q'.permits) :
    r'.Agrees opened q' where
  names := hnames
  permits := hpermits
  own n hn := by rw [hr, hq, h.own n hn]
  others n hn := by
    have hne : n ≠ name := by
      rintro rfl
      exact hn hname
    rw [hr, hq, if_neg hne, if_neg hne]
    exact h.others n hn

/-- Both registries put the command into the same batch and take the same permit. -/
theorem enter (h : r.Agrees opened q) (hname : name.Own opened) :
    (r.enter name).Agrees opened (q.enter name) := by
  refine h.change hname (Option.map Batch.push) (by simp) (by simp) ?_
    (congrArg Permits.take h.permits)
  simpa using h.names

/-- Both give the reply to the same slot and take the permit back. -/
theorem deliver (h : r.Agrees opened q) {t : Ticket} (ht : t.batch.Own opened) (reply : Reply) :
    (r.deliver t reply).Agrees opened (q.deliver t reply) := by
  refine h.change ht (Option.map fun b => b.resolve t.index reply) (by simp) (by simp) ?_
    (congrArg Permits.release h.permits)
  simpa using h.names

/-- The owner's change is made to the same batch in both. -/
theorem update (h : r.Agrees opened q) (hname : name.Own opened) (f : Batch → Batch) :
    (r.update name f).Agrees opened (q.update name f) := by
  refine h.change hname (Option.map f) (by simp) (by simp) ?_ h.permits
  simpa using h.names

/-- The batch is gone from both. -/
theorem closeBatch (h : r.Agrees opened q) (hname : name.Own opened) :
    (r.closeBatch name).Agrees opened (q.closeBatch name) :=
  h.change hname (fun _ => none) (fun _ => batch?_closeBatch h.names.1)
    (fun _ => batch?_closeBatch h.names.2)
    ⟨Batches.names_erase_nodup h.names.1, Batches.names_erase_nodup h.names.2⟩ h.permits

/-- The batch is empty in both. -/
theorem openBatch (h : r.Agrees opened q) (hname : name.Own opened) :
    (r.openBatch name).Agrees opened (q.openBatch name) :=
  h.change hname (fun _ => some .empty) (fun _ => batch?_openBatch h.names.1)
    (fun _ => batch?_openBatch h.names.2)
    ⟨Batches.names_put_nodup h.names.1 _, Batches.names_put_nodup h.names.2 _⟩ h.permits

/-- A batch that both open is agreed from then on, whatever they had under its label before. -/
theorem openBatch_named (h : r.Agrees opened q) (label : String) :
    (r.openBatch (.named label)).Agrees (label :: opened) (q.openBatch (.named label)) where
  names := ⟨Batches.names_put_nodup h.names.1 _, Batches.names_put_nodup h.names.2 _⟩
  permits := h.permits
  own n hn := by
    rw [batch?_openBatch h.names.1, batch?_openBatch h.names.2]
    rcases BatchName.own_cons_iff.1 hn with rfl | hold
    · rw [if_pos rfl, if_pos rfl]
    · rw [h.own n hold]
  others n hn := by
    rw [BatchName.own_cons_iff, not_or] at hn
    rw [batch?_openBatch h.names.1, batch?_openBatch h.names.2, if_neg hn.1, if_neg hn.1]
    exact h.others n hn.2

/-- Replies are handed on alike, since all commands owed belong to agreed batches. -/
theorem dispatch (h : r.Agrees opened q) (howed : ∀ t ∈ owed, t.batch.Own opened)
    (replies : List Reply) :
    (r.dispatch owed replies).1.Agrees opened (q.dispatch owed replies).1 := by
  induction replies generalizing r q owed with
  | nil => simpa using h
  | cons reply replies ih =>
      cases owed with
      | nil => simpa using h
      | cons t owed =>
          obtain ⟨ht, hlater⟩ := List.forall_mem_cons.1 howed
          exact ih (h.deliver ht reply) hlater

/-- The teardown tells the same commands. -/
theorem failAll (h : r.Agrees opened q) (howed : ∀ t ∈ owed, t.batch.Own opened)
    (message : String) : (r.failAll owed message).Agrees opened (q.failAll owed message) := by
  rw [failAll_eq_dispatch, failAll_eq_dispatch]
  exact h.dispatch howed _

end Agrees

end Registry

namespace Session

/-- Two sessions agree on the batches opened under the labels, and their links, which are the same,
concern no other batch. -/
structure Agrees (opened : List String) (s t : Session) : Prop where
  registry : s.registry.Agrees opened t.registry
  link : s.link = t.link
  owed : ∀ u ∈ s.owed, u.batch.Own opened

namespace Agrees

variable {opened : List String} {s t : Session} {name : BatchName}

/-- Both have a link or neither has. -/
theorem isUp_eq (h : s.Agrees opened t) : s.isUp = t.isUp := by
  rw [isUp, isUp, h.link]

/-- The reason for which the link is down is the same. -/
theorem error?_eq (h : s.Agrees opened t) : s.error? = t.error? := by
  rw [error?, error?, h.link]

/-- The number of unanswered commands is the same. -/
theorem inFlight_eq (h : s.Agrees opened t) : s.inFlight = t.inFlight :=
  congrArg Permits.taken h.registry.permits

/-- Whether a permit is free is the same. -/
theorem isBusy_eq (h : s.Agrees opened t) : s.isBusy = t.isBusy := by
  rw [isBusy, isBusy, h.isUp_eq, h.registry.permits]

/-- An agreed batch is the same in both. -/
theorem batch?_eq (h : s.Agrees opened t) (hname : name.Own opened) :
    s.batch? name = t.batch? name :=
  h.registry.own name hname

/-! ## What happens on the link -/

/-- An attempt to connect does not touch the batches. -/
theorem connect (h : s.Agrees opened t) (attempt : Attempt) :
    (s.connect attempt).Agrees opened (t.connect attempt) := by
  obtain ⟨registry, link⟩ := s
  obtain ⟨registry', link'⟩ := t
  obtain ⟨hregistry, rfl, howed⟩ := h
  cases link with
  | up stream owed => exact ⟨hregistry, rfl, howed⟩
  | down error => cases attempt <;> exact ⟨hregistry, rfl, List.forall_mem_nil _⟩

/-- When the link goes down, both queues are told the same. -/
theorem goDown (h : s.Agrees opened t) (message : String) (error : Option String) :
    (s.goDown message error).Agrees opened (t.goDown message error) := by
  obtain ⟨registry, link⟩ := s
  obtain ⟨registry', link'⟩ := t
  obtain ⟨hregistry, rfl, howed⟩ := h
  cases link with
  | down error => exact ⟨hregistry, rfl, howed⟩
  | up stream owed => exact ⟨hregistry.failAll howed message, rfl, List.forall_mem_nil _⟩

/-- The same bytes carry the same replies, or break the format in the same way. -/
theorem receive (h : s.Agrees opened t) (bytes : Bytes) :
    (s.receive bytes).Agrees opened (t.receive bytes) := by
  have hdown := h.goDown
  obtain ⟨registry, link⟩ := s
  obtain ⟨registry', link'⟩ := t
  obtain ⟨hregistry, rfl, howed⟩ := h
  cases link with
  | down error => exact ⟨hregistry, rfl, howed⟩
  | up stream owed =>
      rw [receive_up, receive_up]
      cases (stream.feed bytes).fault with
      | some fault => exact hdown _ _
      | none =>
          refine ⟨hregistry.dispatch howed _, ?_, fun u hu => ?_⟩
          · simp
          · exact howed u ((Registry.dispatch_suffix _).subset hu)

/-- Some last bytes and the end of the link do the same to both. -/
theorem hangUp (h : s.Agrees opened t) (bytes : Bytes) :
    (s.hangUp bytes).Agrees opened (t.hangUp bytes) :=
  (h.receive bytes).goDown _ _

/-! ## What is done to agreed batches -/

/-- A command that is submitted on an agreed batch gets the same ticket in both. -/
theorem submit (h : s.Agrees opened t) (hname : name.Own opened) :
    (s.submit name).Agrees opened (t.submit name) := by
  have hbatch := h.batch?_eq hname
  obtain ⟨registry, link⟩ := s
  obtain ⟨registry', link'⟩ := t
  obtain ⟨hregistry, rfl, howed⟩ := h
  rw [Session.submit, Session.submit, nextTicket?, nextTicket?, ← hbatch]
  cases batch? ⟨registry, link⟩ name with
  | none => exact ⟨hregistry, rfl, howed⟩
  | some b =>
      have hentered := hregistry.enter hname
      cases link with
      | down error => exact ⟨hentered.deliver hname _, rfl, List.forall_mem_nil _⟩
      | up stream owed =>
          exact ⟨hentered, rfl, List.forall_mem_append.2 ⟨howed, List.forall_mem_singleton.2 hname⟩⟩

/-- A change to a batch of one's own is made in both. -/
theorem update (h : s.Agrees opened t) (hname : name.Own opened) (f : Batch → Batch) :
    (s.update name f).Agrees opened (t.update name f) :=
  ⟨h.registry.update hname f, h.link, h.owed⟩

/-- A batch of one's own that both close is gone from both. -/
theorem closeBatch (h : s.Agrees opened t) (hname : name.Own opened) :
    (s.closeBatch name).Agrees opened (t.closeBatch name) :=
  ⟨h.registry.closeBatch hname, h.link, h.owed⟩

/-- A batch of one's own that both open is empty in both. -/
theorem openBatch (h : s.Agrees opened t) (hname : name.Own opened) :
    (s.openBatch name).Agrees opened (t.openBatch name) :=
  ⟨h.registry.openBatch hname, h.link, h.owed⟩

/-- A batch that both sessions open is agreed from then on. -/
theorem openBatch_named (h : s.Agrees opened t) (label : String) :
    (s.openBatch (.named label)).Agrees (label :: opened) (t.openBatch (.named label)) :=
  ⟨h.registry.openBatch_named label, h.link,
    fun u hu => BatchName.own_cons_iff.2 (.inr (h.owed u hu))⟩

/-! ## One-shot calls -/

/-- The exchange of a one-shot call goes the same way in both. -/
theorem exchange (h : s.Agrees opened t) (server : Server) (c : Command) :
    (s.exchange server c).1.Agrees opened (t.exchange server c).1 := by
  have hown := BatchName.own_oneShot opened
  have hanswered := (h.submit hown).receive (server.answer c.frame).2
  rw [exchange_fst, exchange_fst]
  dsimp only
  rw [← hanswered.batch?_eq hown]
  split
  · split
    · exact hanswered
    · exact hanswered.goDown _ _
  · exact hanswered

end Agrees

/-- What is left of the server does not depend on the session. -/
@[simp] theorem exchange_snd (s : Session) (server : Server) (c : Command) :
    (s.exchange server c).2 = (server.answer c.frame).1 := by
  rw [exchange]
  dsimp only
  cases batch? ((s.submit .oneShot).receive (server.answer c.frame).2) .oneShot <;> rfl

/-- One-shot calls give the same results. -/
theorem Agrees.ask {opened : List String} {s t : Session} (h : s.Agrees opened t)
    (server : Server) (c : Command) :
    (s.ask server c).1.Agrees opened (t.ask server c).1 ∧
      (s.ask server c).2 = (t.ask server c).2 := by
  have hown := BatchName.own_oneShot opened
  rw [Session.ask, Session.ask, ← h.isUp_eq]
  split
  · have hexchanged := (h.openBatch hown).exchange server c
    refine ⟨hexchanged.closeBatch hown, ?_⟩
    dsimp only
    simp [hexchanged.batch?_eq hown]
  · exact ⟨h, rfl⟩

end Session

end CommandPipeline
