import CommandPipeline.Proofs.Session.Slots

/-!
# The balance of a registry

A registry is balanced against a queue of owed commands when the queue lists, for each batch, the
empty slots of that batch in order, and the counters say as much: the outstanding counter of a batch
counts its empty slots, and the permits taken are as many as the queue is long. Entering a command
puts it at the end of the queue, delivering a reply takes one off the front, and both keep the
balance. So every allowed act does.
-/

namespace CommandPipeline

/-- The positions in one batch of the commands in a queue, in the order of the queue. -/
def Ticket.positions (name : BatchName) (owed : List Ticket) : List Nat :=
  (owed.filter fun t => t.batch = name).map Ticket.index

namespace Ticket

/-- The places of a batch in a queue are those in its first part and then those in its second. -/
@[simp] theorem positions_append (name : BatchName) (owed more : List Ticket) :
    positions name (owed ++ more) = positions name owed ++ positions name more := by
  simp [positions]

/-- A command at the front of the queue has the first place of its batch. -/
@[simp] theorem positions_cons_self (t : Ticket) (owed : List Ticket) :
    positions t.batch (t :: owed) = t.index :: positions t.batch owed := by
  simp [positions]

/-- A command at the front of the queue has no place of any batch but its own. -/
theorem positions_cons_of_ne {t : Ticket} {name : BatchName} (h : t.batch ≠ name)
    (owed : List Ticket) : positions name (t :: owed) = positions name owed := by
  simp [positions, h]

/-- A batch has a place in the queue for each of its commands there. -/
@[simp] theorem mem_positions_iff {name : BatchName} {owed : List Ticket} {i : Nat} :
    i ∈ positions name owed ↔ ⟨name, i⟩ ∈ owed := by
  simp only [positions, List.mem_map, List.mem_filter, decide_eq_true_eq]
  constructor
  · rintro ⟨t, ⟨ht, rfl⟩, rfl⟩
    exact ht
  · intro h
    exact ⟨⟨name, i⟩, ⟨h, rfl⟩, rfl⟩

theorem positions_eq_nil_iff {name : BatchName} {owed : List Ticket} :
    positions name owed = [] ↔ ∀ t ∈ owed, t.batch ≠ name := by
  simp [positions, List.filter_eq_nil_iff]

/-- A queue is in order if its part for each single batch is. -/
theorem pairwise_of_positions {owed : List Ticket}
    (h : ∀ name, (positions name owed).Pairwise (· < ·)) :
    owed.Pairwise fun t u => t.batch = u.batch → t.index < u.index := by
  induction owed with
  | nil => exact .nil
  | cons t owed ih =>
      rw [List.pairwise_cons]
      constructor
      · intro u hu hbatch
        have hself := h t.batch
        rw [positions_cons_self, List.pairwise_cons] at hself
        exact hself.1 u.index (mem_positions_iff.2 (hbatch ▸ hu))
      · apply ih
        intro name
        by_cases hname : t.batch = name
        · have hself := h name
          rw [← hname, positions_cons_self, List.pairwise_cons] at hself
          exact hname ▸ hself.2
        · have hother := h name
          rwa [positions_cons_of_ne hname] at hother

end Ticket

namespace Registry

variable {r : Registry} {name n : BatchName} {owed : List Ticket} {t : Ticket}

/-! ## The balance -/

/-- What the owner of a batch and the link agree on about the commands owed. -/
structure Balances (r : Registry) (owed : List Ticket) : Prop where
  /-- No name is used twice. -/
  names : (r.batches.map Prod.fst).Nodup
  /-- The queue lists the empty slots of each batch, in order. -/
  positions : ∀ name, Ticket.positions name owed = ((r.batch? name).map Batch.waiting).getD []
  outstanding : ∀ name b, r.batch? name = some b → b.outstanding = b.waiting.length
  taken : r.permits.taken = owed.length
  bounded : owed.length ≤ r.permits.ceiling
  ceiling_pos : 0 < r.permits.ceiling

/-- An empty registry is balanced without a queue. -/
theorem balances_ofCeiling (ceiling : Nat) : (Registry.ofCeiling ceiling).Balances [] where
  names := List.nodup_nil
  positions _ := rfl
  outstanding name b h := by cases h
  taken := rfl
  bounded := Nat.zero_le _
  ceiling_pos := Nat.lt_of_lt_of_le Nat.zero_lt_one (Nat.le_max_left 1 ceiling)

namespace Balances

/-- The empty slots of a batch that is there. -/
theorem positions_eq (h : r.Balances owed) {b : Batch} (hb : r.batch? name = some b) :
    Ticket.positions name owed = b.waiting := by
  rw [h.positions, hb]
  rfl

/-- A batch has all its replies just when it has no place in the queue. -/
theorem isSettled_iff (h : r.Balances owed) {b : Batch} (hb : r.batch? name = some b) :
    b.isSettled = true ↔ Ticket.positions name owed = [] := by
  rw [Batch.isSettled, decide_eq_true_eq, h.outstanding name b hb, List.length_eq_zero_iff,
    h.positions_eq hb]

/-- A settled batch of a balanced registry has no empty slot. -/
theorem waiting_eq_nil (h : r.Balances owed) {b : Batch} (hb : r.batch? name = some b)
    (hsettled : b.isSettled = true) : b.waiting = [] := by
  rw [← h.positions_eq hb]
  exact (h.isSettled_iff hb).1 hsettled

/-- The command at the front of the queue is the first that waits in its batch. -/
theorem exists_front (h : r.Balances (t :: owed)) :
    ∃ b, r.batch? t.batch = some b ∧ b.waiting = t.index :: Ticket.positions t.batch owed := by
  have hpos := h.positions t.batch
  cases hb : r.batch? t.batch with
  | none => simp [hb] at hpos
  | some b => exact ⟨b, rfl, by simpa [hb] using hpos.symm⟩

/-- A command of the queue has an empty slot, and the other way round. -/
theorem mem_owed_iff (h : r.Balances owed) : t ∈ owed ↔ r.slot? t = some .empty := by
  have hmem := @Ticket.mem_positions_iff t.batch owed t.index
  rw [h.positions] at hmem
  rw [← show Ticket.mk t.batch t.index = t from rfl, ← hmem, slot?]
  cases hb : r.batch? t.batch with
  | none => simp
  | some b => simp

/-- A command that enters goes to the end of the queue. -/
theorem enter (h : r.Balances owed) {b : Batch} (hb : r.batch? name = some b)
    (hfree : owed.length < r.permits.ceiling) :
    (r.enter name).Balances (owed ++ [⟨name, b.size⟩]) where
  names := by
    simpa [Registry.enter] using h.names
  positions n := by
    rw [Ticket.positions_append, h.positions]
    by_cases hn : n = name
    · subst hn
      simp [hb, Ticket.positions]
    · have hne : name ≠ n := fun h => hn h.symm
      simp [hn, hne, Ticket.positions]
  outstanding n b' hb' := by
    by_cases hn : n = name
    · subst hn
      obtain rfl : b.push = b' := by simpa [hb] using hb'
      rw [Batch.waiting_push, List.length_append, ← h.outstanding n b hb]
      rfl
    · exact h.outstanding n b' (by simpa [hn] using hb')
  taken := by
    rw [List.length_append, ← h.taken]
    rfl
  bounded := by
    rw [List.length_append]
    exact hfree
  ceiling_pos := h.ceiling_pos

/-- A reply that is delivered takes one command off the front of the queue. -/
theorem deliver (h : r.Balances (t :: owed)) (reply : Reply) :
    (r.deliver t reply).Balances owed := by
  -- The front of the queue is the first empty slot of its batch, so both lists lose their head.
  obtain ⟨b, hb, hwaiting⟩ := h.exists_front
  refine ⟨?_, ?_, ?_, ?_, ?_, h.ceiling_pos⟩
  · simpa [Registry.deliver] using h.names
  · intro n
    by_cases hn : n = t.batch
    · subst hn
      rw [batch?_deliver, if_pos rfl, hb]
      exact (Batch.waiting_resolve_of_cons hwaiting reply).symm
    · have hne : t.batch ≠ n := fun h => hn h.symm
      simp [hn, ← h.positions, Ticket.positions_cons_of_ne hne]
  · intro n b' hb'
    by_cases hn : n = t.batch
    · subst hn
      obtain rfl : b.resolve t.index reply = b' := by simpa [hb] using hb'
      have hcount := h.outstanding t.batch b hb
      rw [Batch.waiting_resolve_of_cons hwaiting]
      simp [Batch.resolve, hcount, hwaiting]
    · exact h.outstanding n b' (by simpa [hn] using hb')
  · have htaken := h.taken
    rw [List.length_cons] at htaken
    have hpos : 0 < r.permits.taken := by omega
    exact Nat.succ.inj ((Permits.taken_release_add_one hpos).trans htaken)
  · have hbounded := h.bounded
    rw [List.length_cons] at hbounded
    exact Nat.le_of_succ_le hbounded

/-- The teardown of a link settles the whole queue. -/
theorem failAll (h : r.Balances owed) (message : String) :
    (r.failAll owed message).Balances [] := by
  induction owed generalizing r with
  | nil => exact h
  | cons t owed ih => exact ih (h.deliver _)

/-- A batch without unanswered commands has no place in the queue. -/
theorem positions_eq_nil (h : r.Balances owed)
    (hfree : ∀ b, r.batch? name = some b → b.isSettled = true) :
    Ticket.positions name owed = [] := by
  rw [h.positions]
  cases hb : r.batch? name with
  | none => rfl
  | some b => exact h.waiting_eq_nil hb (hfree b hb)

/-- Its owner may change a batch without unanswered commands into another one. -/
theorem update (h : r.Balances owed) (hfree : ∀ b, r.batch? name = some b → b.isSettled = true)
    {f : Batch → Batch}
    (hf : ∀ b, b.waiting = [] → b.outstanding = 0 → (f b).waiting = [] ∧ (f b).outstanding = 0) :
    (r.update name f).Balances owed := by
  have hkept : ∀ b, r.batch? name = some b → (f b).waiting = [] ∧ (f b).outstanding = 0 := by
    intro b hb
    exact hf b (h.waiting_eq_nil hb (hfree b hb)) (of_decide_eq_true (hfree b hb))
  refine ⟨?_, ?_, ?_, h.taken, h.bounded, h.ceiling_pos⟩
  · simpa [Registry.update] using h.names
  · intro n
    rw [batch?_update]
    by_cases hn : n = name
    · subst hn
      rw [if_pos rfl, h.positions_eq_nil hfree]
      cases hb : r.batch? n with
      | none => rfl
      | some b => exact (hkept b hb).1.symm
    · rw [if_neg hn, h.positions]
  · intro n b' hb'
    by_cases hn : n = name
    · subst hn
      obtain ⟨b, hb, rfl⟩ : ∃ b, r.batch? n = some b ∧ f b = b' := by simpa using hb'
      simp [hkept b hb]
    · exact h.outstanding n b' (by simpa [hn] using hb')

/-- An empty batch may take the place of one without unanswered commands. -/
theorem openBatch (h : r.Balances owed)
    (hfree : ∀ b, r.batch? name = some b → b.isSettled = true) :
    (r.openBatch name).Balances owed := by
  refine ⟨Batches.names_put_nodup h.names .empty, ?_, ?_, h.taken, h.bounded, h.ceiling_pos⟩
  · intro n
    rw [batch?_openBatch h.names]
    by_cases hn : n = name
    · subst hn
      rw [if_pos rfl, h.positions_eq_nil hfree]
      rfl
    · rw [if_neg hn, h.positions]
  · intro n b hb
    rw [batch?_openBatch h.names] at hb
    by_cases hn : n = name
    · rw [if_pos hn, Option.some.injEq] at hb
      subst hb
      rfl
    · rw [if_neg hn] at hb
      exact h.outstanding n b hb

/-- A batch without unanswered commands may go. -/
theorem closeBatch (h : r.Balances owed)
    (hfree : ∀ b, r.batch? name = some b → b.isSettled = true) :
    (r.closeBatch name).Balances owed := by
  refine ⟨Batches.names_erase_nodup h.names, ?_, ?_, h.taken, h.bounded, h.ceiling_pos⟩
  · intro n
    rw [batch?_closeBatch h.names]
    by_cases hn : n = name
    · subst hn
      rw [if_pos rfl, h.positions_eq_nil hfree]
      rfl
    · rw [if_neg hn, h.positions]
  · intro n b hb
    rw [batch?_closeBatch h.names] at hb
    by_cases hn : n = name
    · rw [if_pos hn] at hb
      cases hb
    · rw [if_neg hn] at hb
      exact h.outstanding n b hb

end Balances

/-! ## The ceiling -/

@[simp] theorem ceiling_failAll (message : String) :
    (r.failAll owed message).permits.ceiling = r.permits.ceiling := by
  induction owed generalizing r with
  | nil => rfl
  | cons t owed ih => exact ih

end Registry

namespace Session

variable {s : Session}

/-- The registry of a session is balanced against what its link owes. -/
def Balanced (s : Session) : Prop := s.registry.Balances s.owed

theorem balanced_ofCeiling (ceiling : Nat) : (ofCeiling ceiling).Balanced :=
  Registry.balances_ofCeiling ceiling

/-- A permit is free unless the session is busy. While the link is down all of them are. -/
theorem Balanced.exists_permit (h : s.Balanced) (hbusy : s.isBusy = false) :
    s.owed.length < s.registry.permits.ceiling := by
  obtain ⟨registry, link⟩ := s
  cases link with
  | down error => exact h.ceiling_pos
  | up stream owed =>
      have hfull : registry.permits.isFull = false := hbusy
      have htaken : registry.permits.taken = owed.length := h.taken
      rw [Permits.isFull, decide_eq_false_iff_not, htaken] at hfull
      exact Nat.lt_of_not_le hfull

/-- A command that is submitted waits at the end of the queue, or is answered on the spot. -/
theorem Balanced.submit (h : s.Balanced) {name : BatchName} (hbusy : s.isBusy = false)
    (hname : (s.batch? name).isSome) : (s.submit name).Balanced := by
  obtain ⟨b, hb⟩ := Option.isSome_iff_exists.1 hname
  have hentered := Registry.Balances.enter h hb (h.exists_permit hbusy)
  rw [Session.submit, nextTicket?_eq_some hb]
  obtain ⟨registry, link⟩ := s
  cases link with
  | up stream owed => exact hentered
  | down error => exact hentered.deliver _

/-- Whatever may happen to a session keeps it balanced. -/
theorem Balanced.act (h : s.Balanced) {a : Act} (ha : s.Allows a) : (s.act a).Balanced := by
  obtain ⟨registry, link⟩ := s
  cases a with
  | connect attempt =>
      cases link with
      | up stream owed => exact h
      | down error => cases attempt <;> exact h
  | arrive bytes => cases link <;> exact h
  | answer r =>
      cases link with
      | down error => exact h
      | up stream owed =>
          cases owed with
          | nil => exact h
          | cons t owed => exact Registry.Balances.deliver h r
  | goDown message error =>
      cases link with
      | down error => exact h
      | up stream owed => exact Registry.Balances.failAll h message
  | submit name => exact h.submit ha.1 ha.2
  | openBatch name => exact Registry.Balances.openBatch h ha
  | closeBatch name => exact Registry.Balances.closeBatch h ha
  | reset name => exact Registry.Balances.update h ha fun _ _ _ => ⟨rfl, rfl⟩
  | overwrite name changes =>
      apply Registry.Balances.update h ha
      intro b hwaiting houtstanding
      exact ⟨Batch.waiting_overwriteAll hwaiting changes, by simpa using houtstanding⟩

/-- The number of permits is fixed. -/
@[simp] theorem ceiling_act (s : Session) (a : Act) :
    (s.act a).registry.permits.ceiling = s.registry.permits.ceiling := by
  obtain ⟨registry, link⟩ := s
  cases a with
  | connect attempt =>
      cases link with
      | up stream owed => rfl
      | down error => cases attempt <;> rfl
  | arrive bytes => cases link <;> rfl
  | answer r =>
      cases link with
      | down error => rfl
      | up stream owed => cases owed <;> rfl
  | goDown message error =>
      cases link with
      | down error => rfl
      | up stream owed => exact Registry.ceiling_failAll message
  | submit name =>
      rw [Session.act, Session.submit]
      cases nextTicket? ⟨registry, link⟩ name with
      | none => rfl
      | some ticket => cases link <;> rfl
  | openBatch name => rfl
  | closeBatch name => rfl
  | reset name => rfl
  | overwrite name changes => rfl

end Session

end CommandPipeline
