import CommandPipeline.Proofs.Session.Runs

/-!
# Conservation of permits and commands

Between the steps of any run the queue of owed commands, the empty slots of the batches, their
outstanding counters and the permits taken all say the same. `Session.Conserves` spells that out.

A permit given back too many would wrap the count of the permits around, but the counter of a batch
only stops at zero when it is taken down too often, and a state in between two acts shows neither.
`Session.play?` therefore carries out acts with the checks that the counters assert: it has no
result as soon as a permit is taken that is not free, a permit is given back that nobody holds, or a
batch counts down from zero. The acts of every run pass all checks.
-/

namespace CommandPipeline

/-! ## Counting the queue -/

namespace Ticket

/-- A queue consists of the commands of one batch and of all others. -/
theorem length_eq_add_filter (name : BatchName) (owed : List Ticket) :
    owed.length =
      (positions name owed).length + (owed.filter fun t => t.batch ≠ name).length := by
  induction owed with
  | nil => rfl
  | cons t owed ih =>
      by_cases ht : t.batch = name
      · subst ht
        simp only [positions_cons_self, ne_eq, not_true_eq_false, decide_false, Bool.false_eq_true,
          not_false_eq_true, List.filter_cons_of_neg, List.length_cons, ih]
        omega
      · simp only [positions_cons_of_ne ht, ne_eq, ht, not_false_eq_true, decide_true,
          List.filter_cons_of_pos, List.length_cons, ih]
        omega

/-- Leaving one batch out of a queue does not change the places of the others. -/
theorem positions_filter_ne {name n : BatchName} (hn : n ≠ name) (owed : List Ticket) :
    positions n (owed.filter fun t => t.batch ≠ name) = positions n owed := by
  rw [positions, List.filter_filter, positions]
  congr 1
  apply List.filter_congr
  intro t _
  by_cases ht : t.batch = n
  · simp [ht, hn]
  · simp [ht]

end Ticket

/-- The unanswered commands that all batches count. -/
def Batches.outstanding : Batches → Nat
  | [] => 0
  | (_, b) :: batches => b.outstanding + outstanding batches

/-- A queue is as long as its parts for the single batches together. -/
theorem Batches.outstanding_eq_length {batches : Batches} (hnames : (batches.map Prod.fst).Nodup)
    {owed : List Ticket}
    (hcount : ∀ name b, (name, b) ∈ batches →
      b.outstanding = (Ticket.positions name owed).length)
    (howed : ∀ t ∈ owed, t.batch ∈ batches.map Prod.fst) :
    outstanding batches = owed.length := by
  -- The part of the first batch is taken out of the queue, and the rest is left to the others.
  induction batches generalizing owed with
  | nil =>
      cases owed with
      | nil => rfl
      | cons t owed => exact absurd (howed t List.mem_cons_self) List.not_mem_nil
  | cons entry batches ih =>
      obtain ⟨name, b⟩ := entry
      rw [List.map_cons, List.nodup_cons] at hnames
      obtain ⟨hname, hnames⟩ := hnames
      have hrest :
          outstanding batches = (owed.filter fun t => t.batch ≠ name).length := by
        apply ih hnames
        · intro n c hmem
          have hne : n ≠ name := by
            rintro rfl
            exact hname (List.mem_map.2 ⟨_, hmem, rfl⟩)
          rw [Ticket.positions_filter_ne hne]
          exact hcount n c (List.mem_cons_of_mem _ hmem)
        · intro t ht
          obtain ⟨hmem, hne⟩ := List.mem_filter.1 ht
          exact (List.mem_cons.1 (howed t hmem)).resolve_left (of_decide_eq_true hne)
      rw [outstanding, hrest, hcount name b List.mem_cons_self,
        ← Ticket.length_eq_add_filter name owed]

/-- The counts of all batches add up to the length of the queue, by induction on the batches. -/
theorem Registry.Balances.outstanding_eq {r : Registry} {owed : List Ticket}
    (h : r.Balances owed) : Batches.outstanding r.batches = owed.length := by
  apply Batches.outstanding_eq_length h.names
  · intro name b hmem
    have hb := Batches.get?_of_mem h.names hmem
    rw [h.positions_eq hb]
    exact h.outstanding name b hb
  · intro t ht
    obtain ⟨b, hb, -⟩ := Option.bind_eq_some_iff.1 (h.mem_owed_iff.1 ht)
    exact Batches.mem_names_of_get? hb

/-! ## What is conserved -/

/-- The queue, the slots, the counters and the permits of a session say the same, and the session
has the given number of permits. -/
structure Session.Conserves (s : Session) (ceiling : Nat) : Prop where
  /-- The queue lists the unresolved slots of the batches and nothing else. -/
  listed : ∀ t, t ∈ s.owed ↔ s.slot? t = some .empty
  /-- It lists each of them once. -/
  once : s.owed.Nodup
  /-- The slots of one batch come in the order of submission. -/
  ordered : s.owed.Pairwise fun t u => t.batch = u.batch → t.index < u.index
  /-- A permit is taken for each command of the queue. -/
  taken : s.inFlight = s.owed.length
  /-- The counters of all batches add up to the permits taken. -/
  counted : s.inFlight = Batches.outstanding s.registry.batches
  /-- The counter of a batch is the number of its unresolved slots. -/
  outstanding : ∀ name b, s.batch? name = some b → b.outstanding = b.waiting.length
  pool : s.registry.permits.ceiling = ceiling
  bounded : s.inFlight ≤ ceiling
  /-- Nothing is owed without a link. -/
  down : s.isUp = false → s.owed = [] ∧ s.inFlight = 0

namespace Session

variable {s t : Session} {acts : List Act}

/-- In a balanced session all the counts agree. -/
theorem Balanced.conserves (h : s.Balanced) : s.Conserves s.registry.permits.ceiling := by
  have hordered : s.owed.Pairwise fun t u => t.batch = u.batch → t.index < u.index := by
    apply Ticket.pairwise_of_positions
    intro name
    rw [Registry.Balances.positions h]
    cases s.registry.batch? name with
    | none => exact .nil
    | some b => exact b.waiting_pairwise
  have htaken : s.inFlight = s.owed.length := Registry.Balances.taken h
  refine ⟨fun _ => Registry.Balances.mem_owed_iff h, ?_, hordered, htaken, ?_,
    Registry.Balances.outstanding h, rfl, ?_, ?_⟩
  · apply hordered.imp
    rintro t u htu rfl
    exact Nat.lt_irrefl _ (htu rfl)
  · rw [htaken]
    exact (Registry.Balances.outstanding_eq h).symm
  · rw [htaken]
    exact Registry.Balances.bounded h
  · intro hdown
    have howed := owed_of_down hdown
    exact ⟨howed, by rw [htaken, howed]; rfl⟩

/-- No act changes the number of permits. -/
theorem Plays.ceiling_eq (h : s.Plays acts t) :
    t.registry.permits.ceiling = s.registry.permits.ceiling :=
  h.preserves (P := fun u => u.registry.permits.ceiling = s.registry.permits.ceiling)
    (fun u a hu _ => (u.ceiling_act a).trans hu) rfl

end Session

/-! ## Acts with checks -/

namespace Registry

/-- Enters a command if a permit is free. -/
def enter? (r : Registry) (name : BatchName) : Option Registry :=
  r.permits.acquire?.map fun permits => ⟨permits, Batches.modify name Batch.push r.batches⟩

/-- Delivers the reply to a command if a permit is taken and its batch counts an unanswered
command. -/
def deliver? (r : Registry) (t : Ticket) (reply : Reply) : Option Registry :=
  match r.permits.release?, r.batch? t.batch with
  | some permits, some b =>
    if b.outstanding = 0 then none
    else some ⟨permits, Batches.modify t.batch (fun b => b.resolve t.index reply) r.batches⟩
  | _, _ => none

/-- Answers all the given commands with the same error. -/
def failAll? (r : Registry) (owed : List Ticket) (message : String) : Option Registry :=
  owed.foldlM (fun r t => r.deliver? t (.error message)) r

variable {r : Registry} {owed : List Ticket} {t : Ticket}

/-- While a permit is free, taking one succeeds. -/
theorem enter?_eq_some (name : BatchName) (hfree : r.permits.taken < r.permits.ceiling) :
    r.enter? name = some (r.enter name) := by
  have hfull : r.permits.isFull = false := decide_eq_false (Nat.not_le_of_lt hfree)
  rw [enter?, Permits.acquire?, hfull]
  rfl

/-- Delivering to the front of the queue finds both counters above zero. -/
theorem Balances.deliver?_eq_some (h : r.Balances (t :: owed)) (reply : Reply) :
    r.deliver? t reply = some (r.deliver t reply) := by
  obtain ⟨b, hb, hwaiting⟩ := h.exists_front
  have hcount : b.outstanding ≠ 0 := by
    rw [h.outstanding t.batch b hb, hwaiting, List.length_cons]
    exact Nat.succ_ne_zero _
  have htaken : r.permits.taken ≠ 0 := by
    rw [h.taken, List.length_cons]
    exact Nat.succ_ne_zero _
  rw [deliver?, Permits.release?, if_neg htaken, hb]
  exact if_neg hcount

/-- While the queue is told of an error, no count is at zero when it is lowered. -/
theorem Balances.failAll?_eq_some (h : r.Balances owed) (message : String) :
    r.failAll? owed message = some (r.failAll owed message) := by
  induction owed generalizing r with
  | nil => rfl
  | cons t owed ih =>
      rw [failAll?, List.foldlM_cons, h.deliver?_eq_some]
      exact ih (h.deliver _)

end Registry

namespace Session

/-- Carries out an act with checks. Acts that leave all counters alone need none. -/
def act? (s : Session) : Act → Option Session
  | .answer r =>
    match s.link with
    | .up stream (t :: owed) => (s.registry.deliver? t r).map fun registry =>
        ⟨registry, .up stream owed⟩
    | _ => some s
  | .goDown message error =>
    match s.link with
    | .down _ => some s
    | .up _ owed => (s.registry.failAll? owed message).map fun registry => ⟨registry, .down error⟩
  | .submit name =>
    match s.nextTicket? name with
    | none => some s
    | some ticket =>
      match s.link with
      | .up stream owed => (s.registry.enter? name).map fun registry =>
          ⟨registry, .up stream (owed ++ [ticket])⟩
      | .down error => do
        let registry ← s.registry.enter? name
        let registry ← registry.deliver? ticket (.error (error.getD Slot.abandonedMessage))
        return ⟨registry, .down error⟩
  | a => some (s.act a)

/-- Carries out acts one after another, with checks. -/
def play? (s : Session) (acts : List Act) : Option Session := acts.foldlM act? s

variable {s t : Session} {acts : List Act}

/-- A submission that is allowed passes its checks. -/
theorem Balanced.submit?_eq_some (h : s.Balanced) {name : BatchName} (hbusy : s.isBusy = false)
    (hname : (s.batch? name).isSome) : s.act? (.submit name) = some (s.submit name) := by
  obtain ⟨b, hb⟩ := Option.isSome_iff_exists.1 hname
  have hpermit := h.exists_permit hbusy
  have hentered := Registry.Balances.enter h hb hpermit
  rw [← Registry.Balances.taken h] at hpermit
  rw [act?, Session.submit, nextTicket?_eq_some hb]
  obtain ⟨registry, link⟩ := s
  cases link with
  | up stream owed =>
      dsimp only
      rw [Registry.enter?_eq_some name hpermit]
      rfl
  | down error =>
      have hdelivered := hentered.deliver?_eq_some (.error (error.getD Slot.abandonedMessage))
      dsimp only
      rw [Registry.enter?_eq_some name hpermit]
      dsimp only [bind, Option.bind]
      rw [hdelivered]
      rfl

/-- An allowed act of a balanced session passes its checks. -/
theorem Balanced.act?_eq_some (h : s.Balanced) {a : Act} (ha : s.Allows a) :
    s.act? a = some (s.act a) := by
  cases a with
  | answer r =>
      obtain ⟨registry, link⟩ := s
      cases link with
      | down error => rfl
      | up stream owed =>
          cases owed with
          | nil => rfl
          | cons t owed =>
              have hdelivered : registry.deliver? t r = some (registry.deliver t r) :=
                Registry.Balances.deliver?_eq_some h r
              rw [act?]
              dsimp only
              rw [hdelivered]
              rfl
  | goDown message error =>
      obtain ⟨registry, link⟩ := s
      cases link with
      | down error => rfl
      | up stream owed =>
          have hanswered : registry.failAll? owed message = some (registry.failAll owed message) :=
            Registry.Balances.failAll?_eq_some h message
          rw [act?]
          dsimp only
          rw [hanswered]
          rfl
  | submit name => exact h.submit?_eq_some ha.1 ha.2
  | connect attempt => rfl
  | arrive bytes => rfl
  | openBatch name => rfl
  | closeBatch name => rfl
  | reset name => rfl
  | overwrite name changes => rfl

/-- The checks of all acts are passed, by induction on the play. -/
theorem Plays.play?_eq_some (h : s.Plays acts t) (hs : s.Balanced) : s.play? acts = some t := by
  induction h with
  | nil s => rfl
  | cons ha _ ih =>
      rw [play?, List.foldlM_cons, hs.act?_eq_some ha]
      exact ih (hs.act ha)

end Session

/-! ## Runs -/

/-- After every run the queue, the slots, the counters and the permits agree, and none of the acts
of the run takes a permit too many, gives back a permit too many or counts down from zero. -/
theorem Client.run_conserves (ceiling : Nat) (steps : List Step) :
    ((ofCeiling ceiling).run steps).session.Conserves (max 1 ceiling) ∧
      (Session.ofCeiling ceiling).play? ((ofCeiling ceiling).acts steps) =
        some ((ofCeiling ceiling).run steps).session := by
  obtain ⟨hplays, hready⟩ := leads_run_ofCeiling ceiling steps
  have hpool : ((ofCeiling ceiling).run steps).session.registry.permits.ceiling = max 1 ceiling :=
    hplays.ceiling_eq
  constructor
  · rw [← hpool]
    exact hready.balanced.conserves
  · exact hplays.play?_eq_some (Session.balanced_ofCeiling ceiling)

end CommandPipeline
