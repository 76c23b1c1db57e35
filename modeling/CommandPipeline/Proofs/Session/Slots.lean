import CommandPipeline.Proofs.Session.Acts
import CommandPipeline.Proofs.Session.Batches

/-!
# Slots under their tickets

A ticket leads to a slot through the name of its batch. This module says what each act does to the
slot of a ticket and to the number of commands of a batch. Replies change a slot only by filling it,
submissions change no slot that is there, and what else happens to a batch is its owner's doing.
-/

namespace CommandPipeline

/-! ## Slots that are filled -/

namespace Slot

/-- A slot stays as it is, or it is filled. -/
def Grows (old new : Slot) : Prop := new = old ∨ old = .empty ∧ new ≠ .empty

theorem Grows.refl (s : Slot) : s.Grows s := .inl rfl

/-- A slot that has been filled stays as it is. -/
theorem Grows.trans {old new newer : Slot} (h : old.Grows new) (hnewer : new.Grows newer) :
    old.Grows newer := by
  rcases hnewer with rfl | ⟨hempty, hfilled⟩
  · exact h
  · rcases h with rfl | ⟨-, hnew⟩
    · exact .inr ⟨hempty, hfilled⟩
    · exact absurd hempty hnew

/-- Filling a slot leaves a reply that is there alone. -/
theorem grows_fill (s : Slot) (r : Reply) : s.Grows (s.fill r) := by
  obtain ⟨content⟩ := s
  cases content with
  | none => exact .inr ⟨rfl, fill_ne_empty _ r⟩
  | some _ => exact .inl rfl

end Slot

namespace Registry

variable {r : Registry} {name n : BatchName} {owed : List Ticket} {t u : Ticket} {old : Slot}

/-! ## Looking up batches -/

/-- Only the batch that a command enters is changed. -/
@[simp] theorem batch?_enter : (r.enter name).batch? n =
    if n = name then (r.batch? n).map Batch.push else r.batch? n :=
  Batches.get?_modify _

/-- Only the batch that a reply is delivered to is changed. -/
@[simp] theorem batch?_deliver (reply : Reply) : (r.deliver t reply).batch? n =
    if n = t.batch then (r.batch? n).map (fun b => b.resolve t.index reply) else r.batch? n :=
  Batches.get?_modify _

/-- Only the batch that its owner changes is changed. -/
@[simp] theorem batch?_update (f : Batch → Batch) : (r.update name f).batch? n =
    if n = name then (r.batch? n).map f else r.batch? n :=
  Batches.get?_modify _

/-- A batch that is opened is empty, and all others are as they were. -/
@[simp] theorem batch?_openBatch (hnames : (r.batches.map Prod.fst).Nodup) :
    (r.openBatch name).batch? n = if n = name then some .empty else r.batch? n :=
  Batches.get?_put hnames .empty

/-- A batch that is closed is gone, and all others are as they were. -/
@[simp] theorem batch?_closeBatch (hnames : (r.batches.map Prod.fst).Nodup) :
    (r.closeBatch name).batch? n = if n = name then none else r.batch? n :=
  Batches.get?_erase hnames

/-! ## Slots and sizes -/

/-- The slot of a ticket. -/
def slot? (r : Registry) (t : Ticket) : Option Slot :=
  (r.batch? t.batch).bind fun b => b.slots[t.index]?

/-- The number of commands of a batch, and zero if there is no such batch. -/
def size (r : Registry) (name : BatchName) : Nat := ((r.batch? name).map Batch.size).getD 0

/-- The slot of a ticket depends only on its batch. -/
theorem slot?_congr {r' : Registry} (h : r'.batch? t.batch = r.batch? t.batch) :
    r'.slot? t = r.slot? t := by
  rw [slot?, slot?, h]

/-- A batch that stays as it is keeps its slots. -/
theorem grows_of_batch?_eq {r' : Registry} (hbatch : r'.batch? t.batch = r.batch? t.batch)
    (h : r.slot? t = some old) : ∃ new, r'.slot? t = some new ∧ old.Grows new :=
  ⟨old, (slot?_congr hbatch).trans h, .refl old⟩

/-- A ticket with a slot is one of its batch. -/
theorem index_lt_size (h : r.slot? t = some old) : t.index < r.size t.batch := by
  rw [slot?, Option.bind_eq_some_iff] at h
  obtain ⟨b, hb, hslot⟩ := h
  obtain ⟨hindex, -⟩ := Array.getElem?_eq_some_iff.1 hslot
  rw [size, hb]
  exact hindex

/-- Every ticket of a batch has a slot. -/
theorem exists_slot_of_index_lt (h : t.index < r.size t.batch) : ∃ old, r.slot? t = some old := by
  rw [size] at h
  rw [slot?]
  cases hb : r.batch? t.batch with
  | none =>
      rw [hb] at h
      exact absurd h (Nat.not_lt_zero _)
  | some b =>
      rw [hb] at h
      exact ⟨_, Array.getElem?_eq_getElem h⟩

/-! ## Replies -/

/-- The reply fills the slot of its ticket. -/
theorem slot?_deliver_self (reply : Reply) (h : r.slot? t = some old) :
    (r.deliver t reply).slot? t = some (old.fill reply) := by
  rw [slot?, Option.bind_eq_some_iff] at h
  obtain ⟨b, hb, hslot⟩ := h
  simp [slot?, hb, Batch.resolve, Array.getElem?_modify, hslot]

/-- A reply leaves all slots alone but that of its ticket. -/
theorem slot?_deliver_of_ne (reply : Reply) (h : u ≠ t) :
    (r.deliver t reply).slot? u = r.slot? u := by
  by_cases hbatch : u.batch = t.batch
  · have hindex : t.index ≠ u.index := by
      intro hindex
      obtain ⟨name, i⟩ := u
      obtain ⟨name', i'⟩ := t
      exact h (by rw [show name = name' from hbatch, show i' = i from hindex])
    rw [slot?, slot?, batch?_deliver, if_pos hbatch]
    cases r.batch? u.batch with
    | none => rfl
    | some b => simp [Batch.resolve, Array.getElem?_modify, hindex]
  · apply slot?_congr
    simp [hbatch]

/-- Whichever slot one looks at, a reply lets it grow at most. -/
theorem slot?_deliver (t : Ticket) (reply : Reply) (h : r.slot? u = some old) :
    ∃ new, (r.deliver t reply).slot? u = some new ∧ old.Grows new := by
  by_cases hu : u = t
  · subst hu
    exact ⟨_, slot?_deliver_self reply h, old.grows_fill reply⟩
  · exact ⟨old, (slot?_deliver_of_ne reply hu).trans h, .refl old⟩

/-- A teardown fills slots and does nothing else to them, by induction on the queue. -/
theorem slot?_failAll (message : String) (h : r.slot? u = some old) :
    ∃ new, (r.failAll owed message).slot? u = some new ∧ old.Grows new := by
  induction owed generalizing r old with
  | nil => exact ⟨old, h, .refl old⟩
  | cons t owed ih =>
      obtain ⟨mid, hmid, hgrows⟩ := slot?_deliver t (.error message) h
      obtain ⟨new, hnew, hmore⟩ := ih hmid
      exact ⟨new, hnew, hgrows.trans hmore⟩

@[simp] theorem size_deliver (t : Ticket) (reply : Reply) :
    (r.deliver t reply).size n = r.size n := by
  rw [size, size, batch?_deliver]
  split
  · cases r.batch? n <;> simp
  · rfl

@[simp] theorem size_failAll (message : String) : (r.failAll owed message).size n = r.size n := by
  induction owed generalizing r with
  | nil => rfl
  | cons t owed ih => exact ih.trans (size_deliver t _)

/-! ## Submissions -/

/-- A new command leaves the slots of all others alone. -/
theorem slot?_enter (h : r.slot? u = some old) : (r.enter name).slot? u = some old := by
  rw [slot?, Option.bind_eq_some_iff] at h
  obtain ⟨b, hb, hslot⟩ := h
  obtain ⟨hindex, -⟩ := Array.getElem?_eq_some_iff.1 hslot
  have hne : u.index ≠ b.slots.size := Nat.ne_of_lt hindex
  rw [slot?, batch?_enter, hb]
  split
  · simp [Batch.push, Array.getElem?_push, hne, hslot]
  · exact hslot

/-- The slot of a new command comes behind all others. -/
theorem slot?_enter_new {b : Batch} (hb : r.batch? name = some b) :
    (r.enter name).slot? ⟨name, b.size⟩ = some .empty := by
  simp [slot?, hb, Batch.push, Batch.size]

/-- A command adds one to the size of the batch that it enters. -/
theorem size_enter (h : (r.batch? name).isSome) :
    (r.enter name).size n = if n = name then r.size n + 1 else r.size n := by
  by_cases hn : n = name
  · subst hn
    obtain ⟨b, hb⟩ := Option.isSome_iff_exists.1 h
    simp [size, hb]
  · simp [size, hn]

/-! ## What owners do -/

theorem size_openBatch (hnames : (r.batches.map Prod.fst).Nodup) :
    (r.openBatch name).size n = if n = name then 0 else r.size n := by
  rw [size, size, batch?_openBatch hnames]
  split <;> rfl

theorem size_closeBatch (hnames : (r.batches.map Prod.fst).Nodup) :
    (r.closeBatch name).size n = if n = name then 0 else r.size n := by
  rw [size, size, batch?_closeBatch hnames]
  split <;> rfl

@[simp] theorem size_reset :
    (r.update name fun _ => .empty).size n = if n = name then 0 else r.size n := by
  rw [size, size, batch?_update]
  split
  · cases r.batch? n <;> rfl
  · rfl

@[simp] theorem size_overwrite (changes : List (Nat × Reply)) :
    (r.update name fun b => b.overwriteAll changes).size n = r.size n := by
  rw [size, size, batch?_update]
  split
  · cases r.batch? n <;> simp
  · rfl

end Registry

/-! ## Acts -/

/-- The batch that an act leaves without commands. -/
def Act.cleared? : Act → Option BatchName
  | .openBatch name | .closeBatch name | .reset name => some name
  | _ => none

namespace Session

variable {s : Session} {a : Act} {t : Ticket} {n : BatchName} {old : Slot}

@[simp] theorem batch?_update (f : Batch → Batch) {name : BatchName} :
    (s.update name f).batch? n = if n = name then (s.batch? n).map f else s.batch? n :=
  s.registry.batch?_update f

/-- The slot of a ticket. -/
def slot? (s : Session) (t : Ticket) : Option Slot := s.registry.slot? t

/-- The number of commands of a batch, and zero if there is no such batch. -/
def size (s : Session) (name : BatchName) : Nat := s.registry.size name

/-- The size of a batch that is there is its own. -/
theorem size_eq_of_batch? {name : BatchName} {b : Batch} (hb : s.batch? name = some b) :
    s.size name = b.size :=
  congrArg (fun batch : Option Batch => (batch.map Batch.size).getD 0) hb

/-- The slot of a ticket is the slot of its batch at that position. -/
theorem slot?_eq_of_batch? {name : BatchName} {b : Batch} (hb : s.batch? name = some b)
    (i : Nat) : s.slot? ⟨name, i⟩ = b.slots[i]? :=
  congrArg (fun batch : Option Batch => batch.bind fun b => b.slots[i]?) hb

/-- The next command of a batch goes behind all others. -/
theorem nextTicket?_eq_some {name : BatchName} {b : Batch} (hb : s.batch? name = some b) :
    s.nextTicket? name = some ⟨name, b.size⟩ := by
  rw [nextTicket?, hb]
  rfl

/-- The batch that gets a further command from an act. -/
def added? (s : Session) : Act → Option BatchName
  | .submit name => if (s.batch? name).isSome then some name else none
  | _ => none

/-- What its owner does to a slot by overwriting. Positions that are not named keep what they hold,
and no slot is emptied. -/
theorem slot?_overwrite (changes : List (Nat × Reply)) (h : s.slot? t = some old) :
    ∃ new, (s.act (.overwrite t.batch changes)).slot? t = some new ∧
      (t.index ∉ changes.map Prod.fst → new = old) ∧ (new = .empty → old = .empty) := by
  rw [slot?, Registry.slot?, Option.bind_eq_some_iff] at h
  obtain ⟨b, hb, hslot⟩ := h
  obtain ⟨hindex, -⟩ := Array.getElem?_eq_some_iff.1 hslot
  have hthere : t.index < (b.overwriteAll changes).slots.size := by
    rw [← Batch.size, b.size_overwriteAll changes]
    exact hindex
  have hnew := Array.getElem?_eq_getElem hthere
  refine ⟨(b.overwriteAll changes).slots[t.index], ?_, ?_, ?_⟩
  · rw [act, slot?, Registry.slot?, update, Registry.batch?_update, if_pos rfl, hb]
    exact hnew
  · intro hmem
    rw [Batch.slot_overwriteAll_of_not_mem hmem, hslot, Option.some.injEq] at hnew
    exact hnew.symm
  · intro hempty
    rw [hempty] at hnew
    have hslot' := Batch.slot_of_overwriteAll hnew
    rw [hslot, Option.some.injEq] at hslot'
    exact hslot'

/-- An act that neither takes a slot away nor is its owner's leaves it as it is or fills it. -/
theorem slot?_act (hnames : (s.registry.batches.map Prod.fst).Nodup)
    (hkept : a.cleared? ≠ some t.batch) (hforeign : ∀ changes, a ≠ .overwrite t.batch changes)
    (h : s.slot? t = some old) : ∃ new, (s.act a).slot? t = some new ∧ old.Grows new := by
  obtain ⟨registry, link⟩ := s
  cases a with
  | connect attempt =>
      cases link with
      | up stream owed => exact ⟨old, h, .refl old⟩
      | down error => cases attempt <;> exact ⟨old, h, .refl old⟩
  | arrive bytes => cases link <;> exact ⟨old, h, .refl old⟩
  | answer reply =>
      cases link with
      | down error => exact ⟨old, h, .refl old⟩
      | up stream owed =>
          cases owed with
          | nil => exact ⟨old, h, .refl old⟩
          | cons front owed => exact Registry.slot?_deliver front reply h
  | goDown message error =>
      cases link with
      | down error => exact ⟨old, h, .refl old⟩
      | up stream owed => exact Registry.slot?_failAll message h
  | submit name =>
      rw [act, submit]
      cases nextTicket? ⟨registry, link⟩ name with
      | none => exact ⟨old, h, .refl old⟩
      | some ticket =>
          have hentered : (registry.enter name).slot? t = some old := Registry.slot?_enter h
          cases link with
          | up stream owed => exact ⟨old, hentered, .refl old⟩
          | down error => exact Registry.slot?_deliver ticket _ hentered
  | openBatch name =>
      have hne : t.batch ≠ name := fun heq => hkept (congrArg some heq.symm)
      exact Registry.grows_of_batch?_eq ((Registry.batch?_openBatch hnames).trans (if_neg hne)) h
  | closeBatch name =>
      have hne : t.batch ≠ name := fun heq => hkept (congrArg some heq.symm)
      exact Registry.grows_of_batch?_eq ((Registry.batch?_closeBatch hnames).trans (if_neg hne)) h
  | reset name =>
      have hne : t.batch ≠ name := fun heq => hkept (congrArg some heq.symm)
      exact Registry.grows_of_batch?_eq ((Registry.batch?_update _).trans (if_neg hne)) h
  | overwrite name changes =>
      have hne : t.batch ≠ name := by
        rintro rfl
        exact hforeign changes rfl
      exact Registry.grows_of_batch?_eq ((Registry.batch?_update _).trans (if_neg hne)) h

/-- A submission adds one command to its batch, with or without a link. -/
theorem size_submit {name : BatchName} {b : Batch} (hb : s.batch? name = some b) :
    (s.submit name).size n = if n = name then s.size n + 1 else s.size n := by
  have hentered := Registry.size_enter (n := n) (Option.isSome_iff_exists.2 ⟨b, hb⟩)
  rw [submit, nextTicket?_eq_some hb]
  obtain ⟨registry, link⟩ := s
  cases link with
  | up stream owed => exact hentered
  | down error => exact (Registry.size_deliver _ _).trans hentered

/-- What an act does to the number of commands of a batch. -/
theorem size_act (hnames : (s.registry.batches.map Prod.fst).Nodup) :
    (s.act a).size n =
      if a.cleared? = some n then 0
      else if s.added? a = some n then s.size n + 1
      else s.size n := by
  obtain ⟨registry, link⟩ := s
  cases a with
  | connect attempt =>
      cases link with
      | up stream owed => rfl
      | down error => cases attempt <;> rfl
  | arrive bytes => cases link <;> rfl
  | answer reply =>
      cases link with
      | down error => rfl
      | up stream owed =>
          cases owed with
          | nil => rfl
          | cons front owed => exact Registry.size_deliver front reply
  | goDown message error =>
      cases link with
      | down error => rfl
      | up stream owed => exact Registry.size_failAll message
  | submit name =>
      rw [if_neg nofun, added?]
      cases hb : batch? ⟨registry, link⟩ name with
      | none =>
          rw [act, submit, nextTicket?, hb]
          rfl
      | some b =>
          have hsubmitted := size_submit (n := n) hb
          rw [act, hsubmitted]
          simp [@eq_comm _ n name]
  | openBatch name =>
      refine (Registry.size_openBatch hnames).trans ?_
      simp [Act.cleared?, added?, size, @eq_comm _ n name]
  | closeBatch name =>
      refine (Registry.size_closeBatch hnames).trans ?_
      simp [Act.cleared?, added?, size, @eq_comm _ n name]
  | reset name =>
      refine Registry.size_reset.trans ?_
      simp [Act.cleared?, added?, size, @eq_comm _ n name]
  | overwrite name changes => exact Registry.size_overwrite changes

end Session

end CommandPipeline
