import CommandPipeline.Proofs.Session.Calls
import Mathlib.Logic.Equiv.Basic

/-!
# Names do not matter

A batch is known to its connection by a name, and the queue mentions it by that name, but nothing
that happens depends on which name it is. A bijection of names can be carried through a whole
session, and it commutes with every act. So a call that is made on one fresh batch can be followed
step by step on another one: only the two names change places.
-/

namespace CommandPipeline

open Equiv (Perm swap)

/-! ## Renaming batches -/

namespace Batches

variable (f : Perm BatchName) {batches : Batches} {n : BatchName}

/-- Gives each batch another name. -/
def rename (batches : Batches) : Batches := batches.map fun (n, b) => (f n, b)

@[simp] theorem rename_cons (n : BatchName) (b : Batch) (batches : Batches) :
    rename f ((n, b) :: batches) = (f n, b) :: rename f batches := rfl

/-- A batch is found under its other name. -/
@[simp] theorem get?_rename : get? (f n) (rename f batches) = get? n batches := by
  induction batches with
  | nil => rfl
  | cons entry batches ih =>
      obtain ⟨m, b⟩ := entry
      rw [rename_cons, get?, get?, ih]
      simp only [f.injective.eq_iff]

/-- A batch is changed under its other name in the same way. -/
@[simp] theorem modify_rename (g : Batch → Batch) :
    modify (f n) g (rename f batches) = rename f (modify n g batches) := by
  induction batches with
  | nil => rfl
  | cons entry batches ih =>
      obtain ⟨m, b⟩ := entry
      rw [rename_cons, modify, modify, ih]
      by_cases hm : m = n
      · simp [hm]
      · simp [hm, f.injective.eq_iff]

/-- A batch is removed under its other name. -/
@[simp] theorem erase_rename : erase (f n) (rename f batches) = rename f (erase n batches) := by
  induction batches with
  | nil => rfl
  | cons entry batches ih =>
      obtain ⟨m, b⟩ := entry
      rw [rename_cons, erase, erase, ih]
      by_cases hm : m = n
      · simp [hm]
      · simp [hm, f.injective.eq_iff]

/-- Names that do not occur can be exchanged without a change. -/
theorem rename_swap_of_not_mem {m : BatchName} (hn : n ∉ batches.map Prod.fst)
    (hm : m ∉ batches.map Prod.fst) : rename (swap n m) batches = batches := by
  rw [rename]
  apply (List.map_congr_left _).trans (List.map_id batches)
  rintro ⟨k, b⟩ hk
  have hmem : k ∈ batches.map Prod.fst := List.mem_map.2 ⟨_, hk, rfl⟩
  have hkn : k ≠ n := fun h => hn (h ▸ hmem)
  have hkm : k ≠ m := fun h => hm (h ▸ hmem)
  show (swap n m k, b) = (k, b)
  rw [Equiv.swap_apply_of_ne_of_ne hkn hkm]

end Batches

/-- Gives the batch of a ticket another name. -/
def Ticket.rename (f : Perm BatchName) (t : Ticket) : Ticket := ⟨f t.batch, t.index⟩

namespace Registry

variable (f : Perm BatchName) (r : Registry)

/-- Gives each batch of a registry another name. -/
def rename : Registry := ⟨r.permits, Batches.rename f r.batches⟩

@[simp] theorem batch?_rename (n : BatchName) : (r.rename f).batch? (f n) = r.batch? n :=
  Batches.get?_rename f

@[simp] theorem enter_rename (n : BatchName) : (r.rename f).enter (f n) = (r.enter n).rename f :=
  congrArg (Registry.mk _) (Batches.modify_rename f _)

@[simp] theorem deliver_rename (t : Ticket) (reply : Reply) :
    (r.rename f).deliver (t.rename f) reply = (r.deliver t reply).rename f :=
  congrArg (Registry.mk _) (Batches.modify_rename f _)

@[simp] theorem update_rename (n : BatchName) (g : Batch → Batch) :
    (r.rename f).update (f n) g = (r.update n g).rename f :=
  congrArg (Registry.mk _) (Batches.modify_rename f g)

@[simp] theorem openBatch_rename (n : BatchName) :
    (r.rename f).openBatch (f n) = (r.openBatch n).rename f :=
  congrArg (fun batches => Registry.mk r.permits ((f n, Batch.empty) :: batches))
    (Batches.erase_rename f)

@[simp] theorem closeBatch_rename (n : BatchName) :
    (r.rename f).closeBatch (f n) = (r.closeBatch n).rename f :=
  congrArg (Registry.mk _) (Batches.erase_rename f)

/-- The teardown tells the same commands, by induction on the queue. -/
@[simp] theorem failAll_rename (owed : List Ticket) (message : String) :
    (r.rename f).failAll (owed.map (Ticket.rename f)) message =
      (r.failAll owed message).rename f := by
  induction owed generalizing r with
  | nil => rfl
  | cons t owed ih =>
      have hdelivered := r.deliver_rename f t (.error message)
      have hlater := ih (r.deliver t (.error message))
      rw [← hdelivered] at hlater
      exact hlater

end Registry

/-! ## Renaming sessions and acts -/

/-- Gives the batches that the queue of a link mentions other names. -/
def Link.rename (f : Perm BatchName) : Link → Link
  | .down error => .down error
  | .up stream owed => .up stream (owed.map (Ticket.rename f))

/-- Gives the batch that an act is about another name. -/
def Act.rename (f : Perm BatchName) : Act → Act
  | .connect attempt => .connect attempt
  | .arrive bytes => .arrive bytes
  | .answer r => .answer r
  | .goDown message error => .goDown message error
  | .submit n => .submit (f n)
  | .openBatch n => .openBatch (f n)
  | .closeBatch n => .closeBatch (f n)
  | .reset n => .reset (f n)
  | .overwrite n changes => .overwrite (f n) changes

/-- The act does nothing to the batch of that name, except through the link. -/
def Act.Foreign (name : BatchName) : Act → Prop
  | .submit n | .openBatch n | .closeBatch n | .reset n | .overwrite n _ => n ≠ name
  | _ => True

/-- An act that is about neither of two batches is not affected when these exchange names. -/
theorem Act.rename_swap_of_foreign {n m : BatchName} {a : Act} (hn : a.Foreign n)
    (hm : a.Foreign m) : a.rename (swap n m) = a := by
  cases a with
  | submit k => exact congrArg Act.submit (Equiv.swap_apply_of_ne_of_ne hn hm)
  | openBatch k => exact congrArg Act.openBatch (Equiv.swap_apply_of_ne_of_ne hn hm)
  | closeBatch k => exact congrArg Act.closeBatch (Equiv.swap_apply_of_ne_of_ne hn hm)
  | reset k => exact congrArg Act.reset (Equiv.swap_apply_of_ne_of_ne hn hm)
  | overwrite k changes =>
      exact congrArg (Act.overwrite · changes) (Equiv.swap_apply_of_ne_of_ne hn hm)
  | _ => rfl

namespace Session

variable (f : Perm BatchName) {s t : Session} {acts : List Act} {n m : BatchName}

/-- Gives each batch of a session another name. -/
def rename (s : Session) : Session := ⟨s.registry.rename f, s.link.rename f⟩

@[simp] theorem isUp_rename (s : Session) : (s.rename f).isUp = s.isUp := by
  obtain ⟨registry, link⟩ := s
  cases link <;> rfl

@[simp] theorem isBusy_rename (s : Session) : (s.rename f).isBusy = s.isBusy := by
  rw [isBusy, isUp_rename]
  rfl

@[simp] theorem batch?_rename (s : Session) (n : BatchName) :
    (s.rename f).batch? (f n) = s.batch? n :=
  s.registry.batch?_rename f n

/-- Renaming does not change which batches are settled. -/
@[simp] theorem isFree_rename : (s.rename f).IsFree (f n) ↔ s.IsFree n := by
  simp [IsFree]

@[simp] theorem nextTicket?_rename (s : Session) (n : BatchName) :
    (s.rename f).nextTicket? (f n) = (s.nextTicket? n).map (Ticket.rename f) := by
  simp [nextTicket?, Ticket.rename, Function.comp_def]

/-- A submission goes to the batch of the other name. -/
@[simp] theorem submit_rename (s : Session) (n : BatchName) :
    (s.rename f).submit (f n) = (s.submit n).rename f := by
  simp only [submit, nextTicket?_rename]
  cases s.nextTicket? n with
  | none => rfl
  | some ticket =>
      obtain ⟨registry, error | ⟨stream, owed⟩⟩ := s
      · have hdelivered := (registry.enter n).deliver_rename f ticket
          (.error (error.getD Slot.abandonedMessage))
        exact congrArg (Session.mk · (.down error))
          ((congrArg (Registry.deliver · _ _) (registry.enter_rename f n)).trans hdelivered)
      · have howed : owed.map (Ticket.rename f) ++ [ticket.rename f] =
            (owed ++ [ticket]).map (Ticket.rename f) := by
          rw [List.map_append, List.map_singleton]
        exact congrArg₂ Session.mk (registry.enter_rename f n) (congrArg (Link.up stream) howed)

/-- Renaming commutes with every act. -/
@[simp] theorem act_rename (s : Session) (a : Act) :
    (s.rename f).act (a.rename f) = (s.act a).rename f := by
  cases a with
  | connect attempt =>
      obtain ⟨registry, error | ⟨stream, owed⟩⟩ := s
      · cases attempt <;> rfl
      · rfl
  | arrive bytes =>
      obtain ⟨registry, error | ⟨stream, owed⟩⟩ := s <;> rfl
  | answer reply =>
      obtain ⟨registry, error | ⟨stream, _ | ⟨front, owed⟩⟩⟩ := s
      · rfl
      · rfl
      · exact congrArg (Session.mk · (.up stream (owed.map (Ticket.rename f))))
          (registry.deliver_rename f front reply)
  | goDown message error =>
      obtain ⟨registry, _ | ⟨stream, owed⟩⟩ := s
      · rfl
      · exact congrArg (Session.mk · (.down error)) (registry.failAll_rename f owed message)
  | submit n => exact s.submit_rename f n
  | openBatch n => exact congrArg (Session.mk · _) (s.registry.openBatch_rename f n)
  | closeBatch n => exact congrArg (Session.mk · _) (s.registry.closeBatch_rename f n)
  | reset n => exact congrArg (Session.mk · _) (s.registry.update_rename f n _)
  | overwrite n changes => exact congrArg (Session.mk · _) (s.registry.update_rename f n _)

/-- An act that is allowed is allowed under other names. -/
theorem Allows.rename {a : Act} (h : s.Allows a) : (s.rename f).Allows (a.rename f) := by
  cases a with
  | arrive bytes =>
      obtain ⟨registry, error | ⟨stream, owed⟩⟩ := s
      · rintro _ _ ⟨⟩
      · rintro _ _ ⟨⟩
        exact h stream owed rfl
  | submit n => exact ⟨by simpa using h.1, by simpa using h.2⟩
  | openBatch n => exact (isFree_rename f).2 h
  | closeBatch n => exact (isFree_rename f).2 h
  | reset n => exact (isFree_rename f).2 h
  | overwrite n changes => exact (isFree_rename f).2 h
  | _ => trivial

/-- A play can be followed under other names. -/
theorem Plays.rename (h : s.Plays acts t) :
    (s.rename f).Plays (acts.map (Act.rename f)) (t.rename f) := by
  induction h with
  | nil s => exact .nil _
  | cons ha _ ih =>
      refine .cons (ha.rename f) ?_
      simpa using ih

/-! ## Fresh names -/

/-- A command that is owed belongs to a batch that is there. -/
theorem Balanced.mem_names (h : s.Balanced) {u : Ticket} (hu : u ∈ s.owed) : u.batch ∈ s.names := by
  have hslot := (Registry.Balances.mem_owed_iff h).1 hu
  by_contra hnone
  rw [Registry.slot?, Registry.batch?_eq_none_iff.2 hnone] at hslot
  cases hslot

/-- Two fresh names can be exchanged without a change. -/
theorem Balanced.rename_swap (h : s.Balanced) (hn : n ∉ s.names) (hm : m ∉ s.names) :
    s.rename (swap n m) = s := by
  have howed : s.owed.map (Ticket.rename (swap n m)) = s.owed := by
    apply (List.map_congr_left _).trans (List.map_id _)
    intro u hu
    have hmem := h.mem_names hu
    have hun : u.batch ≠ n := fun heq => hn (heq ▸ hmem)
    have hum : u.batch ≠ m := fun heq => hm (heq ▸ hmem)
    rw [Ticket.rename, Equiv.swap_apply_of_ne_of_ne hun hum]
    rfl
  obtain ⟨⟨permits, batches⟩, link⟩ := s
  have hbatches := Batches.rename_swap_of_not_mem hn hm
  cases link with
  | down error => exact congrArg (fun batches => Session.mk ⟨permits, batches⟩ _) hbatches
  | up stream owed =>
      exact congrArg₂ (fun batches owed => Session.mk ⟨permits, batches⟩ (.up stream owed))
        hbatches howed

/-- Batches come and go only with their owners. -/
theorem names_act (s : Session) (a : Act) :
    (s.act a).names =
      match a with
      | .openBatch k => k :: s.names.erase k
      | .closeBatch k => s.names.erase k
      | _ => s.names := by
  cases a with
  | connect attempt => simp [act]
  | arrive bytes => obtain ⟨registry, error | ⟨stream, owed⟩⟩ := s <;> rfl
  | answer reply =>
      obtain ⟨registry, error | ⟨stream, _ | ⟨front, owed⟩⟩⟩ := s
      · rfl
      · rfl
      · exact registry.names_deliver front reply
  | _ => simp [act]

/-- What is foreign to a batch does not open it. -/
theorem not_mem_names_act {a : Act} (ha : a.Foreign n) (hn : n ∉ s.names) :
    n ∉ (s.act a).names := by
  rw [names_act]
  cases a with
  | openBatch k =>
      rw [List.mem_cons, not_or]
      exact ⟨fun h => ha h.symm, fun hmem => hn (List.mem_of_mem_erase hmem)⟩
  | closeBatch k => exact fun hmem => hn (List.mem_of_mem_erase hmem)
  | _ => exact hn

/-- What is foreign to a batch does not open it, in any number of acts. -/
theorem Plays.not_mem_names (h : s.Plays acts t) (hacts : ∀ a ∈ acts, a.Foreign n)
    (hn : n ∉ s.names) : n ∉ t.names :=
  h.preserves_of (P := fun s => n ∉ s.names) (fun _ _ hn _ ha => not_mem_names_act ha hn) hacts hn

end Session

end CommandPipeline
