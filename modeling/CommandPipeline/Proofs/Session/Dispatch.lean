import CommandPipeline.Proofs.Session.Calls

/-!
# Replies handed to a queue

Replies are handed to the queue in order, one to each command, as far as either of them reaches. In
a balanced registry the commands of the queue have empty slots of their own, so each of them holds
its own reply afterwards and no other slot is changed. Telling the whole queue that its link has
gone is a dispatch too, of as many errors as there are commands.
-/

namespace CommandPipeline.Registry

variable {r : Registry} {owed : List Ticket} {t u : Ticket}

/-- Replies can be handed on in two parts. -/
theorem dispatch_append (replies later : List Reply) :
    r.dispatch owed (replies ++ later) =
      (r.dispatch owed replies).1.dispatch (r.dispatch owed replies).2 later := by
  induction replies generalizing r owed with
  | nil => simp
  | cons reply replies ih =>
      cases owed with
      | nil => simp
      | cons t owed => exact ih

/-- Each reply takes one command off the queue. -/
@[simp] theorem dispatch_snd (replies : List Reply) :
    (r.dispatch owed replies).2 = owed.drop replies.length := by
  induction replies generalizing r owed with
  | nil => simp
  | cons reply replies ih =>
      cases owed with
      | nil => simp
      | cons t owed => exact ih

/-- Telling the whole queue of an error is handing the error to each command. -/
theorem failAll_eq_dispatch (message : String) :
    r.failAll owed message = (r.dispatch owed (owed.map fun _ => .error message)).1 := by
  induction owed generalizing r with
  | nil => rfl
  | cons t owed ih => exact ih

/-- Commands that are not in the queue are not touched. -/
theorem slot?_dispatch_of_not_mem (replies : List Reply) (h : u ∉ owed) :
    (r.dispatch owed replies).1.slot? u = r.slot? u := by
  induction replies generalizing r owed with
  | nil => simp
  | cons reply replies ih =>
      cases owed with
      | nil => simp
      | cons t owed =>
          rw [List.mem_cons, not_or] at h
          exact (ih h.2).trans (slot?_deliver_of_ne reply h.1)

namespace Balances

/-- Each reply that is handed on leaves the registry balanced with the rest of the queue. -/
theorem dispatch (h : r.Balances owed) (replies : List Reply) :
    (r.dispatch owed replies).1.Balances (r.dispatch owed replies).2 := by
  induction replies generalizing r owed with
  | nil => simpa using h
  | cons reply replies ih =>
      cases owed with
      | nil => simpa using h
      | cons t owed => exact ih (h.deliver reply)

/-- No command is in the queue twice. -/
theorem not_mem_tail (h : r.Balances (t :: owed)) : t ∉ owed := by
  intro hmem
  have hempty := (h.mem_owed_iff (t := t)).1 List.mem_cons_self
  have hfilled := slot?_deliver_self .nil hempty
  rw [((h.deliver .nil).mem_owed_iff).1 hmem] at hfilled
  exact Slot.fill_ne_empty _ _ (Option.some.inj hfilled).symm

/-- The command at a place of the queue holds the reply at that place. -/
theorem slot?_dispatch (h : r.Balances owed) {replies : List Reply} {reply : Reply} {i : Nat}
    (hu : owed[i]? = some u) (hreply : replies[i]? = some reply) :
    (r.dispatch owed replies).1.slot? u = some ⟨some reply⟩ := by
  induction replies generalizing r owed i with
  | nil => cases hreply
  | cons first replies ih =>
      cases owed with
      | nil => cases hu
      | cons t owed =>
          cases i with
          | zero =>
              -- The reply is delivered first, and the command is not met again.
              cases hu
              cases hreply
              have hempty := (h.mem_owed_iff (t := u)).1 List.mem_cons_self
              have hlater : ((r.deliver u reply).dispatch owed replies).1.slot? u =
                  (r.deliver u reply).slot? u := slot?_dispatch_of_not_mem replies h.not_mem_tail
              exact hlater.trans (slot?_deliver_self reply hempty)
          | succ i => exact ih (h.deliver first) hu hreply

end Balances

end CommandPipeline.Registry
