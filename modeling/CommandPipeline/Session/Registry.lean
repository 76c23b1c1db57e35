import CommandPipeline.Batch
import CommandPipeline.Permits

/-!
# The registry of submitted commands

All batches of a connection share one pool of permits. The registry holds the batches under their
names together with the pool. A command enters it with a permit and a fresh slot, and leaves it
when its reply is delivered: the slot is filled, the batch counts one command less, and the permit
is given back. A ticket says which slot a reply is for.
-/

namespace CommandPipeline

/-- What a batch goes by. One-shot calls use a batch of their own, which no caller can name. -/
inductive BatchName where
  | named (label : String)
  | oneShot
  deriving DecidableEq, Repr

/-- The slot of a submitted command. -/
structure Ticket where
  batch : BatchName
  index : Nat
  deriving DecidableEq, Repr

/-- Batches under their names, each name at most once. -/
abbrev Batches := List (BatchName × Batch)

namespace Batches

/-- The batch of a name. -/
def get? (name : BatchName) : Batches → Option Batch
  | [] => none
  | (n, b) :: rest => if n = name then some b else get? name rest

/-- Applies a function to the batch of a name. -/
def modify (name : BatchName) (f : Batch → Batch) : Batches → Batches
  | [] => []
  | (n, b) :: rest => if n = name then (n, f b) :: rest else (n, b) :: modify name f rest

/-- Removes the batch of a name. -/
def erase (name : BatchName) : Batches → Batches
  | [] => []
  | (n, b) :: rest => if n = name then rest else (n, b) :: erase name rest

/-- Puts a batch under a name, in place of any other. -/
def put (name : BatchName) (b : Batch) (batches : Batches) : Batches :=
  (name, b) :: batches.erase name

end Batches

/-- The batches of a connection and the pool of permits that they share. -/
structure Registry where
  permits : Permits
  batches : Batches
  deriving DecidableEq

namespace Registry

/-- A registry without batches. -/
def ofCeiling (ceiling : Nat) : Registry := ⟨.ofCeiling ceiling, []⟩

/-- Enters a command into a batch: it holds a permit and has an empty slot. -/
def enter (r : Registry) (name : BatchName) : Registry :=
  ⟨r.permits.take, Batches.modify name Batch.push r.batches⟩

/-- Delivers the reply to a command. -/
def deliver (r : Registry) (t : Ticket) (reply : Reply) : Registry :=
  ⟨r.permits.release, Batches.modify t.batch (fun b => b.resolve t.index reply) r.batches⟩

/-- Hands replies to the oldest unanswered commands, in order. Replies that nobody waits for are
dropped. -/
def dispatch : Registry → List Ticket → List Reply → Registry × List Ticket
  | r, owed, [] => (r, owed)
  | r, [], _ :: _ => (r, [])
  | r, t :: owed, reply :: replies => dispatch (r.deliver t reply) owed replies

/-- Answers all the given commands with the same error. -/
def failAll (r : Registry) (owed : List Ticket) (message : String) : Registry :=
  owed.foldl (fun r t => r.deliver t (.error message)) r

/-- Changes a batch without touching permits. -/
def update (r : Registry) (name : BatchName) (f : Batch → Batch) : Registry :=
  { r with batches := Batches.modify name f r.batches }

/-- Puts an empty batch under a name. -/
def openBatch (r : Registry) (name : BatchName) : Registry :=
  { r with batches := Batches.put name .empty r.batches }

/-- Removes the batch of a name. -/
def closeBatch (r : Registry) (name : BatchName) : Registry :=
  { r with batches := Batches.erase name r.batches }

/-- The batch of a name. -/
def batch? (r : Registry) (name : BatchName) : Option Batch := Batches.get? name r.batches

end Registry

end CommandPipeline
