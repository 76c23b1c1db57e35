import CommandPipeline.Slot
import CommandPipeline.Reply.Failure

/-!
# Batches

A batch is a sequence of commands submitted without waiting, each with a slot for its reply in the
order of submission. It counts the commands that are still unanswered; when none is, the batch is
settled and its replies can be read.
-/

namespace CommandPipeline

/-- The slots of the commands submitted so far, and how many of them are unanswered. -/
structure Batch where
  slots : Array Slot
  outstanding : Nat
  deriving DecidableEq

namespace Batch

/-- A batch without commands. -/
def empty : Batch := ⟨#[], 0⟩

/-- The number of commands. -/
def size (b : Batch) : Nat := b.slots.size

/-- Every command has been answered. -/
def isSettled (b : Batch) : Bool := decide (b.outstanding = 0)

/-- One more command, unanswered. -/
def push (b : Batch) : Batch := ⟨b.slots.push .empty, b.outstanding + 1⟩

/-- The reply to the command at a position arrives. The count stays at zero if it is there already.
-/
def resolve (b : Batch) (index : Nat) (r : Reply) : Batch :=
  ⟨b.slots.modify index fun slot => slot.fill r, b.outstanding - 1⟩

/-- The replies in the order of submission. -/
def replies (b : Batch) : List Reply := b.slots.toList.map Slot.read

/-- Replaces replies by position, one after the other. Positions outside the batch are ignored. -/
def overwriteAll (b : Batch) (changes : List (Nat × Reply)) : Batch :=
  changes.foldl (fun b (index, r) =>
    { b with slots := b.slots.modify index fun slot => slot.overwrite r }) b

/-- The report on the replies, if one of them is or holds an error. -/
def failure? (b : Batch) : Option BatchFailure := BatchFailure.ofReplies? b.replies

end Batch

/-! ## Reading from both ends -/

/-- One thing seen while a sequence is read from both ends. -/
inductive Sighting (α : Type) where
  | value (a : α)
  /-- How many values are left. -/
  | left (count : Nat)
  deriving Repr

/-- Reads a sequence alternately from the front and from the back. The number of values left comes
first and then after each pair. -/
def sightings {α : Type} : Nat → List α → List (Sighting α)
  | 0, values => [.left values.length]
  | fuel + 1, values =>
    .left values.length ::
      match values with
      | [] => []
      | front :: rest =>
        .value front :: ((rest.getLast?.map .value).toList ++
          match rest.dropLast with
          | [] => [.left 0]
          | middle => sightings fuel middle)

/-- A sequence as seen when read from both ends. -/
def fromBothEnds {α : Type} (values : List α) : List (Sighting α) :=
  sightings values.length values

end CommandPipeline
