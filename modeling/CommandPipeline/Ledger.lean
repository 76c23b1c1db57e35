import CommandPipeline.Permits
import CommandPipeline.Slot

/-!
# The ledger of slots and completions

Opening an entry takes a permit and gives two ends: a slot, which its owner reads, and a completion,
which whoever answers the command uses up. A completion is used up once, by a reply, by a failure,
or by being dropped, and each way returns the permit and counts the entry as answered. The owner
may read the slot at any time and may take it away before it is answered; the completion then still
returns its permit. Overwriting needs the slot for oneself, so it is refused while the completion
lives.
-/

namespace CommandPipeline

/-- One entry: the slot, unless its owner has taken it, and whether the completion is still live. -/
structure Ledger.Entry where
  slot : Option Slot
  live : Bool
  deriving DecidableEq

/-- Entries in the order of their opening, with the permits and the count of live completions. -/
structure Ledger where
  permits : Permits
  outstanding : Nat
  entries : List Ledger.Entry
  deriving DecidableEq

namespace Ledger

/-- An empty ledger. -/
def ofCeiling (ceiling : Nat) : Ledger := ⟨.ofCeiling ceiling, 0, []⟩

/-- What can be done with a ledger. Entries go by their position. -/
inductive Step where
  /-- Opens an entry. -/
  | pair
  /-- Uses up a completion with a reply. -/
  | complete (index : Nat) (r : Reply)
  /-- Uses up a completion with an error message. -/
  | fail (index : Nat) (message : String)
  /-- Drops a completion. -/
  | abandon (index : Nat)
  /-- Looks whether a reply is there. -/
  | get (index : Nat)
  /-- Reads a slot as it is. -/
  | read (index : Nat)
  /-- Replaces the content of a slot. -/
  | overwrite (index : Nat) (r : Reply)
  /-- Takes a slot away. -/
  | take (index : Nat)
  deriving DecidableEq

/-- How a step ends. -/
inductive Outcome where
  | opened (index : Nat)
  | full
  | unknown
  | done
  | consumed
  | taken
  | shared
  | found (r : Option Reply)
  deriving DecidableEq

/-- Replaces the entry at a position. -/
def put (l : Ledger) (index : Nat) (e : Entry) : Ledger :=
  { l with entries := l.entries.set index e }

/-- Opens an entry if a permit is free. -/
def pair (l : Ledger) : Ledger × Outcome :=
  match l.permits.acquire? with
  | none => (l, .full)
  | some permits =>
    (⟨permits, l.outstanding + 1, l.entries ++ [⟨some .empty, true⟩]⟩, .opened l.entries.length)

/-- Uses up the completion of an entry. -/
def resolve (l : Ledger) (index : Nat) (e : Entry) (r : Reply) : Ledger × Outcome :=
  if e.live then
    ({ l with permits := l.permits.release, outstanding := l.outstanding - 1 }.put index
      ⟨e.slot.map fun (slot : Slot) => slot.fill r, false⟩, .done)
  else (l, .consumed)

/-- Uses the slot of an entry, unless it has been taken away. -/
def withSlot (l : Ledger) (e : Entry) (use : Slot → Ledger × Outcome) : Ledger × Outcome :=
  match e.slot with
  | none => (l, .taken)
  | some slot => use slot

/-- One step on an entry that exists. -/
def stepAt (l : Ledger) (index : Nat) (e : Entry) : Step → Ledger × Outcome
  | .pair => l.pair
  | .complete _ r => l.resolve index e r
  | .fail _ message => l.resolve index e (.error message)
  | .abandon _ => l.resolve index e (.error Slot.abandonedMessage)
  | .get _ => l.withSlot e fun slot => (l, .found slot.content)
  | .read _ => l.withSlot e fun slot => (l, .found slot.read)
  | .overwrite _ r => l.withSlot e fun slot =>
      if e.live then (l, .shared)
      else (l.put index ⟨some (slot.overwrite r), false⟩, .found slot.read)
  | .take _ => l.withSlot e fun slot => (l.put index ⟨none, e.live⟩, .found slot.read)

/-- The position that a step is about. -/
def Step.index? : Step → Option Nat
  | .pair => none
  | .complete i _ | .fail i _ | .abandon i | .get i | .read i | .overwrite i _ | .take i => some i

/-- One step. -/
def step (l : Ledger) (s : Step) : Ledger × Outcome :=
  match s.index? with
  | none => l.pair
  | some i =>
    match l.entries[i]? with
    | none => (l, .unknown)
    | some e => l.stepAt i e s

/-- Every completion has been used up. -/
def isSettled (l : Ledger) : Bool := decide (l.outstanding = 0)

end Ledger

end CommandPipeline
