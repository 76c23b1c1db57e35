import CommandPipeline.Batch

/-!
# Ways of looking at the replies of a batch

The replies of a batch are read by position, from either end of a view that gets shorter with each
reading, or they are lent out one by one so that they can be replaced. Each of these goes through
the slots by itself. A slot without a reply reads as nil, and when it is lent out it is filled with
nil first.
-/

namespace CommandPipeline

/-- Lends out the reply of a slot, which has one from then on. -/
def Slot.lend (s : Slot) : Slot × Reply :=
  let filled := s.fill .nil
  (filled, filled.read)

/-- Where a view is read. -/
inductive End where
  | front
  | back
  deriving DecidableEq, Repr

/-- The slots of a batch that are still to be read. -/
structure View where
  slots : List Slot
  deriving DecidableEq

namespace View

/-- How many replies are left. -/
def remaining (v : View) : Nat := v.slots.length

/-- Reads the first reply that is left. -/
def next? (v : View) : Option (Reply × View) :=
  match v.slots with
  | [] => none
  | slot :: rest => some (slot.read, ⟨rest⟩)

/-- Reads the last reply that is left. -/
def nextBack? (v : View) : Option (Reply × View) :=
  v.slots.getLast?.map fun slot => (slot.read, ⟨v.slots.dropLast⟩)

/-- Reads at one of the ends. -/
def read? (v : View) : End → Option (Reply × View)
  | .front => v.next?
  | .back => v.nextBack?

end View

/-- What has been read of a view, at each end in the order of reading, and what is left of it. -/
structure Readings where
  front : List Reply
  back : List Reply
  left : View
  deriving DecidableEq

namespace Readings

/-- One more reply, read before all others. -/
def cons (e : End) (r : Reply) (later : Readings) : Readings :=
  match e with
  | .front => { later with front := r :: later.front }
  | .back => { later with back := r :: later.back }

/-- All replies that have been read, in the order of the batch. -/
def inOrder (readings : Readings) : List Reply := readings.front ++ readings.back.reverse

end Readings

namespace View

/-- Reads a view at one end after the other, as long as something is left. -/
def readings (v : View) : List End → Readings
  | [] => ⟨[], [], v⟩
  | e :: ends =>
    match v.read? e with
    | none => ⟨[], [], v⟩
    | some (r, rest) => .cons e r (rest.readings ends)

/-- Reads a view alternately from the front and from the back, noting how many replies are left
first and then after each pair. -/
def walk : Nat → View → List (Sighting Reply)
  | 0, v => [.left v.remaining]
  | fuel + 1, v =>
    .left v.remaining ::
      match v.next? with
      | none => []
      | some (front, rest) =>
        .value front ::
          match rest.nextBack? with
          | none => [.left rest.remaining]
          | some (back, middle) =>
            .value back :: if middle.remaining = 0 then [.left 0] else walk fuel middle

/-- Reads a view from the front. -/
def forwards (v : View) : List Reply := (v.readings (.replicate v.remaining .front)).front

/-- Reads a view from the back. -/
def backwards (v : View) : List Reply := (v.readings (.replicate v.remaining .back)).back

end View

namespace Batch

/-- The reply to the command at a position, if there is such a command. -/
def reply? (b : Batch) (index : Nat) : Option Reply := b.slots[index]?.map Slot.read

/-- A view of all replies. -/
def view (b : Batch) : View := ⟨b.slots.toList⟩

/-- Lends out all replies in the order of submission. -/
def lend (b : Batch) : Batch × List Reply :=
  ({ b with slots := b.slots.map fun slot => slot.lend.1 },
    b.slots.toList.map fun slot => slot.lend.2)

end Batch

end CommandPipeline
