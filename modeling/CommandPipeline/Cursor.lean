import CommandPipeline.Command
import CommandPipeline.ClientError

/-!
# Cursors

A server hands out a large collection page by page. Each request names a position, zero at first;
each answer gives the next position and a page of entries, and a next position of zero ends the
collection. A cursor asks for pages as its reader goes on and yields the entries one by one. Pages
may be empty before the end, so it asks on until it has an entry.

An answer that is no page, or no answer at all, is yielded once as an error and ends the cursor.
Reading is written against any way of making requests, `request`, that may change a state `σ`.
-/

namespace CommandPipeline

/-- What a cursor goes through. -/
inductive Collection where
  | keys
  | set (key : Bytes)
  | hash (key : Bytes)
  | sortedSet (key : Bytes)
  deriving DecidableEq, Repr

namespace Collection

/-- The command that asks for a page. -/
def commandName : Collection → String
  | .keys => "SCAN"
  | .set _ => "SSCAN"
  | .hash _ => "HSCAN"
  | .sortedSet _ => "ZSCAN"

/-- The key under which the collection is stored. -/
def key? : Collection → Option Bytes
  | .keys => none
  | .set key | .hash key | .sortedSet key => some key

/-- The entries of the collection come in pairs. -/
def isPaired : Collection → Bool
  | .keys | .set _ => false
  | .hash _ | .sortedSet _ => true

end Collection

/-- How far a collection has been gone through. -/
structure Cursor where
  collection : Collection
  /-- Only entries that match are wanted. -/
  pattern : Option Bytes
  /-- The position of the next request. -/
  position : Nat
  /-- No further request will be made. -/
  finished : Bool
  /-- Entries received and not yet yielded. -/
  page : List Bytes
  deriving DecidableEq, Repr

/-- What a request does to the state, and the reply that it gets. -/
abbrev Request (σ : Type) := σ → Command → σ × Except ClientError Reply

namespace Cursor

/-- A cursor before the first request. -/
def start (collection : Collection) (pattern : Option Bytes) : Cursor :=
  ⟨collection, pattern, 0, false, []⟩

/-- The page size that is asked for. -/
def pageSize : Nat := 10

/-- The request for the next page. -/
def command (c : Cursor) : Command :=
  ⟨c.collection.commandName,
    c.collection.key?.toList ++ [Decimal.ofNat c.position] ++
      (c.pattern.map fun p => [Command.word "MATCH", p]).getD [] ++
      [Command.word "COUNT", Decimal.ofNat pageSize]⟩

/-- The position that a text spells. -/
def readPosition (r : Reply) : Except ReadingError Nat := do
  let text ← r.toText
  match Decimal.readUnsigned Decimal.wordLimit (Utf8.encode text) with
  | .ok position => .ok position
  | .error _ => .error (.notAnInteger text)

/-- Reads a page: an array of the next position and an array of entries, and nothing else. -/
def readPage (r : Reply) : Except ReadingError (Nat × List Bytes) := do
  match ← r.toItems with
  | [position, entries] =>
    let position ← readPosition position
    let entries ← entries.toByteStrings
    .ok (position, entries)
  | _ => .error (.mismatch .array .nil)

/-- The cursor after an error. -/
def stop (c : Cursor) : Cursor := { c with finished := true }

/-- The cursor after a page. -/
def turn (c : Cursor) (position : Nat) (entries : List Bytes) : Cursor :=
  { c with position := position, finished := decide (position = 0), page := entries }

/-- Takes up the reply to a request. -/
def accept (c : Cursor) (reply : Except ClientError Reply) : Except ClientError Cursor :=
  match reply with
  | .error e => .error e
  | .ok r =>
    match readPage r with
    | .error e => .error (.reading e)
    | .ok (position, entries) => .ok (c.turn position entries)

variable {σ : Type}

/-- The next entry, or an error, or nothing at the end. At most `fuel` requests are made for it. -/
def next (request : Request σ) : Nat → Cursor → σ → σ × Cursor × Option (Except ClientError Bytes)
  | fuel, c, s =>
    match c.page with
    | entry :: page => (s, { c with page := page }, some (.ok entry))
    | [] =>
      if c.finished then (s, c, none)
      else match fuel with
        | 0 => (s, c, none)
        | fuel + 1 =>
          let (s, reply) := request s c.command
          match c.accept reply with
          | .error e => (s, c.stop, some (.error e))
          | .ok c => next request fuel c s

/-- The next two entries. An error takes the place of the pair that it cuts short, and so does an
end that leaves an entry alone. -/
def nextPair (request : Request σ) (fuel : σ → Nat) (c : Cursor) (s : σ) :
    σ × Cursor × Option (Except ClientError (Bytes × Bytes)) :=
  match next request (fuel s) c s with
  | (s, c, none) => (s, c, none)
  | (s, c, some (.error e)) => (s, c, some (.error e))
  | (s, c, some (.ok first)) =>
    match next request (fuel s) c s with
    | (s, c, none) => (s, c, some (.error (.reading (.mismatch .string .nil))))
    | (s, c, some (.error e)) => (s, c, some (.error e))
    | (s, c, some (.ok second)) => (s, c, some (.ok (first, second)))

/-! ## Going on for a number of steps -/

/-- What one step yields. -/
inductive Item where
  /-- A single entry, with the position of the next request after it. -/
  | single (entry : Option (Except ClientError Bytes)) (position : Nat)
  | pair (entries : Option (Except ClientError (Bytes × Bytes)))

/-- One step, single or paired as the collection has it. -/
def step (request : Request σ) (fuel : σ → Nat) (c : Cursor) (s : σ) : σ × Cursor × Item :=
  if c.collection.isPaired then
    let (s, c, entries) := nextPair request fuel c s
    (s, c, .pair entries)
  else
    let (s, c, entry) := next request (fuel s) c s
    (s, c, .single entry c.position)

/-- What a number of steps yield. -/
def steps (request : Request σ) (fuel : σ → Nat) : Nat → Cursor → σ → σ × List Item
  | 0, _, s => (s, [])
  | count + 1, c, s =>
    let (s, c, item) := step request fuel c s
    let (s, items) := steps request fuel count c s
    (s, item :: items)

end Cursor

end CommandPipeline
