import CommandPipeline.Session.Registry
import CommandPipeline.Wire.Stream
import CommandPipeline.ClientError

/-!
# Sessions

A session is one connection over its whole life. Its link is down, with the text of what brought it
down if that is known, or up, with the stream of replies and the queue of commands that the server
still owes a reply. The server answers in the order of submission, so each reply belongs to the
oldest command owed.

Bytes are handled one arrival at a time: all complete replies are decoded first and then dispatched.
If the arrival breaks the wire format, none of its replies are dispatched and the link is lost. When
a link goes down, every command owed is answered by an error, so no command waits forever and no
permit is held by a link that is gone. The registry outlives the link; the queue and the stream do
not.
-/

namespace CommandPipeline

/-- The state of the link to the server. -/
inductive Link where
  /-- No link, with the text of the last failure or loss. -/
  | down (error : Option String)
  /-- A link, with the bytes received on it and the commands submitted on it that are owed a
  reply, oldest first. -/
  | up (stream : Wire.Stream) (owed : List Ticket)
  deriving DecidableEq

/-- A connection with its batches. -/
structure Session where
  registry : Registry
  link : Link
  deriving DecidableEq

/-- How an attempt to connect turns out. -/
inductive Attempt where
  | established
  /-- The socket cannot be set up, so the attempt does not even start. -/
  | impossible (error : SystemError)
  /-- The attempt starts and fails. -/
  | failed (error : SystemError)
  deriving DecidableEq, Repr

namespace Session

/-- A session that has never been connected. -/
def ofCeiling (ceiling : Nat) : Session := ⟨.ofCeiling ceiling, .down none⟩

/-! ## Looking at a session -/

/-- The link is up. -/
def isUp (s : Session) : Bool :=
  match s.link with
  | .up .. => true
  | .down _ => false

/-- The text of the last failure or loss, as long as there is no new link. -/
def error? (s : Session) : Option String :=
  match s.link with
  | .up .. => none
  | .down error => error

/-- The commands owed a reply, oldest first. -/
def owed (s : Session) : List Ticket :=
  match s.link with
  | .up _ owed => owed
  | .down _ => []

/-- The number of unanswered commands. -/
def inFlight (s : Session) : Nat := s.registry.permits.taken

/-- A further command would have to wait for a permit. -/
def isBusy (s : Session) : Bool := s.isUp && s.registry.permits.isFull

/-- The batch of a name. -/
def batch? (s : Session) (name : BatchName) : Option Batch := s.registry.batch? name

/-! ## The life of the link -/

/-- What commands are told when the server ends the link. -/
def closedByServer : String := "connection closed by server"

/-- What commands are told when the client ends the link. -/
def closedByClient : String := "ERR connection closed by client"

/-- Carries out an attempt to connect. A new link starts with an empty stream and nothing owed. An
attempt that cannot start leaves the session as it is. -/
def connect (s : Session) (attempt : Attempt) : Session :=
  match s.link with
  | .up .. => s
  | .down _ =>
    match attempt with
    | .established => { s with link := .up .fresh [] }
    | .impossible _ => s
    | .failed error => { s with link := .down (some error.message) }

/-- The link is lost for the given reason, which every command owed is told. -/
def lose (s : Session) (reason : String) : Session :=
  match s.link with
  | .down _ => s
  | .up _ owed => ⟨s.registry.failAll owed reason, .down (some reason)⟩

/-- The client ends the link. No reason is recorded. -/
def disconnect (s : Session) : Session :=
  match s.link with
  | .down _ => s
  | .up _ owed => ⟨s.registry.failAll owed closedByClient, .down none⟩

/-- Bytes arrive from the server. -/
def receive (s : Session) (bytes : Bytes) : Session :=
  match s.link with
  | .down _ => s
  | .up stream owed =>
    let outcome := stream.feed bytes
    match outcome.fault with
    | some fault => s.lose fault.message
    | none =>
      let (registry, owed) := s.registry.dispatch owed outcome.replies
      ⟨registry, .up outcome.stream owed⟩

/-- The server ends the link after some last bytes. -/
def hangUp (s : Session) (bytes : Bytes) : Session := (s.receive bytes).lose closedByServer

/-! ## Commands -/

/-- The ticket of the next command of a batch. -/
def nextTicket? (s : Session) (name : BatchName) : Option Ticket :=
  (s.batch? name).map fun b => ⟨name, b.size⟩

/-- Submits a command on a batch. While the link is down the command is answered at once, with the
reason for which the link is down. -/
def submit (s : Session) (name : BatchName) : Session :=
  match s.nextTicket? name with
  | none => s
  | some ticket =>
    match s.link with
    | .up stream owed => ⟨s.registry.enter name, .up stream (owed ++ [ticket])⟩
    | .down error =>
      let reason := error.getD Slot.abandonedMessage
      ⟨(s.registry.enter name).deliver ticket (.error reason), .down error⟩

/-- Changes a batch that belongs to its owner alone. -/
def update (s : Session) (name : BatchName) (f : Batch → Batch) : Session :=
  { s with registry := s.registry.update name f }

/-- Puts an empty batch under a name. -/
def openBatch (s : Session) (name : BatchName) : Session :=
  { s with registry := s.registry.openBatch name }

/-- Removes the batch of a name. -/
def closeBatch (s : Session) (name : BatchName) : Session :=
  { s with registry := s.registry.closeBatch name }

end Session

end CommandPipeline
