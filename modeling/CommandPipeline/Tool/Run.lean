import CommandPipeline.Tool.Invocation
import CommandPipeline.Session
import CommandPipeline.Command

/-!
# A run of the load tool

The tool sends a number of `SET` commands as one batch, waits until all are answered, and then asks
how many keys the server holds. A run goes on in small steps. Each step submits a command, or finds
that there is nothing to do before more bytes arrive, or ends the run. Bytes that arrive, and the
end of the link, are put into the session of the run from outside.
-/

namespace CommandPipeline.Tool

/-- A line of the report of a run. -/
inductive Line where
  | connected (address : Address)
  | sent (count : Nat)
  | answered
  | keys (count : Int)
  deriving DecidableEq, Repr

/-- The text of a line. -/
def Line.text : Line → String
  | .connected address => "kvpipe connected to " ++ address.display
  | .sent count => "sent " ++ toString count ++ " commands"
  | .answered => "all replies"
  | .keys count => "server reports " ++ toString count ++ " keys"

/-- What a run is at. -/
inductive Phase where
  /-- Submitting, with the number of commands submitted so far. -/
  | loading (submitted : Nat)
  /-- Waiting for the number of keys. -/
  | counting
  /-- At its end. -/
  | ended (result : Except Failure Unit)

/-- A run of the tool. -/
structure Run where
  count : Nat
  phase : Phase
  session : Session
  /-- The lines of the report so far. -/
  lines : List Line

/-- What a step of a run comes to. -/
inductive Progress where
  /-- A command was submitted, and sent if there is a link. -/
  | submitted (sent : Option Command)
  /-- Bytes must arrive before the run can go on. -/
  | waiting
  /-- The run has ended. -/
  | ended

namespace Run

/-- The batch of the `SET` commands. -/
def loadBatch : BatchName := .named "load"

/-- The batch of the final question. -/
def countBatch : BatchName := .named "count"

/-- How many commands may be unanswered at a time. -/
def ceiling : Nat := 1000

/-- The command with a given number. -/
def loadCommand (i : Nat) : Command :=
  .set (Utf8.encode "key:" ++ Decimal.ofNat i) (Decimal.ofNat i)

/-- Starts a run with an attempt to connect. -/
def start (invocation : Invocation) (attempt : Attempt) : Run :=
  let address := Address.parse invocation.address
  let session := (Session.ofCeiling ceiling).connect attempt
  match attempt with
  | .established =>
    ⟨invocation.count, .loading 0, session.openBatch loadBatch, [.connected address]⟩
  | .impossible error =>
    let failure := .client (.connect address.display error.message)
    ⟨invocation.count, .ended (.error failure), session, []⟩
  | .failed error =>
    ⟨invocation.count, .ended (.error (.unreachable invocation.address error)), session, []⟩

/-- Ends a run. -/
def finish (r : Run) (result : Except Failure Unit) : Run × Progress :=
  ({ r with phase := .ended result }, .ended)

/-- Submits a command, on a batch that is open. -/
def submit (r : Run) (phase : Phase) (name : BatchName) (c : Command) : Run × Progress :=
  let sent := if r.session.isUp then some c else none
  ({ r with phase := phase, session := r.session.submit name }, .submitted sent)

/-- The replies of a batch once it is settled, or the report on its errors. -/
def settled? (r : Run) (name : BatchName) : Option (Except Failure (List Reply)) :=
  match r.session.batch? name with
  | none => some (.ok [])
  | some b =>
    if b.isSettled then
      match b.failure? with
      | some failure => some (.error (.client (.batch failure)))
      | none => some (.ok b.replies)
    else none

/-- Asks for the number of keys, which needs the link. -/
def askCount (r : Run) : Run × Progress :=
  if r.session.isUp then
    { r with session := (r.session.closeBatch loadBatch).openBatch countBatch }.submit
      .counting countBatch .dbsize
  else r.finish (.error (.client .notConnected))

/-- The report of a run that has all its replies. -/
def conclude (r : Run) (replies : List Reply) : Run × Progress :=
  match (replies.head?.map Reply.toInteger).getD (.ok 0) with
  | .error e => r.finish (.error (.client (.reading e)))
  | .ok keys =>
    let summary := [Line.sent r.count, Line.answered, Line.keys keys]
    Run.finish { r with lines := r.lines ++ summary } (.ok ())

/-- One step of a run. -/
def step (r : Run) : Run × Progress :=
  match r.phase with
  | .ended _ => (r, .ended)
  | .loading submitted =>
    if submitted < r.count then
      if r.session.isBusy then (r, .waiting)
      else r.submit (.loading (submitted + 1)) loadBatch (loadCommand submitted)
    else match r.settled? loadBatch with
      | none => (r, .waiting)
      | some (.error failure) => r.finish (.error failure)
      | some (.ok _) => r.askCount
  | .counting =>
    match r.settled? countBatch with
    | none => (r, .waiting)
    | some (.error failure) => r.finish (.error failure)
    | some (.ok replies) => r.conclude replies

/-- Bytes arrive. -/
def receive (r : Run) (bytes : Bytes) : Run := { r with session := r.session.receive bytes }

/-- The link is lost for the given reason. -/
def lose (r : Run) (reason : String) : Run := { r with session := r.session.lose reason }

/-- The server ends the link. -/
def hangUp (r : Run) : Run := r.lose Session.closedByServer

/-- The exit code of a run: zero exactly after success. -/
def exitCode (r : Run) : Nat :=
  match r.phase with
  | .ended (.ok ()) => 0
  | _ => 1

/-- The failure that ended a run. -/
def failure? (r : Run) : Option Failure :=
  match r.phase with
  | .ended (.error failure) => some failure
  | _ => none

end Run

end CommandPipeline.Tool
