import CommandPipeline.Session
import CommandPipeline.Server
import CommandPipeline.Command

/-!
# One-shot calls

A one-shot call submits a single command on a batch of its own, waits for the reply and closes the
batch. Commands owed from before are answered first. The server sends its answer in one piece, and
ends the link if that leaves the command unanswered.
-/

namespace CommandPipeline.Session

/-- The command of a one-shot call reaches the server, and the answer comes back. -/
def exchange (s : Session) (server : Server) (c : Command) : Session × Server :=
  let s := s.submit .oneShot
  let (server, bytes) := server.answer c.frame
  let s := s.receive bytes
  match s.batch? .oneShot with
  | some b => (if b.isSettled then s else s.lose closedByServer, server)
  | none => (s, server)

/-- The outcome of a settled batch with a single command. -/
def singleReply (b : Batch) : Except ClientError Reply :=
  match b.failure? with
  | some failure => .error (.batch failure)
  | none => .ok (b.replies.headD .nil)

/-- Runs one command and gives its reply, which is an error if it is or holds one. -/
def ask (s : Session) (server : Server) (c : Command) :
    Session × Server × Except ClientError Reply :=
  if s.isUp then
    let (s, server) := (s.openBatch .oneShot).exchange server c
    let result := singleReply ((s.batch? .oneShot).getD .empty)
    (s.closeBatch .oneShot, server, result)
  else (s, server, .error .notConnected)

end CommandPipeline.Session
