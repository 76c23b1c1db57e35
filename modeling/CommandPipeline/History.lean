import CommandPipeline.Client

/-!
# Histories

A history is a list of steps, each something that a caller, the server or the network does to a
client. Every step has an outcome. A step that would have to wait for a reply which nobody is going
to send is not carried out: it would block.
-/

namespace CommandPipeline

/-- One thing that happens to a client. -/
inductive Step where
  /-- An attempt to connect. -/
  | connect (attempt : Attempt)
  /-- The caller ends the link. -/
  | disconnect
  /-- The server sends bytes. -/
  | send (bytes : Bytes)
  /-- The server sends some last bytes and ends the link. -/
  | hangUp (bytes : Bytes)
  /-- The caller opens a batch. -/
  | openBatch (label : String)
  /-- The caller submits a command on a batch. Without a free permit it waits, and meanwhile the
  server may send the given bytes. -/
  | submit (label : String) (c : Command) (meanwhile : Option Bytes)
  /-- The caller reads the replies of a batch. -/
  | read (label : String)
  /-- The caller replaces replies of a batch by position. -/
  | overwrite (label : String) (changes : List (Nat × Reply))
  /-- The caller empties a batch. -/
  | reset (label : String)
  /-- The caller drops a batch. -/
  | dropBatch (label : String)
  /-- The caller takes the replies out of a batch, which ends it. -/
  | takeReplies (label : String)
  /-- A query, with the answers of the server. -/
  | query (q : Query) (answers : List Bytes)
  /-- The loading of a script, with the answers of the server. -/
  | loadScript (body : String) (answers : List Bytes)
  /-- The caller empties the cache of scripts. -/
  | forgetScripts
  /-- A number of steps through a collection, with the answers of the server. -/
  | scan (collection : Collection) (pattern : Option Bytes) (count : Nat) (answers : List Bytes)
  deriving DecidableEq

/-- How a step turns out. -/
inductive Outcome where
  | done
  /-- The link is up already. -/
  | already
  /-- The attempt to connect failed. -/
  | failed (error : SystemError)
  /-- There is no link to send on. -/
  | noLink
  /-- The step would wait for ever. -/
  | wouldBlock
  /-- No batch goes by that name. -/
  | unknownBatch
  /-- The step is not possible in this state. -/
  | refused (error : ClientError)
  /-- The frame that reached the server, if any did, and the number of commands of the batch. -/
  | submitted (frame : Option Bytes) (size : Nat)
  | replies (rs : List Reply)
  | answered (result : Except ClientError Answer) (frames : List Bytes)
  | loaded (result : Except ClientError String) (frames : List Bytes)
  | scanned (items : List Cursor.Item) (frames : List Bytes)

namespace Client

/-- Changes the session of a client. -/
def onSession (client : Client) (f : Session → Session) : Client :=
  { client with session := f client.session }

@[simp] theorem onSession_session (client : Client) (f : Session → Session) :
    (client.onSession f).session = f client.session := rfl

@[simp] theorem onSession_scripts (client : Client) (f : Session → Session) :
    (client.onSession f).scripts = client.scripts := rfl

/-- Uses a batch that the caller has for itself: it exists and has no unanswered command. -/
def withSettled (client : Client) (label : String) (use : Batch → Client × Outcome) :
    Client × Outcome :=
  match client.session.batch? (.named label) with
  | none => (client, .unknownBatch)
  | some b => if b.isSettled then use b else (client, .wouldBlock)

/-- Submits a command on a batch while a permit is free. -/
def submitNow (client : Client) (label : String) (c : Command) : Client × Outcome :=
  let frame := if client.session.isUp then some c.frame else none
  let client := client.onSession fun s => s.submit (.named label)
  let size := ((client.session.batch? (.named label)).map Batch.size).getD 0
  (client, .submitted frame size)

/-- Submits a command on a batch, after the bytes that arrive in the meantime if no permit is
free. -/
def submit (client : Client) (label : String) (c : Command) (meanwhile : Option Bytes) :
    Client × Outcome :=
  if (client.session.batch? (.named label)).isNone then (client, .unknownBatch)
  else if client.session.isBusy then
    match meanwhile with
    | none => (client, .wouldBlock)
    | some bytes =>
      let client := client.onSession fun s => s.receive bytes
      if client.session.isBusy then (client, .wouldBlock) else client.submitNow label c
  else client.submitNow label c

/-- Opens a batch, in place of any settled one of that name. -/
def openBatch (client : Client) (label : String) : Client × Outcome :=
  match client.session.batch? (.named label) with
  | some b => if b.isSettled then start else (client, .wouldBlock)
  | none => start
where
  /-- A batch needs a link when it is opened. -/
  start : Client × Outcome :=
    if client.session.isUp then (client.onSession fun s => s.openBatch (.named label), .done)
    else (client, .refused .notConnected)

/-- Carries out a step that submits commands of its own, if a permit is free. -/
def unlessBusy (client : Client) (use : Client × Outcome) : Client × Outcome :=
  if client.session.isBusy then (client, .wouldBlock) else use

/-- The digest of a script. Only an upload needs a permit, so a digest in the cache is given even
while none is free. -/
def load (client : Client) (body : String) (answers : List Bytes) : Client × Outcome :=
  let (later, server, result) := client.loadScript (.ofAnswers answers) body
  let loaded := (later, .loaded result server.frames)
  if (client.scripts.digest? body).isSome then loaded else client.unlessBusy loaded

/-- An attempt to connect and how it turns out. -/
def connect (client : Client) (attempt : Attempt) : Client × Outcome :=
  (client.onSession fun s => s.connect attempt,
    if client.session.isUp then .already
    else match attempt with
      | .established => .done
      | .impossible error | .failed error => .failed error)

/-- One step and its outcome. -/
def step (client : Client) : Step → Client × Outcome
  | .connect attempt => client.connect attempt
  | .disconnect => (client.onSession fun s => s.disconnect, .done)
  | .send bytes =>
    if client.session.isUp then (client.onSession fun s => s.receive bytes, .done)
    else (client, .noLink)
  | .hangUp bytes =>
    if client.session.isUp then (client.onSession fun s => s.hangUp bytes, .done)
    else (client, .noLink)
  | .openBatch label => client.openBatch label
  | .submit label c meanwhile => client.submit label c meanwhile
  | .read label => client.withSettled label fun b => (client, .replies b.replies)
  | .overwrite label changes => client.withSettled label fun b =>
      (client.onSession fun s => s.update (.named label) fun b => b.overwriteAll changes,
        .replies b.replies)
  | .reset label => client.withSettled label fun _ =>
      (client.onSession fun s => s.update (.named label) fun _ => .empty, .done)
  | .dropBatch label => client.withSettled label fun _ =>
      (client.onSession fun s => s.closeBatch (.named label), .done)
  | .takeReplies label => client.withSettled label fun b =>
      (client.onSession fun s => s.closeBatch (.named label), .replies b.replies)
  | .query q answers => client.unlessBusy <|
      let (client, server, result) := client.query (.ofAnswers answers) q
      (client, .answered result server.frames)
  | .loadScript body answers => client.load body answers
  | .forgetScripts => ({ client with scripts := [] }, .done)
  | .scan collection pattern count answers => client.unlessBusy <|
      let (client, server, items) :=
        client.scan (.ofAnswers answers) collection pattern count
      (client, .scanned items server.frames)

/-- The client after a history. -/
def run (client : Client) (steps : List Step) : Client :=
  steps.foldl (fun client s => (client.step s).1) client

end Client

end CommandPipeline
