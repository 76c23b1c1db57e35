import CommandPipeline.History

/-!
# Acts of a session

One step of a client may do many things to the session: a one-shot call opens a batch, submits a
command, takes in an answer and closes the batch. An act is one of these things, small enough that
it delivers one reply, submits one command or ends the link. `Session.act` carries it out, and
`Client.acts` lists the acts of a run of steps, in order. An act is allowed when whoever carries it
out has made sure of what it needs: a permit is free, the bytes keep to the format, or the batch is
the caller's own to change.
-/

namespace CommandPipeline

/-- One thing that happens to a session. -/
inductive Act where
  /-- An attempt to connect. -/
  | connect (attempt : Attempt)
  /-- Bytes arrive and all complete replies are taken off the stream. -/
  | arrive (bytes : Bytes)
  /-- One of these replies is handed on. -/
  | answer (r : Reply)
  /-- The link goes down. The commands owed are told the message, and the error is recorded. -/
  | goDown (message : String) (error : Option String)
  /-- A command is submitted. -/
  | submit (name : BatchName)
  | openBatch (name : BatchName)
  | closeBatch (name : BatchName)
  /-- A batch is emptied. -/
  | reset (name : BatchName)
  /-- Replies of a batch are replaced by its owner. -/
  | overwrite (name : BatchName) (changes : List (Nat × Reply))
  deriving DecidableEq

namespace Session

/-! ## Carrying out acts -/

/-- Bytes arrive, and the replies in them are set aside. -/
def arrive (s : Session) (bytes : Bytes) : Session :=
  match s.link with
  | .down _ => s
  | .up stream owed => ⟨s.registry, .up (stream.feed bytes).stream owed⟩

/-- A reply is handed to the oldest command owed, or dropped when none is. -/
def answer (s : Session) (r : Reply) : Session :=
  match s.link with
  | .up stream (t :: owed) => ⟨s.registry.deliver t r, .up stream owed⟩
  | _ => s

/-- The link goes down. -/
def goDown (s : Session) (message : String) (error : Option String) : Session :=
  match s.link with
  | .down _ => s
  | .up _ owed => ⟨s.registry.failAll owed message, .down error⟩

/-- Carries out an act. -/
def act (s : Session) : Act → Session
  | .connect attempt => s.connect attempt
  | .arrive bytes => s.arrive bytes
  | .answer r => s.answer r
  | .goDown message error => s.goDown message error
  | .submit name => s.submit name
  | .openBatch name => s.openBatch name
  | .closeBatch name => s.closeBatch name
  | .reset name => s.update name fun _ => .empty
  | .overwrite name changes => s.update name fun b => b.overwriteAll changes

/-- Carries out acts one after another. -/
def play (s : Session) (acts : List Act) : Session := acts.foldl act s

/-- No command of the batch is unanswered, if there is such a batch. -/
def IsFree (s : Session) (name : BatchName) : Prop :=
  ∀ b, s.batch? name = some b → b.isSettled = true

/-- What has been made sure of before an act is carried out. -/
def Allows (s : Session) : Act → Prop
  | .arrive bytes => ∀ stream owed, s.link = .up stream owed → (stream.feed bytes).fault = none
  | .submit name => s.isBusy = false ∧ (s.batch? name).isSome
  | .openBatch name | .closeBatch name | .reset name | .overwrite name _ => s.IsFree name
  | _ => True

/-- The acts lead from one session to another, each of them allowed when its turn comes. -/
inductive Plays : Session → List Act → Session → Prop where
  | nil (s : Session) : Plays s [] s
  | cons {s t : Session} {a : Act} {acts : List Act} : s.Allows a → Plays (s.act a) acts t →
      Plays s (a :: acts) t

namespace Plays

variable {s t u : Session} {acts more : List Act}

/-- One allowed act is a play. -/
theorem single {a : Act} (h : s.Allows a) : Plays s [a] (s.act a) := .cons h (.nil _)

/-- Plays can be put one behind the other. -/
theorem append (h : Plays s acts t) (hmore : Plays t more u) : Plays s (acts ++ more) u := by
  induction h with
  | nil => exact hmore
  | cons ha _ ih => exact .cons ha (ih hmore)

/-- What a play leads to is what its acts make of the session. -/
theorem play_eq (h : Plays s acts t) : s.play acts = t := by
  induction h with
  | nil => rfl
  | cons _ _ ih => exact ih

/-- The first acts of a play are a play by themselves. -/
theorem take (h : Plays s acts t) (n : Nat) : Plays s (acts.take n) (s.play (acts.take n)) := by
  induction h generalizing n with
  | nil => rw [List.take_nil]; exact .nil _
  | cons ha _ ih =>
      cases n with
      | zero => exact .nil _
      | succ n => exact .cons ha (ih n)

/-- What every allowed act of some sort keeps, a whole play of such acts keeps. -/
theorem preserves_of {P : Session → Prop} {Q : Act → Prop}
    (hstep : ∀ s a, P s → s.Allows a → Q a → P (s.act a)) (h : Plays s acts t)
    (hacts : ∀ a ∈ acts, Q a) (hs : P s) : P t := by
  induction h with
  | nil => exact hs
  | cons ha _ ih =>
      obtain ⟨hfirst, hlater⟩ := List.forall_mem_cons.1 hacts
      exact ih hlater (hstep _ _ hs ha hfirst)

/-- What every allowed act keeps, a whole play keeps. -/
theorem preserves {P : Session → Prop} (hstep : ∀ s a, P s → s.Allows a → P (s.act a))
    (h : Plays s acts t) (hs : P s) : P t :=
  h.preserves_of (fun s a hs ha _ => hstep s a hs ha) (fun _ _ => trivial) hs

end Plays

/-! ## The acts of what happens on a link -/

/-- The end of the link, unless it is down already. -/
def downActs (s : Session) (message : String) (error : Option String) : List Act :=
  if s.isUp then [.goDown message error] else []

/-- Bytes from the server. If they break the format the link is lost, and none of the replies in
them is handed on. -/
def receiveActs (s : Session) (bytes : Bytes) : List Act :=
  match s.link with
  | .down _ => []
  | .up stream _ =>
    match (stream.feed bytes).fault with
    | some fault => [.goDown fault.message (some fault.message)]
    | none => .arrive bytes :: (stream.feed bytes).replies.map .answer

/-- The server ends the link after some last bytes. -/
def hangUpActs (s : Session) (bytes : Bytes) : List Act :=
  s.receiveActs bytes ++ (s.receive bytes).downActs closedByServer (some closedByServer)

/-- The command of a one-shot call and the answer to it. -/
def exchangeActs (s : Session) (server : Server) (c : Command) : List Act :=
  let bytes := (server.answer c.frame).2
  let submitted := s.submit .oneShot
  let answered := submitted.receive bytes
  .submit .oneShot :: submitted.receiveActs bytes ++
    match answered.batch? .oneShot with
    | some b => if b.isSettled then [] else answered.downActs closedByServer (some closedByServer)
    | none => []

/-- A one-shot call. -/
def askActs (s : Session) (server : Server) (c : Command) : List Act :=
  if s.isUp then
    .openBatch .oneShot :: (s.openBatch .oneShot).exchangeActs server c ++ [.closeBatch .oneShot]
  else []

end Session

/-! ## The acts of a client -/

namespace Client

/-- A request of a cursor that also notes its acts. -/
def requestNoted : Request ((Client × Server) × List Act) := fun ((client, server), noted) c =>
  let (state, result) := request (client, server) c
  ((state, noted ++ client.session.askActs server c), result)

/-- The acts of loading a script. -/
def loadActs (client : Client) (server : Server) (body : String) : List Act :=
  match client.scripts.digest? body with
  | some _ => []
  | none => client.session.askActs server (.scriptLoad body)

/-- The acts of going through a collection. -/
def scanActs (client : Client) (server : Server) (collection : Collection) (pattern : Option Bytes)
    (count : Nat) : List Act :=
  (Cursor.steps requestNoted (fun state => requestLimit state.1) count (.start collection pattern)
    ((client, server), [])).1.2

/-- The acts of a step that needs a batch of its caller's without unanswered commands. -/
def settledActs (client : Client) (label : String) (acts : List Act) : List Act :=
  match client.session.batch? (.named label) with
  | none => []
  | some b => if b.isSettled then acts else []

/-- The acts of opening a batch, in place of any settled one of that name. -/
def openActs (client : Client) (label : String) : List Act :=
  match client.session.batch? (.named label) with
  | some b => if b.isSettled then start else []
  | none => start
where
  /-- A batch needs a link when it is opened. -/
  start : List Act := if client.session.isUp then [.openBatch (.named label)] else []

/-- The acts of submitting a command. -/
def submitActs (client : Client) (label : String) (meanwhile : Option Bytes) : List Act :=
  if (client.session.batch? (.named label)).isNone then []
  else if client.session.isBusy then
    match meanwhile with
    | none => []
    | some bytes =>
      client.session.receiveActs bytes ++
        if (client.session.receive bytes).isBusy then [] else [.submit (.named label)]
  else [.submit (.named label)]

/-- The acts of a step. -/
def stepActs (client : Client) : Step → List Act
  | .connect attempt => [.connect attempt]
  | .disconnect => client.session.downActs Session.closedByClient none
  | .send bytes => client.session.receiveActs bytes
  | .hangUp bytes => client.session.hangUpActs bytes
  | .openBatch label => client.openActs label
  | .submit label _ meanwhile => client.submitActs label meanwhile
  | .read _ => []
  | .overwrite label changes => client.settledActs label [.overwrite (.named label) changes]
  | .reset label => client.settledActs label [.reset (.named label)]
  | .dropBatch label | .takeReplies label => client.settledActs label [.closeBatch (.named label)]
  | .query q answers =>
    if client.session.isBusy then [] else client.session.askActs (.ofAnswers answers) q.command
  | .loadScript body answers =>
    if client.session.isBusy then [] else client.loadActs (.ofAnswers answers) body
  | .forgetScripts => []
  | .scan collection pattern count answers =>
    if client.session.isBusy then []
    else client.scanActs (.ofAnswers answers) collection pattern count

/-- The acts of a history. -/
def acts (client : Client) : List Step → List Act
  | [] => []
  | step :: later => client.stepActs step ++ acts (client.step step).1 later

end Client

end CommandPipeline
