import CommandPipeline.Proofs.Session.Runs
import CommandPipeline.Proofs.Session.Commuting

/-!
# Schedules

Commands and replies pass each other on a link, and the bytes of the replies come in pieces. None of
this can be seen in the end. Every schedule of the same submissions and the same bytes leaves the
session that all submissions leave when the bytes arrive behind them in one piece (`run_moves`), as
long as the bytes keep to the format, no command has to wait for a permit, and no reply comes before
its command.
-/

namespace CommandPipeline

/-- One thing that happens in a schedule. -/
inductive Move where
  /-- A command is submitted on a batch. -/
  | submit (label : String) (c : Command)
  /-- The server sends bytes. -/
  | send (bytes : Bytes)
  deriving DecidableEq

namespace Move

/-- The step of a move. No bytes arrive while a command waits, since none has to. -/
def step : Move → Step
  | .submit label c => .submit label c none
  | .send bytes => .send bytes

/-- The command of a move, with the label of its batch. -/
def submission? : Move → Option (String × Command)
  | .submit label c => some (label, c)
  | .send _ => none

/-- The bytes that arrive in a move. -/
def bytes : Move → Bytes
  | .submit .. => []
  | .send bytes => bytes

end Move

/-- The batches of some submissions, in order. -/
def batchNames (submissions : List (String × Command)) : List BatchName :=
  submissions.map fun (label, _) => .named label

namespace Session

/-- The replies that become complete when bytes arrive. -/
def repliesIn (s : Session) (bytes : Bytes) : List Reply :=
  match s.link with
  | .down _ => []
  | .up stream _ => (stream.feed bytes).replies

/-- The move goes through: a permit is free for a command, and there is a command for each reply. -/
def Takes (s : Session) : Move → Prop
  | .submit .. => s.isBusy = false
  | .send bytes => (s.repliesIn bytes).length ≤ s.owed.length

instance decidableTakes (s : Session) : (move : Move) → Decidable (s.Takes move)
  | .submit .. => inferInstanceAs (Decidable (_ = _))
  | .send _ => inferInstanceAs (Decidable (_ ≤ _))

end Session

namespace Client

/-- Each move of a schedule goes through when its turn comes. -/
def Smooth (client : Client) : List Move → Prop
  | [] => True
  | move :: later => client.session.Takes move ∧ Smooth (client.step move.step).1 later

instance decidableSmooth (client : Client) : (moves : List Move) → Decidable (client.Smooth moves)
  | [] => inferInstanceAs (Decidable True)
  | move :: later =>
    have := decidableSmooth (client.step move.step).1 later
    inferInstanceAs (Decidable (_ ∧ _))

end Client

namespace Session

variable {s : Session} {stream : Wire.Stream} {owed : List Ticket}

/-! ## The decoder between arrivals -/

/-- If there is a link, its decoder has gone as far into the buffer as the bytes allow. -/
def CaughtUp (s : Session) : Prop := ∀ stream owed, s.link = .up stream owed → stream.CaughtUp

/-- Only the stream of the link decides whether the decoder has caught up. -/
theorem CaughtUp.of_link {t : Session} (h : s.CaughtUp) (hlink : t.link = s.link) : t.CaughtUp :=
  fun stream owed ht => h stream owed (hlink.symm.trans ht)

/-- Without a link there is no decoder. -/
theorem caughtUp_of_down (hdown : s.isUp = false) : s.CaughtUp := by
  intro stream owed hlink
  rw [isUp, hlink] at hdown
  cases hdown

/-- No act that is allowed leaves a decoder behind. -/
theorem CaughtUp.act (h : s.CaughtUp) {a : Act} (ha : s.Allows a) : (s.act a).CaughtUp := by
  obtain ⟨registry, link⟩ := s
  cases a with
  | connect attempt =>
      cases link with
      | up stream owed => exact h
      | down error =>
          cases attempt with
          | established =>
              rintro _ _ ⟨⟩
              exact Wire.Stream.caughtUp_fresh
          | impossible e => exact h
          | failed e => exact caughtUp_of_down rfl
  | arrive bytes =>
      cases link with
      | down error => exact h
      | up stream owed =>
          rintro _ _ ⟨⟩
          exact (h stream owed rfl).stream_feed (ha stream owed rfl)
  | answer reply =>
      cases link with
      | down error => exact h
      | up stream owed =>
          cases owed with
          | nil => exact h
          | cons t owed =>
              rintro _ _ ⟨⟩
              exact h stream (t :: owed) rfl
  | goDown message error =>
      cases link with
      | down error => exact h
      | up stream owed => exact caughtUp_of_down rfl
  | submit name =>
      rw [Session.act, submit]
      cases nextTicket? ⟨registry, link⟩ name with
      | none => exact h
      | some ticket =>
          cases link with
          | down error => exact caughtUp_of_down rfl
          | up stream owed =>
              rintro _ _ ⟨⟩
              exact h stream owed rfl
  | openBatch name => exact h.of_link rfl
  | closeBatch name => exact h.of_link rfl
  | reset name => exact h.of_link rfl
  | overwrite name changes => exact h.of_link rfl

/-- No play leaves a decoder behind. -/
theorem Plays.caughtUp {acts : List Act} {t : Session} (h : s.Plays acts t) (hs : s.CaughtUp) :
    t.CaughtUp :=
  h.preserves (P := CaughtUp) (fun _ _ hs ha => hs.act ha) hs

/-! ## One move -/

/-- A submission keeps the balance whether or not its batch is there. -/
theorem Balanced.submit_of_not_busy (h : s.Balanced) (hbusy : s.isBusy = false) (name : BatchName) :
    (s.submit name).Balanced := by
  cases hb : s.batch? name with
  | none => rwa [submit_of_none hb]
  | some b => exact h.submit hbusy (by rw [hb]; rfl)

end Session

namespace Client

open Session

variable {client : Client}

/-- A schedule leaves what all its submissions leave when its bytes arrive behind them in one
piece. -/
theorem run_moves {stream : Wire.Stream} {owed : List Ticket} {moves : List Move}
    (hbalanced : client.session.Balanced) (hlink : client.session.link = .up stream owed)
    (hstream : stream.CaughtUp) (hfault : (stream.feed (moves.flatMap Move.bytes)).fault = none)
    (hsmooth : client.Smooth moves) :
    client.run (moves.map Move.step) = client.onSession fun s =>
      (s.submitAll (batchNames (moves.filterMap Move.submission?))).receive
        (moves.flatMap Move.bytes) := by
  -- The first move is brought into its place among the others, which are in order already.
  induction moves generalizing client stream owed with
  | nil =>
      show client = client.onSession fun s => s.receive []
      rw [onSession, receive_nil hlink hstream]
  | cons move later ih =>
      obtain ⟨htakes, hlater⟩ := hsmooth
      cases move with
      | submit label c =>
          have hstep := submit_eq htakes label c none
          rw [Move.step, hstep] at hlater
          have hnext := ih (hbalanced.submit_of_not_busy htakes _) (link_submit hlink _) hstream
            hfault hlater
          show (client.step (.submit label c none)).1.run (later.map Move.step) = _
          rw [hstep, hnext]
          rfl
      | send bytes =>
          let names := batchNames (later.filterMap Move.submission?)
          have hwhole : (stream.feed (bytes ++ later.flatMap Move.bytes)).fault = none := hfault
          obtain ⟨hfirst, hrest, -⟩ := hstream.feed_append hwhole
          have hcount : (stream.feed bytes).replies.length ≤ owed.length := by
            rwa [Takes, repliesIn, Session.owed, hlink] at htakes
          have hswap := hbalanced.receive_submitAll hlink hfirst hcount names
          have hstep := client.send_eq bytes
          rw [Move.step, hstep] at hlater
          have hnext := ih ((plays_receive _ bytes).balanced hbalanced)
            (link_receive hlink hfirst) (hstream.stream_feed hfirst) hrest hlater
          show (client.step (.send bytes)).1.run (later.map Move.step) = _
          rw [hstep, hnext]
          show client.onSession (fun s => ((s.receive bytes).submitAll names).receive _) =
            client.onSession fun s =>
              (s.submitAll names).receive (bytes ++ later.flatMap Move.bytes)
          rw [onSession, onSession, ← hswap,
            receive_append (link_submitAll hlink names) hstream hwhole]

/-- On a link of a run, two schedules of the same submissions and the same bytes end in the same
state: the slots of all batches, the queue, the permits, the bytes that are left, the decoder and
the link are the same. The link is up, the decoder has taken all bytes, and for each reply a command
has left the queue. -/
theorem run_schedules_agree (ceiling : Nat) (history : List Step) (first second : List Move)
    {stream : Wire.Stream} {owed : List Ticket}
    (hlink : ((ofCeiling ceiling).run history).session.link = .up stream owed)
    (hsubmissions : first.filterMap Move.submission? = second.filterMap Move.submission?)
    (hbytes : first.flatMap Move.bytes = second.flatMap Move.bytes)
    (hfault : (stream.feed (first.flatMap Move.bytes)).fault = none)
    (hfirst : ((ofCeiling ceiling).run history).Smooth first)
    (hsecond : ((ofCeiling ceiling).run history).Smooth second) :
    let client := (ofCeiling ceiling).run history
    let decoded := stream.feed (first.flatMap Move.bytes)
    let sent := client.session.newTickets (batchNames (first.filterMap Move.submission?))
    client.run (first.map Move.step) = client.run (second.map Move.step) ∧
      (client.run (first.map Move.step)).session.link =
        .up decoded.stream ((owed ++ sent).drop decoded.replies.length) := by
  intro client decoded sent
  obtain ⟨hplays, hready⟩ := leads_run_ofCeiling ceiling history
  have hstream : stream.CaughtUp := hplays.caughtUp (caughtUp_of_down rfl) stream owed hlink
  have hrun := run_moves hready.balanced hlink hstream hfault hfirst
  have hother := run_moves hready.balanced hlink hstream (hbytes ▸ hfault) hsecond
  refine ⟨?_, ?_⟩
  · rw [hrun, hother, hsubmissions, hbytes]
  · rw [hrun]
    exact link_receive (link_submitAll hlink _) hfault

/-- Three commands are submitted, and two are answered by bytes that also begin a third reply. They
arrive in one piece behind the commands, or in four pieces between them. -/
theorem run_schedules_agree_cut :
    let history : List Step := [.connect .established, .openBatch "a", .openBatch "b"]
    let client := (ofCeiling 3).run history
    let first : List Move := [.submit "a" .ping, .submit "b" .ping, .submit "a" .ping,
      .send (Utf8.encode "+A\r\n:1\r\n*2\r\n:7\r\n$5\r\nab")]
    let second : List Move := [.submit "a" .ping, .send (Utf8.encode "+A\r"),
      .send (Utf8.encode "\n"), .submit "b" .ping, .send (Utf8.encode ":1\r\n*2\r\n:"),
      .submit "a" .ping, .send (Utf8.encode "7\r\n$5\r\nab")]
    (client.session.link = .up .fresh [] ∧
        first.filterMap Move.submission? = second.filterMap Move.submission? ∧
        first.flatMap Move.bytes = second.flatMap Move.bytes ∧
        (Wire.Stream.fresh.feed (first.flatMap Move.bytes)).fault = none ∧
        client.Smooth first ∧ client.Smooth second) ∧
      client.run (first.map Move.step) = client.run (second.map Move.step) ∧
      (client.run (first.map Move.step)).session.link =
        .up ⟨⟨8, [1]⟩, Utf8.encode "*2\r\n:7\r\n$5\r\nab"⟩ [⟨.named "a", 1⟩] := by
  intro history client first second
  have hlink : client.session.link = .up .fresh [] := by decide +kernel
  have hsubmissions : first.filterMap Move.submission? = second.filterMap Move.submission? := by
    decide +kernel
  have hbytes : first.flatMap Move.bytes = second.flatMap Move.bytes := by decide +kernel
  have hfault : (Wire.Stream.fresh.feed (first.flatMap Move.bytes)).fault = none := by
    decide +kernel
  have hfirst : client.Smooth first := by decide +kernel
  have hsecond : client.Smooth second := by decide +kernel
  obtain ⟨hsame, hend⟩ :=
    run_schedules_agree 3 history first second hlink hsubmissions hbytes hfault hfirst hsecond
  refine ⟨⟨hlink, hsubmissions, hbytes, hfault, hfirst, hsecond⟩, hsame, hend.trans ?_⟩
  decide +kernel

end Client

end CommandPipeline
