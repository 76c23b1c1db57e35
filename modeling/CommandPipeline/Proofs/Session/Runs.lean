import CommandPipeline.Proofs.Session.Calls
import CommandPipeline.Proofs.Cursors

/-!
# Runs as acts

A run of steps is carried out by its acts, each of which is allowed when its turn comes. So what
every allowed act preserves holds after every run. Between steps the session is ready: it is
balanced, and no one-shot call is under way. A cursor makes many calls, and since each of them
leaves nothing owed, it is enough that a permit is free before the first.
-/

namespace CommandPipeline

/-! ## The steps of a client -/

namespace Client

open Session

variable {client : Client}

/-- The acts lead to the given session, which is ready for the next step. -/
def Leads (client : Client) (acts : List Act) (s : Session) : Prop :=
  client.session.Plays acts s ∧ s.Ready

/-- Where nothing is done, a session stays as it is. -/
theorem leads_nil (h : client.session.Ready) : client.Leads [] client.session := ⟨.nil _, h⟩

/-- A query leaves the session as its call does. -/
theorem query_session (client : Client) (server : Server) (q : Query) :
    (client.query server q).1.session = (client.session.ask server q.command).1 := by
  rw [query, Client.ask]
  generalize client.session.ask server q.command = asked
  obtain ⟨s, server, e | r⟩ := asked
  · rfl
  · dsimp only
    cases q.read r <;> rfl

/-- A load leaves the session as its call does, and as it was if there is no call. -/
theorem loadScript_session (client : Client) (server : Server) (body : String) :
    (client.loadScript server body).1.session =
      match client.scripts.digest? body with
      | some _ => client.session
      | none => (client.session.ask server (.scriptLoad body)).1 := by
  rw [loadScript, Client.ask]
  cases client.scripts.digest? body with
  | some digest => rfl
  | none =>
      generalize client.session.ask server (.scriptLoad body) = asked
      obtain ⟨s, server, e | r⟩ := asked
      · rfl
      · dsimp only
        cases r.toText <;> rfl

/-- Without a free permit the step would block. -/
theorem unlessBusy_of_busy (h : client.session.isBusy = true) (use : Client × Outcome) :
    client.unlessBusy use = (client, .wouldBlock) := if_pos h

/-- With a free permit the step is carried out. -/
theorem unlessBusy_of_free (h : client.session.isBusy = false) (use : Client × Outcome) :
    client.unlessBusy use = use := by
  rw [unlessBusy, h]
  rfl

/-! ## The loading of scripts -/

/-- A script in the cache is not loaded again. -/
theorem loadScript_of_some {body digest : String} (h : client.scripts.digest? body = some digest)
    (server : Server) : client.loadScript server body = (client, server, .ok digest) := by
  rw [loadScript, h]

/-- A digest in the cache is given at once, with or without a permit. -/
theorem load_of_some {body digest : String} (h : client.scripts.digest? body = some digest)
    (answers : List Bytes) : client.load body answers = (client, .loaded (.ok digest) []) := by
  rw [load, loadScript_of_some h, h]
  rfl

/-- An upload waits for a permit. -/
theorem load_of_busy (hbusy : client.session.isBusy = true) {body : String}
    (h : client.scripts.digest? body = none) (answers : List Bytes) :
    client.load body answers = (client, .wouldBlock) := by
  rw [load, h]
  exact unlessBusy_of_busy hbusy _

/-- With a free permit it makes no difference whether the server is asked. -/
theorem load_of_free (hbusy : client.session.isBusy = false) (body : String)
    (answers : List Bytes) :
    client.load body answers =
      ((client.loadScript (.ofAnswers answers) body).1,
        .loaded (client.loadScript (.ofAnswers answers) body).2.2
          (client.loadScript (.ofAnswers answers) body).2.1.frames) := by
  rw [load]
  dsimp only
  rw [unlessBusy_of_free hbusy, ite_self]

section

/-! What holds before a step, and of whatever the step may come to, holds after it. -/

variable {P : Client → Prop}

/-- What holds of a client, and still holds after the use of a settled batch, holds in any case. -/
theorem withSettled_preserves (label : String) {use : Batch → Client × Outcome} (h : P client)
    (huse : ∀ b, P (use b).1) : P (client.withSettled label use).1 := by
  rw [withSettled]
  cases client.session.batch? (.named label) with
  | none => exact h
  | some b =>
      dsimp only
      split
      · exact huse b
      · exact h

/-- What holds of a client, and still holds after the use, holds whether or not a permit is free. -/
theorem unlessBusy_preserves {use : Client × Outcome} (h : P client) (huse : P use.1) :
    P (client.unlessBusy use).1 := by
  rw [unlessBusy]
  split
  · exact h
  · exact huse

/-- What a load preserves is preserved by its step. -/
theorem load_preserves {body : String} {answers : List Bytes} (h : P client)
    (hload : P (client.loadScript (.ofAnswers answers) body).1) :
    P (client.load body answers).1 := by
  rw [load]
  dsimp only
  split
  · exact hload
  · exact unlessBusy_preserves h hload

/-- What the opening of a batch on a link preserves is preserved in any case. -/
theorem openBatch_preserves (label : String) (h : P client)
    (hopen : client.session.isUp = true →
      P (client.onSession fun s => s.openBatch (.named label))) :
    P (client.openBatch label).1 := by
  have hstart : P (openBatch.start client label).1 := by
    rw [openBatch.start]
    split
    · next hup => exact hopen hup
    · exact h
  rw [openBatch]
  cases client.session.batch? (.named label) with
  | none => exact hstart
  | some b =>
      dsimp only
      split
      · exact hstart
      · exact h

/-- What every one-shot call preserves, going through a collection preserves. -/
theorem scan_preserves (hask : ∀ client server c, P client → P (client.ask server c).1)
    (h : P client) (server : Server) (collection : Collection) (pattern : Option Bytes)
    (count : Nat) : P (client.scan server collection pattern count).1 := by
  let R : Client × Server → Client × Server → Prop := fun state other => state = other ∧ P state.1
  have hfollows : Request.Follows R request request := by
    rintro ⟨asker, server⟩ _ c ⟨rfl, hasker⟩
    exact ⟨⟨rfl, hask asker server c hasker⟩, rfl⟩
  have hlimit : ∀ state other, R state other → requestLimit state = requestLimit other := by
    rintro _ _ ⟨rfl, -⟩
    rfl
  obtain ⟨⟨-, hend⟩, -⟩ := Cursor.steps_follows hfollows hlimit count
    (.start collection pattern) (s := (client, server)) ⟨rfl, h⟩
  exact hend

end

/-- The requests of a cursor are one-shot calls, each made by a ready session with a free permit. -/
theorem leads_scan (h : client.session.Ready) (hbusy : client.session.isBusy = false)
    (server : Server) (collection : Collection) (pattern : Option Bytes) (count : Nat) :
    client.Leads (client.scanActs server collection pattern count)
      (client.scan server collection pattern count).1.session := by
  -- What is noted along with each state leads there from the start, and a permit is free again.
  let R : Client × Server → (Client × Server) × List Act → Prop := fun state noted =>
    noted.1 = state ∧ client.Leads noted.2 state.1.session ∧ state.1.session.isBusy = false
  have hfollows : Request.Follows R request requestNoted := by
    rintro ⟨asker, server⟩ ⟨_, noted⟩ c ⟨rfl, ⟨hplays, hready⟩, hfree⟩
    obtain ⟨hasked, hready, hfree⟩ := hready.ask hfree server c
    exact ⟨⟨rfl, ⟨hplays.append hasked, hready⟩, hfree⟩, rfl⟩
  have hlimit : ∀ state noted, R state noted → requestLimit state = requestLimit noted.1 := by
    rintro state noted ⟨hstate, -⟩
    rw [hstate]
  obtain ⟨⟨-, hleads, -⟩, -⟩ := Cursor.steps_follows hfollows hlimit count
    (.start collection pattern) (s := (client, server)) (t := ((client, server), []))
    ⟨rfl, leads_nil h, hbusy⟩
  exact hleads

/-- An arrival of bytes is carried out by its acts. -/
theorem leads_receive (h : client.session.Ready) (bytes : Bytes) :
    client.Leads (client.session.receiveActs bytes) (client.session.receive bytes) :=
  ⟨plays_receive _ _, h.of_names (plays_receive _ _) (names_receive _ _)⟩

/-- A submission is carried out by its acts, with the arrival that it may have to wait for. -/
theorem leads_submit (h : client.session.Ready) (label : String) (c : Command)
    (meanwhile : Option Bytes) :
    client.Leads (client.submitActs label meanwhile)
      (client.submit label c meanwhile).1.session := by
  unfold submitActs submit
  cases hname : (client.session.batch? (.named label)).isNone with
  | true => exact leads_nil h
  | false =>
      have hthere : (client.session.batch? (.named label)).isSome := by
        rwa [Option.isNone_eq_false_iff] at hname
      cases hbusy : client.session.isBusy with
      | false =>
          have hplays := Plays.single (a := .submit (.named label)) ⟨hbusy, hthere⟩
          exact ⟨hplays, h.of_names hplays (names_submit _ _)⟩
      | true =>
          cases meanwhile with
          | none => exact leads_nil h
          | some bytes =>
              have hreceived := leads_receive h bytes
              have hstill : ((client.session.receive bytes).batch? (.named label)).isSome := by
                simpa [isSome_batch?_iff] using hthere
              dsimp only [onSession]
              cases hfree : (client.session.receive bytes).isBusy with
              | true =>
                  rw [if_pos rfl, if_pos rfl, List.append_nil]
                  exact hreceived
              | false =>
                  have hplays := Plays.single (a := .submit (.named label)) ⟨hfree, hstill⟩
                  exact ⟨hreceived.1.append hplays,
                    hreceived.2.of_names hplays (names_submit _ _)⟩

/-- Closing a batch starts no one-shot call. -/
theorem noCall_closeBatch (h : client.session.Ready) (name : BatchName) :
    .oneShot ∉ (client.session.closeBatch name).names := by
  rw [names_closeBatch]
  exact fun hmem => h.noCall (List.mem_of_mem_erase hmem)

/-- Changing a batch starts no one-shot call. -/
theorem noCall_update (h : client.session.Ready) (name : BatchName) (f : Batch → Batch) :
    .oneShot ∉ (client.session.update name f).names := by
  simpa using h.noCall

/-- Opening the batch of a label starts no one-shot call. -/
theorem noCall_openBatch (h : client.session.Ready) (label : String) :
    .oneShot ∉ (client.session.openBatch (.named label)).names := by
  rw [names_openBatch, List.mem_cons]
  rintro (heq | hmem)
  · cases heq
  · exact h.noCall (List.mem_of_mem_erase hmem)

/-- A batch that may be opened is opened by one act. -/
theorem leads_start (h : client.session.Ready) (label : String)
    (hfree : client.session.IsFree (.named label)) :
    client.Leads (openActs.start client label) (openBatch.start client label).1.session := by
  unfold openActs.start openBatch.start
  cases client.session.isUp with
  | false => exact leads_nil h
  | true =>
      have hplays := Plays.single (a := .openBatch (.named label)) hfree
      exact ⟨hplays, h.of_plays hplays (noCall_openBatch h label)⟩

/-- The step that opens a batch is carried out by its acts. -/
theorem leads_open (h : client.session.Ready) (label : String) :
    client.Leads (client.openActs label) (client.openBatch label).1.session := by
  unfold openActs openBatch
  cases hb : client.session.batch? (.named label) with
  | none => exact leads_start h label (isFree_of_none hb)
  | some b =>
      dsimp only
      by_cases hsettled : b.isSettled
      · rw [if_pos hsettled, if_pos hsettled]
        exact leads_start h label (isFree_of_some hb hsettled)
      · rw [if_neg hsettled, if_neg hsettled]
        exact leads_nil h

/-- What the owner of a batch does to it, once no command of it is unanswered. -/
theorem leads_settled (h : client.session.Ready) (label : String) {a : Act} {s : Session}
    {result : Batch → Outcome} (hs : client.session.act a = s)
    (hallows : client.session.IsFree (.named label) → client.session.Allows a)
    (hkept : .oneShot ∉ s.names) :
    client.Leads (client.settledActs label [a])
      (client.withSettled label fun b => ({ client with session := s }, result b)).1.session := by
  unfold settledActs withSettled
  cases hb : client.session.batch? (.named label) with
  | none => exact leads_nil h
  | some b =>
      dsimp only
      by_cases hsettled : b.isSettled
      · rw [if_pos hsettled, if_pos hsettled]
        have hplays := Plays.single (hallows (isFree_of_some hb hsettled))
        rw [hs] at hplays
        exact ⟨hplays, h.of_plays hplays hkept⟩
      · rw [if_neg hsettled, if_neg hsettled]
        exact leads_nil h

/-- A one-shot call of a step that waits for a free permit. -/
theorem leads_ask (h : client.session.Ready) (hbusy : client.session.isBusy = false)
    (server : Server) (c : Command) :
    client.Leads (client.session.askActs server c) (client.session.ask server c).1 := by
  obtain ⟨hplays, hready, -⟩ := h.ask hbusy server c
  exact ⟨hplays, hready⟩

/-- A load is carried out by the acts of its call, if it makes one. -/
theorem leads_load (h : client.session.Ready) (hbusy : client.session.isBusy = false)
    (server : Server) (body : String) :
    client.Leads (client.loadActs server body) (client.loadScript server body).1.session := by
  rw [loadScript_session]
  unfold loadActs
  cases client.scripts.digest? body with
  | some digest => exact leads_nil h
  | none => exact leads_ask h hbusy server (.scriptLoad body)

/-- The step of a load is carried out by its acts, of which there are none while no permit is
free. -/
theorem leads_loadStep (h : client.session.Ready) (body : String) (answers : List Bytes) :
    client.Leads (client.stepActs (.loadScript body answers))
      (client.load body answers).1.session := by
  rw [stepActs]
  cases hbusy : client.session.isBusy with
  | true =>
      -- Without a permit no act takes place, whether the digest is known or not.
      have hsame : (client.load body answers).1 = client := by
        cases hdigest : client.scripts.digest? body with
        | some digest => rw [load_of_some hdigest]
        | none => rw [load_of_busy hbusy hdigest]
      rw [hsame]
      exact leads_nil h
  | false =>
      rw [load_of_free hbusy]
      exact leads_load h hbusy (.ofAnswers answers) body

/-- With a free permit a command is submitted at once. -/
theorem submit_eq (hbusy : client.session.isBusy = false) (label : String) (c : Command)
    (meanwhile : Option Bytes) :
    (client.step (.submit label c meanwhile)).1 =
      client.onSession fun s => s.submit (.named label) := by
  show (client.submit label c meanwhile).1 = _
  unfold submit
  cases hb : client.session.batch? (.named label) with
  | none =>
      show client = client.onSession _
      rw [onSession, submit_of_none hb]
  | some b =>
      rw [hbusy]
      rfl

/-- Without a link, where nothing can be sent, no bytes arrive either. -/
theorem send_eq (client : Client) (bytes : Bytes) :
    (client.step (.send bytes)).1 = client.onSession fun s => s.receive bytes := by
  unfold Client.step
  cases hup : client.session.isUp with
  | true => rfl
  | false =>
      simp [onSession, hup]

@[simp] theorem connect_session (client : Client) (attempt : Attempt) :
    (client.step (.connect attempt)).1.session = client.session.connect attempt := rfl

@[simp] theorem disconnect_session (client : Client) :
    (client.step .disconnect).1.session = client.session.disconnect := rfl

@[simp] theorem send_session (client : Client) (bytes : Bytes) :
    (client.step (.send bytes)).1.session = client.session.receive bytes :=
  congrArg Client.session (client.send_eq bytes)

@[simp] theorem hangUp_session (client : Client) (bytes : Bytes) :
    (client.step (.hangUp bytes)).1.session = client.session.hangUp bytes := by
  unfold Client.step
  cases hup : client.session.isUp with
  | true => rfl
  | false => exact (hangUp_down hup bytes).symm

@[simp] theorem read_session (client : Client) (label : String) :
    (client.step (.read label)).1.session = client.session := by
  show (client.withSettled label fun b => (client, .replies b.replies)).1.session = client.session
  unfold withSettled
  cases client.session.batch? (.named label) with
  | none => rfl
  | some b =>
      dsimp only
      split <;> rfl

/-- Every step is carried out by its acts. -/
theorem leads_step (h : client.session.Ready) (step : Step) :
    client.Leads (client.stepActs step) (client.step step).1.session := by
  cases step with
  | connect attempt =>
      have hplays := Plays.single (s := client.session) (a := .connect attempt) trivial
      exact ⟨hplays, h.of_names hplays (by simp)⟩
  | disconnect =>
      have hplays := client.session.plays_goDown closedByClient none
      exact ⟨hplays, h.of_names hplays (by simp)⟩
  | send bytes =>
      rw [send_session]
      exact leads_receive h bytes
  | hangUp bytes =>
      have hplays := client.session.plays_hangUp bytes
      rw [hangUp_session]
      exact ⟨hplays, h.of_names hplays (by simp [Session.hangUp])⟩
  | openBatch label => exact leads_open h label
  | submit label c meanwhile => exact leads_submit h label c meanwhile
  | read label =>
      rw [read_session]
      exact leads_nil h
  | overwrite label changes =>
      exact leads_settled h label rfl id (noCall_update h _ _)
  | reset label => exact leads_settled h label rfl id (noCall_update h _ _)
  | dropBatch label => exact leads_settled h label rfl id (noCall_closeBatch h _)
  | takeReplies label => exact leads_settled h label rfl id (noCall_closeBatch h _)
  | query q answers =>
      unfold stepActs Client.step unlessBusy
      cases hbusy : client.session.isBusy with
      | true => exact leads_nil h
      | false =>
          have hasked := leads_ask h hbusy (.ofAnswers answers) q.command
          rw [← query_session] at hasked
          exact hasked
  | loadScript body answers => exact leads_loadStep h body answers
  | forgetScripts => exact leads_nil h
  | scan collection pattern count answers =>
      unfold stepActs Client.step unlessBusy
      cases hbusy : client.session.isBusy with
      | true => exact leads_nil h
      | false => exact leads_scan h hbusy (.ofAnswers answers) collection pattern count

/-- Any number of steps is carried out by their acts, by induction on the steps. -/
theorem leads_run (h : client.session.Ready) (steps : List Step) :
    client.Leads (client.acts steps) (client.run steps).session := by
  induction steps generalizing client with
  | nil => exact leads_nil h
  | cons step steps ih =>
      obtain ⟨hplays, hready⟩ := leads_step h step
      obtain ⟨hlater, hend⟩ := ih hready
      exact ⟨hplays.append hlater, hend⟩

/-- A history can be gone through in two parts. -/
@[simp] theorem run_append (client : Client) (steps later : List Step) :
    client.run (steps ++ later) = (client.run steps).run later :=
  List.foldl_append

/-- The acts of a history are those of its first part and then those of its second. -/
@[simp] theorem acts_append (client : Client) (steps later : List Step) :
    client.acts (steps ++ later) = client.acts steps ++ (client.run steps).acts later := by
  induction steps generalizing client with
  | nil => rfl
  | cons step steps ih =>
      simp only [List.cons_append, acts, ih, List.append_assoc]
      rfl

/-- A run is carried out by its acts, and it leaves the session ready. -/
theorem leads_run_ofCeiling (ceiling : Nat) (steps : List Step) :
    (ofCeiling ceiling).Leads ((ofCeiling ceiling).acts steps)
      ((ofCeiling ceiling).run steps).session :=
  leads_run (ready_ofCeiling ceiling) steps

/-- A one-shot call while another command is owed a reply. -/
example :
    (ofCeiling 2).acts [.connect .established, .openBatch "b", .submit "b" .ping none,
        .query .ping [Utf8.encode "+A\r\n:1\r\n"]] =
      [.connect .established, .openBatch (.named "b"), .submit (.named "b"), .openBatch .oneShot,
        .submit .oneShot, .arrive (Utf8.encode "+A\r\n:1\r\n"), .answer (.status "A"),
        .answer (.integer 1), .closeBatch .oneShot] := by
  decide +kernel

end Client

end CommandPipeline
