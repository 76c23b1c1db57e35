import CommandPipeline.Proofs.Session.Agreement
import CommandPipeline.Proofs.Session.Conservation
import CommandPipeline.Proofs.Session.Correlation

/-!
# Links do not leak into each other

A client keeps its batches and its permits from one link to the next, but nothing of a link that is
gone reaches the next one. Seen through batches opened on the new link, a client with a past behaves
as one without: all that a link reads and writes are the stream, the queue, the permits and the
batches of its own commands, and they are the same for both. And nothing on the new link reaches
back: the commands of the past have their replies, and only the owners of their batches change
these.
-/

namespace CommandPipeline

/-! ## Observations and sealed commands -/

/-- The label of the batch that a step uses. Opening a batch does not use what had its label
before. -/
def Step.label? : Step → Option String
  | .submit label _ _ | .read label | .overwrite label _ | .reset label | .dropBatch label
  | .takeReplies label => some label
  | _ => none

/-- What can be seen of a step and of the connection after it. -/
structure Observation where
  outcome : Outcome
  isUp : Bool
  error? : Option String
  inFlight : Nat

namespace Client

/-- The labels under which batches have been opened, after one more step. -/
def openedAfter (client : Client) (opened : List String) : Step → List String
  | .openBatch label =>
    match (client.openBatch label).2 with
    | .done => label :: opened
    | _ => opened
  | _ => opened

/-- The steps use a batch only after one of them has opened it, or it is one of those opened
before. -/
def UsesOpened (client : Client) (opened : List String) : List Step → Prop
  | [] => True
  | step :: later =>
    (∀ label ∈ step.label?, label ∈ opened) ∧
      UsesOpened (client.step step).1 (client.openedAfter opened step) later

/-- What can be seen of a run, step by step. -/
def observations (client : Client) : List Step → List Observation
  | [] => []
  | step :: later =>
    let next := (client.step step).1
    ⟨(client.step step).2, next.session.isUp, next.session.error?, next.session.inFlight⟩ ::
      observations next later

instance decidableUsesOpened (client : Client) (opened : List String) :
    (steps : List Step) → Decidable (client.UsesOpened opened steps)
  | [] => inferInstanceAs (Decidable True)
  | step :: later =>
    have := decidableUsesOpened (client.step step).1 (client.openedAfter opened step) later
    inferInstanceAs (Decidable (_ ∧ _))

end Client

/-- The act is something that the owner of a batch does to its replies. -/
def Act.IsOwners (a : Act) (name : BatchName) : Prop :=
  a.cleared? = some name ∨ ∃ changes, a = .overwrite name changes

/-- From some act on, the commands submitted before it hold their replies, and only the owners of
their batches change these. -/
def Journal.Sealed (ceiling : Nat) (acts : List Act) (m : Nat) : Prop :=
  ∀ n u c, m ≤ n → c < (after ceiling acts m).count → (after ceiling acts n).number? u = some c →
    ∃ r, (after ceiling acts n).session.slot? u = some ⟨some r⟩ ∧
      ∀ a, acts[n]? = some a → ¬ a.IsOwners u.batch →
        (after ceiling acts (n + 1)).session.slot? u = some ⟨some r⟩

/-! ## Clients that agree -/

namespace Client

/-- Two clients have the same scripts, and their sessions agree. -/
structure Agrees (opened : List String) (client other : Client) : Prop where
  session : client.session.Agrees opened other.session
  scripts : client.scripts = other.scripts

/-- Two results of the same operation leave clients that agree, and what else they give is equal. -/
def Alike {α : Type} (opened : List String) (x y : Client × α) : Prop :=
  x.1.Agrees opened y.1 ∧ x.2 = y.2

namespace Agrees

variable {opened : List String} {client other : Client} {label : String}

/-- Clients whose sessions are changed alike still agree. -/
theorem onSession (h : client.Agrees opened other) {f : Session → Session}
    (hf : (f client.session).Agrees opened (f other.session)) :
    (client.onSession f).Agrees opened (other.onSession f) :=
  ⟨hf, h.scripts⟩

/-- A one-shot call gives clients that agree the same result. -/
theorem ask (h : client.Agrees opened other) (server : Server) (c : Command) :
    Alike opened (client.ask server c) (other.ask server c) := by
  obtain ⟨hsession, hresult⟩ := h.session.ask server c
  exact ⟨⟨hsession, h.scripts⟩, hresult⟩

/-- A query gives clients that agree the same answer. -/
theorem query (h : client.Agrees opened other) (server : Server) (q : Query) :
    Alike opened (client.query server q) (other.query server q) := by
  have hasked := h.ask server q.command
  unfold Client.query
  generalize client.ask server q.command = asked at *
  generalize other.ask server q.command = asked' at *
  obtain ⟨client, server, result⟩ := asked
  obtain ⟨other, server', result'⟩ := asked'
  obtain ⟨hagrees, hsame⟩ := hasked
  cases hsame
  cases result with
  | error e => exact ⟨hagrees, rfl⟩
  | ok r =>
      dsimp only
      cases q.read r with
      | error e => exact ⟨hagrees, rfl⟩
      | ok answer =>
          refine ⟨⟨hagrees.session, ?_⟩, rfl⟩
          cases q <;> first | rfl | exact hagrees.scripts

/-- A load gives clients that agree the same digest, since they have the same cache. -/
theorem loadScript (h : client.Agrees opened other) (server : Server) (body : String) :
    Alike opened (client.loadScript server body) (other.loadScript server body) := by
  have hasked := h.ask server (.scriptLoad body)
  unfold Client.loadScript
  rw [← h.scripts]
  cases client.scripts.digest? body with
  | some digest => exact ⟨h, rfl⟩
  | none =>
      generalize client.ask server (.scriptLoad body) = asked at *
      generalize other.ask server (.scriptLoad body) = asked' at *
      obtain ⟨client, server, result⟩ := asked
      obtain ⟨other, server', result'⟩ := asked'
      obtain ⟨hagrees, hsame⟩ := hasked
      cases hsame
      cases result with
      | error e => exact ⟨hagrees, rfl⟩
      | ok r =>
          dsimp only
          cases r.toText with
          | error e => exact ⟨hagrees, rfl⟩
          | ok digest =>
              exact ⟨⟨hagrees.session,
                congrArg (fun scripts : ScriptCache => scripts.insert body digest) hagrees.scripts⟩,
                rfl⟩

/-- A scan gives clients that agree the same items. -/
theorem scan (h : client.Agrees opened other) (server : Server) (collection : Collection)
    (pattern : Option Bytes) (count : Nat) :
    Alike opened (client.scan server collection pattern count)
      (other.scan server collection pattern count) := by
  have hfollows : Request.Follows (Alike opened) request request := by
    rintro ⟨client, server⟩ ⟨other, server'⟩ c ⟨hagrees, rfl⟩
    obtain ⟨hasked, hsame⟩ := hagrees.ask server c
    refine ⟨⟨hasked, ?_⟩, ?_⟩
    · exact congrArg (fun answer => answer.1) hsame
    · exact congrArg (fun answer => answer.2) hsame
  have hlimit : ∀ state state', Alike opened state state' →
      requestLimit state = requestLimit state' := by
    rintro state state' ⟨-, hserver⟩
    rw [requestLimit, requestLimit, hserver]
  obtain ⟨⟨hagrees, hserver⟩, hitems⟩ := Cursor.steps_follows hfollows hlimit count
    (.start collection pattern) (s := (client, server)) (t := (other, server)) ⟨h, rfl⟩
  exact ⟨hagrees, Prod.ext hserver hitems⟩

/-! ## The steps of clients that agree -/

/-- A batch of one's own is settled in both clients or in neither. -/
theorem withSettled (h : client.Agrees opened other) (hown : (BatchName.named label).Own opened)
    {use use' : Batch → Client × Outcome} (huse : ∀ b, Alike opened (use b) (use' b)) :
    Alike opened (client.withSettled label use) (other.withSettled label use') := by
  unfold Client.withSettled
  rw [← h.session.batch?_eq hown]
  cases client.session.batch? (.named label) with
  | none => exact ⟨h, rfl⟩
  | some b =>
      dsimp only
      split
      · exact huse b
      · exact ⟨h, rfl⟩

/-- What the owner of a batch does to it is done by both clients or by neither. -/
theorem changeSettled (h : client.Agrees opened other) (hown : (BatchName.named label).Own opened)
    (result : Batch → Outcome) {f : Session → Session}
    (hf : (f client.session).Agrees opened (f other.session)) :
    Alike opened (client.withSettled label fun b => (client.onSession f, result b))
      (other.withSettled label fun b => (other.onSession f, result b)) :=
  h.withSettled hown fun _ => ⟨h.onSession hf, rfl⟩

/-- An attempt to connect turns out alike for both clients. -/
theorem connect (h : client.Agrees opened other) (attempt : Attempt) :
    Alike opened (client.connect attempt) (other.connect attempt) := by
  unfold Client.connect
  rw [h.session.isUp_eq]
  exact ⟨h.onSession (f := fun s => s.connect attempt) (h.session.connect attempt), rfl⟩

/-- What needs a link is done by both clients or by neither. -/
theorem whenUp (h : client.Agrees opened other) {f : Session → Session}
    (hf : (f client.session).Agrees opened (f other.session)) :
    Alike opened (if client.session.isUp then (client.onSession f, .done) else (client, .noLink))
      (if other.session.isUp then (other.onSession f, Outcome.done) else (other, .noLink)) := by
  rw [← h.session.isUp_eq]
  split
  · exact ⟨h.onSession hf, rfl⟩
  · exact ⟨h, rfl⟩

/-- With a free permit both clients send the same frame, and the batch gets the same size. -/
theorem submitNow (h : client.Agrees opened other) (hown : (BatchName.named label).Own opened)
    (c : Command) :
    Alike opened (client.submitNow label c) (other.submitNow label c) := by
  have hsubmitted := h.session.submit hown
  refine ⟨⟨hsubmitted, h.scripts⟩, ?_⟩
  unfold Client.submitNow Client.onSession
  dsimp only
  rw [h.session.isUp_eq, hsubmitted.batch?_eq hown]

/-- A submission waits for a permit in both clients or in neither. -/
theorem submit (h : client.Agrees opened other) (hown : (BatchName.named label).Own opened)
    (c : Command) (meanwhile : Option Bytes) :
    Alike opened (client.submit label c meanwhile) (other.submit label c meanwhile) := by
  unfold Client.submit
  rw [← h.session.batch?_eq hown, ← h.session.isBusy_eq]
  split
  · exact ⟨h, rfl⟩
  · split
    · cases meanwhile with
      | none => exact ⟨h, rfl⟩
      | some bytes =>
          have hreceived := h.onSession (f := fun s => s.receive bytes) (h.session.receive bytes)
          dsimp only
          rw [← hreceived.session.isBusy_eq]
          split
          · exact ⟨hreceived, rfl⟩
          · exact hreceived.submitNow hown c
    · exact h.submitNow hown c

/-- A permit is free in both clients or in neither. -/
theorem unlessBusy (h : client.Agrees opened other) {use use' : Client × Outcome}
    (huse : Alike opened use use') :
    Alike opened (client.unlessBusy use) (other.unlessBusy use') := by
  unfold Client.unlessBusy
  rw [← h.session.isBusy_eq]
  split
  · exact ⟨h, rfl⟩
  · exact huse

/-- A digest in the cache is given by both clients, and otherwise a permit is free in both or in
neither. -/
theorem load (h : client.Agrees opened other) (body : String) (answers : List Bytes) :
    Alike opened (client.load body answers) (other.load body answers) := by
  obtain ⟨hagrees, hsame⟩ := h.loadScript (.ofAnswers answers) body
  have hloaded : Alike opened
      ((client.loadScript (.ofAnswers answers) body).1, Outcome.loaded _ _)
      ((other.loadScript (.ofAnswers answers) body).1, Outcome.loaded _ _) :=
    ⟨hagrees, congrArg (fun x => Outcome.loaded x.2 x.1.frames) hsame⟩
  unfold Client.load
  dsimp only
  rw [← h.scripts]
  split
  · exact hloaded
  · exact h.unlessBusy hloaded

/-- A batch that can be opened is from then on one of those that agree. -/
theorem start (h : client.Agrees opened other) (label : String) :
    (openBatch.start client label).2 = (openBatch.start other label).2 ∧
      (openBatch.start client label).1.Agrees
        (match (openBatch.start client label).2 with | .done => label :: opened | _ => opened)
        (openBatch.start other label).1 := by
  unfold openBatch.start
  rw [← h.session.isUp_eq]
  split
  · exact ⟨rfl, h.session.openBatch_named label, h.scripts⟩
  · exact ⟨rfl, h⟩

end Agrees

/-- A batch is opened if none of its name has unanswered commands. -/
theorem openBatch_of_isFree {client : Client} {label : String}
    (hfree : client.session.IsFree (.named label)) :
    client.openBatch label = openBatch.start client label := by
  unfold Client.openBatch
  cases hb : client.session.batch? (.named label) with
  | none => rfl
  | some b => exact if_pos (hfree b hb)

/-- A batch of which commands are unanswered is not opened again. -/
theorem openBatch_of_not_isFree {client : Client} {label : String}
    (hfree : ¬ client.session.IsFree (.named label)) :
    client.openBatch label = (client, .wouldBlock) := by
  unfold Client.openBatch
  cases hb : client.session.batch? (.named label) with
  | none => exact absurd (Session.isFree_of_none hb) hfree
  | some b => exact if_neg fun hsettled => hfree (Session.isFree_of_some hb hsettled)

namespace Agrees

variable {opened : List String} {client other : Client}

/-- A batch is settled in both clients or in neither. -/
theorem isFree_iff (h : client.Agrees opened other) (name : BatchName) :
    client.session.IsFree name ↔ other.session.IsFree name := by
  by_cases hname : name.Own opened
  · unfold Session.IsFree
    rw [h.session.batch?_eq hname]
  · have hothers := h.session.registry.others name hname
    exact ⟨fun _ b hb => hothers b (.inr hb), fun _ b hb => hothers b (.inl hb)⟩

/-- A batch is opened by both clients or by neither. What other batch has its label makes no
difference, since that is settled. -/
theorem openBatch (h : client.Agrees opened other) (label : String) :
    (client.openBatch label).2 = (other.openBatch label).2 ∧
      (client.openBatch label).1.Agrees (client.openedAfter opened (.openBatch label))
        (other.openBatch label).1 := by
  show _ ∧ Agrees
    (match (client.openBatch label).2 with | .done => label :: opened | _ => opened) _ _
  by_cases hfree : client.session.IsFree (.named label)
  · rw [openBatch_of_isFree hfree, openBatch_of_isFree ((h.isFree_iff _).1 hfree)]
    exact h.start label
  · rw [openBatch_of_not_isFree hfree,
      openBatch_of_not_isFree fun hfree' => hfree ((h.isFree_iff _).2 hfree')]
    exact ⟨rfl, h⟩

/-- All steps but the opening of batches leave the batches the same on which the clients agree. -/
theorem step_of_ne_openBatch (h : client.Agrees opened other) {step : Step}
    (huses : ∀ label ∈ step.label?, label ∈ opened) (hopen : ∀ label, step ≠ .openBatch label) :
    Alike opened (client.step step) (other.step step) := by
  cases step with
  | connect attempt => exact h.connect attempt
  | disconnect => exact ⟨h.onSession (f := fun s => s.disconnect) (h.session.goDown _ _), rfl⟩
  | send bytes => exact h.whenUp (h.session.receive bytes)
  | hangUp bytes => exact h.whenUp (h.session.hangUp bytes)
  | openBatch label => exact absurd rfl (hopen label)
  | submit label c meanwhile => exact h.submit (BatchName.own_named (huses label rfl)) c meanwhile
  | read label => exact h.withSettled (BatchName.own_named (huses label rfl)) fun b => ⟨h, rfl⟩
  | overwrite label changes =>
      have hown := BatchName.own_named (huses label rfl)
      exact h.changeSettled hown _ (h.session.update hown _)
  | reset label =>
      have hown := BatchName.own_named (huses label rfl)
      exact h.changeSettled hown _ (h.session.update hown _)
  | dropBatch label =>
      have hown := BatchName.own_named (huses label rfl)
      exact h.changeSettled hown _ (h.session.closeBatch hown)
  | takeReplies label =>
      have hown := BatchName.own_named (huses label rfl)
      exact h.changeSettled hown _ (h.session.closeBatch hown)
  | query q answers =>
      obtain ⟨hagrees, hsame⟩ := h.query (.ofAnswers answers) q
      exact h.unlessBusy ⟨hagrees, congrArg (fun x => Outcome.answered x.2 x.1.frames) hsame⟩
  | loadScript body answers => exact h.load body answers
  | forgetScripts => exact ⟨⟨h.session, rfl⟩, rfl⟩
  | scan collection pattern count answers =>
      obtain ⟨hagrees, hsame⟩ := h.scan (.ofAnswers answers) collection pattern count
      exact h.unlessBusy ⟨hagrees, congrArg (fun x => Outcome.scanned x.2 x.1.frames) hsame⟩

/-- Steps that use agreed batches only have the same outcomes, and the clients still agree
afterwards, also on a batch that they have opened. -/
theorem step (h : client.Agrees opened other) {step : Step}
    (huses : ∀ label ∈ step.label?, label ∈ opened) :
    (client.step step).2 = (other.step step).2 ∧
      (client.step step).1.Agrees (client.openedAfter opened step) (other.step step).1 := by
  by_cases hopen : ∃ label, step = .openBatch label
  · obtain ⟨label, rfl⟩ := hopen
    exact h.openBatch label
  · obtain ⟨hagrees, hsame⟩ := h.step_of_ne_openBatch huses (not_exists.1 hopen)
    have hopened : client.openedAfter opened step = opened := by
      cases step with
      | openBatch label => exact absurd ⟨label, rfl⟩ hopen
      | _ => rfl
    rw [hopened]
    exact ⟨hsame, hagrees⟩

/-- Clients that agree cannot be told apart by steps that use agreed batches only. -/
theorem observations_eq (h : client.Agrees opened other) {steps : List Step}
    (huses : client.UsesOpened opened steps) :
    client.observations steps = other.observations steps := by
  induction steps generalizing client other opened with
  | nil => rfl
  | cons step later ih =>
      obtain ⟨hstep, hlater⟩ := huses
      obtain ⟨hsame, hnext⟩ := h.step hstep
      rw [observations, observations, ih hnext hlater, hsame, hnext.session.isUp_eq,
        hnext.session.error?_eq, hnext.session.inFlight_eq]

end Agrees

end Client

/-! ## From one link to the next -/

namespace Session

variable {s : Session}

/-- A new link looks like the first one of a new session. Nothing is owed and no permit is taken, so
there is no batch with an unanswered command. -/
theorem Ready.agrees_connect (h : s.Ready) (hdown : s.isUp = false) {ceiling : Nat}
    (hceiling : s.registry.permits.ceiling = max 1 ceiling) :
    (s.connect .established).Agrees [] ((ofCeiling ceiling).connect .established) := by
  have howed := owed_of_down hdown
  have htaken : s.registry.permits.taken = 0 := by
    rw [Registry.Balances.taken h.balanced, howed]
    rfl
  have hsettled := h.balanced.isFree howed
  have hcall := batch?_eq_none_iff.2 h.noCall
  obtain ⟨⟨⟨pool, taken⟩, batches⟩, error, rfl⟩ := exists_of_down hdown
  refine ⟨⟨⟨Registry.Balances.names h.balanced, List.nodup_nil⟩, ?_, ?_, ?_⟩, rfl,
    List.forall_mem_nil _⟩
  · show Permits.mk pool taken = ⟨max 1 ceiling, 0⟩
    rw [show pool = max 1 ceiling from hceiling, show taken = 0 from htaken]
  · intro n hn
    cases n with
    | named label => exact absurd hn List.not_mem_nil
    | oneShot => exact hcall
  · rintro n - b (hb | hb)
    · exact hsettled n b hb
    · cases hb

/-- A command that is submitted without a link is answered at once. -/
theorem slot?_submit_down (hdown : s.isUp = false) {name : BatchName} {b : Batch}
    (hb : s.batch? name = some b) :
    (s.submit name).slot? ⟨name, b.size⟩ =
      some ⟨some (.error (s.error?.getD Slot.abandonedMessage))⟩ := by
  rw [submit, nextTicket?_eq_some hb]
  obtain ⟨registry, error, rfl⟩ := exists_of_down hdown
  have hentered : (registry.enter name).slot? ⟨name, b.size⟩ = some .empty :=
    Registry.slot?_enter_new hb
  exact Registry.slot?_deliver_self _ hentered

end Session

/-- While the link is down no command waits for a reply, and none that has a reply gets another. -/
theorem Journal.sealed_of_down {ceiling : Nat} {acts : List Act} {t : Session} {m : Nat}
    (hplays : (Session.ofCeiling ceiling).Plays acts t)
    (hdown : (after ceiling acts m).session.isUp = false) : Sealed ceiling acts m := by
  intro n u c hmn hc hu
  have hsound := sound_after hplays n
  have hquiet := (sound_after hplays m).not_waits (Session.owed_of_down hdown) c
  obtain ⟨-, hnot⟩ := settled_after hplays hmn ⟨hc, hquiet⟩
  have hindex : u.index < (after ceiling acts n).session.size u.batch := by
    obtain ⟨hlt, -⟩ := List.getElem?_eq_some_iff.1 hu
    rwa [hsound.sizes] at hlt
  obtain ⟨⟨_ | r⟩, hslot⟩ := Registry.exists_slot_of_index_lt hindex
  · exact absurd ⟨u, hu, hslot⟩ hnot
  · refine ⟨r, hslot, fun a ha howners => ?_⟩
    rw [Act.IsOwners, not_or, not_exists] at howners
    obtain ⟨new, hnew, rfl | ⟨hempty, -⟩⟩ :=
      Session.slot?_act hsound.names howners.1 howners.2 hslot
    · rw [after_succ ha]
      exact hnew
    · cases hempty

namespace Client

open Session

/-- When a client that has lost its link connects again, no error is left, and as long as only
batches are used that are opened from then on, it cannot be told from a new client with the same
ceiling and the same scripts. The commands from before have their replies, and nothing but what the
owners of their batches do changes these. Those submitted without a link were answered at once, with
the reason for which there was none. -/
theorem run_epochs_apart (ceiling : Nat) (history : List Step)
    (hdown : ((ofCeiling ceiling).run history).session.isUp = false) :
    let old := (ofCeiling ceiling).run history
    let new : Client := ⟨.ofCeiling ceiling, old.scripts⟩
    let connect : Step := .connect .established
    ((old.step connect).1.session.isUp = true ∧ (old.step connect).1.session.error? = none) ∧
      (∀ later, (old.step connect).1.UsesOpened [] later →
        old.observations (connect :: later) = new.observations (connect :: later)) ∧
      (∀ later, Journal.Sealed ceiling ((ofCeiling ceiling).acts (history ++ connect :: later))
        ((ofCeiling ceiling).acts history).length) ∧
      ∀ label c meanwhile b, old.session.batch? (.named label) = some b →
        (old.step (.submit label c meanwhile)).1.session.slot? ⟨.named label, b.size⟩ =
          some ⟨some (.error (old.session.error?.getD Slot.abandonedMessage))⟩ := by
  intro old new connect
  obtain ⟨hplays, hready⟩ := leads_run_ofCeiling ceiling history
  have hagrees : (old.step connect).1.Agrees [] (new.step connect).1 :=
    ⟨hready.agrees_connect hdown hplays.ceiling_eq, rfl⟩
  refine ⟨?_, fun later huses => ?_, fun later => ?_, fun label c meanwhile b hb => ?_⟩
  · exact ⟨hagrees.session.isUp_eq, hagrees.session.error?_eq⟩
  · have hfirst : (old.step connect).2 = (new.step connect).2 := by
      show (if old.session.isUp then _ else _) = _
      rw [hdown]
      rfl
    rw [observations, observations, hagrees.observations_eq huses, hfirst, hagrees.session.isUp_eq,
      hagrees.session.error?_eq, hagrees.session.inFlight_eq]
  · refine Journal.sealed_of_down (leads_run_ofCeiling ceiling (history ++ connect :: later)).1 ?_
    rw [Journal.after, acts_append, List.take_left, Journal.replay,
      (Journal.sound_foldl (Journal.sound_start ceiling) hplays).2]
    exact hdown
  · have hbusy : old.session.isBusy = false := by rw [isBusy, hdown, Bool.false_and]
    rw [submit_eq hbusy]
    exact slot?_submit_down hdown hb

/-- The first link ends within an array, with one command owed, and a second command is submitted
without a link. -/
theorem run_epochs_apart_hangUp :
    let connect : Step := .connect .established
    let history : List Step := [connect, .send (Utf8.encode ":9\r\n"), .openBatch "a",
      .submit "a" .ping none, .send (Utf8.encode "*2\r\n*1\r\n$5\r\nab"), .hangUp [],
      .submit "a" .ping none]
    let later : List Step := [.openBatch "b", .submit "b" .ping none,
      .send (Utf8.encode "+OK\r\n"), .read "b"]
    let old := (ofCeiling 2).run history
    let new : Client := ⟨.ofCeiling 2, old.scripts⟩
    let told : Slot := ⟨some (.error closedByServer)⟩
    (old.session.isUp = false ∧ (old.step connect).1.session.error? = none) ∧
      ((old.step connect).1.UsesOpened [] later ∧
        old.observations (connect :: later) = new.observations (connect :: later)) ∧
      Journal.Sealed 2 ((ofCeiling 2).acts (history ++ connect :: later))
        ((ofCeiling 2).acts history).length ∧
      (old.session.batch? (.named "a") = some ⟨#[told, told], 0⟩ ∧
        (old.step (.submit "a" .ping none)).1.session.slot? ⟨.named "a", 2⟩ = some told) := by
  intro connect history later old new told
  have hdown : old.session.isUp = false := by decide +kernel
  have huses : (old.step connect).1.UsesOpened [] later := by decide +kernel
  have hbatch : old.session.batch? (.named "a") = some ⟨#[told, told], 0⟩ := by decide +kernel
  have herror : old.session.error? = some closedByServer := by decide +kernel
  obtain ⟨hconnected, hsame, hsealed, htold⟩ := run_epochs_apart 2 history hdown
  have hslot := htold "a" .ping none _ hbatch
  rw [show ((ofCeiling 2).run history).session.error? = some closedByServer from herror] at hslot
  exact ⟨⟨hdown, hconnected.2⟩, ⟨huses, hsame later huses⟩, hsealed later, hbatch, hslot⟩

end Client

end CommandPipeline
