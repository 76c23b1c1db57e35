import CommandPipeline.Proofs.Session.Dispatch
import CommandPipeline.Proofs.Session.Runs

/-!
# The end of a link

A link ends in one of three ways: bytes arrive that break the wire format, the server hangs up after
some last bytes, or the caller disconnects. `Session.ending?` says which replies are still handed
on, what the commands that get none are told, and which error is recorded. All ways share one
teardown, and `Session.TornDown` says what it leaves: no link, nothing owed, every command of the
queue with a reply, and every other slot as it was.

Bytes that break the format end the link before any reply in them is handed on, also when they are
the last bytes of a server that hangs up.
-/

namespace CommandPipeline

/-- How a link ends. -/
structure Ending where
  /-- The replies that are still handed on. -/
  final : List Reply
  /-- What the commands are told for which no reply is left. -/
  message : String
  /-- The error that is recorded. -/
  error : Option String
  deriving DecidableEq

namespace Ending

/-- The stream breaks the wire format. -/
def broken (fault : Wire.Fault) : Ending := ⟨[], fault.message, some fault.message⟩

/-- The server hangs up. -/
def hungUp (final : List Reply) : Ending :=
  ⟨final, Session.closedByServer, some Session.closedByServer⟩

/-- The caller disconnects. -/
def disconnected : Ending := ⟨[], Session.closedByClient, none⟩

/-- One of the three ways. -/
inductive Known : Ending → Prop where
  | broken (fault : Wire.Fault) : Known (.broken fault)
  | hungUp (final : List Reply) : Known (.hungUp final)
  | disconnected : Known .disconnected

/-- The reply of the command at a place of the queue. -/
def replyAt (e : Ending) (i : Nat) : Reply := e.final.getD i (.error e.message)

end Ending

/-- If the act ends a link, it does so in one of the three ways. -/
def Act.EndsKnown : Act → Prop
  | .goDown message error => Ending.Known ⟨[], message, error⟩
  | _ => True

/-- The batch that an act is about, unless it comes from the link or makes one. -/
def Act.subject? : Act → Option BatchName
  | .submit name | .openBatch name | .closeBatch name | .reset name | .overwrite name _ => some name
  | _ => none

/-- An act about a batch ends no link. -/
theorem Act.endsKnown_of_subject? {a : Act} {name : BatchName} (h : a.subject? = some name) :
    a.EndsKnown := by
  cases a with
  | goDown message error => cases h
  | _ => trivial

/-- The label of the batch that a step changes. -/
def Step.changed? : Step → Option String
  | .openBatch label | .submit label _ _ | .overwrite label _ | .reset label | .dropBatch label
  | .takeReplies label => some label
  | _ => none

namespace Session

/-- How a step ends the link, if it is one that does. -/
def ending? (s : Session) (step : Step) : Option Ending :=
  match s.link with
  | .down _ => none
  | .up stream _ =>
    match step with
    | .send bytes => (stream.feed bytes).fault.map .broken
    | .hangUp bytes =>
      match (stream.feed bytes).fault with
      | some fault => some (.broken fault)
      | none => some (.hungUp (stream.feed bytes).replies)
    | .disconnect => some .disconnected
    | _ => none

/-- What the end of the link of `s` leaves. -/
structure TornDown (s : Session) (e : Ending) (t : Session) : Prop where
  /-- The link is down, and the error is recorded. -/
  link : t.link = .down e.error
  owed : t.owed = []
  inFlight : t.inFlight = 0
  /-- The commands of the queue have their replies, in order, as far as there are any, and all
  others of them are told. -/
  settled : ∀ i u, s.owed[i]? = some u → t.slot? u = some ⟨some (e.replyAt i)⟩
  /-- A slot that had a reply keeps it. -/
  kept : ∀ u r, s.slot? u = some ⟨some r⟩ → t.slot? u = some ⟨some r⟩
  others : ∀ u, u ∉ s.owed → t.slot? u = s.slot? u
  /-- No batch is left with an unanswered command. -/
  free : ∀ name, t.IsFree name

variable {s : Session}

/-! ## The teardown -/

/-- The last replies are dispatched, and what is left of the queue is told. -/
theorem Balanced.tornDown {registry : Registry} {stream : Wire.Stream} {owed : List Ticket}
    (h : Balanced ⟨registry, .up stream owed⟩) (e : Ending) :
    TornDown ⟨registry, .up stream owed⟩ e
      ⟨(registry.dispatch owed e.final).1.failAll (registry.dispatch owed e.final).2 e.message,
        .down e.error⟩ := by
  have hbalances : registry.Balances owed := h
  -- Both together are one dispatch, of a reply for each command of the queue.
  let replies := e.final ++ (owed.drop e.final.length).map fun _ => Reply.error e.message
  have hregistry : (registry.dispatch owed e.final).1.failAll (registry.dispatch owed e.final).2
      e.message = (registry.dispatch owed replies).1 := by
    simp [replies, Registry.failAll_eq_dispatch, Registry.dispatch_append]
  have hreply : ∀ i < owed.length, replies[i]? = some (e.replyAt i) := by
    intro i hi
    rw [Ending.replyAt, List.getD_eq_getElem?_getD, List.getElem?_append]
    split
    · next hlt => rw [List.getElem?_eq_getElem hlt]; rfl
    · next hge =>
      rw [List.getElem?_eq_none (Nat.le_of_not_lt hge), List.getElem?_map, List.getElem?_drop,
        Nat.add_sub_cancel' (Nat.le_of_not_lt hge), List.getElem?_eq_getElem hi]
      rfl
  have hsettled := (hbalances.dispatch e.final).failAll e.message
  have hothers : ∀ u, u ∉ owed → (registry.dispatch owed replies).1.slot? u = registry.slot? u :=
    fun u hu => Registry.slot?_dispatch_of_not_mem replies hu
  rw [hregistry] at hsettled ⊢
  refine ⟨rfl, rfl, hsettled.taken, ?_, ?_, hothers, Balanced.isFree hsettled rfl⟩
  · intro i u hu
    obtain ⟨hi, -⟩ := List.getElem?_eq_some_iff.1 hu
    exact hbalances.slot?_dispatch hu (hreply i hi)
  · intro u r hu
    refine (hothers u fun hmem => ?_).trans hu
    have hempty : registry.slot? u = some .empty := hbalances.mem_owed_iff.1 hmem
    rw [show registry.slot? u = some ⟨some r⟩ from hu] at hempty
    cases hempty

/-- The link goes down without any further reply. -/
theorem Balanced.tornDown_goDown (h : s.Balanced) (hup : s.isUp = true) (message : String)
    (error : Option String) : s.TornDown ⟨[], message, error⟩ (s.goDown message error) := by
  obtain ⟨registry, link⟩ := s
  cases link with
  | down error => cases hup
  | up stream owed =>
      have htorn := h.tornDown ⟨[], message, error⟩
      rwa [Registry.dispatch_none] at htorn

/-- Bytes that break the format tear the link down behind the replies before the break. -/
theorem Balanced.tornDown_receive {registry : Registry} {stream : Wire.Stream} {owed : List Ticket}
    (h : Balanced ⟨registry, .up stream owed⟩) {bytes : Bytes} {fault : Wire.Fault}
    (hfault : (stream.feed bytes).fault = some fault) :
    TornDown ⟨registry, .up stream owed⟩ (.broken fault)
      (receive ⟨registry, .up stream owed⟩ bytes) := by
  rw [receive_up, hfault]
  exact h.tornDown_goDown rfl _ _

/-- A hang-up tears the link down behind the replies in the last bytes. -/
theorem Balanced.tornDown_hangUp {registry : Registry} {stream : Wire.Stream} {owed : List Ticket}
    (h : Balanced ⟨registry, .up stream owed⟩) {bytes : Bytes}
    (hfault : (stream.feed bytes).fault = none) :
    TornDown ⟨registry, .up stream owed⟩ (.hungUp (stream.feed bytes).replies)
      (hangUp ⟨registry, .up stream owed⟩ bytes) := by
  rw [hangUp, receive_up, hfault]
  exact h.tornDown (.hungUp (stream.feed bytes).replies)

/-- After a fault there is no link left that the server could end. -/
theorem hangUp_of_fault {registry : Registry} {stream : Wire.Stream} {owed : List Ticket}
    {bytes : Bytes} {fault : Wire.Fault} (hfault : (stream.feed bytes).fault = some fault) :
    hangUp ⟨registry, .up stream owed⟩ bytes = receive ⟨registry, .up stream owed⟩ bytes := by
  rw [hangUp, receive_up, hfault]
  rfl

/-- Disconnecting a link that is down does nothing. -/
theorem disconnect_of_down (hdown : s.isUp = false) : s.disconnect = s := by
  obtain ⟨registry, error, rfl⟩ := exists_of_down hdown
  rfl

end Session

/-! ## Steps that end a link -/

namespace Client

open Session

variable {client : Client}

/-- A step that ends the link tears it down in the way that its ending says. -/
theorem tornDown_step (h : client.session.Balanced) {step : Step} {e : Ending}
    (he : client.session.ending? step = some e) :
    client.session.TornDown e (client.step step).1.session := by
  obtain ⟨⟨registry, link⟩, scripts⟩ := client
  cases link with
  | down error => cases he
  | up stream owed =>
      rw [ending?] at he
      cases step with
      | send bytes =>
          obtain ⟨fault, hfault, rfl⟩ := Option.map_eq_some_iff.1 he
          simpa using h.tornDown_receive hfault
      | hangUp bytes =>
          rw [hangUp_session]
          dsimp only at he
          cases hfault : (stream.feed bytes).fault with
          | some fault =>
              rw [hfault] at he
              cases he
              rw [hangUp_of_fault hfault]
              exact h.tornDown_receive hfault
          | none =>
              rw [hfault] at he
              cases he
              exact h.tornDown_hangUp hfault
      | disconnect =>
          cases he
          exact h.tornDown_goDown rfl _ _
      | _ => cases he

/-! ## All links of a run

A link may also end within a step: a one-shot call is answered by bytes that break the format, or it
is not answered at all, or such bytes arrive while a submission waits for a permit. The acts of a
run show every end of a link, and there is no other way than the three.
-/

section

/-! What holds of the acts of the link, of those of a one-shot call and of those on the batch that a
step changes, holds of all acts of a step. -/

variable {P : Act → Prop} (hlink : ∀ a : Act, a.subject? = none → a.EndsKnown → P a)
  (hcall : ∀ a : Act, a.subject? = some .oneShot → P a)

include hlink

/-- It holds of the act that ends a link in one of the known ways. -/
theorem forall_mem_downActs (s : Session) {e : Ending} (he : e.Known) (hfinal : e.final = []) :
    ∀ a ∈ s.downActs e.message e.error, P a := by
  rw [downActs]
  split
  · have hknown : (Act.goDown e.message e.error).EndsKnown := by
      rw [Act.EndsKnown, ← hfinal]
      exact he
    exact List.forall_mem_singleton.2 (hlink _ rfl hknown)
  · exact List.forall_mem_nil _

/-- It holds of what an arrival of bytes does: the end of the link, or the arrival and its
replies. -/
theorem forall_mem_receiveActs (s : Session) (bytes : Bytes) : ∀ a ∈ s.receiveActs bytes, P a := by
  obtain ⟨registry, link⟩ := s
  cases link with
  | down error => exact List.forall_mem_nil _
  | up stream owed =>
      rw [receiveActs_up]
      cases (stream.feed bytes).fault with
      | some fault => exact forall_mem_downActs hlink _ (.broken fault) rfl
      | none =>
          refine List.forall_mem_cons.2 ⟨hlink _ rfl trivial, fun a ha => ?_⟩
          obtain ⟨r, -, rfl⟩ := List.mem_map.1 ha
          exact hlink _ rfl trivial

include hcall

/-- It holds of what a one-shot call does: the acts on its batch and those of the answer. -/
theorem forall_mem_askActs (s : Session) (server : Server) (c : Command) :
    ∀ a ∈ s.askActs server c, P a := by
  rw [askActs]
  split
  · refine List.forall_mem_append.2 ⟨List.forall_mem_cons.2 ⟨hcall _ rfl, ?_⟩, ?_⟩
    · rw [exchangeActs]
      refine List.forall_mem_append.2
        ⟨List.forall_mem_cons.2 ⟨hcall _ rfl, forall_mem_receiveActs hlink _ _⟩, ?_⟩
      split
      · split
        · exact List.forall_mem_nil _
        · exact forall_mem_downActs hlink _ (.hungUp []) rfl
      · exact List.forall_mem_nil _
    · exact List.forall_mem_singleton.2 (hcall _ rfl)
  · exact List.forall_mem_nil _

/-- It holds of what a load does, which makes one call or none. -/
theorem forall_mem_loadActs (client : Client) (server : Server) (body : String) :
    ∀ a ∈ client.loadActs server body, P a := by
  rw [loadActs]
  split
  · exact List.forall_mem_nil _
  · exact forall_mem_askActs hlink hcall _ _ _

/-- It holds of what a scan does, one request after the other. -/
theorem forall_mem_scanActs (client : Client) (server : Server) (collection : Collection)
    (pattern : Option Bytes) (count : Nat) :
    ∀ a ∈ client.scanActs server collection pattern count, P a := by
  -- It holds of whatever has been noted so far, and of the acts of the next request.
  let R : (Client × Server) × List Act → (Client × Server) × List Act → Prop := fun state noted =>
    state = noted ∧ ∀ a ∈ noted.2, P a
  have hfollows : Request.Follows R requestNoted requestNoted := by
    rintro state ⟨⟨asker, server⟩, noted⟩ c ⟨rfl, hnoted⟩
    have hasked := forall_mem_askActs hlink hcall asker.session server c
    exact ⟨⟨rfl, List.forall_mem_append.2 ⟨hnoted, hasked⟩⟩, rfl⟩
  obtain ⟨⟨-, hknown⟩, -⟩ := Cursor.steps_follows hfollows
    (fun _ _ hst => congrArg (fun state => requestLimit state.1) hst.1) count
    (.start collection pattern) (s := ((client, server), [])) (t := ((client, server), []))
    ⟨rfl, List.forall_mem_nil _⟩
  exact hknown

omit hlink hcall in
/-- It holds of the one act on a settled batch, if there is such a batch. -/
theorem forall_mem_settledActs (client : Client) (label : String) {a : Act} (ha : P a) :
    ∀ b ∈ client.settledActs label [a], P b := by
  rw [settledActs]
  split
  · exact List.forall_mem_nil _
  · split
    · exact List.forall_mem_singleton.2 ha
    · exact List.forall_mem_nil _

omit hlink hcall in
/-- It holds of the act that opens a batch. -/
theorem forall_mem_openActs (client : Client) {label : String}
    (ha : P (.openBatch (.named label))) : ∀ a ∈ client.openActs label, P a := by
  have hstart : ∀ a ∈ openActs.start client label, P a := by
    rw [openActs.start]
    split
    · exact List.forall_mem_singleton.2 ha
    · exact List.forall_mem_nil _
  rw [openActs]
  split
  · split
    · exact hstart
    · exact List.forall_mem_nil _
  · exact hstart

omit hcall in
/-- It holds of a submission and of what arrives before it. -/
theorem forall_mem_submitActs (client : Client) {label : String} (meanwhile : Option Bytes)
    (ha : P (.submit (.named label))) : ∀ a ∈ client.submitActs label meanwhile, P a := by
  unfold submitActs
  split
  · exact List.forall_mem_nil _
  · split
    · split
      · exact List.forall_mem_nil _
      · refine List.forall_mem_append.2 ⟨forall_mem_receiveActs hlink _ _, ?_⟩
        split
        · exact List.forall_mem_nil _
        · exact List.forall_mem_singleton.2 ha
    · exact List.forall_mem_singleton.2 ha

/-- It holds of all that a step does, if it holds of the acts on the batch that the step changes. -/
theorem forall_mem_stepActs (client : Client) (step : Step)
    (hown : ∀ label ∈ step.changed?, ∀ a : Act, a.subject? = some (.named label) → P a) :
    ∀ a ∈ client.stepActs step, P a := by
  cases step with
  | connect attempt => exact List.forall_mem_singleton.2 (hlink _ rfl trivial)
  | disconnect => exact forall_mem_downActs hlink _ .disconnected rfl
  | send bytes => exact forall_mem_receiveActs hlink _ _
  | hangUp bytes =>
      exact List.forall_mem_append.2
        ⟨forall_mem_receiveActs hlink _ _, forall_mem_downActs hlink _ (.hungUp []) rfl⟩
  | openBatch label => exact forall_mem_openActs _ (hown label rfl _ rfl)
  | submit label c meanwhile => exact forall_mem_submitActs hlink _ _ (hown label rfl _ rfl)
  | read label => exact List.forall_mem_nil _
  | overwrite label changes => exact forall_mem_settledActs _ _ (hown label rfl _ rfl)
  | reset label => exact forall_mem_settledActs _ _ (hown label rfl _ rfl)
  | dropBatch label => exact forall_mem_settledActs _ _ (hown label rfl _ rfl)
  | takeReplies label => exact forall_mem_settledActs _ _ (hown label rfl _ rfl)
  | query q answers =>
      rw [stepActs]
      split
      · exact List.forall_mem_nil _
      · exact forall_mem_askActs hlink hcall _ _ _
  | loadScript body answers =>
      rw [stepActs]
      split
      · exact List.forall_mem_nil _
      · exact forall_mem_loadActs hlink hcall _ _ _
  | forgetScripts => exact List.forall_mem_nil _
  | scan collection pattern count answers =>
      rw [stepActs]
      split
      · exact List.forall_mem_nil _
      · exact forall_mem_scanActs hlink hcall _ _ _ _ _

/-- It holds of all that a history does, by induction on the steps. -/
theorem forall_mem_acts (client : Client) (steps : List Step)
    (hown : ∀ step ∈ steps, ∀ label ∈ step.changed?, ∀ a : Act,
      a.subject? = some (.named label) → P a) :
    ∀ a ∈ client.acts steps, P a := by
  induction steps generalizing client with
  | nil => exact List.forall_mem_nil _
  | cons step later ih =>
      obtain ⟨hstep, hlater⟩ := List.forall_mem_cons.1 hown
      exact List.forall_mem_append.2
        ⟨forall_mem_stepActs hlink hcall client step hstep, ih _ hlater⟩

end

/-- Every link of a history ends in one of the known ways. -/
theorem endsKnown_acts (client : Client) (steps : List Step) :
    ∀ a ∈ client.acts steps, a.EndsKnown :=
  forall_mem_acts (fun _ _ h => h) (fun _ h => Act.endsKnown_of_subject? h) client steps
    fun _ _ _ _ _ h => Act.endsKnown_of_subject? h

/-- In every run, a step that ends the link settles every command of the queue once and leaves all
other slots alone. So does every end of a link that comes about within a step, and all ends are
known ones. Without a link there is nothing to disconnect. -/
theorem run_tornDown (ceiling : Nat) (steps : List Step) :
    let client := (ofCeiling ceiling).run steps
    let acts := (ofCeiling ceiling).acts steps
    let after := fun n => (Session.ofCeiling ceiling).play (acts.take n)
    (∀ step e, client.session.ending? step = some e →
        client.session.TornDown e (client.step step).1.session) ∧
      (∀ n message error, acts[n]? = some (.goDown message error) → (after n).isUp = true →
        Ending.Known ⟨[], message, error⟩ ∧
          (after n).TornDown ⟨[], message, error⟩ (after (n + 1))) ∧
      (client.session.isUp = false → (client.step .disconnect).1 = client) := by
  intro client acts after
  obtain ⟨hplays, hready⟩ := leads_run_ofCeiling ceiling steps
  refine ⟨fun step e he => tornDown_step hready.balanced he, ?_, fun hdown => ?_⟩
  · intro n message error hn hup
    have hbalanced := (hplays.take n).balanced (balanced_ofCeiling ceiling)
    have hnext : after (n + 1) = (after n).goDown message error := by
      show play _ _ = _
      rw [List.take_add_one, hn, play, List.foldl_append]
      rfl
    rw [hnext]
    exact ⟨endsKnown_acts _ steps _ (List.mem_of_getElem? hn),
      hbalanced.tornDown_goDown hup message error⟩
  · show client.onSession _ = client
    rw [onSession, disconnect_of_down hdown]

/-- Two commands are owed a reply when the server hangs up. Its last bytes answer the first of them,
and the other one is told that the link is gone. -/
theorem run_tornDown_hangUp :
    let steps : List Step := [.connect .established, .openBatch "b", .submit "b" .ping none,
      .submit "b" .ping none]
    let last : Step := .hangUp (Utf8.encode "+A\r\n")
    let client := (ofCeiling 2).run steps
    let acts := (ofCeiling 2).acts (steps ++ [last])
    let after := fun n => (Session.ofCeiling 2).play (acts.take n)
    (client.session.ending? last = some (.hungUp [.status "A"]) ∧
        client.session.TornDown (.hungUp [.status "A"]) (client.step last).1.session) ∧
      (acts[6]? = some (.goDown closedByServer (some closedByServer)) ∧
        (after 6).isUp = true ∧
        (after 6).TornDown ⟨[], closedByServer, some closedByServer⟩ (after 7)) ∧
      ((client.step last).1.session.isUp = false ∧
        ((client.step last).1.step .disconnect).1 = (client.step last).1) := by
  intro steps last client acts after
  have hending : client.session.ending? last = some (.hungUp [.status "A"]) := by decide +kernel
  have hact : acts[6]? = some (.goDown closedByServer (some closedByServer)) := by decide +kernel
  have hup : (after 6).isUp = true := by decide +kernel
  have hdown : (client.step last).1.session.isUp = false := by decide +kernel
  obtain ⟨hsteps, -, -⟩ := run_tornDown 2 steps
  obtain ⟨-, hacts, hagain⟩ := run_tornDown 2 (steps ++ [last])
  rw [run_append] at hagain
  exact ⟨⟨hending, hsteps _ _ hending⟩, ⟨hact, hup, (hacts 6 _ _ hact hup).2⟩, hdown, hagain hdown⟩

end Client

end CommandPipeline
