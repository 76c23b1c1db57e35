import CommandPipeline.Proofs.Session.Runs

/-!
# What is recorded of a failed attempt

An attempt to connect fails either before it is under way, when the socket cannot be set up, or
afterwards, when no link comes of it. Both leave the session without a link and change nothing that
the batches have. But only a failure of the second sort is recorded: an attempt that cannot start
leaves the text of whatever brought the link down before, if there is any.

What is recorded stays until the next attempt, since without a link nothing else that happens to a
client can touch it.
-/

namespace CommandPipeline

/-! ## What an attempt to connect leaves behind -/

/-- The step is an attempt to connect. -/
def Step.isAttempt : Step → Bool
  | .connect _ => true
  | _ => false

namespace Client

/-- After the attempt there is no link, and until the next attempt this text is to be read. -/
structure Leaves (client : Client) (attempt : Attempt) (text : Option String) : Prop where
  /-- The batches and the permits are as they were. -/
  registry : (client.step (.connect attempt)).1.session.registry = client.session.registry
  inFlight : (client.step (.connect attempt)).1.session.inFlight = client.session.inFlight
  stays : ∀ later, (∀ step ∈ later, step.isAttempt = false) →
    ((client.step (.connect attempt)).1.run later).session.isUp = false ∧
      ((client.step (.connect attempt)).1.run later).session.error? = text

/-- If the attempt fails, the text of that failure is what it leaves. -/
def RecordsFailure (client : Client) (attempt : Attempt) : Prop :=
  ∀ error, (client.step (.connect attempt)).2 = .failed error →
    client.Leaves attempt (some error.message)

/-- The text that is to be read after an attempt has failed with an error. -/
def recordedBy (client : Client) (error : SystemError) : Attempt → Option String
  | .impossible _ => client.session.error?
  | _ => some error.message

end Client

namespace Session

variable {s : Session}

/-- Without a link a submission is answered on the spot and leaves the link alone. -/
theorem link_submit_of_down (hdown : s.isUp = false) (name : BatchName) :
    (s.submit name).link = s.link := by
  obtain ⟨registry, error, rfl⟩ := exists_of_down hdown
  rw [submit]
  cases nextTicket? ⟨registry, .down error⟩ name <;> rfl

theorem isUp_congr {t : Session} (h : s.link = t.link) : s.isUp = t.isUp := by
  rw [isUp, isUp, h]

theorem error?_congr {t : Session} (h : s.link = t.link) : s.error? = t.error? := by
  rw [error?, error?, h]

end Session

namespace Client

open Session

variable {client : Client}

/-! ## Without a link -/

/-- Without a link nothing but an attempt to connect changes that, or the text that is recorded. -/
theorem link_step_of_down (hdown : client.session.isUp = false) {step : Step}
    (hstep : step.isAttempt = false) :
    (client.step step).1.session.link = client.session.link := by
  let SameLink : Client → Prop := fun after => after.session.link = client.session.link
  let Same : Client → Prop := fun after => after.session = client.session
  -- A one-shot call needs a link, so it is refused.
  have hask : ∀ asker server c, Same asker → Same (asker.ask server c).1 := by
    intro asker server c hasker
    show (asker.session.ask server c).1 = _
    rw [show asker.session = client.session from hasker, ask_down hdown]
  cases step with
  | connect attempt => cases hstep
  | disconnect =>
      obtain ⟨registry, error, hsession⟩ := exists_of_down hdown
      show client.session.disconnect.link = _
      rw [hsession]
      rfl
  | send bytes => simp [receive_down hdown]
  | hangUp bytes => simp [hangUp_down hdown]
  | openBatch label => exact openBatch_preserves (P := SameLink) label rfl fun _ => rfl
  | submit label c meanwhile =>
      have hbusy : client.session.isBusy = false := by rw [isBusy, hdown, Bool.false_and]
      rw [submit_eq hbusy]
      exact link_submit_of_down hdown _
  | read label => simp
  | overwrite label changes => exact withSettled_preserves (P := SameLink) label rfl fun _ => rfl
  | reset label => exact withSettled_preserves (P := SameLink) label rfl fun _ => rfl
  | dropBatch label => exact withSettled_preserves (P := SameLink) label rfl fun _ => rfl
  | takeReplies label => exact withSettled_preserves (P := SameLink) label rfl fun _ => rfl
  | query q answers =>
      refine unlessBusy_preserves (P := SameLink) rfl ?_
      show (client.query (.ofAnswers answers) q).1.session.link = _
      rw [query_session, ask_down hdown]
  | loadScript body answers =>
      refine load_preserves (P := SameLink) rfl ?_
      show (client.loadScript (.ofAnswers answers) body).1.session.link = _
      rw [loadScript_session, ask_down hdown]
      split <;> rfl
  | forgetScripts => rfl
  | scan collection pattern count answers =>
      refine unlessBusy_preserves (P := SameLink) rfl ?_
      have hscan : Same (client.scan (.ofAnswers answers) collection pattern count).1 :=
        scan_preserves (P := Same) hask rfl _ collection pattern count
      exact congrArg Session.link hscan

/-- As long as no attempt to connect is made, a link that is down stays as it is. -/
theorem link_run_of_down (hdown : client.session.isUp = false) {later : List Step}
    (hlater : ∀ step ∈ later, step.isAttempt = false) :
    (client.run later).session.link = client.session.link := by
  induction later generalizing client with
  | nil => rfl
  | cons step later ih =>
      obtain ⟨hstep, hlater⟩ := List.forall_mem_cons.1 hlater
      have hlink := link_step_of_down hdown hstep
      exact (ih ((isUp_congr hlink).trans hdown) hlater).trans hlink

/-! ## Failed attempts -/

/-- An attempt can only fail without a link. -/
theorem isUp_of_failed {attempt : Attempt} {error : SystemError}
    (h : (client.step (.connect attempt)).2 = .failed error) : client.session.isUp = false := by
  obtain ⟨⟨registry, link⟩, scripts⟩ := client
  cases link with
  | up stream owed => cases h
  | down recorded => rfl

/-- An attempt that cannot start fails with its error. -/
theorem outcome_impossible (hdown : client.session.isUp = false) (error : SystemError) :
    (client.step (.connect (.impossible error))).2 = .failed error := by
  show (if client.session.isUp then _ else _) = _
  rw [hdown]
  rfl

/-- A failed attempt changes nothing but the text that is recorded. -/
theorem session_connect_of_failed {attempt : Attempt} {error : SystemError}
    (h : (client.step (.connect attempt)).2 = .failed error) :
    (client.step (.connect attempt)).1.session =
      ⟨client.session.registry, .down (client.recordedBy error attempt)⟩ := by
  obtain ⟨⟨registry, link⟩, scripts⟩ := client
  cases link with
  | up stream owed => cases h
  | down recorded =>
      cases attempt with
      | established => cases h
      | impossible e => rfl
      | failed e =>
          cases h
          rfl

/-- What a failed attempt records stays until a later attempt. -/
theorem leaves_of_failed {attempt : Attempt} {error : SystemError}
    (h : (client.step (.connect attempt)).2 = .failed error) :
    client.Leaves attempt (client.recordedBy error attempt) := by
  have hsession := session_connect_of_failed h
  refine ⟨by rw [hsession], by rw [inFlight, hsession]; rfl, fun later hlater => ?_⟩
  have hdown : (client.step (.connect attempt)).1.session.isUp = false := by
    rw [hsession]
    rfl
  have hlink := link_run_of_down hdown hlater
  rw [isUp_congr hlink, error?_congr hlink]
  exact ⟨hdown, by rw [hsession]; rfl⟩

/-- Whatever has happened to a client before, an attempt that fails leaves it without a link and its
batches and permits as they were, and the text to be read stays until the next attempt. That is the
text of the failure, but for an attempt that could not start: it leaves the older text, so the
failure is recorded only if that happens to be the same. -/
theorem recordsFailure_iff (client : Client) (attempt : Attempt) :
    (∀ error, (client.step (.connect attempt)).2 = .failed error →
        client.Leaves attempt (client.recordedBy error attempt)) ∧
      (client.RecordsFailure attempt ↔ client.session.isUp = true ∨
        ∀ error, attempt = .impossible error → client.session.error? = some error.message) := by
  refine ⟨fun error => leaves_of_failed, fun h => ?_, fun h error herror => ?_⟩
  · cases hup : client.session.isUp with
    | true => exact .inl rfl
    | false =>
        refine .inr fun error heq => ?_
        subst heq
        have herror := outcome_impossible hup error
        obtain ⟨-, hkept⟩ := (leaves_of_failed herror).stays [] (List.forall_mem_nil _)
        obtain ⟨-, hrecorded⟩ := (h error herror).stays [] (List.forall_mem_nil _)
        exact hkept.symm.trans hrecorded
  · have hdown := isUp_of_failed herror
    have htext : client.recordedBy error attempt = some error.message := by
      cases attempt with
      | impossible e =>
          rw [outcome_impossible hdown] at herror
          cases herror
          exact h.resolve_left (by rw [hdown]; exact nofun) error rfl
      | _ => rfl
    exact htext ▸ leaves_of_failed herror

/-- The server has ended a link when an attempt gets under way and fails. A command that is then
submitted does not touch what is recorded. -/
theorem recordsFailure_iff_lost :
    let client := (ofCeiling 2).run [.connect .established, .openBatch "b", .hangUp []]
    let attempt : Attempt := .failed .connectionRefused
    let failed := (client.step (.connect attempt)).1
    (client.step (.connect attempt)).2 = .failed .connectionRefused ∧
      client.RecordsFailure attempt ∧
      (failed.run [.submit "b" .ping none, .disconnect]).session.error? =
        some "Connection refused (os error 111)" := by
  intro client attempt failed
  have hdown : client.session.isUp = false := by decide +kernel
  have herror : (client.step (.connect attempt)).2 = .failed .connectionRefused := by
    show (if client.session.isUp then _ else _) = _
    rw [hdown]
    rfl
  have hrecords := (recordsFailure_iff client attempt).2.2 (.inr nofun)
  obtain ⟨-, htext⟩ := (hrecords _ herror).stays [.submit "b" .ping none, .disconnect] (by decide)
  exact ⟨herror, hrecords, htext⟩

/-- An attempt that cannot start is not recorded: a new client has no text to be read, and one that
has lost its link still tells of that. -/
theorem not_recorded_of_impossible :
    let attempt : Attempt := .impossible .noSuchFile
    let lost := (ofCeiling 2).run [.connect .established, .hangUp []]
    ((ofCeiling 2).step (.connect attempt)).2 = .failed .noSuchFile ∧
      ((ofCeiling 2).step (.connect attempt)).1.session.error? = none ∧
      (lost.step (.connect attempt)).2 = .failed .noSuchFile ∧
      (lost.step (.connect attempt)).1.session.error? = some closedByServer ∧
      ¬ (ofCeiling 2).RecordsFailure attempt ∧ ¬ lost.RecordsFailure attempt := by
  intro attempt lost
  have hdown : lost.session.isUp = false := by decide +kernel
  have hlost : (lost.step (.connect attempt)).1.session.error? = some closedByServer := by
    decide +kernel
  refine ⟨rfl, rfl, outcome_impossible hdown _, hlost, fun h => ?_, fun h => ?_⟩
  · obtain ⟨-, htext⟩ := (h _ rfl).stays [] (List.forall_mem_nil _)
    cases htext
  · obtain ⟨-, htext⟩ := (h _ (outcome_impossible hdown _)).stays [] (List.forall_mem_nil _)
    rw [show ((lost.step (.connect attempt)).1.run []).session.error? = _ from hlost] at htext
    exact absurd htext (by decide +kernel)

end Client

end CommandPipeline
