import CommandPipeline.Proofs.Session.Runs

/-!
# Scripts are remembered

A script is uploaded when its body is not in the cache and the server answers with a digest. From
then on its digest is known without asking, over lost links and new ones, until the cache is
emptied: by a flush that the server has confirmed, or by the caller. `digest?_before_iff` says that
the cache after any number of steps holds what has been uploaded since it was emptied last, and
nothing else.

The flush of a query is the one that empties the cache. A flush that is submitted on a batch is a
command like any other, and the cache does not hear of it.
-/

namespace CommandPipeline

/-! ## The cache -/

namespace ScriptCache

variable {cache : ScriptCache} {body other digest : String}

/-- What is noted last is found. -/
@[simp] theorem digest?_insert_self : (cache.insert body digest).digest? body = some digest := by
  simp [digest?, insert]

/-- All other scripts are found as before. -/
@[simp] theorem digest?_insert_of_ne (h : body ≠ other) :
    (cache.insert other digest).digest? body = cache.digest? body := by
  have hfilter : (cache.filter fun entry => entry.1 != other).lookup body = cache.lookup body := by
    induction cache with
    | nil => rfl
    | cons entry cache ih =>
        obtain ⟨name, known⟩ := entry
        by_cases hname : name = other
        · subst hname
          rw [List.filter_cons_of_neg (by simp), ih, List.lookup_cons, beq_false_of_ne h]
        · rw [List.filter_cons_of_pos (by simpa using hname), List.lookup_cons, List.lookup_cons,
            ih]
  rw [digest?, insert, List.lookup_cons, beq_false_of_ne h]
  exact hfilter

end ScriptCache

/-! ## Calls and the cache -/

namespace Session

/-- The server receives the command of a one-shot call if there is a link. -/
theorem server_ask (s : Session) (server : Server) (c : Command) :
    (s.ask server c).2.1 = if s.isUp then (server.answer c.frame).1 else server := by
  rw [ask]
  split
  · rw [exchange]
    dsimp only
    cases batch? (((s.openBatch .oneShot).submit .oneShot).receive (server.answer c.frame).2)
      .oneShot <;> rfl
  · rfl

/-- Without a link a one-shot call is refused. -/
theorem ask_eq_of_down {s : Session} (h : s.isUp = false) (server : Server) (c : Command) :
    s.ask server c = (s, server, .error .notConnected) := by
  rw [ask, h]
  rfl

end Session

namespace Client

open Session

variable {client : Client} {server : Server} {body digest : String} {q : Query}

@[simp] theorem ask_scripts (client : Client) (server : Server) (c : Command) :
    (client.ask server c).1.scripts = client.scripts := rfl

/-- A query reads the reply to its command. -/
theorem query_result (client : Client) (server : Server) (q : Query) :
    (client.query server q).2.2 =
      match (client.session.ask server q.command).2.2 with
      | .error e => .error e
      | .ok r => (q.read r).mapError .reading := by
  rw [query, Client.ask]
  generalize client.session.ask server q.command = asked
  obtain ⟨s, server, e | r⟩ := asked
  · rfl
  · dsimp only
    cases q.read r <;> rfl

/-- Only a query that succeeds can change the cache. -/
theorem query_scripts (client : Client) (server : Server) (q : Query) :
    (client.query server q).1.scripts =
      match (client.query server q).2.2 with
      | .ok _ => client.scriptsAfter q
      | .error _ => client.scripts := by
  have hscripts := client.ask_scripts server q.command
  rw [query]
  generalize client.ask server q.command = asked at *
  obtain ⟨asker, server, e | r⟩ := asked
  · exact hscripts
  · dsimp only at hscripts ⊢
    cases q.read r with
    | error e => exact hscripts
    | ok answer =>
        show asker.scriptsAfter q = client.scriptsAfter q
        unfold scriptsAfter
        rw [hscripts]

/-- A script that is not in the cache is loaded by a one-shot call, and only success changes the
cache. -/
theorem loadScript_of_none (h : client.scripts.digest? body = none) (server : Server) :
    (client.loadScript server body).2.1 = (client.ask server (.scriptLoad body)).2.1 ∧
      (client.loadScript server body).1.scripts =
        match (client.loadScript server body).2.2 with
        | .ok digest => client.scripts.insert body digest
        | .error _ => client.scripts := by
  have hscripts := client.ask_scripts server (.scriptLoad body)
  rw [loadScript, h]
  dsimp only
  generalize client.ask server (.scriptLoad body) = asked at *
  obtain ⟨asker, server, e | r⟩ := asked
  · exact ⟨rfl, hscripts⟩
  · dsimp only at hscripts ⊢
    cases r.toText with
    | error e => exact ⟨rfl, hscripts⟩
    | ok digest => exact ⟨rfl, by rw [hscripts]⟩

/-! ## Single steps -/

/-- The step uploads a script: the server is sent its body and answers with a digest. -/
def Uploads (client : Client) (step : Step) (body digest : String) : Prop :=
  ∃ answers frames, step = .loadScript body answers ∧
    (client.step step).2 = .loaded (.ok digest) frames ∧ frames ≠ []

/-- The step empties the cache: the caller does so, or has a flush confirmed by the server. -/
def Forgets (client : Client) (step : Step) : Prop :=
  step = .forgetScripts ∨ ∃ answers answer frames, step = .query .scriptFlush answers ∧
    (client.step step).2 = .answered (.ok answer) frames

/-- A step that neither uploads a script nor empties the cache. -/
structure Keeps (client : Client) (step : Step) : Prop where
  scripts : (client.step step).1.scripts = client.scripts
  uploads : ∀ body digest, ¬ client.Uploads step body digest
  forgets : ¬ client.Forgets step

/-- Steps that are neither loads nor queries nor a clearing keep the cache if they only change the
session. -/
theorem keeps_of_scripts {step : Step} (hload : ∀ body answers, step ≠ .loadScript body answers)
    (hquery : ∀ q answers, step ≠ .query q answers) (hforget : step ≠ .forgetScripts)
    (h : (client.step step).1.scripts = client.scripts) : client.Keeps step where
  scripts := h
  uploads := by
    rintro body digest ⟨answers, frames, rfl, -⟩
    exact hload body answers rfl
  forgets := by
    rintro (rfl | ⟨answers, answer, frames, rfl, -⟩)
    · exact hforget rfl
    · exact hquery _ _ rfl

/-- A submission has nothing to do with scripts. -/
@[simp] theorem scripts_submit (client : Client) (label : String) (c : Command)
    (meanwhile : Option Bytes) : (client.submit label c meanwhile).1.scripts = client.scripts := by
  unfold submit
  split
  · rfl
  · split
    · cases meanwhile with
      | none => rfl
      | some bytes =>
          dsimp only
          split <;> rfl
    · rfl

@[simp] theorem scripts_hangUp (client : Client) (bytes : Bytes) :
    (client.step (.hangUp bytes)).1.scripts = client.scripts := by
  unfold Client.step
  cases client.session.isUp <;> rfl

/-- With a free permit the step of a load is the load. -/
theorem step_loadScript (hbusy : client.session.isBusy = false) (body : String)
    (answers : List Bytes) :
    client.step (.loadScript body answers) =
      ((client.loadScript (.ofAnswers answers) body).1,
        .loaded (client.loadScript (.ofAnswers answers) body).2.2
          (client.loadScript (.ofAnswers answers) body).2.1.frames) :=
  load_of_free hbusy body answers

/-- With a free permit the step of a query is the query. -/
theorem step_query (hbusy : client.session.isBusy = false) (q : Query) (answers : List Bytes) :
    client.step (.query q answers) =
      ((client.query (.ofAnswers answers) q).1,
        .answered (client.query (.ofAnswers answers) q).2.2
          (client.query (.ofAnswers answers) q).2.1.frames) :=
  unlessBusy_of_free hbusy _

/-- A step that would block keeps the cache. -/
theorem keeps_of_wouldBlock {step : Step} (hforget : step ≠ .forgetScripts)
    (h : client.step step = (client, .wouldBlock)) : client.Keeps step where
  scripts := by rw [h]
  uploads := by
    rintro body digest ⟨answers, frames, -, hout, -⟩
    rw [h] at hout
    cases hout
  forgets := by
    rintro (rfl | ⟨answers, answer, frames, -, hout⟩)
    · exact hforget rfl
    · rw [h] at hout
      cases hout

/-- A load of a script that is not in the cache is refused without a link, so when it succeeds the
server has received it. -/
theorem frames_of_loadScript (h : client.scripts.digest? body = none)
    (hresult : (client.loadScript server body).2.2 = .ok digest) :
    (client.loadScript server body).2.1.frames =
      server.frames ++ [(Command.scriptLoad body).frame] := by
  rw [(loadScript_of_none h server).1]
  show (client.session.ask server (.scriptLoad body)).2.1.frames = _
  rw [server_ask]
  cases hup : client.session.isUp with
  | true => rfl
  | false =>
      rw [loadScript, h, Client.ask, ask_eq_of_down hup] at hresult
      cases hresult

/-- What a load does to the cache. -/
theorem loadScript_cases (client : Client) (body : String) (answers : List Bytes) :
    (∃ digest, client.Uploads (.loadScript body answers) body digest ∧
        client.scripts.digest? body = none ∧
        (client.step (.loadScript body answers)).1.scripts =
          client.scripts.insert body digest) ∨
      client.Keeps (.loadScript body answers) := by
  cases hdigest : client.scripts.digest? body with
  | some known =>
      have hstep : client.step (.loadScript body answers) = (client, .loaded (.ok known) []) :=
        load_of_some hdigest answers
      refine .inr ⟨by rw [hstep], ?_, nofun⟩
      rintro body' digest ⟨answers', frames, -, hout, hframes⟩
      rw [hstep] at hout
      cases hout
      exact hframes rfl
  | none =>
      cases hbusy : client.session.isBusy with
      | true => exact .inr (keeps_of_wouldBlock nofun (load_of_busy hbusy hdigest answers))
      | false =>
          have hstep := step_loadScript hbusy body answers
          have hscripts := (loadScript_of_none hdigest (.ofAnswers answers)).2
          cases hresult : (client.loadScript (.ofAnswers answers) body).2.2 with
          | error e =>
              rw [hresult] at hstep hscripts
              refine .inr ⟨by rw [hstep, hscripts], ?_, nofun⟩
              rintro body' digest ⟨answers', frames, -, hout, -⟩
              rw [hstep] at hout
              cases hout
          | ok digest =>
              have hframes := frames_of_loadScript hdigest hresult
              rw [hresult] at hstep hscripts
              refine .inl ⟨digest, ⟨answers, _, rfl, by rw [hstep], ?_⟩, rfl,
                by rw [hstep, hscripts]⟩
              rw [hframes]
              exact List.concat_ne_nil _ _

/-- What a query does to the cache. -/
theorem query_cases (client : Client) (q : Query) (answers : List Bytes) :
    (client.Forgets (.query q answers) ∧ (client.step (.query q answers)).1.scripts = []) ∨
      client.Keeps (.query q answers) := by
  cases hbusy : client.session.isBusy with
  | true => exact .inr (keeps_of_wouldBlock nofun (unlessBusy_of_busy hbusy _))
  | false =>
      have hstep := step_query hbusy q answers
      have hscripts := client.query_scripts (.ofAnswers answers) q
      by_cases hconfirmed : q = .scriptFlush ∧
          ∃ answer, (client.query (.ofAnswers answers) q).2.2 = .ok answer
      · obtain ⟨rfl, answer, hresult⟩ := hconfirmed
        rw [hresult] at hstep hscripts
        exact .inl ⟨.inr ⟨answers, answer, _, rfl, by rw [hstep]⟩, by rw [hstep, hscripts]; rfl⟩
      · refine .inr ⟨?_, nofun, ?_⟩
        · rw [hstep]
          dsimp only
          rw [hscripts]
          split
          · next answer hresult =>
            have hother : q ≠ .scriptFlush := fun hq => hconfirmed ⟨hq, answer, hresult⟩
            unfold scriptsAfter
            split
            · exact absurd rfl hother
            · rfl
          · rfl
        · rintro (hforget | ⟨answers', answer, frames, hq, hout⟩)
          · cases hforget
          · cases hq
            rw [hstep] at hout
            exact hconfirmed ⟨rfl, answer, (Outcome.answered.inj hout).1⟩

/-- All that a step can do to the cache. -/
theorem scripts_step (client : Client) (step : Step) :
    (∃ body digest, client.Uploads step body digest ∧ client.scripts.digest? body = none ∧
        (client.step step).1.scripts = client.scripts.insert body digest) ∨
      (client.Forgets step ∧ (client.step step).1.scripts = []) ∨ client.Keeps step := by
  let SameScripts : Client → Prop := fun after => after.scripts = client.scripts
  cases step with
  | loadScript body answers =>
      rcases client.loadScript_cases body answers with ⟨digest, hload⟩ | hkeeps
      · exact .inl ⟨body, digest, hload⟩
      · exact .inr (.inr hkeeps)
  | query q answers => exact .inr (client.query_cases q answers)
  | forgetScripts => exact .inr (.inl ⟨.inl rfl, rfl⟩)
  | scan collection pattern count answers =>
      refine .inr (.inr (keeps_of_scripts nofun nofun nofun ?_))
      exact unlessBusy_preserves (P := SameScripts) rfl
        (scan_preserves (P := SameScripts) (fun _ _ _ => id) rfl _ collection pattern count)
  | openBatch label =>
      exact .inr (.inr (keeps_of_scripts nofun nofun nofun
        (openBatch_preserves (P := SameScripts) label rfl fun _ => rfl)))
  | submit label c meanwhile =>
      exact .inr (.inr (keeps_of_scripts nofun nofun nofun (by simp [Client.step])))
  | send bytes =>
      exact .inr (.inr (keeps_of_scripts nofun nofun nofun (by simp [send_eq])))
  | hangUp bytes => exact .inr (.inr (keeps_of_scripts nofun nofun nofun (by simp)))
  | connect attempt => exact .inr (.inr (keeps_of_scripts nofun nofun nofun rfl))
  | disconnect => exact .inr (.inr (keeps_of_scripts nofun nofun nofun rfl))
  | _ =>
      exact .inr (.inr (keeps_of_scripts nofun nofun nofun
        (withSettled_preserves (P := SameScripts) _ rfl fun _ => rfl)))

/-! ## Runs -/

/-- A step uploads one script and gets one digest. -/
theorem Uploads.unique {step : Step} {body' digest' : String} (h : client.Uploads step body digest)
    (h' : client.Uploads step body' digest') : body = body' ∧ digest = digest' := by
  obtain ⟨answers, frames, rfl, hout, -⟩ := h
  obtain ⟨answers', frames', heq, hout', -⟩ := h'
  cases heq
  rw [hout] at hout'
  cases hout'
  exact ⟨rfl, rfl⟩

/-- No step both uploads a script and empties the cache. -/
theorem Uploads.not_forgets {step : Step} (h : client.Uploads step body digest) :
    ¬ client.Forgets step := by
  obtain ⟨answers, frames, rfl, -⟩ := h
  exact nofun

/-- What is uploaded was not in the cache. -/
theorem Uploads.digest?_eq_none {step : Step} (h : client.Uploads step body digest) :
    client.scripts.digest? body = none := by
  rcases client.scripts_step step with ⟨body', digest', hupload, hnew, -⟩ | ⟨hforgets, -⟩ | hkeeps
  · rwa [(h.unique hupload).1]
  · exact absurd hforgets h.not_forgets
  · exact absurd h (hkeeps.uploads _ _)

variable {steps : List Step} {n : Nat}

/-- The client after the first steps of a history. -/
def before (client : Client) (steps : List Step) (n : Nat) : Client := client.run (steps.take n)

/-- The step of this number uploads a script. -/
def UploadsAt (client : Client) (steps : List Step) (n : Nat) (body digest : String) : Prop :=
  ∃ step, steps[n]? = some step ∧ (client.before steps n).Uploads step body digest

/-- The step of this number empties the cache. -/
def ForgetsAt (client : Client) (steps : List Step) (n : Nat) : Prop :=
  ∃ step, steps[n]? = some step ∧ (client.before steps n).Forgets step

/-- One of the first steps has uploaded the script, and none since then has emptied the cache. -/
def Remembers (client : Client) (steps : List Step) (n : Nat) (body digest : String) : Prop :=
  ∃ i < n, client.UploadsAt steps i body digest ∧
    ∀ k, i < k → k < n → ¬ client.ForgetsAt steps k

/-- The client behind a step is what the step makes of the client before. -/
theorem before_succ {step : Step} (h : steps[n]? = some step) :
    client.before steps (n + 1) = ((client.before steps n).step step).1 := by
  simp [before, List.take_add_one, h, run]

theorem before_succ_of_none (h : steps[n]? = none) :
    client.before steps (n + 1) = client.before steps n := by
  rw [before, List.take_add_one, h, Option.toList_none, List.append_nil, before]

/-- A script is remembered after a step that uploads it, and after any other that does not empty the
cache if it was remembered before. -/
theorem remembers_succ_iff {step : Step} (h : steps[n]? = some step) :
    client.Remembers steps (n + 1) body digest ↔
      (client.before steps n).Uploads step body digest ∨
        client.Remembers steps n body digest ∧ ¬ (client.before steps n).Forgets step := by
  constructor
  · rintro ⟨i, hi, hupload, hkept⟩
    rcases Nat.lt_succ_iff_lt_or_eq.1 hi with hlt | rfl
    · refine .inr ⟨⟨i, hlt, hupload, fun k hik hkn => hkept k hik (Nat.lt_succ_of_lt hkn)⟩, ?_⟩
      exact fun hforgets => hkept n hlt (Nat.lt_succ_self n) ⟨step, h, hforgets⟩
    · obtain ⟨step', h', hstep⟩ := hupload
      rw [h, Option.some.injEq] at h'
      exact .inl (h' ▸ hstep)
  · rintro (hupload | ⟨⟨i, hi, hupload, hkept⟩, hforgets⟩)
    · exact ⟨n, Nat.lt_succ_self n, ⟨step, h, hupload⟩, fun k hnk hkn => by omega⟩
    · refine ⟨i, Nat.lt_succ_of_lt hi, hupload, fun k hik hkn => ?_⟩
      rcases Nat.lt_succ_iff_lt_or_eq.1 hkn with hlt | rfl
      · exact hkept k hik hlt
      · rintro ⟨step', h', hstep⟩
        rw [h, Option.some.injEq] at h'
        exact hforgets (h' ▸ hstep)

/-- Behind the last step nothing more is learnt or forgotten. -/
theorem remembers_succ_of_none (h : steps[n]? = none) :
    client.Remembers steps (n + 1) body digest ↔ client.Remembers steps n body digest := by
  have hnone : ∀ step, steps[n]? ≠ some step := by simp [h]
  constructor
  · rintro ⟨i, hi, hupload, hkept⟩
    rcases Nat.lt_succ_iff_lt_or_eq.1 hi with hlt | rfl
    · exact ⟨i, hlt, hupload, fun k hik hkn => hkept k hik (Nat.lt_succ_of_lt hkn)⟩
    · obtain ⟨step, hstep, -⟩ := hupload
      exact absurd hstep (hnone step)
  · rintro ⟨i, hi, hupload, hkept⟩
    refine ⟨i, Nat.lt_succ_of_lt hi, hupload, fun k hik hkn => ?_⟩
    rcases Nat.lt_succ_iff_lt_or_eq.1 hkn with hlt | rfl
    · exact hkept k hik hlt
    · rintro ⟨step, hstep, -⟩
      exact hnone step hstep

/-- The cache holds exactly the scripts that are remembered. -/
theorem digest?_before_iff (hstart : client.scripts = []) (steps : List Step) (n : Nat)
    (body digest : String) :
    (client.before steps n).scripts.digest? body = some digest ↔
      client.Remembers steps n body digest := by
  induction n with
  | zero =>
      show client.scripts.digest? body = some digest ↔ _
      rw [hstart]
      exact ⟨nofun, fun ⟨i, hi, _⟩ => absurd hi (Nat.not_lt_zero i)⟩
  | succ n ih =>
      cases hn : steps[n]? with
      | none => rw [before_succ_of_none hn, remembers_succ_of_none hn, ih]
      | some step =>
          rw [before_succ hn, remembers_succ_iff hn, ← ih]
          rcases (client.before steps n).scripts_step step with
            ⟨body', digest', hupload, hnew, hscripts⟩ | ⟨hforgets, hscripts⟩ | hkeeps
          · rw [hscripts]
            by_cases hbody : body = body'
            · subst hbody
              simp only [ScriptCache.digest?_insert_self, hnew]
              constructor
              · rintro ⟨⟩
                exact .inl hupload
              · rintro (hupload' | ⟨⟨⟩, -⟩)
                rw [(hupload.unique hupload').2]
            · rw [ScriptCache.digest?_insert_of_ne hbody]
              constructor
              · exact fun hold => .inr ⟨hold, hupload.not_forgets⟩
              · rintro (hupload' | ⟨hold, -⟩)
                · exact absurd (hupload'.unique hupload).1 hbody
                · exact hold
          · rw [hscripts]
            constructor
            · exact nofun
            · rintro (hupload | ⟨-, hnot⟩)
              · exact absurd hforgets hupload.not_forgets
              · exact absurd hforgets hnot
          · rw [hkeeps.scripts]
            exact ⟨fun hold => .inr ⟨hold, hkeeps.forgets⟩,
              fun h => h.elim (fun hupload => absurd hupload (hkeeps.uploads _ _)) And.left⟩

end Client

end CommandPipeline
