import CommandPipeline.Proofs.Characters
import CommandPipeline.Proofs.Session.Scripts
import CommandPipeline.Proofs.Session.Replies

/-!
# Flushes and the cache of scripts

A flush makes the server forget all scripts. Two kinds of steps send one: a query, which waits for
the reply and then empties the cache, and the submission on a batch, which does not wait. What the
cache holds should have been loaded after every flush that the server has confirmed.

It has, with one exception (`run_flushes`). A flush that was submitted before the load was answered
before it, since replies come in turn. A query that has had its flush confirmed after the load has
emptied the cache. But nothing empties the cache when a flush is confirmed that was submitted on a
batch after the load, and then the digest in the cache is one that the server has been told to
forget (`not_coherent_of_batch`).
-/

namespace CommandPipeline

/-- The step sends a flush: it is a query, or the submission on a batch. -/
def Step.Flushes : Step → Prop
  | .query .scriptFlush _ => True
  | .submit _ c _ => c = .scriptFlush
  | _ => False

/-- The step submits a flush on a batch. -/
def Step.FlushesOnBatch : Step → Prop
  | .submit _ c _ => c = .scriptFlush
  | _ => False

namespace Client

open Journal (Resolves)
open Session (verdict)

section

variable (ceiling : Nat) (steps : List Step)

/-- The number that the next command gets after the first steps of a history. -/
def countBefore (k : Nat) : Nat :=
  (Journal.replay ceiling ((ofCeiling ceiling).acts (steps.take k))).count

/-- The step submits one command, and the act gives this command its reply. -/
def RepliesTo (k m : Nat) (r : Reply) : Prop :=
  countBefore ceiling steps (k + 1) = countBefore ceiling steps k + 1 ∧
    Resolves ceiling ((ofCeiling ceiling).acts steps) m (countBefore ceiling steps k) r

/-- The act gives the digest of a script to the step, which has asked for it. -/
def Supplies (body digest : String) (k m : Nat) : Prop :=
  ∃ answers r, steps[k]? = some (.loadScript body answers) ∧ RepliesTo ceiling steps k m r ∧
    r.toText = .ok digest

/-- The act confirms the flush that the step has sent: its reply neither is nor holds an error. -/
def Confirms (k m : Nat) : Prop :=
  ∃ step r, steps[k]? = some step ∧ step.Flushes ∧ RepliesTo ceiling steps k m r ∧
    verdict r = .ok r

/-- A script that is loaded without asking the server has a digest that was supplied after every
flush that the server has confirmed. -/
def Coherent : Prop :=
  ∀ server body digest,
    (((ofCeiling ceiling).run steps).loadScript server body).2 = (server, .ok digest) →
      ∃ k m, Supplies ceiling steps body digest k m ∧
        ∀ k' m', Confirms ceiling steps k' m' → m' < m

end

variable {ceiling : Nat} {steps : List Step} {client : Client} {k m : Nat} {step : Step}

/-! ## Steps and their acts -/

/-- The acts of one more step come behind those of the steps before. -/
theorem acts_take_succ (client : Client) (h : steps[k]? = some step) :
    client.acts (steps.take (k + 1)) =
      client.acts (steps.take k) ++ (client.before steps k).stepActs step := by
  simp [List.take_add_one, h, acts, before]

/-- The acts of the first steps come first. -/
theorem exists_acts_eq (client : Client) (steps : List Step) (k : Nat) :
    ∃ more, client.acts steps = client.acts (steps.take k) ++ more := by
  refine ⟨(client.run (steps.take k)).acts (steps.drop k), ?_⟩
  rw [← acts_append, List.take_append_drop]

/-- Steps do not lower the count. -/
theorem countBefore_le {k' : Nat} (h : k ≤ k') :
    countBefore ceiling steps k ≤ countBefore ceiling steps k' := by
  obtain ⟨more, hmore⟩ := (ofCeiling ceiling).exists_acts_eq (steps.take k') k
  rw [List.take_take, Nat.min_eq_left h] at hmore
  rw [countBefore, countBefore, hmore, Journal.replay_append]
  exact Journal.count_le_foldl _ _

/-- The command of a step that makes a one-shot call is given a reply, and the call gives what it
makes of it. -/
theorem exists_repliesTo_ask {server : Server} {c : Command} (h : steps[k]? = some step)
    (hacts : ((ofCeiling ceiling).before steps k).stepActs step =
      ((ofCeiling ceiling).before steps k).session.askActs server c)
    (hup : ((ofCeiling ceiling).before steps k).session.isUp = true)
    (hbusy : ((ofCeiling ceiling).before steps k).session.isBusy = false) :
    ∃ m r, RepliesTo ceiling steps k m r ∧
      (((ofCeiling ceiling).before steps k).session.ask server c).2.2 = verdict r := by
  obtain ⟨hplays, hready⟩ := leads_run_ofCeiling ceiling (steps.take k)
  obtain ⟨hcount, m, r, hm, hresolves, hresult⟩ :=
    Journal.exists_resolves_ask hplays hready hup hbusy server c
  have hsucc := acts_take_succ (ofCeiling ceiling) h
  rw [hacts] at hsucc
  obtain ⟨more, hmore⟩ := (ofCeiling ceiling).exists_acts_eq steps (k + 1)
  refine ⟨m, r, ⟨?_, ?_⟩, hresult⟩
  · rw [countBefore, hsucc]
    exact hcount
  · rw [hmore, hsucc]
    exact (Journal.resolves_append hm more).2 hresolves

/-- A step that submits a command by a one-shot call has a link and a permit. -/
theorem up_of_countBefore_succ {server : Server} {c : Command} (h : steps[k]? = some step)
    (hacts : ((ofCeiling ceiling).before steps k).stepActs step =
      if ((ofCeiling ceiling).before steps k).session.isBusy then []
      else ((ofCeiling ceiling).before steps k).session.askActs server c)
    (hcount : countBefore ceiling steps (k + 1) = countBefore ceiling steps k + 1) :
    ((ofCeiling ceiling).before steps k).session.isUp = true ∧
      ((ofCeiling ceiling).before steps k).session.isBusy = false := by
  have hsucc := acts_take_succ (ofCeiling ceiling) h
  rw [hacts] at hsucc
  have hacted : ((ofCeiling ceiling).before steps k).stepActs step ≠ [] := by
    intro hnone
    rw [hacts] at hnone
    rw [hnone, List.append_nil] at hsucc
    rw [countBefore, countBefore, hsucc] at hcount
    omega
  rw [hacts] at hacted
  cases hbusy : ((ofCeiling ceiling).before steps k).session.isBusy with
  | true => exact absurd (by rw [hbusy]; rfl) hacted
  | false =>
      cases hup : ((ofCeiling ceiling).before steps k).session.isUp with
      | true => exact ⟨rfl, rfl⟩
      | false =>
          rw [hbusy, if_neg Bool.false_ne_true, Session.askActs, hup] at hacted
          exact absurd rfl hacted

/-! ## Loads and flushes -/

/-- A load that asks the server gives the digest that it reads from the reply. -/
theorem exists_reply_of_loadScript {server : Server} {body digest : String}
    (hnone : client.scripts.digest? body = none)
    (h : (client.loadScript server body).2.2 = .ok digest) :
    ∃ r, (client.session.ask server (.scriptLoad body)).2.2 = .ok r ∧ r.toText = .ok digest := by
  rw [loadScript, hnone, Client.ask] at h
  generalize client.session.ask server (.scriptLoad body) = asked at *
  obtain ⟨s, server, e | r⟩ := asked
  · cases h
  · refine ⟨r, rfl, ?_⟩
    dsimp only at h
    cases hread : r.toText with
    | error e =>
        rw [hread] at h
        cases h
    | ok text =>
        rw [hread] at h
        cases h
        rfl

/-- A script that was uploaded was asked for over a link, and the reply was read as its digest. -/
theorem Uploads.exists_reply {body digest : String} {answers : List Bytes}
    (h : client.Uploads (.loadScript body answers) body digest) :
    client.session.isUp = true ∧ client.session.isBusy = false ∧
      ∃ r, (client.session.ask (.ofAnswers answers) (.scriptLoad body)).2.2 = .ok r ∧
        r.toText = .ok digest := by
  have hnone := h.digest?_eq_none
  obtain ⟨answers', frames, heq, hout, -⟩ := h
  cases heq
  cases hbusy : client.session.isBusy with
  | true =>
      have hblocks : client.step (.loadScript body answers) = (client, .wouldBlock) :=
        load_of_busy hbusy hnone answers
      rw [hblocks] at hout
      cases hout
  | false =>
      rw [step_loadScript hbusy] at hout
      obtain ⟨r, hasked, hread⟩ := exists_reply_of_loadScript hnone (Outcome.loaded.inj hout).1
      refine ⟨?_, rfl, r, hasked, hread⟩
      cases hup : client.session.isUp with
      | true => rfl
      | false =>
          rw [Session.ask_eq_of_down hup] at hasked
          cases hasked

/-- A query that has its flush confirmed empties the cache. -/
theorem forgetsAt_of_confirmed {answers : List Bytes} {r : Reply}
    (h : steps[k]? = some (.query .scriptFlush answers)) (hreply : RepliesTo ceiling steps k m r)
    (hclean : verdict r = .ok r) : (ofCeiling ceiling).ForgetsAt steps k := by
  obtain ⟨hup, hbusy⟩ := up_of_countBefore_succ h rfl hreply.1
  have hacts : ((ofCeiling ceiling).before steps k).stepActs (.query .scriptFlush answers) =
      ((ofCeiling ceiling).before steps k).session.askActs (.ofAnswers answers) .scriptFlush := by
    show (if _ then [] else _) = _
    rw [hbusy]
    rfl
  obtain ⟨m', r', hreply', hasked⟩ := exists_repliesTo_ask h hacts hup hbusy
  obtain ⟨hplays, -⟩ := leads_run_ofCeiling ceiling steps
  obtain ⟨-, rfl⟩ := Journal.resolves_once hplays hreply.2 hreply'.2
  rw [hclean] at hasked
  have hconfirmed : (((ofCeiling ceiling).before steps k).query (.ofAnswers answers)
      .scriptFlush).2.2 = .ok .done := by
    rw [query_result, show Query.scriptFlush.command = .scriptFlush from rfl, hasked]
    rfl
  have hstep := step_query hbusy .scriptFlush answers
  rw [hconfirmed] at hstep
  exact ⟨_, h, .inr ⟨answers, .done, _, rfl, congrArg Prod.snd hstep⟩⟩

/-- A load of which the server hears nothing takes the digest from the cache. -/
theorem digest?_of_loadScript {server : Server} {body digest : String}
    (h : (client.loadScript server body).2 = (server, .ok digest)) :
    client.scripts.digest? body = some digest := by
  have hresult : (client.loadScript server body).2.2 = .ok digest := congrArg Prod.snd h
  cases hdigest : client.scripts.digest? body with
  | some known =>
      rw [loadScript_of_some hdigest] at hresult
      cases hresult
      rfl
  | none =>
      have hframes := frames_of_loadScript hdigest hresult
      rw [h] at hframes
      dsimp only at hframes
      have hlength := congrArg List.length hframes
      rw [List.length_append, List.length_singleton] at hlength
      omega

/-- A call that succeeds gives the reply that it got. -/
theorem verdict_eq_ok {r r' : Reply} (h : verdict r = .ok r') : r = r' := by
  rw [verdict] at h
  split at h
  · cases h
  · exact Except.ok.inj h

/-- What is uploaded at some step is supplied by the reply to this step, which the server has sent
in its turn. -/
theorem UploadsAt.exists_supplies {body digest : String}
    (h : (ofCeiling ceiling).UploadsAt steps k body digest) :
    ∃ m, Supplies ceiling steps body digest k m ∧
      (Journal.after ceiling ((ofCeiling ceiling).acts steps) m).Oldest
        (countBefore ceiling steps k) := by
  obtain ⟨step, hstep, hupload⟩ := h
  have hnone := hupload.digest?_eq_none
  obtain ⟨answers, -, rfl, -, -⟩ := id hupload
  obtain ⟨hup, hbusy, r, hasked, hread⟩ := hupload.exists_reply
  have hacts : ((ofCeiling ceiling).before steps k).stepActs (.loadScript body answers) =
      ((ofCeiling ceiling).before steps k).session.askActs (.ofAnswers answers)
        (.scriptLoad body) := by
    show (if _ then [] else loadActs _ (.ofAnswers answers) body) = _
    rw [hbusy, if_neg Bool.false_ne_true, loadActs, hnone]
  obtain ⟨m, r', hreply, hresult⟩ := exists_repliesTo_ask hstep hacts hup hbusy
  rw [hasked] at hresult
  obtain rfl := verdict_eq_ok hresult.symm
  refine ⟨m, ⟨answers, r', hstep, hreply, hread⟩, ?_⟩
  obtain ⟨hplays, -⟩ := leads_run_ofCeiling ceiling steps
  rcases Journal.cases_of_resolves hplays hreply.2 with ⟨-, holdest⟩ | ⟨message, rfl⟩
  · exact holdest
  · cases hread

/-- A script that is loaded without asking the server has a digest that was supplied after every
flush that the server has confirmed, but for those that were submitted on a batch after the load. -/
theorem run_flushes {server : Server} {body digest : String}
    (h : (((ofCeiling ceiling).run steps).loadScript server body).2 = (server, .ok digest)) :
    ∃ k m, Supplies ceiling steps body digest k m ∧ ∀ k' m', Confirms ceiling steps k' m' →
      m' < m ∨ k < k' ∧ ∃ step, steps[k']? = some step ∧ step.FlushesOnBatch := by
  have hbefore : (ofCeiling ceiling).before steps steps.length = (ofCeiling ceiling).run steps := by
    rw [before, List.take_length]
  have hdigest := digest?_of_loadScript h
  rw [← hbefore, digest?_before_iff rfl] at hdigest
  obtain ⟨k, -, hupload, hkept⟩ := hdigest
  obtain ⟨m, hsupplies, holdest⟩ := hupload.exists_supplies
  refine ⟨k, m, hsupplies, ?_⟩
  rintro k' m' ⟨step, r, hstep, hflush, hreply, hclean⟩
  rcases Nat.lt_trichotomy k' k with hlt | rfl | hgt
  · -- A flush from before the load has been answered before it.
    obtain ⟨hplays, -⟩ := leads_run_ofCeiling ceiling steps
    have hcount : countBefore ceiling steps k' + 1 ≤ countBefore ceiling steps k :=
      hreply.1 ▸ countBefore_le hlt
    exact .inl (Journal.resolves_in_turn hplays holdest hcount hreply.2)
  · obtain ⟨answers, -, hload, -⟩ := hsupplies
    rw [hload] at hstep
    cases hstep
    exact absurd hflush id
  · cases step with
    | query q answers =>
        cases q with
        | scriptFlush =>
            obtain ⟨hin, -⟩ := List.getElem?_eq_some_iff.1 hstep
            exact absurd (forgetsAt_of_confirmed hstep hreply hclean) (hkept k' hgt hin)
        | _ => exact absurd hflush id
    | submit label c meanwhile => exact .inr ⟨hgt, _, hstep, hflush⟩
    | _ => exact absurd hflush id

/-- A flush on a batch that is answered just before the load behind it. -/
theorem run_flushes_pipelined :
    let steps : List Step := [.connect .established, .openBatch "b",
      .submit "b" .scriptFlush none,
      .loadScript "return 1" [Utf8.encode "+OK\r\n$2\r\nd1\r\n"]]
    (((ofCeiling 2).run steps).loadScript (.ofAnswers []) "return 1").2 =
        (.ofAnswers [], .ok "d1") ∧
      ∃ k m, Supplies 2 steps "return 1" "d1" k m ∧ ∀ k' m', Confirms 2 steps k' m' →
        m' < m ∨ k < k' ∧ ∃ step, steps[k']? = some step ∧ step.FlushesOnBatch := by
  intro steps
  have hdigest : ((ofCeiling 2).run steps).scripts.digest? "return 1" = some "d1" := by
    decide +kernel
  have hload := congrArg Prod.snd (loadScript_of_some hdigest (.ofAnswers []))
  exact ⟨hload, run_flushes hload⟩

/-- The exception does come about: a script is loaded, and a flush that was submitted on a batch
after that is confirmed. The digest is still taken from the cache. -/
theorem not_coherent_of_batch :
    let steps : List Step := [.connect .established,
      .loadScript "return 1" [Utf8.encode "$2\r\nd1\r\n"], .openBatch "b",
      .submit "b" .scriptFlush none, .send (Utf8.encode "+OK\r\n")]
    Supplies 2 steps "return 1" "d1" 1 4 ∧ Confirms 2 steps 3 9 ∧
      (∀ server, ((ofCeiling 2).run steps).loadScript server "return 1" =
        ((ofCeiling 2).run steps, server, .ok "d1")) ∧
      ¬ Coherent 2 steps := by
  intro steps
  obtain ⟨hplays, -⟩ := leads_run_ofCeiling 2 steps
  have hload : Resolves 2 ((ofCeiling 2).acts steps) 4 (countBefore 2 steps 1)
      (.string (Utf8.encode "d1")) :=
    Journal.resolves_of_slot? hplays (t := ⟨.oneShot, 0⟩) (by decide +kernel)
      (by decide +kernel) (by decide +kernel) (by decide +kernel)
  have hflush : Resolves 2 ((ofCeiling 2).acts steps) 9 (countBefore 2 steps 3) (.status "OK") :=
    Journal.resolves_of_slot? hplays (t := ⟨.named "b", 0⟩) (by decide +kernel)
      (by decide +kernel) (by decide +kernel) (by decide +kernel)
  have hsupplies : Supplies 2 steps "return 1" "d1" 1 4 :=
    ⟨_, _, rfl, ⟨by decide +kernel, hload⟩, Reply.textOf_encode "d1"⟩
  have hconfirms : Confirms 2 steps 3 9 :=
    ⟨_, _, rfl, rfl, ⟨by decide +kernel, hflush⟩, rfl⟩
  have hdigest : ((ofCeiling 2).run steps).scripts.digest? "return 1" = some "d1" := by
    decide +kernel
  refine ⟨hsupplies, hconfirms, loadScript_of_some hdigest, fun h => ?_⟩
  obtain ⟨k, m, ⟨answers, r, hstep, hreply, -⟩, hlast⟩ :=
    h (.ofAnswers []) "return 1" "d1" (congrArg Prod.snd (loadScript_of_some hdigest _))
  -- There is one load only, so its reply supplied the digest, before the flush was confirmed.
  have hk : k = 1 := by
    rcases k with _ | _ | _ | _ | _ | k
    · cases hstep
    · rfl
    · cases hstep
    · cases hstep
    · cases hstep
    · cases hstep
  subst hk
  obtain ⟨rfl, -⟩ := Journal.resolves_once hplays hreply.2 hload
  exact absurd (hlast 3 9 hconfirms) (by decide)

end Client

end CommandPipeline
