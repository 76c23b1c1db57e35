import CommandPipeline.Proofs.Session.Correlation
import CommandPipeline.Proofs.Session.Dispatch

/-!
# Replies come in turn

A command is given its reply by the act that hands it on, or by one that tells it of the end of its
link. In the first case no command submitted earlier waits any more, whatever link it was submitted
on. So replies from the server come in the order of submission over all batches and links
(`resolves_in_turn`).

A one-shot call submits one command. When it is over the command has its reply, and the outcome of
the call is made of this reply alone (`exists_resolves_ask`).
-/

namespace CommandPipeline

/-! ## How a slot is filled -/

namespace Session

variable {s : Session} {a : Act} {t : Ticket} {r : Reply}

/-- A command that is told of the end of its link gets an error. -/
theorem slot?_failAll_of_empty {registry : Registry} {owed : List Ticket} {message : String}
    (hbalances : registry.Balances owed) (hempty : registry.slot? t = some .empty)
    (hfilled : (registry.failAll owed message).slot? t = some ⟨some r⟩) : r = .error message := by
  have hmem : t ∈ owed := hbalances.mem_owed_iff.2 hempty
  obtain ⟨i, hi, ht⟩ := List.getElem_of_mem hmem
  have hplace : owed[i]? = some t := by rw [List.getElem?_eq_getElem hi, ht]
  have hreply : (owed.map fun _ => Reply.error message)[i]? = some (.error message) := by
    rw [List.getElem?_map, hplace]
    rfl
  rw [Registry.failAll_eq_dispatch, hbalances.slot?_dispatch hplace hreply] at hfilled
  cases hfilled
  rfl

/-- A batch with an empty slot is not its owner's to change. -/
theorem Balanced.ne_of_isFree (h : s.Balanced) (hempty : s.slot? t = some .empty)
    {name : BatchName} (hfree : s.IsFree name) : t.batch ≠ name := by
  rintro rfl
  have hmem : t ∈ s.owed := (Registry.Balances.mem_owed_iff h).2 hempty
  have hplace : t.index ∈ Ticket.positions t.batch s.owed := Ticket.mem_positions_iff.2 hmem
  rw [Registry.Balances.positions_eq_nil h hfree] at hplace
  exact absurd hplace List.not_mem_nil

/-- An empty slot is filled with the reply that is handed on, or with an error. -/
theorem Balanced.cases_of_filled (h : s.Balanced) (ha : s.Allows a)
    (hempty : s.slot? t = some .empty) (hfilled : (s.act a).slot? t = some ⟨some r⟩) :
    a = .answer r ∨ ∃ message, r = .error message := by
  have hmem : t ∈ s.owed := (Registry.Balances.mem_owed_iff h).2 hempty
  obtain ⟨registry, _ | ⟨stream, owed⟩⟩ := s
  · exact absurd hmem List.not_mem_nil
  have hkept : ∀ registry' : Registry, registry'.slot? t = registry.slot? t →
      registry'.slot? t ≠ some ⟨some r⟩ := by
    intro registry' hsame hslot
    rw [hsame, show registry.slot? t = some .empty from hempty] at hslot
    cases hslot
  have howner : ∀ {name : BatchName}, IsFree ⟨registry, .up stream owed⟩ name → t.batch ≠ name :=
    h.ne_of_isFree hempty
  cases a with
  | connect attempt => exact absurd hfilled (hkept _ rfl)
  | arrive bytes => exact absurd hfilled (hkept _ rfl)
  | goDown message error => exact .inr ⟨message, slot?_failAll_of_empty h hempty hfilled⟩
  | answer reply =>
      rcases owed with _ | ⟨front, owed⟩
      · exact absurd hmem List.not_mem_nil
      · by_cases hfront : t = front
        · subst hfront
          have hself : (registry.deliver t reply).slot? t = some (Slot.empty.fill reply) :=
            Registry.slot?_deliver_self reply hempty
          rw [show (registry.deliver t reply).slot? t = _ from hfilled] at hself
          cases hself
          exact .inl rfl
        · exact absurd hfilled (hkept _ (Registry.slot?_deliver_of_ne reply hfront))
  | submit name =>
      obtain ⟨b, hb⟩ := Option.isSome_iff_exists.1 ha.2
      rw [Session.act, Session.submit, nextTicket?_eq_some hb] at hfilled
      exact absurd hfilled (hkept _ ((Registry.slot?_enter hempty).trans hempty.symm))
  | openBatch name =>
      exact absurd hfilled (hkept _ (Registry.slot?_congr
        ((Registry.batch?_openBatch h.names).trans (if_neg (howner ha)))))
  | closeBatch name =>
      exact absurd hfilled (hkept _ (Registry.slot?_congr
        ((Registry.batch?_closeBatch h.names).trans (if_neg (howner ha)))))
  | reset name =>
      exact absurd hfilled (hkept _ (Registry.slot?_congr
        (by simp [Session.act, Session.update, howner ha])))
  | overwrite name changes =>
      exact absurd hfilled (hkept _ (Registry.slot?_congr
        ((Registry.batch?_update _).trans (if_neg (howner ha)))))

/-- A command that is answered on the spot gets an error. -/
theorem slot?_act_added {name : BatchName} (hadded : s.added? a = some name)
    (hfilled : (s.act a).slot? ⟨name, s.size name⟩ = some ⟨some r⟩) :
    ∃ message, r = .error message := by
  cases a with
  | submit other =>
      rw [added?] at hadded
      split at hadded
      · next hthere =>
          cases hadded
          obtain ⟨b, hb⟩ := Option.isSome_iff_exists.1 hthere
          have hentered := Registry.slot?_enter_new hb
          rw [act, submit, nextTicket?_eq_some hb, size_eq_of_batch? hb] at hfilled
          obtain ⟨registry, error | ⟨stream, owed⟩⟩ := s
          · have hself :=
              Registry.slot?_deliver_self (.error (error.getD Slot.abandonedMessage)) hentered
            rw [show ((registry.enter name).deliver _ _).slot? _ = _ from hfilled] at hself
            cases hself
            exact ⟨_, rfl⟩
          · rw [show (registry.enter name).slot? _ = _ from hfilled] at hentered
            cases hentered
      · cases hadded
  | _ => cases hadded

/-- The act at a place was allowed in the session that the acts before it lead to. -/
theorem Plays.allows {t : Session} {acts : List Act} {n : Nat} (h : s.Plays acts t)
    (hn : acts[n]? = some a) : (s.play (acts.take n)).Allows a := by
  induction h generalizing n with
  | nil => cases hn
  | cons ha _ ih =>
      cases n with
      | zero =>
          cases hn
          exact ha
      | succ n => exact ih hn

end Session

/-! ## Turns -/

namespace Journal

variable {j : Journal} {c d : Nat}

/-- A command that waits was sent on the present link. -/
theorem Sound.mem_sent_of_waits (h : j.Sound) (hwaits : j.Waits c) : c ∈ j.sent := by
  have hnumber := h.mem_numbers_of_waits hwaits
  obtain ⟨before, waiting, hsent, hwaiting⟩ := h.queue
  rw [hwaiting] at hnumber
  obtain ⟨e, he, heq⟩ := List.mem_map.1 hnumber
  cases heq
  rw [hsent]
  exact List.mem_append_right _ he

/-- No command that was submitted before the oldest one waits. -/
theorem Sound.not_waits_of_lt (h : j.Sound) (holdest : j.Oldest c) (hd : d < c) : ¬ j.Waits d := by
  intro hwaits
  obtain ⟨-, before, after, hsent, hbefore⟩ := holdest
  have hmem := h.mem_sent_of_waits hwaits
  have hsorted := h.sent_increasing
  rw [hsent] at hmem hsorted
  rw [List.pairwise_append, List.pairwise_cons] at hsorted
  rcases List.mem_append.1 hmem with hearly | hlate
  · exact hbefore d hearly hwaits
  · rcases List.mem_cons.1 hlate with rfl | hlater
    · exact Nat.lt_irrefl _ hd
    · exact Nat.lt_asymm hd (hsorted.2.1.1 d hlater)

/-- The command whose slot a reply fills is the oldest that waits. -/
theorem Sound.oldest_of_filled {t : Ticket} {r : Reply} (h : j.Sound)
    (hplace : j.number? t = some c) (hempty : j.session.slot? t = some .empty)
    (hfilled : (j.record (.answer r)).session.slot? t = some ⟨some r⟩) : j.Oldest c := by
  have hchanged : (j.record (.answer r)).session.slot? t ≠ j.session.slot? t := by
    rw [hfilled, hempty]
    intro hsame
    cases hsame
  cases h.delivers r with
  | oldest front u hwaiting hfront _ _ hothers =>
      have hsame : t = u := Classical.byContradiction fun hne => hchanged (hothers t hne)
      rw [← hsame, hplace, Option.some.injEq] at hfront
      rwa [hfront]
  | stray _ hslots => exact absurd (hslots t) hchanged

section

variable {ceiling : Nat} {acts : List Act} {s : Session} {m n : Nat} {r : Reply}

/-- A journal can be continued. -/
@[simp] theorem replay_append (acts more : List Act) :
    replay ceiling (acts ++ more) = more.foldl record (replay ceiling acts) :=
  List.foldl_append

/-- Further acts do not lower the count. -/
theorem count_le_foldl (j : Journal) (more : List Act) : j.count ≤ (more.foldl record j).count := by
  induction more generalizing j with
  | nil => exact Nat.le_refl _
  | cons a more ih => exact Nat.le_trans (count_le_record j a) (ih (j.record a))

/-- What a command is given by an act does not depend on the acts behind that one. -/
theorem resolves_append (hm : m < acts.length) (more : List Act) :
    Resolves ceiling (acts ++ more) m c r ↔ Resolves ceiling acts m c r := by
  have hsame : ∀ n ≤ acts.length, after ceiling (acts ++ more) n = after ceiling acts n := by
    intro n hn
    rw [after, after, List.take_append_of_le_length hn]
  rw [Resolves, Resolves, hsame m (Nat.le_of_lt hm), hsame (m + 1) hm]

variable (hplays : (Session.ofCeiling ceiling).Plays acts s)

include hplays

/-- A reply is given to a command by the act that hands it on, when its turn has come, or it is an
error that was not sent by the server. -/
theorem cases_of_resolves (hm : Resolves ceiling acts m c r) :
    acts[m]? = some (.answer r) ∧ (after ceiling acts m).Oldest c ∨
      ∃ message, r = .error message := by
  obtain ⟨hbefore, u, hu, hslot⟩ := hm
  have hsound := sound_after hplays m
  cases hact : acts[m]? with
  | none =>
      rw [after_succ_of_none hact] at hu hslot
      exact absurd ⟨u, hu, hslot⟩ (hbefore r)
  | some a =>
      have hsession := (sound_foldl (sound_start ceiling) (hplays.take m)).2
      have hallows : (after ceiling acts m).session.Allows a := by
        rw [after, replay, hsession]
        exact hplays.allows hact
      rw [after_succ hact] at hu hslot
      by_cases hc : c < (after ceiling acts m).count
      · obtain ⟨hplace, ⟨_ | old⟩, -, hold, -⟩ := hsound.slot_record hu hc
        · rcases hsound.balanced.cases_of_filled hallows hold hslot with rfl | herror
          · exact .inl ⟨rfl, hsound.oldest_of_filled hplace hold hslot⟩
          · exact .inr herror
        · exact absurd ⟨u, hplace, hold⟩ (hbefore old)
      · -- The command is new, and it was answered on the spot.
        rcases mem_commands_record (List.mem_of_getElem? hu) with hknown | ⟨rfl, hadded⟩
        · exact absurd (hsound.numbered _ c hknown) hc
        · have hnew := hsound.number?_added hadded
          rw [(hsound.record hallows).place_unique hu hnew] at hslot
          exact .inr (Session.slot?_act_added hadded hslot)

/-- When the oldest command is given its reply, all that were submitted before it have theirs. -/
theorem resolves_in_turn (holdest : (after ceiling acts m).Oldest c) (hd : d < c)
    (hn : Resolves ceiling acts n d r) : n < m := by
  have hsound := sound_after hplays m
  obtain ⟨t, ht, -⟩ := holdest.1
  have hcount : d < (after ceiling acts m).count := Nat.lt_trans hd (hsound.lt_count ht)
  apply Nat.lt_of_not_le
  intro hmn
  exact not_resolves_of_settled hplays hmn ⟨hcount, hsound.not_waits_of_lt holdest hd⟩ hn

/-- An act gives a command the reply with which its slot is filled. -/
theorem resolves_of_slot? {t : Ticket} (hplace : (after ceiling acts m).number? t = some c)
    (hempty : (after ceiling acts m).session.slot? t = some .empty)
    (hstays : (after ceiling acts (m + 1)).number? t = some c)
    (hfilled : (after ceiling acts (m + 1)).session.slot? t = some ⟨some r⟩) :
    Resolves ceiling acts m c r :=
  ⟨(sound_after hplays m).not_holds_of_waits ⟨t, hplace, hempty⟩, t, hstays, hfilled⟩

/-- Only commands that have been submitted are replaced by their owner. -/
theorem lt_count_of_written (n : Nat) :
    ∀ d ∈ (after ceiling acts n).written, d < (after ceiling acts n).count := by
  induction n with
  | zero => exact fun d hd => absurd hd List.not_mem_nil
  | succ n ih =>
      cases hn : acts[n]? with
      | none => rwa [after_succ_of_none hn]
      | some a =>
          rw [after_succ hn]
          intro d hd
          apply Nat.lt_of_lt_of_le _ (count_le_record _ a)
          rcases List.mem_append.1 hd with hold | hnew
          · exact ih d hold
          · cases a with
            | overwrite name changes =>
                obtain ⟨change, -, hplace⟩ := List.mem_filterMap.1 hnew
                exact (sound_after hplays n).numbered name d (List.mem_of_getElem? hplace)
            | _ => exact absurd hnew List.not_mem_nil

/-- A batch of one command lists the reply that the command was given, when nothing is owed. -/
theorem exists_resolves_single (howed : s.owed = []) {name : BatchName}
    (hcommands : (replay ceiling acts).commands name = [c])
    (hwritten : c ∉ (replay ceiling acts).written) :
    ∃ b m r, s.batch? name = some b ∧ b.replies = [r] ∧ m < acts.length ∧
      Resolves ceiling acts m c r := by
  have hend : after ceiling acts acts.length = replay ceiling acts := by
    rw [after, List.take_length]
  have hsession : (after ceiling acts acts.length).session = s := by
    rw [hend]
    exact (sound_foldl (sound_start ceiling) hplays).2
  have hsound := sound_after hplays acts.length
  rw [← hend] at hcommands hwritten
  obtain ⟨b, hb⟩ : ∃ b, s.batch? name = some b := by
    rw [← Option.isSome_iff_exists, Option.isSome_iff_ne_none]
    intro hnone
    have hsize := hsound.sizes name
    have hzero : s.size name = 0 :=
      congrArg (fun batch : Option Batch => (batch.map Batch.size).getD 0) hnone
    rw [hcommands, hsession, hzero] at hsize
    cases hsize
  have hthere : (after ceiling acts acts.length).session.batch? name = some b := by
    rw [hsession, hb]
  have hlength := length_replies hplays hthere
  rw [hcommands] at hlength
  obtain ⟨first, hfirst⟩ := List.length_eq_one_iff.1 hlength
  have hplace : ((after ceiling acts acts.length).commands name)[0]? = some c := by
    rw [hcommands]
    rfl
  rcases reply_of_command hplays hthere hplace hwritten with
    ⟨hwaits, -⟩ | ⟨m, hm, r, hresolves, hlisted⟩
  · exact absurd hwaits (hsound.not_waits (by rw [hsession, howed]) c)
  · rw [hfirst] at hlisted
    cases hlisted
    exact ⟨b, m, first, hb, hfirst, hm, hresolves⟩

end

end Journal

/-! ## One-shot calls -/

/-- The act comes from the link: bytes arrive, a reply is handed on, or the link goes down. -/
def Act.OfLink : Act → Prop
  | .arrive _ | .answer _ | .goDown _ _ => True
  | _ => False

namespace Session

variable {s : Session} {r : Reply}

/-- The end of a link is an act of the link. -/
theorem ofLink_downActs (s : Session) (message : String) (error : Option String) :
    ∀ a ∈ s.downActs message error, a.OfLink := by
  intro a ha
  rw [downActs] at ha
  split at ha
  · rw [List.mem_singleton.1 ha]
    trivial
  · exact absurd ha List.not_mem_nil

/-- An arrival of bytes does nothing but what a link does. -/
theorem ofLink_receiveActs (s : Session) (bytes : Bytes) : ∀ a ∈ s.receiveActs bytes, a.OfLink := by
  intro a ha
  obtain ⟨registry, error | ⟨stream, owed⟩⟩ := s
  · exact absurd ha List.not_mem_nil
  · rw [receiveActs_up] at ha
    split at ha
    · exact ofLink_downActs _ _ _ a ha
    · rcases List.mem_cons.1 ha with rfl | hanswer
      · trivial
      · obtain ⟨reply, -, rfl⟩ := List.mem_map.1 hanswer
        trivial

/-- After its command has been submitted, a one-shot call waits for what comes from the link. -/
theorem exists_exchangeActs (s : Session) (server : Server) (c : Command) :
    ∃ later, s.exchangeActs server c = .submit .oneShot :: later ∧ ∀ a ∈ later, a.OfLink := by
  refine ⟨_, rfl, ?_⟩
  intro a ha
  rcases List.mem_append.1 ha with hreceived | hdown
  · exact ofLink_receiveActs _ _ a hreceived
  · split at hdown
    · split at hdown
      · exact absurd hdown List.not_mem_nil
      · exact ofLink_downActs _ _ _ a hdown
    · exact absurd hdown List.not_mem_nil

/-- What a one-shot call makes of the reply to its command. -/
def verdict (r : Reply) : Except ClientError Reply :=
  match BatchFailure.ofReplies? [r] with
  | some failure => .error (.batch failure)
  | none => .ok r

/-- A call with one reply gives its verdict on that reply. -/
theorem singleReply_eq_verdict {b : Batch} (h : b.replies = [r]) :
    singleReply b = verdict r := by
  rw [singleReply, Batch.failure?, h]
  rfl

end Session

namespace Journal

open Session

variable {j : Journal}

/-- What comes from the link adds no command and takes none away. -/
theorem foldl_record_ofLink {later : List Act} (h : ∀ a ∈ later, a.OfLink) :
    (later.foldl record j).count = j.count ∧ (later.foldl record j).commands = j.commands ∧
      (later.foldl record j).written = j.written := by
  induction later generalizing j with
  | nil => exact ⟨rfl, rfl, rfl⟩
  | cons a later ih =>
      obtain ⟨ha, hlater⟩ := List.forall_mem_cons.1 h
      obtain ⟨hcount, hcommands, hwritten⟩ := ih (j := j.record a) hlater
      rw [List.foldl_cons, hcount, hcommands, hwritten]
      cases a with
      | arrive bytes => exact ⟨rfl, rfl, List.append_nil _⟩
      | answer reply => exact ⟨rfl, rfl, List.append_nil _⟩
      | goDown message error => exact ⟨rfl, rfl, List.append_nil _⟩
      | _ => exact absurd ha id

/-- A one-shot call notes one command, in a batch of its own. -/
theorem foldl_record_exchange (server : Server) (c : Command) :
    let later := (Act.openBatch .oneShot :: (j.session.openBatch .oneShot).exchangeActs server c)
    (later.foldl record j).count = j.count + 1 ∧
      (later.foldl record j).commands .oneShot = [j.count] ∧
      (later.foldl record j).written = j.written := by
  intro later
  obtain ⟨fromLink, hacts, hlink⟩ := (j.session.openBatch .oneShot).exists_exchangeActs server c
  have hthere : ((j.session.openBatch .oneShot).batch? .oneShot).isSome := by
    rw [isSome_batch?_iff]
    exact List.mem_cons_self
  let opened := j.record (.openBatch .oneShot)
  have hadded : opened.session.added? (.submit .oneShot) = some .oneShot := by
    rw [added?]
    exact if_pos hthere
  have hempty : opened.commands .oneShot = [] := by simp [opened, Act.cleared?]
  have hlater :
      later.foldl record j = fromLink.foldl record (opened.record (.submit .oneShot)) := by
    show ((j.session.openBatch .oneShot).exchangeActs server c).foldl record opened = _
    rw [hacts, List.foldl_cons]
  obtain ⟨hcount, hcommands, hwritten⟩ :=
    foldl_record_ofLink (j := opened.record (.submit .oneShot)) hlink
  rw [hlater, hcount, hcommands, hwritten]
  refine ⟨?_, ?_, ?_⟩
  · rw [count_record, hadded]
    rfl
  · have hkept : (Act.submit .oneShot).cleared? ≠ some .oneShot := by rintro ⟨⟩
    rw [commands_record, if_neg hkept, if_pos hadded, hempty]
    rfl
  · show (j.written ++ []) ++ [] = j.written
    rw [List.append_nil, List.append_nil]

variable {ceiling : Nat} {acts : List Act} {s : Session}

/-- When a one-shot call is over, its command has been given a reply, and the call gives what it
makes of this reply. -/
theorem exists_resolves_ask (hplays : (Session.ofCeiling ceiling).Plays acts s) (hready : s.Ready)
    (hup : s.isUp = true) (hbusy : s.isBusy = false) (server : Server) (c : Command) :
    (replay ceiling (acts ++ s.askActs server c)).count = (replay ceiling acts).count + 1 ∧
      ∃ m r, m < (acts ++ s.askActs server c).length ∧
        Resolves ceiling (acts ++ s.askActs server c) m (replay ceiling acts).count r ∧
        (s.ask server c).2.2 = verdict r := by
  obtain ⟨hexchange, howed⟩ := hready.exchange hbusy server c
  let exchanged := Act.openBatch .oneShot :: (s.openBatch .oneShot).exchangeActs server c
  have hacts : acts ++ s.askActs server c = (acts ++ exchanged) ++ [.closeBatch .oneShot] := by
    rw [askActs, if_pos hup, List.append_assoc]
  have hcall := hplays.append hexchange
  have hsession : (replay ceiling acts).session = s :=
    (sound_foldl (sound_start ceiling) hplays).2
  have hjournal : replay ceiling (acts ++ exchanged) =
      exchanged.foldl record (replay ceiling acts) := replay_append acts exchanged
  obtain ⟨hcount, hcommands, hwritten⟩ :=
    (replay ceiling acts).foldl_record_exchange server c
  rw [hsession, ← hjournal] at hcount hcommands hwritten
  have hnew : (replay ceiling acts).count ∉ (replay ceiling acts).written := by
    intro hmem
    have hlt := lt_count_of_written hplays acts.length
    rw [after, List.take_length] at hlt
    exact Nat.lt_irrefl _ (hlt _ hmem)
  obtain ⟨b, m, r, hb, hreplies, hm, hresolves⟩ :=
    exists_resolves_single hcall howed hcommands (by rwa [hwritten])
  rw [hacts]
  refine ⟨?_, m, r, ?_, (resolves_append hm _).2 hresolves, ?_⟩
  · rw [replay_append]
    exact hcount
  · rw [List.length_append]
    exact Nat.lt_succ_of_lt hm
  · have hresult : (s.ask server c).2.2 =
        singleReply ((((s.openBatch .oneShot).exchange server c).1.batch? .oneShot).getD
          .empty) := by
      rw [ask, if_pos hup]
    rw [hresult, hb]
    exact singleReply_eq_verdict hreplies

end Journal

end CommandPipeline
