import CommandPipeline.Proofs.Session.Journal

/-!
# Which reply belongs to which command

The server answers in the order in which it is asked, so a client that hands each reply to the
oldest command owed one gives every command its own. `Journal.Correlated` says so for all acts of a
run: each reply that is handed on goes to the oldest waiting command of the link and to no other, on
a link without strays the replies and the commands match one to one in order, and each batch lists
one reply for each of its commands.

A stray is a reply that arrives while no command is owed one. It is dropped, and the replies behind
it still go to the oldest command, but they are not what the server meant. So the order of replies
says something about the order of commands only as long as there are no strays.
-/

namespace CommandPipeline

namespace Journal

/-! ## The oldest waiting command gets the reply -/

/-- A command waits, and no earlier command of the link does. -/
def Oldest (j : Journal) (c : Nat) : Prop :=
  j.Waits c ∧ ∃ before after, j.sent = before ++ c :: after ∧ ∀ d ∈ before, ¬ j.Waits d

/-- Where a reply goes from one state of the journal to the next. -/
inductive Delivers (j next : Journal) (r : Reply) : Prop where
  /-- The oldest waiting command gets it, and no other slot of any batch is changed. -/
  | oldest (c : Nat) (t : Ticket) (waiting : j.Oldest c) (place : j.number? t = some c)
      (stays : next.number? t = some c) (filled : next.session.slot? t = some ⟨some r⟩)
      (others : ∀ u, u ≠ t → next.session.slot? u = j.session.slot? u)
  /-- No command waits, and no slot of any batch is changed. -/
  | stray (none : ∀ c, ¬ j.Waits c) (slots : ∀ u, next.session.slot? u = j.session.slot? u)

variable (ceiling : Nat) (acts : List Act)

/-- The journal after the first acts. -/
def after (n : Nat) : Journal := replay ceiling (acts.take n)

/-- An act gives a command its reply: after it, and not before, the slot of the command is
filled. -/
def Resolves (m c : Nat) (r : Reply) : Prop :=
  (∀ r', ¬ (after ceiling acts m).Holds c r') ∧ (after ceiling acts (m + 1)).Holds c r

/-- Replies and commands belong together in all acts. -/
structure Correlated : Prop where
  /-- Every reply that is handed on goes where it must. -/
  delivers : ∀ (n : Nat) (r : Reply), acts[n]? = some (.answer r) →
    (after ceiling acts n).Delivers (after ceiling acts (n + 1)) r
  /-- No command is given a reply twice. -/
  once : ∀ (m m' c : Nat) (r r' : Reply), Resolves ceiling acts m c r →
    Resolves ceiling acts m' c r' → m = m' ∧ r = r'
  /-- On a link without strays a reply is given to the command that has its place in the order. -/
  inOrder : ∀ (n k : Nat) (r : Reply), (after ceiling acts n).strays = 0 →
    (after ceiling acts n).answers[k]? = some r →
    ∃ c m : Nat, (after ceiling acts n).sent[k]? = some c ∧ m < n ∧ acts[m]? = some (.answer r) ∧
      Resolves ceiling acts m c r
  /-- A batch lists one reply for each command since it was opened or emptied. -/
  lengths : ∀ (n : Nat) (name : BatchName) (b : Batch),
    (after ceiling acts n).session.batch? name = some b →
    b.replies.length = ((after ceiling acts n).commands name).length
  /-- Its commands come in the order of submission. -/
  submitted : ∀ (n : Nat) (name : BatchName),
    ((after ceiling acts n).commands name).Pairwise (· < ·)
  /-- Each reply listed is the one that the command at its place was given, and nil while it waits,
  unless the owner of the batch has replaced it. -/
  entries : ∀ (n : Nat) (name : BatchName) (b : Batch) (i c : Nat),
    (after ceiling acts n).session.batch? name = some b →
    ((after ceiling acts n).commands name)[i]? = some c → c ∉ (after ceiling acts n).written →
    (after ceiling acts n).Waits c ∧ b.replies[i]? = some .nil ∨
      ∃ m < n, ∃ r, Resolves ceiling acts m c r ∧ b.replies[i]? = some r

/-! ## One reply -/

namespace Sound

variable {j : Journal}

/-- A command that waits is in the queue. -/
theorem mem_numbers_of_waits (h : j.Sound) {c : Nat} (hwaits : j.Waits c) :
    some c ∈ j.session.owed.map j.number? := by
  obtain ⟨t, ht, hempty⟩ := hwaits
  rw [← ht]
  exact List.mem_map_of_mem ((Registry.Balances.mem_owed_iff h.balanced).2 hempty)

/-- The command at the front of the queue is the oldest that waits. -/
theorem front (h : j.Sound) {t : Ticket} {owed : List Ticket} (howed : j.session.owed = t :: owed) :
    ∃ before c after, j.sent = before ++ c :: after ∧ j.number? t = some c ∧
      owed.length = after.length ∧ j.session.slot? t = some .empty ∧ j.Oldest c := by
  obtain ⟨before, waiting, hsent, hwaiting⟩ := h.queue
  have hslot : j.session.slot? t = some .empty := by
    apply (Registry.Balances.mem_owed_iff h.balanced).1
    rw [howed]
    exact List.mem_cons_self
  rw [howed, List.map_cons] at hwaiting
  cases waiting with
  | nil => cases hwaiting
  | cons c after =>
      rw [List.map_cons, List.cons.injEq] at hwaiting
      obtain ⟨hc, hafter⟩ := hwaiting
      have hlength : owed.length = after.length := by
        have hboth := congrArg List.length hafter
        rwa [List.length_map, List.length_map] at hboth
      refine ⟨before, c, after, hsent, hc, hlength, hslot, ⟨t, hc, hslot⟩, before, after, hsent, ?_⟩
      -- A command of the link that waits is in the queue, so it is not one of the earlier ones.
      intro d hd hwaits
      have hlate : d ∈ c :: after := by
        have hnumber := h.mem_numbers_of_waits hwaits
        rw [howed, List.map_cons, hc, hafter, ← List.map_cons] at hnumber
        obtain ⟨e, he, heq⟩ := List.mem_map.1 hnumber
        exact Option.some.inj heq ▸ he
      have hsorted := h.sent_increasing
      rw [hsent, List.pairwise_append] at hsorted
      exact Nat.lt_irrefl d (hsorted.2.2 d hd d hlate)

/-- Nobody waits when nothing is owed. -/
theorem not_waits (h : j.Sound) (howed : j.session.owed = []) (c : Nat) : ¬ j.Waits c := by
  intro hwaits
  have hnumber := h.mem_numbers_of_waits hwaits
  rw [howed] at hnumber
  exact absurd hnumber List.not_mem_nil

/-- Without strays the command at the front of the queue stands behind as many others as have been
answered. -/
theorem front_place (h : j.Sound) (hup : j.session.isUp = true) (hstrays : j.strays = 0)
    {t : Ticket} {owed : List Ticket} (howed : j.session.owed = t :: owed) :
    ∃ c, j.sent[j.answers.length]? = some c ∧ j.number? t = some c ∧
      j.session.slot? t = some .empty := by
  obtain ⟨before, c, later, hsent, hc, hlength, hslot, -⟩ := h.front howed
  have htally := h.tally hup
  rw [howed, hsent, List.length_cons, List.length_append, List.length_cons] at htally
  have hposition : j.answers.length = before.length := by omega
  refine ⟨c, ?_, hc, hslot⟩
  rw [hsent, hposition, List.getElem?_append_right (Nat.le_refl _), Nat.sub_self]
  rfl

end Sound

end Journal

namespace Session

variable {s : Session}

/-- A reply on a link that owes one is delivered to the front of the queue. -/
theorem registry_answer {t : Ticket} {owed : List Ticket} (howed : s.owed = t :: owed)
    (r : Reply) : (s.answer r).registry = s.registry.deliver t r := by
  obtain ⟨registry, link⟩ := s
  cases link with
  | down error => cases howed
  | up stream owed' =>
      cases howed
      rfl

/-- Only a reply on a link is handed on. -/
theorem handed?_eq_some {a : Act} {r : Reply} (h : s.handed? a = some r) :
    a = .answer r ∧ s.isUp = true := by
  cases a with
  | answer reply =>
      rw [handed?] at h
      split at h
      · next hup =>
          cases h
          exact ⟨rfl, hup⟩
      · cases h
  | _ => cases h

/-- A reply that nobody waits for changes nothing. -/
theorem answer_eq_self (howed : s.owed = []) (r : Reply) : s.answer r = s := by
  obtain ⟨registry, link⟩ := s
  cases link with
  | down error => rfl
  | up stream owed =>
      cases howed
      rfl

end Session

namespace Journal

/-- The front of the queue gets the reply. -/
theorem filled_record {j : Journal} {t : Ticket} {owed : List Ticket}
    (howed : j.session.owed = t :: owed) (hslot : j.session.slot? t = some .empty) (r : Reply) :
    (j.record (.answer r)).session.slot? t = some ⟨some r⟩ := by
  have hregistry : (j.record (.answer r)).session.registry = j.session.registry.deliver t r :=
    Session.registry_answer howed r
  simp [Session.slot?, hregistry, Registry.slot?_deliver_self r hslot]

/-- The next reply goes to the oldest waiting command, or it is a stray if nothing is owed. -/
theorem Sound.delivers {j : Journal} (h : j.Sound) (r : Reply) :
    j.Delivers (j.record (.answer r)) r := by
  cases howed : j.session.owed with
  | nil =>
      have hsame : (j.record (.answer r)).session = j.session := Session.answer_eq_self howed r
      exact .stray (h.not_waits howed) fun u => by rw [hsame]
  | cons t owed =>
      obtain ⟨-, c, -, -, hc, -, hslot, holdest⟩ := h.front howed
      have hregistry : (j.record (.answer r)).session.registry = j.session.registry.deliver t r :=
        Session.registry_answer howed r
      refine .oldest c t holdest hc hc (filled_record howed hslot r) fun u hu => ?_
      rw [Session.slot?, hregistry, Registry.slot?_deliver_of_ne r hu]
      rfl

/-- A stray is dropped. The command that is submitted next gets the reply behind it. -/
example :
    let j := replay 1 [.connect .established, .openBatch .oneShot, .answer (.integer 1),
      .submit .oneShot, .answer (.integer 2)]
    j.strays = 1 ∧ j.sent = [0] ∧ j.answers = [.integer 1, .integer 2] ∧
      (j.session.batch? .oneShot).map Batch.replies = some [.integer 2] := by
  decide +kernel

/-- After an act that leaves no stray, a reply has the place that it had before, or it is the one
that the act has handed on, and its place is that of the command that it was given to. -/
theorem Sound.reply_in_order {j : Journal} {a : Act} {k : Nat} {r : Reply} (h : j.Sound)
    (hstrays : (j.record a).strays = 0) (hk : (j.record a).answers[k]? = some r) :
    (j.strays = 0 ∧ j.answers[k]? = some r ∧
      ∀ c, j.sent[k]? = some c → (j.record a).sent[k]? = some c) ∨
    a = .answer r ∧ ∃ c, (j.record a).sent[k]? = some c ∧ j.Waits c ∧ (j.record a).Holds c r := by
  rw [answers_record] at hk
  rw [strays_record] at hstrays
  rw [sent_record]
  cases hstarts : j.session.starts a with
  | true =>
      rw [hstarts] at hk
      cases hk
  | false =>
      rw [hstarts, if_neg Bool.false_ne_true] at hstrays hk
      rw [if_neg Bool.false_ne_true]
      have hbefore : j.strays = 0 := by
        split at hstrays <;> omega
      rw [List.getElem?_append] at hk
      split at hk
      · refine .inl ⟨hbefore, hk, fun c hc => ?_⟩
        obtain ⟨hlt, -⟩ := List.getElem?_eq_some_iff.1 hc
        split
        · rw [List.getElem?_append_left hlt, hc]
        · exact hc
      · next hlong =>
          cases hhanded : j.session.handed? a with
          | none =>
              rw [hhanded] at hk
              cases hk
          | some reply =>
              obtain ⟨rfl, hup⟩ := Session.handed?_eq_some hhanded
              rw [hhanded] at hk hstrays
              have hplace : k = j.answers.length ∧ reply = r := by
                obtain ⟨hlt, heq⟩ := List.getElem?_eq_some_iff.1 hk
                have hzero : k - j.answers.length = 0 := Nat.lt_one_iff.1 hlt
                exact ⟨by omega, by simpa [hzero] using heq⟩
              obtain ⟨rfl, rfl⟩ := hplace
              cases howed : j.session.owed with
              | nil =>
                  rw [howed] at hstrays
                  cases hstrays
              | cons t owed =>
                  obtain ⟨c, hsent, hc, hslot⟩ := h.front_place hup hbefore howed
                  refine .inr ⟨rfl, c, ?_, ⟨t, hc, hslot⟩, t, hc, filled_record howed hslot reply⟩
                  have hadded : j.session.added? (.answer reply) = none := rfl
                  rw [hadded, Option.isSome_none, Bool.and_false, if_neg Bool.false_ne_true, hsent]

/-! ## All acts of a run -/

/-- The journal stays sound as long as acts are allowed, and it follows the session. -/
theorem sound_foldl {j : Journal} {acts : List Act} {t : Session} (h : j.Sound)
    (hplays : j.session.Plays acts t) :
    (acts.foldl record j).Sound ∧ (acts.foldl record j).session = t := by
  induction acts generalizing j with
  | nil =>
      cases hplays
      exact ⟨h, rfl⟩
  | cons a acts ih =>
      cases hplays with
      | cons ha hrest => exact ih (h.record ha) hrest

section

variable {ceiling : Nat} {acts : List Act} {t : Session} {n m c : Nat} {r : Reply}

/-- One more act is one more record. -/
theorem after_succ {a : Act} (hn : acts[n]? = some a) :
    after ceiling acts (n + 1) = (after ceiling acts n).record a := by
  rw [after, after, replay, replay, List.take_add_one, hn, List.foldl_append]
  rfl

theorem after_succ_of_none (hn : acts[n]? = none) :
    after ceiling acts (n + 1) = after ceiling acts n := by
  rw [after, after, List.take_add_one, hn, Option.toList_none, List.append_nil]

variable (hplays : (Session.ofCeiling ceiling).Plays acts t)

include hplays

/-- The journal is sound at any time. -/
theorem sound_after (n : Nat) : (after ceiling acts n).Sound :=
  (sound_foldl (sound_start ceiling) (hplays.take n)).1

/-- A command that has been submitted and does not wait never waits again. -/
theorem settled_after (hmn : m ≤ n)
    (h : c < (after ceiling acts m).count ∧ ¬ (after ceiling acts m).Waits c) :
    c < (after ceiling acts n).count ∧ ¬ (after ceiling acts n).Waits c := by
  induction hmn with
  | refl => exact h
  | @step n _ ih =>
      cases hn : acts[n]? with
      | none => rwa [after_succ_of_none hn]
      | some a =>
          rw [after_succ hn]
          exact ⟨Nat.lt_of_lt_of_le ih.1 (count_le_record _ a),
            (sound_after hplays n).not_waits_record ih.1 ih.2⟩

/-- A command that has a reply has been submitted and does not wait. -/
theorem settled_of_holds (h : (after ceiling acts n).Holds c r) :
    c < (after ceiling acts n).count ∧ ¬ (after ceiling acts n).Waits c := by
  have hsound := sound_after hplays n
  constructor
  · obtain ⟨t, ht, -⟩ := h
    exact hsound.lt_count ht
  · exact fun hwaits => hsound.not_holds_of_waits hwaits r h

/-- A command that has been submitted and does not wait is given no reply any more. -/
theorem not_resolves_of_settled (hmn : m ≤ n)
    (h : c < (after ceiling acts m).count ∧ ¬ (after ceiling acts m).Waits c) :
    ¬ Resolves ceiling acts n c r := by
  intro hn
  obtain ⟨hcount, hnot⟩ := settled_after hplays hmn h
  cases ha : acts[n]? with
  | none => exact hn.1 r (after_succ_of_none ha ▸ hn.2)
  | some a =>
      have hgiven := hn.2
      rw [after_succ ha] at hgiven
      exact (sound_after hplays n).not_holds_record hcount hnot hn.1 r hgiven

/-- After a command has been given a reply, no act gives it another. -/
theorem not_resolves_of_lt {r' : Reply} (hmn : m < n) (hm : Resolves ceiling acts m c r) :
    ¬ Resolves ceiling acts n c r' :=
  not_resolves_of_settled hplays hmn (settled_of_holds hplays hm.2)

/-- A command is given a reply only once, and only one. -/
theorem resolves_once {r' : Reply} (hm : Resolves ceiling acts m c r)
    (hn : Resolves ceiling acts n c r') : m = n ∧ r = r' := by
  rcases Nat.lt_trichotomy m n with hlt | rfl | hgt
  · exact absurd hn (not_resolves_of_lt hplays hlt hm)
  · exact ⟨rfl, (sound_after hplays _).holds_unique hm.2 hn.2⟩
  · exact absurd hm (not_resolves_of_lt hplays hgt hn)

/-- A reply in a slot that its owner has not replaced was given to the command by an act. -/
theorem exists_resolves {u : Ticket} (hu : (after ceiling acts n).number? u = some c)
    (hslot : (after ceiling acts n).session.slot? u = some ⟨some r⟩)
    (hwritten : c ∉ (after ceiling acts n).written) : ∃ m < n, Resolves ceiling acts m c r := by
  induction n generalizing u with
  | zero => cases hu
  | succ n ih =>
      have hsound := sound_after hplays n
      cases hn : acts[n]? with
      | none =>
          rw [after_succ_of_none hn] at hu hslot hwritten
          obtain ⟨m, hm, hresolves⟩ := ih hu hslot hwritten
          exact ⟨m, Nat.lt_succ_of_lt hm, hresolves⟩
      | some a =>
          have hgiven : (after ceiling acts (n + 1)).Holds c r := ⟨u, hu, hslot⟩
          rw [after_succ hn] at hu hslot hwritten
          by_cases hc : c < (after ceiling acts n).count
          · obtain ⟨hplace, old, new, hold, hnew, -, hsame⟩ := hsound.slot_record hu hc
            by_cases hempty : old = .empty
            · -- The slot was empty before the last act, so that is the one that gave the reply.
              subst hempty
              exact ⟨n, Nat.lt_succ_self n, hsound.not_holds_of_waits ⟨u, hplace, hold⟩, hgiven⟩
            · rw [hnew, hsame hempty hwritten] at hslot
              rw [hslot] at hold
              have hbefore : c ∉ (after ceiling acts n).written :=
                fun hmem => hwritten (List.mem_append_left _ hmem)
              obtain ⟨m, hm, hresolves⟩ := ih hplace hold hbefore
              exact ⟨m, Nat.lt_succ_of_lt hm, hresolves⟩
          · -- The command is new, and it was answered on the spot.
            refine ⟨n, Nat.lt_succ_self n, ?_, hgiven⟩
            rintro r' ⟨v, hv, -⟩
            exact hc (hsound.lt_count hv)

/-- On a link without strays the places of the replies are those of the commands. -/
theorem in_order {k : Nat} (hstrays : (after ceiling acts n).strays = 0)
    (hk : (after ceiling acts n).answers[k]? = some r) :
    ∃ c m, (after ceiling acts n).sent[k]? = some c ∧ m < n ∧ acts[m]? = some (.answer r) ∧
      Resolves ceiling acts m c r := by
  induction n with
  | zero => cases hk
  | succ n ih =>
      have hsound := sound_after hplays n
      cases hn : acts[n]? with
      | none =>
          rw [after_succ_of_none hn] at hstrays hk ⊢
          obtain ⟨c, m, hsent, hm, hact, hresolves⟩ := ih hstrays hk
          exact ⟨c, m, hsent, Nat.lt_succ_of_lt hm, hact, hresolves⟩
      | some a =>
          rw [after_succ hn] at hstrays hk ⊢
          rcases hsound.reply_in_order hstrays hk with
            ⟨hbefore, hold, hkept⟩ | ⟨rfl, c, hsent, hwaits, hholds⟩
          · obtain ⟨c, m, hsent, hm, hact, hresolves⟩ := ih hbefore hold
            exact ⟨c, m, hkept c hsent, Nat.lt_succ_of_lt hm, hact, hresolves⟩
          · have hgiven : (after ceiling acts (n + 1)).Holds c r := by rwa [after_succ hn]
            exact ⟨c, n, hsent, Nat.lt_succ_self n, hn, hsound.not_holds_of_waits hwaits, hgiven⟩

/-- A batch has as many replies as it has commands. -/
theorem length_replies {name : BatchName} {b : Batch}
    (hb : (after ceiling acts n).session.batch? name = some b) :
    b.replies.length = ((after ceiling acts n).commands name).length := by
  rw [(sound_after hplays n).sizes, Session.size_eq_of_batch? hb, Batch.replies, List.length_map]
  rfl

/-- The reply that a batch lists at the place of a command. -/
theorem reply_of_command {name : BatchName} {b : Batch} {i : Nat}
    (hb : (after ceiling acts n).session.batch? name = some b)
    (hc : ((after ceiling acts n).commands name)[i]? = some c)
    (hwritten : c ∉ (after ceiling acts n).written) :
    (after ceiling acts n).Waits c ∧ b.replies[i]? = some .nil ∨
      ∃ m < n, ∃ r, Resolves ceiling acts m c r ∧ b.replies[i]? = some r := by
  have hplace : (after ceiling acts n).number? ⟨name, i⟩ = some c := hc
  have hslots := Session.slot?_eq_of_batch? hb i
  have hlist : b.replies[i]? = (b.slots[i]?).map Slot.read := by
    rw [Batch.replies, List.getElem?_map, Array.getElem?_toList]
  obtain ⟨hlt, -⟩ := List.getElem?_eq_some_iff.1 hc
  rw [← length_replies hplays hb] at hlt
  cases hslot : b.slots[i]? with
  | none =>
      rw [hslot] at hlist
      rw [List.getElem?_eq_getElem hlt] at hlist
      cases hlist
  | some slot =>
      rw [hslot] at hlist hslots
      obtain ⟨_ | r⟩ := slot
      · exact .inl ⟨⟨⟨name, i⟩, hplace, hslots⟩, hlist⟩
      · obtain ⟨m, hm, hresolves⟩ := exists_resolves hplays hplace hslots hwritten
        exact .inr ⟨m, hm, r, hresolves, hlist⟩

/-- The correspondence is read off the journals, which are sound at any time. -/
theorem correlated : Correlated ceiling acts where
  delivers n r hn := by
    rw [after_succ hn]
    exact (sound_after hplays n).delivers r
  once _ _ _ _ _ hm hn := resolves_once hplays hm hn
  inOrder _ _ _ hstrays hk := in_order hplays hstrays hk
  lengths _ _ _ hb := length_replies hplays hb
  submitted n name := (sound_after hplays n).increasing name
  entries _ _ _ _ _ hb hc hwritten := reply_of_command hplays hb hc hwritten

end

end Journal

/-! ## Runs -/

/-- The acts of every run are a way to carry it out in which every reply goes to the command that it
belongs to. -/
theorem Client.run_correlated (ceiling : Nat) (steps : List Step) :
    (Journal.replay ceiling ((ofCeiling ceiling).acts steps)).session =
        ((ofCeiling ceiling).run steps).session ∧
      Journal.Correlated ceiling ((ofCeiling ceiling).acts steps) := by
  obtain ⟨hplays, -⟩ := leads_run_ofCeiling ceiling steps
  exact ⟨(Journal.sound_foldl (Journal.sound_start ceiling) hplays).2,
    Journal.correlated hplays⟩

/-- Commands on two batches in turn, whose replies arrive in two pieces: each of the three commands
is given the reply that has its number, and each batch lists its own. -/
theorem Client.run_correlated_in_turn :
    let steps : List Step := [.connect .established, .openBatch "a", .openBatch "b",
      .submit "a" .ping none, .submit "b" .dbsize none, .submit "a" .ping none,
      .send (Utf8.encode "+A\r\n:1"), .send (Utf8.encode "\r\n+C\r\n")]
    let acts := (ofCeiling 3).acts steps
    let session := ((ofCeiling 3).run steps).session
    (∀ c r, [.status "A", .integer 1, .status "C"][c]? = some r →
      ∃ m : Nat, acts[m]? = some (.answer r) ∧ Journal.Resolves 3 acts m c r) ∧
    (session.batch? (.named "a")).map Batch.replies = some [.status "A", .status "C"] ∧
      (session.batch? (.named "b")).map Batch.replies = some [.integer 1] := by
  intro steps acts session
  obtain ⟨-, hcorrelated⟩ := run_correlated 3 steps
  have hstrays : (Journal.after 3 acts 12).strays = 0 := by decide +kernel
  have hsent : (Journal.after 3 acts 12).sent = List.range 3 := by decide +kernel
  have hanswers : (Journal.after 3 acts 12).answers = [.status "A", .integer 1, .status "C"] := by
    decide +kernel
  refine ⟨fun c r hreply => ?_, by decide +kernel, by decide +kernel⟩
  rw [← hanswers] at hreply
  obtain ⟨number, m, hnumber, -, hact, hresolves⟩ := hcorrelated.inOrder 12 c r hstrays hreply
  rw [hsent] at hnumber
  obtain ⟨hc, hsame⟩ := List.getElem?_eq_some_iff.1 hnumber
  rw [List.getElem_range] at hsame
  subst hsame
  exact ⟨m, hact, hresolves⟩

end CommandPipeline
