import CommandPipeline.Proofs.Session.Runs

/-!
# A journal of commands and replies

A session knows where the next reply goes, but not which command it answers in the order in which
all commands were submitted. A journal keeps that. It numbers commands in the order of submission,
over all batches and links, and notes for each batch which commands it consists of, for the present
link which commands were sent and which replies were handed on, and which commands had their reply
replaced by the owner of the batch.

The journal only watches the session. `Journal.Sound` states how its notes fit the session, and
every allowed act keeps them fitting.
-/

namespace CommandPipeline

namespace Session

/-- An act sets up a new link. -/
def starts (s : Session) (a : Act) : Bool := !s.isUp && (s.act a).isUp

/-- The reply that an act hands on. -/
def handed? (s : Session) : Act → Option Reply
  | .answer r => if s.isUp then some r else none
  | _ => none

variable {s : Session} {a : Act}

/-- An act that does not start a link finds it up if it leaves it up. -/
theorem isUp_of_starts_eq_false (hstarts : s.starts a = false) (hup : (s.act a).isUp = true) :
    s.isUp = true := by
  rwa [starts, hup, Bool.and_true, Bool.not_eq_false'] at hstarts

/-- Nothing but a submission adds to the queue. -/
theorem owed_act_suffix (hadded : (s.isUp && (s.added? a).isSome) = false) :
    (s.act a).owed <:+ s.owed := by
  obtain ⟨registry, link⟩ := s
  cases a with
  | connect attempt =>
      cases link with
      | up stream owed => exact List.suffix_refl _
      | down error => cases attempt <;> exact List.suffix_refl _
  | arrive bytes => cases link <;> exact List.suffix_refl _
  | answer reply =>
      cases link with
      | down error => exact List.suffix_refl _
      | up stream owed =>
          cases owed with
          | nil => exact List.suffix_refl _
          | cons front owed => exact List.suffix_cons front owed
  | goDown message error => simp [act]
  | submit name =>
      rw [act, submit]
      cases hb : batch? ⟨registry, link⟩ name with
      | none => rw [nextTicket?, hb]; exact List.suffix_refl _
      | some b =>
          rw [nextTicket?_eq_some hb]
          cases link with
          | down error => exact List.suffix_refl _
          | up stream owed =>
              rw [added?, hb] at hadded
              cases hadded
  | openBatch name => exact List.suffix_refl _
  | closeBatch name => exact List.suffix_refl _
  | reset name => exact List.suffix_refl _
  | overwrite name changes => exact List.suffix_refl _

/-- A new link owes nothing. -/
theorem owed_of_starts (hstarts : s.starts a = true) : (s.act a).owed = [] := by
  rw [starts, Bool.and_eq_true, Bool.not_eq_true'] at hstarts
  have hsuffix := owed_act_suffix (s := s) (a := a) (by rw [hstarts.1, Bool.false_and])
  rw [owed_of_down hstarts.1] at hsuffix
  exact List.suffix_nil.1 hsuffix

/-- A command that is submitted on a link comes last in the queue. -/
theorem owed_act_of_added {name : BatchName} (hup : s.isUp = true)
    (hadded : s.added? a = some name) : (s.act a).owed = s.owed ++ [⟨name, s.size name⟩] := by
  cases a with
  | submit other =>
      rw [added?] at hadded
      split at hadded
      · next hthere =>
          cases hadded
          obtain ⟨b, hb⟩ := Option.isSome_iff_exists.1 hthere
          rw [act, owed_submit hb, hup, if_pos rfl, size_eq_of_batch? hb]
      · cases hadded
  | _ => cases hadded

/-- What an act on a link does to the length of the queue. -/
theorem length_owed_act (hup : s.isUp = true) (hstill : (s.act a).isUp = true) :
    (s.act a).owed.length + (s.handed? a).toList.length =
      s.owed.length + (s.added? a).toList.length +
        if (s.handed? a).isSome && s.owed.isEmpty then 1 else 0 := by
  obtain ⟨registry, link⟩ := s
  cases link with
  | down error => cases hup
  | up stream owed =>
      cases a with
      | answer reply => cases owed <;> rfl
      | goDown message error => cases hstill
      | submit name =>
          cases hadded : added? ⟨registry, .up stream owed⟩ (.submit name) with
          | some other =>
              rw [owed_act_of_added hup hadded, List.length_append]
              rfl
          | none =>
              rw [added?] at hadded
              split at hadded
              · cases hadded
              · next hthere =>
                  have hb := Option.not_isSome_iff_eq_none.1 hthere
                  rw [act, submit, nextTicket?, hb]
                  rfl
      | connect attempt => rfl
      | arrive bytes => rfl
      | openBatch name => rfl
      | closeBatch name => rfl
      | reset name => rfl
      | overwrite name changes => rfl

end Session

/-- A session with its journal. -/
structure Journal where
  session : Session
  /-- How many commands have been submitted. They are numbered from zero. -/
  count : Nat
  /-- The commands of each batch since it was opened or emptied, in the order of submission. -/
  commands : BatchName → List Nat
  /-- The commands submitted on the present link, in order. Without a link this is the last one. -/
  sent : List Nat
  /-- The replies handed on on that link, in order. -/
  answers : List Reply
  /-- How many of them were handed on while no command was owed a reply. -/
  strays : Nat
  /-- The commands whose replies have been replaced by the owner of their batch. -/
  written : List Nat

namespace Journal

/-- The journal of a session that has never been connected. -/
def start (ceiling : Nat) : Journal := ⟨.ofCeiling ceiling, 0, fun _ => [], [], [], 0, []⟩

/-- The commands that an act takes from the hands of the link. -/
def overwritten (j : Journal) : Act → List Nat
  | .overwrite name changes => changes.filterMap fun (i, _) => (j.commands name)[i]?
  | _ => []

/-- Carries out an act and notes it. -/
def record (j : Journal) (a : Act) : Journal where
  session := j.session.act a
  count := if (j.session.added? a).isSome then j.count + 1 else j.count
  commands name :=
    if a.cleared? = some name then []
    else if j.session.added? a = some name then j.commands name ++ [j.count]
    else j.commands name
  sent :=
    if j.session.starts a then []
    else if j.session.isUp && (j.session.added? a).isSome then j.sent ++ [j.count]
    else j.sent
  answers :=
    if j.session.starts a then [] else j.answers ++ (j.session.handed? a).toList
  strays :=
    if j.session.starts a then 0
    else if (j.session.handed? a).isSome && j.session.owed.isEmpty then j.strays + 1
    else j.strays
  written := j.written ++ j.overwritten a

/-- The journal of a session that carries out acts from the start. -/
def replay (ceiling : Nat) (acts : List Act) : Journal := acts.foldl record (start ceiling)

/-! ## Reading a journal -/

/-- The command whose slot a ticket leads to. -/
def number? (j : Journal) (t : Ticket) : Option Nat := (j.commands t.batch)[t.index]?

/-- A command waits for its reply: its slot is empty. -/
def Waits (j : Journal) (c : Nat) : Prop :=
  ∃ t, j.number? t = some c ∧ j.session.slot? t = some .empty

/-- A command has a reply in its slot. -/
def Holds (j : Journal) (c : Nat) (r : Reply) : Prop :=
  ∃ t, j.number? t = some c ∧ j.session.slot? t = some ⟨some r⟩

/-- How the notes of a journal fit its session. -/
structure Sound (j : Journal) : Prop where
  balanced : j.session.Balanced
  /-- Each batch has as many slots as commands are noted for it. -/
  sizes : ∀ name, (j.commands name).length = j.session.size name
  increasing : ∀ name, (j.commands name).Pairwise (· < ·)
  numbered : ∀ name, ∀ c ∈ j.commands name, c < j.count
  /-- No command belongs to two batches. -/
  apart : ∀ name other c, c ∈ j.commands name → c ∈ j.commands other → name = other
  /-- The queue of owed commands is the end of what was sent. -/
  queue : ∃ before after, j.sent = before ++ after ∧
    j.session.owed.map j.number? = after.map some
  sent_increasing : j.sent.Pairwise (· < ·)
  sent_numbered : ∀ c ∈ j.sent, c < j.count
  /-- On a link, what was sent is either answered or owed, and the other answers are strays. -/
  tally : j.session.isUp = true →
    j.answers.length + j.session.owed.length = j.sent.length + j.strays

/-- The empty journal is sound. -/
theorem sound_start (ceiling : Nat) : (start ceiling).Sound where
  balanced := Session.balanced_ofCeiling ceiling
  sizes _ := rfl
  increasing _ := .nil
  numbered _ _ h := absurd h List.not_mem_nil
  apart _ _ _ h := absurd h List.not_mem_nil
  queue := ⟨[], [], rfl, rfl⟩
  sent_increasing := .nil
  sent_numbered _ h := absurd h List.not_mem_nil
  tally h := by cases h

/-! ## Recording one act -/

section

variable {j : Journal} {a : Act} {name : BatchName} {c : Nat}

/-- Commands are numbered in the order in which they are submitted. -/
@[simp] theorem count_record (j : Journal) (a : Act) :
    (j.record a).count = if (j.session.added? a).isSome then j.count + 1 else j.count := rfl

/-- A command is noted for its batch, and opening, closing or emptying the batch clears the list. -/
@[simp] theorem commands_record (j : Journal) (a : Act) (name : BatchName) :
    (j.record a).commands name =
      if a.cleared? = some name then []
      else if j.session.added? a = some name then j.commands name ++ [j.count]
      else j.commands name := rfl

/-- What is sent is noted for each link anew. -/
@[simp] theorem sent_record (j : Journal) (a : Act) :
    (j.record a).sent =
      if j.session.starts a then []
      else if j.session.isUp && (j.session.added? a).isSome then j.sent ++ [j.count]
      else j.sent := rfl

/-- The replies that are handed on are noted for each link anew. -/
@[simp] theorem answers_record (j : Journal) (a : Act) :
    (j.record a).answers =
      if j.session.starts a then [] else j.answers ++ (j.session.handed? a).toList := rfl

/-- A reply that comes while nothing is owed is a stray. -/
@[simp] theorem strays_record (j : Journal) (a : Act) :
    (j.record a).strays =
      if j.session.starts a then 0
      else if (j.session.handed? a).isSome && j.session.owed.isEmpty then j.strays + 1
      else j.strays := rfl

/-- What is noted for a batch was noted before, or it is the new command. -/
theorem mem_commands_record (hc : c ∈ (j.record a).commands name) :
    c ∈ j.commands name ∨ c = j.count ∧ j.session.added? a = some name := by
  rw [commands_record] at hc
  split at hc
  · exact absurd hc List.not_mem_nil
  · split at hc
    · next hadded =>
        rcases List.mem_append.1 hc with hold | hnew
        · exact .inl hold
        · exact .inr ⟨List.mem_singleton.1 hnew, hadded⟩
    · exact .inl hc

/-- What has been sent was sent before, or it is the new command. -/
theorem mem_sent_record (hc : c ∈ (j.record a).sent) :
    c ∈ j.sent ∨ c = j.count ∧ (j.session.added? a).isSome = true := by
  rw [sent_record] at hc
  split at hc
  · exact absurd hc List.not_mem_nil
  · split at hc
    · next hadded =>
        rcases List.mem_append.1 hc with hold | hnew
        · exact .inl hold
        · exact .inr ⟨List.mem_singleton.1 hnew, (Bool.and_eq_true _ _ ▸ hadded).2⟩
    · exact .inl hc

/-- The count never falls. -/
theorem count_le_record (j : Journal) (a : Act) : j.count ≤ (j.record a).count := by
  rw [count_record]
  split
  · exact Nat.le_succ _
  · exact Nat.le_refl _

theorem count_lt_record (hadded : (j.session.added? a).isSome = true) :
    j.count < (j.record a).count := by
  simp [hadded]

/-- A number that has not been used is larger than all others. -/
theorem pairwise_append_new {numbers : List Nat} {count : Nat} (h : numbers.Pairwise (· < ·))
    (hcount : ∀ c ∈ numbers, c < count) : (numbers ++ [count]).Pairwise (· < ·) := by
  rw [List.pairwise_append]
  refine ⟨h, List.pairwise_singleton _ _, ?_⟩
  intro c hc d hd
  rw [List.mem_singleton.1 hd]
  exact hcount c hc

end

/-! ## Sound journals -/

namespace Sound

variable {j : Journal} {a : Act} {name : BatchName} {c : Nat}

/-- No name is used twice. -/
theorem names (h : j.Sound) : (j.session.registry.batches.map Prod.fst).Nodup :=
  Registry.Balances.names h.balanced

/-- A batch with unanswered commands is not cleared. -/
theorem not_cleared (h : j.Sound) (ha : j.session.Allows a) {t : Ticket} (ht : t ∈ j.session.owed) :
    a.cleared? ≠ some t.batch := by
  intro hcleared
  have hfree : j.session.IsFree t.batch := by
    cases a with
    | openBatch name => cases hcleared; exact ha
    | closeBatch name => cases hcleared; exact ha
    | reset name => cases hcleared; exact ha
    | _ => cases hcleared
  have hnone := Registry.Balances.positions_eq_nil h.balanced hfree
  have hmem : t.index ∈ Ticket.positions t.batch j.session.owed := Ticket.mem_positions_iff.2 ht
  rw [hnone] at hmem
  exact absurd hmem List.not_mem_nil

/-- A command that is noted for a batch keeps its place there until the batch is cleared. -/
theorem number?_record (h : j.Sound) {t : Ticket} (hkept : a.cleared? ≠ some t.batch)
    (ht : t.index < j.session.size t.batch) : (j.record a).number? t = j.number? t := by
  rw [number?, number?, commands_record, if_neg hkept]
  split
  · rw [List.getElem?_append_left]
    rw [h.sizes]
    exact ht
  · rfl

/-- The command that an act adds has the next number. -/
theorem number?_added (h : j.Sound) (hadded : j.session.added? a = some name) :
    (j.record a).number? ⟨name, j.session.size name⟩ = some j.count := by
  have hkept : a.cleared? ≠ some name := by
    cases a with
    | submit other => exact nofun
    | _ => cases hadded
  simp [number?, hkept, hadded, ← h.sizes]

/-- Commands that are owed keep their places. -/
theorem numbers_record (h : j.Sound) (ha : j.session.Allows a) {owed : List Ticket}
    (howed : owed <:+ j.session.owed) : owed.map (j.record a).number? = owed.map j.number? := by
  apply List.map_congr_left
  intro t ht
  have hmem := howed.subset ht
  exact h.number?_record (h.not_cleared ha hmem)
    (Registry.index_lt_size (Registry.Balances.mem_owed_iff h.balanced |>.1 hmem))

/-- After an act the queue is still the end of what was sent. -/
theorem queue_record (h : j.Sound) (ha : j.session.Allows a) :
    ∃ before after, (j.record a).sent = before ++ after ∧
      (j.record a).session.owed.map (j.record a).number? = after.map some := by
  obtain ⟨before, after, hsent, howed⟩ := h.queue
  show ∃ before after, (j.record a).sent = before ++ after ∧
    (j.session.act a).owed.map (j.record a).number? = after.map some
  rw [sent_record]
  cases hstarts : j.session.starts a with
  | true =>
      refine ⟨[], [], rfl, ?_⟩
      rw [Session.owed_of_starts hstarts]
      rfl
  | false =>
      rw [if_neg Bool.false_ne_true]
      cases hadded : j.session.isUp && (j.session.added? a).isSome with
      | true =>
          rw [Bool.and_eq_true] at hadded
          obtain ⟨hup, hsome⟩ := hadded
          obtain ⟨name, hname⟩ := Option.isSome_iff_exists.1 hsome
          refine ⟨before, after ++ [j.count], ?_, ?_⟩
          · rw [if_pos rfl, hsent, List.append_assoc]
          · rw [Session.owed_act_of_added hup hname, List.map_append, List.map_append,
              h.numbers_record ha (List.suffix_refl _), howed, List.map_singleton,
              List.map_singleton, h.number?_added hname]
      | false =>
          have hsuffix := Session.owed_act_suffix hadded
          rw [if_neg Bool.false_ne_true, h.numbers_record ha hsuffix]
          obtain ⟨passed, hpassed⟩ := hsuffix
          rw [← hpassed, List.map_append] at howed
          obtain ⟨gone, left, rfl, -, hleft⟩ := List.append_eq_map_iff.1 howed
          exact ⟨before ++ gone, left, by rw [hsent, List.append_assoc], hleft.symm⟩

/-- On a link an act keeps the tally of what was sent, answered and owed. -/
theorem tally_record (h : j.Sound) (hstill : (j.session.act a).isUp = true) :
    (j.record a).answers.length + (j.record a).session.owed.length =
      (j.record a).sent.length + (j.record a).strays := by
  show (j.record a).answers.length + (j.session.act a).owed.length =
    (j.record a).sent.length + (j.record a).strays
  rw [answers_record, sent_record, strays_record]
  cases hstarts : j.session.starts a with
  | true => simp [Session.owed_of_starts hstarts]
  | false =>
      have hup := Session.isUp_of_starts_eq_false hstarts hstill
      have htally := h.tally hup
      have hlength := Session.length_owed_act hup hstill
      rw [hup, Bool.true_and, if_neg Bool.false_ne_true, if_neg Bool.false_ne_true,
        if_neg Bool.false_ne_true, List.length_append]
      have hsent : (if (j.session.added? a).isSome then j.sent ++ [j.count] else j.sent).length =
          j.sent.length + (j.session.added? a).toList.length := by
        cases j.session.added? a with
        | none => simp
        | some name => simp
      have hstrays :
          (if (j.session.handed? a).isSome && j.session.owed.isEmpty then j.strays + 1
            else j.strays) =
          j.strays + if (j.session.handed? a).isSome && j.session.owed.isEmpty then 1 else 0 := by
        split <;> rfl
      rw [hsent, hstrays]
      omega

/-- Every act that is allowed keeps a journal sound. -/
theorem record (h : j.Sound) (ha : j.session.Allows a) : (j.record a).Sound where
  balanced := h.balanced.act ha
  sizes name := by
    show ((j.record a).commands name).length = (j.session.act a).size name
    rw [commands_record, Session.size_act h.names]
    split
    · rfl
    · split
      · rw [List.length_append, h.sizes]
        rfl
      · exact h.sizes name
  increasing name := by
    rw [commands_record]
    split
    · exact .nil
    · split
      · exact pairwise_append_new (h.increasing name) (h.numbered name)
      · exact h.increasing name
  numbered name c hc := by
    rcases mem_commands_record hc with hold | ⟨rfl, hadded⟩
    · exact Nat.lt_of_lt_of_le (h.numbered name c hold) (count_le_record j a)
    · exact count_lt_record (by rw [hadded]; rfl)
  apart name other c hname hother := by
    rcases mem_commands_record hname with hold | ⟨rfl, hadded⟩
    · rcases mem_commands_record hother with hold' | ⟨rfl, -⟩
      · exact h.apart name other c hold hold'
      · exact absurd (h.numbered name _ hold) (Nat.lt_irrefl _)
    · rcases mem_commands_record hother with hold' | ⟨-, hadded'⟩
      · exact absurd (h.numbered other _ hold') (Nat.lt_irrefl _)
      · rw [hadded] at hadded'
        exact Option.some.inj hadded'
  queue := h.queue_record ha
  sent_increasing := by
    rw [sent_record]
    split
    · exact .nil
    · split
      · exact pairwise_append_new h.sent_increasing h.sent_numbered
      · exact h.sent_increasing
  sent_numbered c hc := by
    rcases mem_sent_record hc with hold | ⟨rfl, hadded⟩
    · exact Nat.lt_of_lt_of_le (h.sent_numbered c hold) (count_le_record j a)
    · exact count_lt_record hadded
  tally := h.tally_record

/-- No command has two places. -/
theorem place_unique (h : j.Sound) {t u : Ticket} (ht : j.number? t = some c)
    (hu : j.number? u = some c) : t = u := by
  have hbatch : t.batch = u.batch :=
    h.apart _ _ c (List.mem_of_getElem? ht) (List.mem_of_getElem? hu)
  rw [number?, hbatch] at ht
  obtain ⟨htlt, hteq⟩ := List.getElem?_eq_some_iff.1 ht
  obtain ⟨hult, hueq⟩ := List.getElem?_eq_some_iff.1 hu
  have hsorted := List.pairwise_iff_getElem.1 (h.increasing u.batch)
  have hindex : t.index = u.index := by
    rcases Nat.lt_trichotomy t.index u.index with hlt | heq | hgt
    · have := hsorted _ _ htlt hult hlt
      omega
    · exact heq
    · have := hsorted _ _ hult htlt hgt
      omega
  obtain ⟨name, i⟩ := t
  obtain ⟨name', i'⟩ := u
  rw [show name = name' from hbatch, show i = i' from hindex]

/-- Only numbers that have been given out are noted. -/
theorem lt_count (h : j.Sound) {t : Ticket} (ht : j.number? t = some c) : c < j.count :=
  h.numbered _ c (List.mem_of_getElem? ht)

/-- A command that waits holds no reply. -/
theorem not_holds_of_waits (h : j.Sound) (hwaits : j.Waits c) (r : Reply) : ¬ j.Holds c r := by
  rintro ⟨u, hu, hfilled⟩
  obtain ⟨t, ht, hempty⟩ := hwaits
  rw [h.place_unique hu ht, hempty] at hfilled
  cases hfilled

/-- A command holds one reply. -/
theorem holds_unique (h : j.Sound) {r r' : Reply} (hr : j.Holds c r) (hr' : j.Holds c r') :
    r = r' := by
  obtain ⟨t, ht, hfilled⟩ := hr
  obtain ⟨u, hu, hfilled'⟩ := hr'
  rw [h.place_unique ht hu, hfilled'] at hfilled
  cases hfilled
  rfl

/-- What an act does to the slot of an earlier command, if that keeps its place. -/
theorem slot_record (h : j.Sound) {t : Ticket} (ht : (j.record a).number? t = some c)
    (hc : c < j.count) :
    j.number? t = some c ∧ ∃ old new, j.session.slot? t = some old ∧
      (j.record a).session.slot? t = some new ∧ (new = .empty → old = .empty) ∧
      (old ≠ .empty → c ∉ (j.record a).written → new = old) := by
  have hkept : a.cleared? ≠ some t.batch := by
    intro hcleared
    simp [number?, hcleared] at ht
  have hplace : j.number? t = some c := by
    rw [number?, commands_record, if_neg hkept] at ht
    split at ht
    · rw [List.getElem?_append] at ht
      split at ht
      · exact ht
      · have hnew := List.mem_singleton.1 (List.mem_of_getElem? ht)
        omega
    · exact ht
  have hindex : t.index < j.session.size t.batch := by
    obtain ⟨hlt, -⟩ := List.getElem?_eq_some_iff.1 hplace
    rwa [h.sizes] at hlt
  obtain ⟨old, hold⟩ := Registry.exists_slot_of_index_lt hindex
  refine ⟨hplace, old, ?_⟩
  by_cases hown : ∃ changes, a = .overwrite t.batch changes
  · obtain ⟨changes, rfl⟩ := hown
    obtain ⟨new, hnew, hsame, hempty⟩ := Session.slot?_overwrite changes hold
    refine ⟨new, hold, hnew, hempty, fun _ hwritten => hsame fun hmem => hwritten ?_⟩
    obtain ⟨⟨i, r⟩, hchange, hi⟩ := List.mem_map.1 hmem
    apply List.mem_append_right
    refine List.mem_filterMap.2 ⟨⟨i, r⟩, hchange, ?_⟩
    rw [show i = t.index from hi]
    exact hplace
  · have hforeign : ∀ changes, a ≠ .overwrite t.batch changes := not_exists.1 hown
    obtain ⟨new, hnew, rfl | ⟨rfl, hfilled⟩⟩ := Session.slot?_act h.names hkept hforeign hold
    · exact ⟨new, hold, hnew, id, fun _ _ => rfl⟩
    · exact ⟨new, hold, hnew, fun hempty => absurd hempty hfilled, fun hne => absurd rfl hne⟩

/-- A command that has been submitted and does not wait will not wait again. -/
theorem not_waits_record (h : j.Sound) (hc : c < j.count) (hnot : ¬ j.Waits c) :
    ¬ (j.record a).Waits c := by
  rintro ⟨t, ht, hslot⟩
  obtain ⟨hplace, old, new, hold, hnew, hempty, -⟩ := h.slot_record ht hc
  rw [hnew, Option.some.injEq] at hslot
  exact hnot ⟨t, hplace, hempty hslot ▸ hold⟩

/-- Only a command that waits, or a new one, is given a reply. -/
theorem not_holds_record (h : j.Sound) (hc : c < j.count) (hnot : ¬ j.Waits c)
    (hnone : ∀ r, ¬ j.Holds c r) (r : Reply) : ¬ (j.record a).Holds c r := by
  rintro ⟨t, ht, -⟩
  obtain ⟨hplace, ⟨_ | reply⟩, -, hold, -⟩ := h.slot_record ht hc
  · exact hnot ⟨t, hplace, hold⟩
  · exact hnone reply ⟨t, hplace, hold⟩

end Sound

end Journal

end CommandPipeline
