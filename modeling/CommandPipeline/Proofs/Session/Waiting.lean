import CommandPipeline.Proofs.Reports
import CommandPipeline.Proofs.Session.Renaming
import CommandPipeline.Proofs.Session.Replies

/-!
# Waiting for one reply

A call opens a batch, submits a single command on it and waits. How long it waits and what it gets
can be read off what happens in the meantime, without a look at batches or slots: the commands owed
before are answered first, so the call gets the reply behind as many others, unless the link goes
down before. Whatever other callers do to their own batches in the meantime makes no difference, and
neither does the name of the batch.
-/

namespace CommandPipeline

open Equiv (swap)

/-! ## What a call gets -/

/-- The reply to a command that is owed behind a number of others, as soon as there is one: each
reply that is handed on goes to the next command in turn, and the end of the link is told to all
that are left. -/
def Act.replyBehind : Nat → List Act → Option Reply
  | _, [] => none
  | 0, .answer r :: _ => some r
  | ahead + 1, .answer _ :: later => replyBehind ahead later
  | _, .goDown message _ :: _ => some (.error message)
  | ahead, _ :: later => replyBehind ahead later

/-- All other acts bring no reply. -/
theorem Act.replyBehind_of_quiet {a : Act} (hanswer : ∀ r, a ≠ .answer r)
    (hdown : ∀ message error, a ≠ .goDown message error) (ahead : Nat) (later : List Act) :
    replyBehind ahead (a :: later) = replyBehind ahead later := by
  cases a with
  | answer r => exact absurd rfl (hanswer r)
  | goDown message error => exact absurd rfl (hdown message error)
  | _ => cases ahead <;> rfl

namespace Session

/-- A call opens a batch and submits its only command. -/
def startCall (s : Session) (name : BatchName) : Session := (s.openBatch name).submit name

/-- A call ends when its batch is settled: its result is read and the batch is closed. -/
def endCall? (s : Session) (name : BatchName) : Option (Session × Except ClientError Reply) :=
  match s.batch? name with
  | some b => if b.isSettled then some (s.closeBatch name, singleReply b) else none
  | none => none

end Session

/-- What a call gives for the reply to its command: the reply itself if it holds no error at any
depth, and otherwise the report on this reply alone. -/
def Reply.outcome (r : Reply) : Except ClientError Reply :=
  if r.errorCount = 0 then .ok r else .error (.batch ⟨r.errorCount, r.messages.take 3, 1⟩)

/-- An error is counted and shown. -/
@[simp] theorem Reply.outcome_error (message : String) :
    (Reply.error message).outcome = .error (.batch ⟨1, [message], 1⟩) := rfl

/-- A call goes on with its reply unless there is an error in it. -/
theorem Reply.outcome_of_holdsError {r : Reply} (h : r.HoldsError) :
    r.outcome = .error (.batch ⟨r.errorCount, r.messages.take 3, 1⟩) :=
  if_neg (Nat.ne_of_gt h.errorCount_pos)

/-- A reply without an error is given as it is. -/
theorem Reply.outcome_of_not_holdsError {r : Reply} (h : ¬ r.HoldsError) : r.outcome = .ok r :=
  if_pos (Nat.eq_zero_of_not_pos (mt errorCount_pos_iff.1 h))

namespace Session

/-- The verdict on a reply is the outcome of the call. -/
@[simp] theorem verdict_eq_outcome (r : Reply) : verdict r = r.outcome := by
  have hreport := BatchFailure.ofReplies?_eq [r]
  simp only [List.map_cons, List.map_nil, List.sum_cons, List.sum_nil, Nat.add_zero,
    List.flatMap_cons, List.flatMap_nil, List.append_nil, List.length_singleton] at hreport
  rw [verdict, hreport, Reply.outcome]
  by_cases hcount : r.errorCount = 0
  · rw [if_pos hcount, if_pos hcount]
  · rw [if_neg hcount, if_neg hcount]
    rfl

/-! ## The state of a call -/

variable {s t : Session} {name other : BatchName} {ahead : Nat} {a : Act} {acts : List Act}
  {r : Reply}

/-- The only command of a call waits behind a number of others. -/
structure CallWaits (s : Session) (name : BatchName) (ahead : Nat) : Prop where
  balanced : s.Balanced
  size : s.size name = 1
  place : s.owed[ahead]? = some ⟨name, 0⟩

/-- The only command of a call has its reply. -/
structure CallHolds (s : Session) (name : BatchName) (r : Reply) : Prop where
  balanced : s.Balanced
  size : s.size name = 1
  slot : s.slot? ⟨name, 0⟩ = some ⟨some r⟩

/-- A batch of one command has one slot. -/
theorem exists_batch_of_size (hsize : s.size name = 1) :
    ∃ b slot, s.batch? name = some b ∧ b.slots.toList = [slot] ∧
      s.slot? ⟨name, 0⟩ = some slot := by
  cases hb : s.batch? name with
  | none =>
      rw [Session.size, Registry.size, show s.registry.batch? name = none from hb] at hsize
      cases hsize
  | some b =>
      have hlength : b.slots.toList.length = 1 := (size_eq_of_batch? hb).symm.trans hsize
      obtain ⟨slot, hslot⟩ := List.length_eq_one_iff.1 hlength
      refine ⟨b, slot, rfl, hslot, ?_⟩
      rw [slot?, Registry.slot?, show s.registry.batch? name = some b from hb]
      show b.slots[0]? = some slot
      rw [← Array.getElem?_toList, hslot]
      rfl

/-- The slot of a call that waits is empty. -/
theorem CallWaits.empty (h : s.CallWaits name ahead) : s.slot? ⟨name, 0⟩ = some .empty :=
  (Registry.Balances.mem_owed_iff h.balanced).1 (List.mem_of_getElem? h.place)

/-- A call that waits has not ended. -/
theorem CallWaits.endCall?_eq (h : s.CallWaits name ahead) : s.endCall? name = none := by
  obtain ⟨b, slot, hb, hslots, hslot⟩ := exists_batch_of_size h.size
  have hunsettled : ¬ b.isSettled := by
    intro hsettled
    have hnone := Registry.Balances.positions_eq_nil h.balanced (isFree_of_some hb hsettled)
    have hmem := Ticket.mem_positions_iff.2 (List.mem_of_getElem? h.place)
    rw [hnone] at hmem
    exact absurd hmem List.not_mem_nil
  rw [endCall?, hb]
  exact if_neg hunsettled

/-- The only reply of a call that holds one is this reply. -/
theorem CallHolds.exists_batch (h : s.CallHolds name r) :
    ∃ b, s.batch? name = some b ∧ b.replies = [r] := by
  obtain ⟨b, slot, hb, hslots, hslot⟩ := exists_batch_of_size h.size
  rw [h.slot] at hslot
  cases hslot
  exact ⟨b, hb, by rw [Batch.replies, hslots]; rfl⟩

/-- A call that has its reply ends with it. The reply that stands in for a missing one is not
used. -/
theorem CallHolds.endCall?_eq (h : s.CallHolds name r) :
    s.endCall? name = some (s.closeBatch name, r.outcome) := by
  obtain ⟨b, hb, hreplies⟩ := h.exists_batch
  have hnone : Ticket.positions name s.owed = [] := by
    rw [List.eq_nil_iff_forall_not_mem]
    intro i hi
    have hempty := (Registry.Balances.mem_owed_iff h.balanced).1 (Ticket.mem_positions_iff.1 hi)
    have hindex : i < s.size name := Registry.index_lt_size hempty
    rw [h.size, Nat.lt_one_iff] at hindex
    subst hindex
    rw [show s.registry.slot? ⟨name, 0⟩ = _ from h.slot] at hempty
    cases hempty
  have hsettled := (Registry.Balances.isSettled_iff h.balanced hb).2 hnone
  rw [endCall?, hb]
  show (if b.isSettled then _ else none) = _
  simp [hsettled, singleReply_eq_verdict hreplies]

/-! ## One act in the meantime -/

/-- An act that is foreign to a batch does not clear it. -/
theorem cleared?_ne_of_foreign (ha : a.Foreign name) : a.cleared? ≠ some name := by
  intro hcleared
  cases a with
  | openBatch k => exact ha (Option.some.inj hcleared)
  | closeBatch k => exact ha (Option.some.inj hcleared)
  | reset k => exact ha (Option.some.inj hcleared)
  | _ => cases hcleared

/-- An act that is foreign to a batch adds no command to it. -/
theorem size_act_of_foreign (h : s.Balanced) (ha : a.Foreign name) :
    (s.act a).size name = s.size name := by
  have hadded : s.added? a ≠ some name := by
    intro hadded
    cases a with
    | submit k =>
        rw [added?] at hadded
        split at hadded
        · exact ha (Option.some.inj hadded)
        · cases hadded
    | _ => cases hadded
  rw [size_act (Registry.Balances.names h), if_neg (cleared?_ne_of_foreign ha), if_neg hadded]

/-- Commands keep their places in the queue until a reply is handed on or the link goes down. -/
theorem owed_act_of_quiet (hanswer : ∀ r, a ≠ .answer r)
    (hdown : ∀ message error, a ≠ .goDown message error) : s.owed <+: (s.act a).owed := by
  obtain ⟨registry, error | ⟨stream, owed⟩⟩ := s
  · exact List.nil_prefix
  cases a with
  | answer reply => exact absurd rfl (hanswer reply)
  | goDown message error => exact absurd rfl (hdown message error)
  | submit k =>
      rw [act, submit]
      cases nextTicket? ⟨registry, .up stream owed⟩ k with
      | none => exact List.prefix_refl _
      | some ticket => exact List.prefix_append _ _
  | _ => exact List.prefix_refl _

/-- The slot of a call is filled by what is handed on when its turn has come. -/
theorem CallWaits.act_answer (h : s.CallWaits name ahead) (r : Reply) :
    match ahead with
    | 0 => (s.act (.answer r)).CallHolds name r
    | ahead + 1 => (s.act (.answer r)).CallWaits name ahead := by
  have hbalanced := h.balanced.act (a := .answer r) trivial
  have hsize := (size_act_of_foreign (a := .answer r) h.balanced trivial).trans h.size
  have hempty := h.empty
  have hplace := h.place
  obtain ⟨registry, error | ⟨stream, _ | ⟨front, owed⟩⟩⟩ := s
  · cases hplace
  · cases hplace
  · cases ahead with
    | zero =>
        cases hplace
        exact ⟨hbalanced, hsize, Registry.slot?_deliver_self r hempty⟩
    | succ ahead => exact ⟨hbalanced, hsize, hplace⟩

/-- The end of the link is told to every call that waits. -/
theorem CallWaits.act_goDown (h : s.CallWaits name ahead) (message : String)
    (error : Option String) : (s.act (.goDown message error)).CallHolds name (.error message) := by
  have hbalanced := h.balanced.act (a := .goDown message error) trivial
  have hsize := (size_act_of_foreign (a := .goDown message error) h.balanced trivial).trans h.size
  have hbefore : s.registry.Balances s.owed := h.balanced
  have hplace := h.place
  obtain ⟨registry, down | ⟨stream, owed⟩⟩ := s
  · cases hplace
  · refine ⟨hbalanced, hsize, ?_⟩
    have hfront : owed[ahead]? = some ⟨name, 0⟩ := hplace
    have hreply : (owed.map fun _ => Reply.error message)[ahead]? = some (.error message) := by
      rw [List.getElem?_map, hfront]
      rfl
    show (registry.failAll owed message).slot? ⟨name, 0⟩ = _
    rw [Registry.failAll_eq_dispatch]
    exact hbefore.slot?_dispatch hplace hreply

/-- Nothing else touches a call. -/
theorem CallWaits.act_quiet (h : s.CallWaits name ahead) (ha : s.Allows a)
    (hforeign : a.Foreign name) (hanswer : ∀ r, a ≠ .answer r)
    (hdown : ∀ message error, a ≠ .goDown message error) :
    (s.act a).CallWaits name ahead := by
  refine ⟨h.balanced.act ha, (size_act_of_foreign h.balanced hforeign).trans h.size, ?_⟩
  obtain ⟨more, hmore⟩ := owed_act_of_quiet hanswer hdown
  rw [← hmore, List.getElem?_append_left (List.getElem?_eq_some_iff.1 h.place).1]
  exact h.place

/-- What one act does to a call that waits. -/
theorem CallWaits.act (h : s.CallWaits name ahead) (ha : s.Allows a) (hforeign : a.Foreign name) :
    match a, ahead with
    | .answer r, 0 => (s.act a).CallHolds name r
    | .answer _, ahead + 1 => (s.act a).CallWaits name ahead
    | .goDown message _, _ => (s.act a).CallHolds name (.error message)
    | _, _ => (s.act a).CallWaits name ahead := by
  cases a with
  | answer r => cases ahead <;> exact h.act_answer r
  | goDown message error => exact h.act_goDown message error
  | _ => exact h.act_quiet ha hforeign (by rintro _ ⟨⟩) (by rintro _ _ ⟨⟩)

/-- A reply that has been handed on stays until its owner takes it. -/
theorem CallHolds.act (h : s.CallHolds name r) (ha : s.Allows a) (hforeign : a.Foreign name) :
    (s.act a).CallHolds name r := by
  have howner : ∀ changes, a ≠ .overwrite name changes := by
    rintro changes rfl
    exact hforeign rfl
  obtain ⟨new, hnew, hgrows⟩ :=
    slot?_act (Registry.Balances.names h.balanced) (cleared?_ne_of_foreign hforeign) howner h.slot
  rcases hgrows with rfl | ⟨hempty, -⟩
  · exact ⟨h.balanced.act ha, (size_act_of_foreign h.balanced hforeign).trans h.size, hnew⟩
  · cases hempty

/-! ## Whatever happens in the meantime -/

/-- A call that holds its reply holds it whatever others do. -/
theorem CallHolds.plays (h : s.CallHolds name r) (hplays : s.Plays acts t)
    (hforeign : ∀ a ∈ acts, a.Foreign name) : t.CallHolds name r :=
  hplays.preserves_of (P := fun s => s.CallHolds name r)
    (fun _ _ h ha hfirst => h.act ha hfirst) hforeign h

/-- A call waits until the reply behind the others has been handed on, and then holds it. -/
theorem CallWaits.plays (h : s.CallWaits name ahead) (hplays : s.Plays acts t)
    (hforeign : ∀ a ∈ acts, a.Foreign name) :
    match Act.replyBehind ahead acts with
    | none => ∃ left, t.CallWaits name left
    | some r => t.CallHolds name r := by
  induction hplays generalizing ahead with
  | nil s =>
      rw [Act.replyBehind]
      exact ⟨ahead, h⟩
  | cons ha hrest ih =>
      obtain ⟨hfirst, hlater⟩ := List.forall_mem_cons.1 hforeign
      have hact := h.act ha hfirst
      rename_i a acts
      cases a with
      | answer r =>
          cases ahead with
          | zero => exact CallHolds.plays hact hrest hlater
          | succ ahead => exact ih hact hlater
      | goDown message error =>
          rw [Act.replyBehind]
          exact CallHolds.plays hact hrest hlater
      | _ =>
          rw [Act.replyBehind_of_quiet (by rintro _ ⟨⟩) (by rintro _ _ ⟨⟩)]
          exact ih hact hlater

end Session

end CommandPipeline
