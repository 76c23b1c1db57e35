import CommandPipeline.Batch.View
import CommandPipeline.Proofs.Reports
import CommandPipeline.Proofs.Session.Epochs
import CommandPipeline.Proofs.Session.Renaming
import CommandPipeline.Proofs.Session.Teardown

/-!
# All views of a batch agree

A batch that has all its replies can be looked at in many ways, and all of them show the same list:
no slot is empty, so the nil that stands in for a missing reply is never seen, and nothing but the
batch has a hold on its slots. What is listed once stays: only the owner of the batch can take it
away or replace it, and a replacement changes the entry at its position and nothing else.
-/

namespace CommandPipeline

/-! ## Replies shown, retained and replaced -/

/-- The label of the batch of which a step may take away or replace replies. -/
def Step.rewritten? : Step → Option String
  | .openBatch label | .overwrite label _ | .reset label | .dropBatch label | .takeReplies label =>
    some label
  | _ => none

/-- A list in which entries have been replaced by position, one after the other. -/
def replaceAll (rs : List Reply) (changes : List (Nat × Reply)) : List Reply :=
  changes.foldl (fun rs (index, r) => rs.set index r) rs

/-- All ways of looking at the replies of a batch show this list. -/
structure Batch.Shows (b : Batch) (rs : List Reply) : Prop where
  settled : b.isSettled
  /-- Every slot has a reply of its own. -/
  filled : b.slots.toList = rs.map fun r => ⟨some r⟩
  size : b.size = rs.length
  replies : b.replies = rs
  reply? : ∀ i, b.reply? i = rs[i]?
  forwards : b.view.forwards = rs
  backwards : b.view.backwards.reverse = rs
  /-- It does not matter in which order the ends are read. -/
  readings : ∀ ends, rs.length ≤ ends.length → (b.view.readings ends).inOrder = rs
  walk : b.view.walk b.size = fromBothEnds rs
  lend : b.lend = (b, rs)

namespace Client

/-- The caller sees this list whatever use is made of the batch with that label. -/
structure Shows (client : Client) (label : String) (rs : List Reply) : Prop where
  batch : ∃ b, client.session.batch? (.named label) = some b ∧ b.Shows rs
  /-- The link has no slot of the batch left to fill. -/
  alone : ∀ t ∈ client.session.owed, t.batch ≠ .named label
  read : client.step (.read label) = (client, .replies rs)
  lent : ∀ changes, (client.step (.overwrite label changes)).2 = .replies rs
  taken : (client.step (.takeReplies label)).2 = .replies rs

/-- Whatever steps follow, as long as none of them takes away or replaces replies of the batch: the
replies that are listed stay in their slots, and whenever the batch has all its replies, the list
that it shows begins with them. -/
def Retains (client : Client) (label : String) (rs : List Reply) : Prop :=
  ∀ later, (∀ step ∈ later, step.rewritten? ≠ some label) →
    let after := client.run later
    ∃ b, after.session.batch? (.named label) = some b ∧
      (∀ (i : Nat) r, rs[i]? = some r → b.slots[i]? = some ⟨some r⟩) ∧
      (b.isSettled → ∃ more, after.Shows label (rs ++ more))

/-- Replies are replaced in every view from then on, and nothing else is touched. -/
structure Replaces (client : Client) (label : String) (rs : List Reply)
    (changes : List (Nat × Reply)) : Prop where
  shows : (client.step (.overwrite label changes)).1.Shows label (replaceAll rs changes)
  retains : (client.step (.overwrite label changes)).1.Retains label (replaceAll rs changes)
  link : (client.step (.overwrite label changes)).1.session.link = client.session.link
  permits : (client.step (.overwrite label changes)).1.session.registry.permits =
    client.session.registry.permits
  others : ∀ name, name ≠ .named label →
    (client.step (.overwrite label changes)).1.session.batch? name = client.session.batch? name
  scripts : (client.step (.overwrite label changes)).1.scripts = client.scripts

end Client

/-! ## Reading a view -/

/-- A pair is seen at the ends, and then what is between. -/
theorem sightings_pair {α : Type} (fuel : Nat) (front back : α) (middle : List α) :
    sightings (fuel + 1) (front :: (middle ++ [back])) =
      .left (middle.length + 2) :: .value front :: .value back ::
        if middle.length = 0 then [.left 0] else sightings fuel middle := by
  rw [sightings, List.getLast?_concat, List.dropLast_concat]
  cases middle <;> simp

namespace View

variable (v : View)

/-- The replies that are left. -/
def replies : List Reply := v.slots.map Slot.read

@[simp] theorem replies_view (b : Batch) : b.view.replies = b.replies := rfl

/-- A reading takes the reply at its end. -/
theorem read?_eq_some {e : End} {r : Reply} {rest : View} (h : v.read? e = some (r, rest)) :
    v.replies = (match e with | .front => r :: rest.replies | .back => rest.replies ++ [r]) ∧
      v.remaining = rest.remaining + 1 := by
  obtain ⟨slots⟩ := v
  cases e with
  | front =>
      cases slots with
      | nil => cases h
      | cons slot slots =>
          cases h
          exact ⟨rfl, rfl⟩
  | back =>
      obtain ⟨slot, hslot, heq⟩ := Option.map_eq_some_iff.1 h
      cases heq
      obtain ⟨before, rfl⟩ := List.getLast?_eq_some_iff.1 hslot
      simp [replies, remaining]

/-- Nothing is read only where nothing is left. -/
theorem read?_eq_none {e : End} (h : v.read? e = none) : v.replies = [] := by
  obtain ⟨slots⟩ := v
  cases e with
  | front =>
      cases slots with
      | nil => rfl
      | cons slot slots => cases h
  | back =>
      have hnone := List.getLast?_eq_none_iff.1 (Option.map_eq_none_iff.1 h)
      rw [replies, show slots = [] from hnone, List.map_nil]

theorem remaining_eq : v.remaining = v.replies.length := (List.length_map Slot.read).symm

/-- Whatever ends are read, what has been read and what is left make up the view, and nothing is
left once there have been enough readings. -/
theorem readings_eq (v : View) (ends : List End) :
    (v.readings ends).front ++ (v.readings ends).left.replies ++ (v.readings ends).back.reverse =
        v.replies ∧
      (v.readings ends).left.remaining = v.remaining - ends.length := by
  induction ends generalizing v with
  | nil => simp [readings]
  | cons e ends ih =>
      rw [readings]
      cases hread : v.read? e with
      | none =>
          have hempty := v.read?_eq_none hread
          rw [remaining_eq, hempty]
          simp
      | some reading =>
          obtain ⟨r, rest⟩ := reading
          obtain ⟨hreplies, hremaining⟩ := v.read?_eq_some hread
          obtain ⟨hlater, hleft⟩ := ih rest
          cases e <;> simp [Readings.cons, hreplies, ← hlater, hleft, hremaining]

/-- With as many readings as there are replies, all are read, whichever ends they are read at. -/
theorem inOrder_readings (ends : List End) (h : v.remaining ≤ ends.length) :
    (v.readings ends).inOrder = v.replies := by
  obtain ⟨hall, hleft⟩ := v.readings_eq ends
  rw [Nat.sub_eq_zero_of_le h, remaining_eq, List.length_eq_zero_iff] at hleft
  rw [← hall, hleft, List.append_nil]
  rfl

/-- A view that is read at one end only gives nothing at the other. -/
theorem readings_replicate (v : View) (e : End) (n : Nat) :
    match e with
    | .front => (v.readings (.replicate n e)).back = []
    | .back => (v.readings (.replicate n e)).front = [] := by
  induction n generalizing v with
  | zero => cases e <;> rfl
  | succ n ih =>
      rw [List.replicate_succ, readings]
      cases v.read? e with
      | none => cases e <;> rfl
      | some reading =>
          have hrest := ih reading.2
          cases e <;> exact hrest

/-- A view is walked through by pairs, one slot from each end. -/
theorem walk_pair (fuel : Nat) (front back : Slot) (middle : List Slot) :
    walk (fuel + 1) ⟨front :: (middle ++ [back])⟩ =
      .left (middle.length + 2) :: .value front.read :: .value back.read ::
        if middle.length = 0 then [.left 0] else walk fuel ⟨middle⟩ := by
  have hback : nextBack? ⟨middle ++ [back]⟩ = some (back.read, ⟨middle⟩) := by simp [nextBack?]
  rw [walk, next?]
  dsimp only
  rw [hback]
  simp [remaining]

/-- A view is seen like the list of its replies. -/
@[simp] theorem walk_eq (v : View) (fuel : Nat) : v.walk fuel = sightings fuel v.replies := by
  induction fuel generalizing v with
  | zero => rw [walk, sightings, remaining_eq]
  | succ fuel ih =>
      obtain ⟨_ | ⟨front, rest⟩⟩ := v
      · rfl
      · obtain rfl | ⟨middle, back, rfl⟩ := List.eq_nil_or_concat rest
        · rfl
        · have hlist : replies ⟨front :: (middle ++ [back])⟩ =
              front.read :: (replies ⟨middle⟩ ++ [back.read]) := by simp [replies]
          rw [List.concat_eq_append, walk_pair, ih, hlist, sightings_pair, ← remaining_eq]
          rfl

/-- Read from the front, a view shows all replies in their order. -/
@[simp] theorem forwards_eq : v.forwards = v.replies := by
  have hall := v.inOrder_readings (.replicate v.remaining .front)
    (Nat.le_of_eq List.length_replicate.symm)
  have hback := v.readings_replicate .front v.remaining
  rw [Readings.inOrder, hback, List.reverse_nil, List.append_nil] at hall
  exact hall

/-- Read from the back, a view shows all replies in the reverse order. -/
@[simp] theorem reverse_backwards_eq : v.backwards.reverse = v.replies := by
  have hall := v.inOrder_readings (.replicate v.remaining .back)
    (Nat.le_of_eq List.length_replicate.symm)
  have hfront := v.readings_replicate .back v.remaining
  rw [Readings.inOrder, hfront, List.nil_append] at hall
  exact hall

end View

/-! ## Settled batches -/

namespace Batch

variable {b : Batch}

/-- Without empty slots the slots hold what is read from them. -/
theorem toList_slots_eq (h : b.waiting = []) :
    b.slots.toList = b.replies.map fun r => ⟨some r⟩ := by
  rw [replies, List.map_map]
  refine (List.map_id _).symm.trans (List.map_congr_left fun slot hslot => ?_)
  obtain ⟨i, hi⟩ := List.mem_iff_getElem?.1 hslot
  obtain ⟨content⟩ := slot
  cases content with
  | some r => rfl
  | none =>
      rw [Array.getElem?_toList] at hi
      have hmem := mem_waiting_iff.2 hi
      rw [h] at hmem
      exact absurd hmem List.not_mem_nil

/-- Where every slot has a reply, lending them out changes nothing. -/
theorem lend_eq {rs : List Reply} (h : b.slots.toList = rs.map fun r => ⟨some r⟩) :
    b.lend = (b, rs) := by
  obtain ⟨slots, outstanding⟩ := b
  have hslots : slots.map (fun slot => slot.lend.1) = slots := by
    apply Array.toList_inj.1
    rw [Array.toList_map, h, List.map_map]
    rfl
  have hgiven : slots.toList.map (fun slot => slot.lend.2) = rs := by
    rw [h, List.map_map]
    exact List.map_id _
  rw [lend, hslots, hgiven]

/-- A settled batch without empty slots shows its replies in all ways. -/
theorem shows_of_waiting (hsettled : b.isSettled) (h : b.waiting = []) : b.Shows b.replies := by
  have hfilled := toList_slots_eq h
  have hsize : b.size = b.replies.length := by
    rw [replies, List.length_map, Array.length_toList, size]
  refine ⟨hsettled, hfilled, hsize, rfl, fun i => ?_, by simp, by simp,
    fun ends hends => b.view.inOrder_readings ends ?_, ?_, lend_eq hfilled⟩
  · rw [reply?, replies, List.getElem?_map, Array.getElem?_toList]
  · rw [← hsize] at hends
    exact hends
  · rw [fromBothEnds, ← hsize]
    exact b.view.walk_eq b.size

/-- Overwriting a slot replaces the reply at its position. -/
@[simp] theorem replies_modify (b : Batch) (index : Nat) (r : Reply) :
    replies { b with slots := b.slots.modify index fun slot => slot.overwrite r } =
      b.replies.set index r := by
  apply List.ext_getElem?
  intro i
  rw [replies, replies, List.getElem?_map, Array.getElem?_toList, Array.getElem?_modify,
    List.getElem?_set, List.getElem?_map, Array.getElem?_toList, List.length_map,
    Array.length_toList]
  by_cases hi : index = i
  · subst hi
    rw [if_pos rfl, if_pos rfl]
    cases hslot : b.slots[index]? with
    | none =>
        rw [if_neg (Nat.not_lt.2 (Array.getElem?_eq_none_iff.1 hslot))]
        rfl
    | some slot =>
        obtain ⟨hlt, -⟩ := Array.getElem?_eq_some_iff.1 hslot
        rw [if_pos hlt]
        rfl
  · rw [if_neg hi, if_neg hi]

/-- The replies of an overwritten batch are those of before, replaced at the given positions. -/
@[simp] theorem replies_overwriteAll (b : Batch) (changes : List (Nat × Reply)) :
    (b.overwriteAll changes).replies = replaceAll b.replies changes := by
  induction changes generalizing b with
  | nil => rfl
  | cons change changes ih =>
      obtain ⟨index, r⟩ := change
      have hlater := ih { b with slots := b.slots.modify index fun slot => slot.overwrite r }
      rw [b.replies_modify index r] at hlater
      exact hlater

end Batch

/-! ## What stays listed -/

/-- What an owner does is about the batch that is owned. -/
theorem Act.subject?_of_isOwners {a : Act} {name : BatchName} (h : a.IsOwners name) :
    a.subject? = some name := by
  rcases h with hcleared | ⟨changes, rfl⟩
  · cases a with
    | openBatch n => exact hcleared
    | closeBatch n => exact hcleared
    | reset n => exact hcleared
    | _ => cases hcleared
  · rfl

namespace Session

variable {s t : Session} {name : BatchName} {rs : List Reply}

/-- The batch is there, and its first slots hold the replies. -/
structure Lists (s : Session) (name : BatchName) (rs : List Reply) : Prop where
  there : name ∈ s.names
  slots : ∀ i r, rs[i]? = some r → s.slot? ⟨name, i⟩ = some ⟨some r⟩

/-- What is not done by its owner takes no reply away from a batch. -/
theorem Lists.act (h : s.Lists name rs) (hbalanced : s.Balanced) {a : Act}
    (howner : ¬ a.IsOwners name) : (s.act a).Lists name rs := by
  rw [Act.IsOwners, not_or, not_exists] at howner
  obtain ⟨hcleared, hforeign⟩ := howner
  refine ⟨?_, fun i r hr => ?_⟩
  · rw [names_act]
    cases a with
    | openBatch n =>
        have hne : name ≠ n := fun heq => hcleared (congrArg some heq.symm)
        exact List.mem_cons_of_mem _ ((List.mem_erase_of_ne hne).2 h.there)
    | closeBatch n =>
        have hne : name ≠ n := fun heq => hcleared (congrArg some heq.symm)
        exact (List.mem_erase_of_ne hne).2 h.there
    | _ => exact h.there
  · obtain ⟨new, hnew, rfl | ⟨hempty, -⟩⟩ :=
      slot?_act (Registry.Balances.names hbalanced) hcleared hforeign (h.slots i r hr)
    · exact hnew
    · cases hempty

/-- Replies that are listed stay listed through any number of acts of others. -/
theorem Lists.plays {acts : List Act} (h : s.Lists name rs) (hbalanced : s.Balanced)
    (hplays : s.Plays acts t) (howner : ∀ a ∈ acts, ¬ a.IsOwners name) : t.Lists name rs := by
  have hboth := hplays.preserves_of (P := fun s => s.Balanced ∧ s.Lists name rs)
    (fun _ _ hs ha hfirst => ⟨hs.1.act ha, hs.2.act hs.1 hfirst⟩) howner ⟨hbalanced, h⟩
  exact hboth.2

/-- A batch has all its replies just when the link owes none to it. -/
theorem Balanced.isSettled_iff (h : s.Balanced) {b : Batch} (hb : s.batch? name = some b) :
    b.isSettled ↔ ∀ t ∈ s.owed, t.batch ≠ name := by
  rw [Registry.Balances.isSettled_iff h hb, Ticket.positions_eq_nil_iff]

end Session

namespace Client

open Session

variable {client : Client} {label : String} {rs : List Reply} {b : Batch}

/-- Steps that leave the replies of a batch alone do nothing that its owner could do. -/
theorem not_isOwners_stepActs (client : Client) {step : Step}
    (hstep : step.rewritten? ≠ some label) :
    ∀ a ∈ client.stepActs step, ¬ a.IsOwners (.named label) := by
  have hother : ∀ a : Act, a.subject? ≠ some (.named label) → ¬ a.IsOwners (.named label) :=
    fun a hne howner => hne (Act.subject?_of_isOwners howner)
  have hlink : ∀ a : Act, a.subject? = none → a.EndsKnown → ¬ a.IsOwners (.named label) :=
    fun a hnone _ => hother a (by rw [hnone]; exact nofun)
  have hcall : ∀ a : Act, a.subject? = some .oneShot → ¬ a.IsOwners (.named label) :=
    fun a hone => hother a (by rw [hone]; exact nofun)
  by_cases hsubmit : ∃ own c meanwhile, step = .submit own c meanwhile
  · -- A submission changes its batch, but none of the replies that are there.
    obtain ⟨own, c, meanwhile, rfl⟩ := hsubmit
    refine forall_mem_submitActs hlink client meanwhile ?_
    rintro (hcleared | ⟨changes, hwrite⟩)
    · cases hcleared
    · cases hwrite
  · have hchanged : step.changed? = step.rewritten? := by
      cases step with
      | submit own c meanwhile => exact absurd ⟨own, c, meanwhile, rfl⟩ hsubmit
      | _ => rfl
    refine forall_mem_stepActs hlink hcall client step fun own hown a hsubject => ?_
    refine hother a fun heq => hstep ?_
    rw [hsubject] at heq
    cases heq
    rw [← hchanged]
    exact hown

/-- Steps that rewrite no reply of a batch do nothing that only its owner does. -/
theorem not_isOwners_acts (client : Client) {later : List Step}
    (hlater : ∀ step ∈ later, step.rewritten? ≠ some label) :
    ∀ a ∈ client.acts later, ¬ a.IsOwners (.named label) := by
  induction later generalizing client with
  | nil => exact List.forall_mem_nil _
  | cons step later ih =>
      obtain ⟨hstep, hlater⟩ := List.forall_mem_cons.1 hlater
      exact List.forall_mem_append.2 ⟨not_isOwners_stepActs client hstep, ih _ hlater⟩

/-! ## What is done with a settled batch -/

section

variable (hb : client.session.batch? (.named label) = some b) (hsettled : b.isSettled)

include hb hsettled

theorem withSettled_eq (use : Batch → Client × Outcome) :
    client.withSettled label use = use b := by
  rw [withSettled, hb]
  exact if_pos hsettled

/-- A batch that has all its replies shows them whatever use is made of it. -/
theorem shows_of_settled (hready : client.session.Ready) : client.Shows label b.replies := by
  have hwaiting := Registry.Balances.waiting_eq_nil hready.balanced hb hsettled
  refine ⟨⟨b, hb, Batch.shows_of_waiting hsettled hwaiting⟩,
    (hready.balanced.isSettled_iff hb).1 hsettled, step_read hb hsettled, fun changes => ?_, ?_⟩
  · exact congrArg Prod.snd (withSettled_eq hb hsettled _)
  · exact congrArg Prod.snd (withSettled_eq hb hsettled _)

/-- Replacing replies changes the batch that they belong to. -/
theorem step_overwrite_eq (changes : List (Nat × Reply)) :
    (client.step (.overwrite label changes)).1 =
      client.onSession fun s => s.update (.named label) fun b => b.overwriteAll changes :=
  congrArg Prod.fst (withSettled_eq hb hsettled _)

end

/-- A batch that shows a list lists it. -/
theorem lists_of_shows (h : client.Shows label rs) : client.session.Lists (.named label) rs := by
  obtain ⟨b, hb, hshows⟩ := h.batch
  refine ⟨isSome_batch?_iff.1 (Option.isSome_iff_exists.2 ⟨b, hb⟩), fun i r hr => ?_⟩
  rw [slot?_eq_of_batch? hb, ← Array.getElem?_toList, hshows.filled, List.getElem?_map, hr]
  rfl

/-- What a batch shows is kept by whatever happens to others. -/
theorem retains_of_shows (hready : client.session.Ready) (h : client.Shows label rs) :
    client.Retains label rs := by
  intro later hlater after
  obtain ⟨hplays, hend⟩ := leads_run hready later
  have hlists := (lists_of_shows h).plays hready.balanced hplays (not_isOwners_acts client hlater)
  obtain ⟨b, hb⟩ := Option.isSome_iff_exists.1 (isSome_batch?_iff.2 hlists.there)
  have hslots : ∀ (i : Nat) r, rs[i]? = some r → b.slots[i]? = some ⟨some r⟩ := by
    intro i r hr
    rw [← slot?_eq_of_batch? hb]
    exact hlists.slots i r hr
  refine ⟨b, hb, hslots, fun hsettled => ?_⟩
  have hfront : rs <+: b.replies := by
    rw [List.prefix_iff_getElem?]
    intro i hi
    rw [Batch.replies, List.getElem?_map, Array.getElem?_toList,
      hslots i rs[i] (List.getElem?_eq_getElem hi)]
    rfl
  obtain ⟨more, hmore⟩ := hfront
  refine ⟨more, ?_⟩
  rw [hmore]
  exact shows_of_settled hb hsettled hend

/-- Where a batch shows a list, overwriting replaces the replies in every view. -/
theorem replaces_of_shows (hready : client.session.Ready) (h : client.Shows label rs)
    (changes : List (Nat × Reply)) : client.Replaces label rs changes := by
  obtain ⟨b, hb, hshows⟩ := h.batch
  have hwrite := step_overwrite_eq hb hshows.settled changes
  obtain ⟨-, hready'⟩ := leads_step hready (.overwrite label changes)
  have hafter : ∀ name, (client.step (.overwrite label changes)).1.session.batch? name =
      if name = .named label then (client.session.batch? name).map (Batch.overwriteAll · changes)
      else client.session.batch? name := by
    intro name
    simp [hwrite]
  have hbatch := hafter (.named label)
  rw [if_pos rfl, hb] at hbatch
  have hsettled : (b.overwriteAll changes).isSettled := by
    simpa [Batch.isSettled] using hshows.settled
  have hreplaced := shows_of_settled hbatch hsettled hready'
  rw [Batch.replies_overwriteAll, hshows.replies] at hreplaced
  exact ⟨hreplaced, retains_of_shows hready' hreplaced, by rw [hwrite]; rfl, by rw [hwrite]; rfl,
    fun name hname => by simp [hafter, hname], by simp [hwrite]⟩

/-- At any time a batch has all its replies just when the link owes none to it. Then all ways of
looking at it show the same list, without a stand-in for a missing reply. What is listed stays as it
is, whatever steps follow, until the owner of the batch takes it away or replaces it; and replies
that are replaced are replaced in all views, at their positions and nowhere else. -/
theorem run_views_agree (ceiling : Nat) (steps : List Step) (label : String) (b : Batch)
    (hb : ((ofCeiling ceiling).run steps).session.batch? (.named label) = some b) :
    let client := (ofCeiling ceiling).run steps
    (b.isSettled ↔ ∀ t ∈ client.session.owed, t.batch ≠ .named label) ∧
      (b.isSettled → ∃ rs, client.Shows label rs ∧ client.Retains label rs ∧
        ∀ changes, client.Replaces label rs changes) := by
  intro client
  obtain ⟨-, hready⟩ := leads_run_ofCeiling ceiling steps
  refine ⟨hready.balanced.isSettled_iff hb, fun hsettled => ?_⟩
  have hshows := shows_of_settled hb hsettled hready
  exact ⟨b.replies, hshows, retains_of_shows hready hshows, replaces_of_shows hready hshows⟩

/-- Two commands have been answered, the second one with nil. Its reply is replaced, and what is
listed then stays when the server ends the link under a third command. -/
theorem run_views_agree_replaced :
    let client := (ofCeiling 3).run [.connect .established, .openBatch "b",
      .submit "b" .ping none, .submit "b" .ping none, .send (Utf8.encode ":1\r\n$-1\r\n")]
    let replaced := (client.step (.overwrite "b" [(1, .integer 2)])).1
    let later : List Step := [.read "b", .submit "b" .ping none, .hangUp []]
    client.Shows "b" [.integer 1, .nil] ∧
      ∃ more, (replaced.run later).Shows "b" ([.integer 1, .integer 2] ++ more) := by
  intro client replaced later
  let b : Batch := ⟨#[⟨some (.integer 1)⟩, ⟨some .nil⟩], 0⟩
  have hb : client.session.batch? (.named "b") = some b := by decide +kernel
  obtain ⟨-, hviews⟩ := run_views_agree 3 _ "b" b hb
  obtain ⟨rs, hshows, -, hreplaces⟩ := hviews rfl
  have hrs : rs = [.integer 1, .nil] := by
    obtain ⟨b', hb', hlist⟩ := hshows.batch
    cases hb.symm.trans hb'
    exact hlist.replies.symm
  subst hrs
  obtain ⟨after, hafter, -, hmore⟩ := (hreplaces [(1, .integer 2)]).retains later (by decide)
  have hsettled : ((replaced.run later).session.batch? (.named "b")).map Batch.isSettled =
      some true := by
    decide +kernel
  rw [hafter] at hsettled
  exact ⟨hshows, hmore (Option.some.inj hsettled)⟩

end Client

end CommandPipeline
