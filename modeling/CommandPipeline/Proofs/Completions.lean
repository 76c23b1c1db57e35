import Mathlib.Data.List.TakeWhile
import CommandPipeline.Ledger

/-!
# Completions are used up once

What is to be seen of an entry of a ledger follows from the steps on it alone. Its completion is
used up by the first step that answers it, and its slot holds that answer from then on, or whatever
its owner has written over it since. The counters say how many completions have not been used up.
All of this holds after every sequence of steps, whichever of them come to nothing.
-/

namespace CommandPipeline.Ledger

/-! ## Entries by the steps that were taken on them -/

/-- The ledger after some steps. -/
def run (l : Ledger) (steps : List Step) : Ledger := steps.foldl (fun l s => (l.step s).1) l

/-- The number of completions that have not been used up. -/
def live (l : Ledger) : Nat := l.entries.countP Entry.live

/-- The reply that a step has for the completion of an entry. -/
def Step.answer? (index : Nat) : Step → Option Reply
  | .complete i r => if i = index then some r else none
  | .fail i message => if i = index then some (.error message) else none
  | .abandon i => if i = index then some (.error Slot.abandonedMessage) else none
  | _ => none

/-- The reply that a step has for the owner's part of an entry. -/
def Step.written? (index : Nat) : Step → Option Reply
  | .overwrite i r => if i = index then some r else none
  | _ => none

/-- The first answer to an entry. -/
def answer? (index : Nat) (steps : List Step) : Option Reply :=
  steps.findSome? (Step.answer? index)

/-- The steps from the first answer to an entry on. -/
def sinceAnswer (index : Nat) (steps : List Step) : List Step :=
  steps.dropWhile fun s => (s.answer? index).isNone

/-- What an entry holds: its first answer, or what was written last since then. -/
def content? (index : Nat) (steps : List Step) : Option Reply :=
  (answer? index steps).map fun r =>
    ((sinceAnswer index steps).filterMap (Step.written? index)).getLast?.getD r

/-- What is to be seen of an entry after the steps since its opening. -/
structure Shows (l : Ledger) (index : Nat) (steps : List Step) : Prop where
  /-- A completion without an answer can be used up, also when the slot has been taken away. That
  gives back one permit and counts one entry less. -/
  usedUp : answer? index steps = none → ∀ s r, s.answer? index = some r →
    (l.step s).2 = .done ∧ (l.step s).1.permits.taken + 1 = l.permits.taken ∧
      (l.step s).1.outstanding + 1 = l.outstanding
  /-- After that there is nothing left to use up. -/
  once : ∀ r, answer? index steps = some r → ∀ s r', s.answer? index = some r' →
    l.step s = (l, .consumed)
  /-- Before the answer there is nothing to get. -/
  get : .take index ∉ steps → l.step (.get index) = (l, .found (content? index steps))
  /-- Before the answer a slot reads as nil. -/
  read : .take index ∉ steps →
    l.step (.read index) = (l, .found (some ((content? index steps).getD .nil)))
  /-- Taking a slot away gives the same reply as reading it. -/
  take : .take index ∉ steps →
    (l.step (.take index)).2 = .found (some ((content? index steps).getD .nil))
  /-- Only a slot with an answer can be written to. -/
  overwrite : .take index ∉ steps → ∀ r, (l.step (.overwrite index r)).2 =
    match content? index steps with
    | none => .shared
    | some old => .found (some old)
  /-- A slot that has been taken away is gone. -/
  gone : .take index ∈ steps → l.step (.get index) = (l, .taken) ∧
    l.step (.read index) = (l, .taken) ∧ l.step (.take index) = (l, .taken) ∧
      ∀ r, l.step (.overwrite index r) = (l, .taken)

/-! ## Answers and writes, step by step -/

section

variable {index : Nat} {steps : List Step} {s : Step}

/-- The first answer stays the answer, and only without one does a further step count. -/
@[simp] theorem answer?_append (index : Nat) (steps : List Step) (s : Step) :
    answer? index (steps ++ [s]) = (answer? index steps).or (s.answer? index) := by
  rw [answer?, List.findSome?_append, List.findSome?_singleton]
  rfl

/-- An answer is no write. -/
theorem written?_of_answer? {r : Reply} (h : s.answer? index = some r) :
    s.written? index = none := by
  cases s <;> first | rfl | cases h

/-- There is content as soon as there is an answer. -/
@[simp] theorem content?_eq_none_iff :
    content? index steps = none ↔ answer? index steps = none := by
  rw [content?, Option.map_eq_none_iff]

/-- An entry without an answer gets one, and one with an answer is written over. -/
theorem content?_append (index : Nat) (steps : List Step) (s : Step) :
    content? index (steps ++ [s]) =
      match content? index steps with
      | none => s.answer? index
      | some r => some ((s.written? index).getD r) := by
  have hsince : sinceAnswer index steps = [] ↔ answer? index steps = none := by
    rw [sinceAnswer, List.dropWhile_eq_nil_iff, answer?, List.findSome?_eq_none_iff]
    simp only [Option.isNone_iff_eq_none]
  rw [content?, content?, answer?_append, sinceAnswer, List.dropWhile_append, ← sinceAnswer]
  cases hanswer : answer? index steps with
  | none =>
      rw [hsince.2 hanswer]
      cases hs : s.answer? index with
      | none => rfl
      | some r => simp [hs, written?_of_answer? hs]
  | some r =>
      have hne : sinceAnswer index steps ≠ [] := by
        intro hnil
        rw [hsince.1 hnil] at hanswer
        cases hanswer
      rw [if_neg (by simpa using hne), List.filterMap_append, List.getLast?_append]
      cases hs : s.written? index <;> simp [hs]

/-- A step on another entry answers nothing. -/
theorem answer?_of_index?_ne (h : s.index? ≠ some index) : s.answer? index = none := by
  cases s <;> simp_all [Step.answer?, Step.index?]

/-- A step that is about another completion writes nothing here. -/
theorem written?_of_index?_ne (h : s.index? ≠ some index) : s.written? index = none := by
  cases s <;> simp_all [Step.written?, Step.index?]

/-- A step that answers a completion is about it. -/
theorem index?_of_answer? {r : Reply} (h : s.answer? index = some r) : s.index? = some index := by
  by_contra hne
  rw [answer?_of_index?_ne hne] at h
  cases h

end

/-! ## What a step can do -/

section

variable {l : Ledger} {index : Nat} {s : Step} {e : Entry} {r : Reply}

/-- A step that is about an existing completion acts on the entry of that completion. -/
theorem step_eq_stepAt (hs : s.index? = some index) (he : l.entries[index]? = some e) :
    l.step s = l.stepAt index e s := by
  rw [step, hs]
  dsimp only
  rw [he]

/-- The three ways of answering are one. -/
theorem step_eq_resolve (hs : s.answer? index = some r) (he : l.entries[index]? = some e) :
    l.step s = l.resolve index e r := by
  rw [step_eq_stepAt (index?_of_answer? hs) he]
  cases s with
  | complete i r' | fail i r' | abandon i =>
      rw [Step.answer?] at hs
      split at hs
      · cases hs
        rfl
      · cases hs
  | _ => cases hs

/-- Whatever a step does is one of four things: nothing, opening an entry with a free permit, using
up a live completion, or changing the slot of an entry. -/
theorem step_cases (l : Ledger) (s : Step) :
    (l.step s).1 = l ∨
      (s = .pair ∧ l.permits.taken < l.permits.ceiling ∧ (l.step s).1 =
        ⟨l.permits.take, l.outstanding + 1, l.entries ++ [⟨some .empty, true⟩]⟩) ∨
      (∃ i e slot, s.index? = some i ∧ l.entries[i]? = some e ∧ e.live = true ∧ (l.step s).1 =
        ⟨l.permits.release, l.outstanding - 1, l.entries.set i ⟨slot, false⟩⟩) ∨
      ∃ i e slot, s.index? = some i ∧ l.entries[i]? = some e ∧
        (l.step s).1 = ⟨l.permits, l.outstanding, l.entries.set i ⟨slot, e.live⟩⟩ := by
  cases hindex : s.index? with
  | none =>
      obtain rfl : s = .pair := by cases s <;> first | rfl | cases hindex
      rw [step, hindex]
      dsimp only [pair, Permits.acquire?, Permits.isFull]
      by_cases hfull : l.permits.ceiling ≤ l.permits.taken
      · simp [hfull]
      · simp [hfull, Nat.lt_of_not_le hfull]
  | some i =>
      cases he : l.entries[i]? with
      | none =>
          rw [step, hindex]
          dsimp only
          rw [he]
          exact .inl rfl
      | some e =>
          cases hanswer : s.answer? i with
          | some r =>
              rw [step_eq_resolve hanswer he, resolve]
              cases hlive : e.live with
              | false => exact .inl rfl
              | true => exact .inr (.inr (.inl ⟨i, e, _, rfl, he, hlive, rfl⟩))
          | none =>
              rw [step_eq_stepAt hindex he]
              cases s with
              | pair => cases hindex
              | complete j r | fail j r | abandon j =>
                  cases hindex
                  simp [Step.answer?] at hanswer
              | get j | read j =>
                  rw [stepAt, withSlot]
                  split <;> exact .inl rfl
              | overwrite j r =>
                  rw [stepAt, withSlot]
                  split
                  · exact .inl rfl
                  · cases hlive : e.live with
                    | true => exact .inl rfl
                    | false => exact .inr (.inr (.inr ⟨i, e, _, rfl, he, by rw [hlive]; rfl⟩))
              | take j =>
                  rw [stepAt, withSlot]
                  split
                  · exact .inl rfl
                  · exact .inr (.inr (.inr ⟨i, e, _, rfl, he, rfl⟩))

/-- A step on one entry leaves all others as they are. -/
theorem step_other (he : l.entries[index]? = some e) (hs : s.index? ≠ some index) :
    (l.step s).1.entries[index]? = some e := by
  have hset : ∀ i new, s.index? = some i → (l.entries.set i new)[index]? = some e := by
    intro i new hi
    have hne : i ≠ index := by
      rintro rfl
      exact hs hi
    rw [List.getElem?_set_ne hne, he]
  rcases step_cases l s with h | ⟨_, _, h⟩ | ⟨i, _, slot, hi, -, -, h⟩ | ⟨i, _, slot, hi, -, h⟩
  · rw [h, he]
  · obtain ⟨hindex, -⟩ := List.getElem?_eq_some_iff.1 he
    rw [h]
    exact (List.getElem?_append_left hindex).trans he
  · rw [h]
    exact hset i _ hi
  · rw [h]
    exact hset i _ hi

end

/-! ## The counters -/

/-- The permits taken and the count of the ledger are both the number of live completions, and there
are as many permits as was said. -/
structure Counts (l : Ledger) (ceiling : Nat) : Prop where
  taken : l.permits.taken = l.live
  outstanding : l.outstanding = l.live
  pool : l.permits.ceiling = max 1 ceiling
  bounded : l.live ≤ max 1 ceiling

/-- Without any completion nothing is counted. -/
theorem counts_ofCeiling (ceiling : Nat) : (ofCeiling ceiling).Counts ceiling :=
  ⟨rfl, rfl, rfl, Nat.zero_le _⟩

/-- The live completions after one entry has been replaced. -/
theorem countP_set_entry {entries : List Entry} {i : Nat} {e : Entry} (he : entries[i]? = some e)
    (new : Entry) : (entries.set i new).countP Entry.live + e.live.toNat =
      entries.countP Entry.live + new.live.toNat := by
  obtain ⟨hi, rfl⟩ := List.getElem?_eq_some_iff.1 he
  have hpos : entries[i].live = true → 0 < entries.countP Entry.live := fun h =>
    List.countP_pos_iff.2 ⟨_, List.getElem_mem hi, h⟩
  rw [List.countP_set hi]
  cases hold : entries[i].live <;> cases new.live <;> simp_all

/-- One step keeps the counters equal to the number of live completions. -/
theorem Counts.step {l : Ledger} {ceiling : Nat} (h : l.Counts ceiling) (s : Step) :
    (l.step s).1.Counts ceiling := by
  obtain ⟨htaken, houtstanding, hpool, hbounded⟩ := h
  rcases step_cases l s with hs | ⟨-, hfree, hs⟩ | ⟨i, e, slot, -, he, hlive, hs⟩ |
    ⟨i, e, slot, -, he, hs⟩ <;> rw [hs]
  · exact ⟨htaken, houtstanding, hpool, hbounded⟩
  · have hcount : (l.entries ++ [Entry.mk (some .empty) true]).countP Entry.live = l.live + 1 := by
      rw [List.countP_append]
      rfl
    have hroom : l.live + 1 ≤ max 1 ceiling := by omega
    exact ⟨(congrArg (· + 1) htaken).trans hcount.symm,
      (congrArg (· + 1) houtstanding).trans hcount.symm, hpool, hcount.trans_le hroom⟩
  · have hcount : (l.entries.set i ⟨slot, false⟩).countP Entry.live + 1 = l.live := by
      have hset := countP_set_entry he ⟨slot, false⟩
      rwa [hlive] at hset
    have hreleased : l.permits.release.taken + 1 = l.permits.taken :=
      Permits.taken_release_add_one (by omega)
    exact ⟨Nat.succ.inj ((hreleased.trans htaken).trans hcount.symm),
      Nat.sub_eq_of_eq_add (houtstanding.trans hcount.symm), hpool,
      Nat.le_of_succ_le (hcount.trans_le hbounded)⟩
  · have hcount : (l.entries.set i ⟨slot, e.live⟩).countP Entry.live = l.live :=
      Nat.add_right_cancel (countP_set_entry he ⟨slot, e.live⟩)
    exact ⟨htaken.trans hcount.symm, houtstanding.trans hcount.symm, hpool,
      hcount.trans_le hbounded⟩

/-- Any number of steps keeps the counters equal to the number of live completions. -/
theorem Counts.run {l : Ledger} {ceiling : Nat} (h : l.Counts ceiling) (steps : List Step) :
    (l.run steps).Counts ceiling := by
  induction steps generalizing l with
  | nil => exact h
  | cons s steps ih => exact ih (h.step s)

/-! ## One entry -/

/-- An entry after the steps since its opening, as they have it. -/
def entryAfter (index : Nat) (steps : List Step) : Entry :=
  ⟨if .take index ∈ steps then none else some ⟨content? index steps⟩,
    (answer? index steps).isNone⟩

section

variable {l : Ledger} {index : Nat} {steps : List Step} {s : Step}

/-- A step that answers nothing and does not take the slot away changes at most what is written. -/
theorem entryAfter_append (htake : s ≠ .take index) : entryAfter index (steps ++ [s]) =
    ⟨if .take index ∈ steps then none else some ⟨match content? index steps with
        | none => s.answer? index
        | some r => some ((s.written? index).getD r)⟩,
      ((answer? index steps).or (s.answer? index)).isNone⟩ := by
  have hmem : Step.take index ∈ steps ++ [s] ↔ .take index ∈ steps := by
    rw [List.mem_append, List.mem_singleton, or_iff_left (Ne.symm htake)]
  simp [entryAfter, hmem, content?_append]

/-- A step that neither answers, nor writes, nor takes leaves an entry as it is. -/
theorem entryAfter_of_quiet (htake : s ≠ .take index) (hanswer : s.answer? index = none)
    (hwritten : s.written? index = none) :
    entryAfter index (steps ++ [s]) = entryAfter index steps := by
  rw [entryAfter_append htake, hanswer, hwritten, Option.or_none, entryAfter]
  cases content? index steps <;> rfl

/-- An answer fills the slot of a live completion and comes too late for any other. -/
theorem entryAfter_of_answer {r : Reply} (h : s.answer? index = some r) :
    entryAfter index (steps ++ [s]) =
      if (entryAfter index steps).live then
        ⟨(entryAfter index steps).slot.map fun slot => slot.fill r, false⟩
      else entryAfter index steps := by
  have htake : s ≠ .take index := by
    rintro rfl
    cases h
  rw [entryAfter_append htake, h, written?_of_answer? h, entryAfter]
  cases hfirst : answer? index steps with
  | none =>
      rw [content?_eq_none_iff.2 hfirst]
      by_cases hmem : Step.take index ∈ steps <;> simp [hmem, Slot.fill]
  | some first =>
      cases hcontent : content? index steps with
      | none => simp_all
      | some r' => rfl

/-- A write reaches the slot once the completion is used up. -/
theorem entryAfter_overwrite (index : Nat) (steps : List Step) (r : Reply) :
    entryAfter index (steps ++ [.overwrite index r]) =
      if (entryAfter index steps).live then entryAfter index steps
      else ⟨(entryAfter index steps).slot.map fun slot => slot.overwrite r, false⟩ := by
  rw [entryAfter_append (s := .overwrite index r) nofun, entryAfter]
  cases hfirst : answer? index steps with
  | none =>
      rw [content?_eq_none_iff.2 hfirst]
      rfl
  | some first =>
      cases hcontent : content? index steps with
      | none => simp_all
      | some r' =>
          by_cases hmem : Step.take index ∈ steps <;>
            simp [hmem, Step.answer?, Step.written?, Slot.overwrite]

/-- Taking empties the entry of its slot and does not change whether the completion is live. -/
@[simp] theorem entryAfter_take (index : Nat) (steps : List Step) :
    entryAfter index (steps ++ [.take index]) = ⟨none, (entryAfter index steps).live⟩ := by
  simp [entryAfter, Step.answer?]

/-- What the steps say of an entry is how it goes on. -/
theorem entry_step (he : l.entries[index]? = some (entryAfter index steps)) (s : Step) :
    (l.step s).1.entries[index]? = some (entryAfter index (steps ++ [s])) := by
  by_cases hs : s.index? = some index
  · have hput : ∀ new : Entry, (l.entries.set index new)[index]? = some new := fun new =>
      List.getElem?_set_self (List.getElem?_eq_some_iff.1 he).1
    cases hanswer : s.answer? index with
    | some r =>
        rw [step_eq_resolve hanswer he, resolve, entryAfter_of_answer hanswer]
        split
        · exact hput _
        · exact he
    | none =>
        rw [step_eq_stepAt hs he]
        cases s with
        | pair => cases hs
        | complete j r | fail j r | abandon j =>
            cases hs
            simp [Step.answer?] at hanswer
        | get j | read j =>
            rw [entryAfter_of_quiet (by simp) hanswer rfl, stepAt, withSlot]
            split <;> exact he
        | overwrite j r =>
            cases hs
            rw [stepAt, withSlot, entryAfter_overwrite]
            generalize entryAfter index steps = e at *
            obtain ⟨_ | slot, _ | _⟩ := e
            · exact he
            · exact he
            · exact hput _
            · exact he
        | take j =>
            cases hs
            rw [stepAt, withSlot, entryAfter_take]
            generalize entryAfter index steps = e at *
            obtain ⟨_ | slot, live⟩ := e
            · exact he
            · exact hput _
  · have htake : s ≠ .take index := by
      rintro rfl
      exact hs rfl
    rw [entryAfter_of_quiet htake (answer?_of_index?_ne hs) (written?_of_index?_ne hs)]
    exact step_other he hs

/-- What the steps say of an entry is what any further steps lead to, by induction on these. -/
theorem entry_run (he : l.entries[index]? = some (entryAfter index steps)) (later : List Step) :
    (l.run later).entries[index]? = some (entryAfter index (steps ++ later)) := by
  induction later generalizing l steps with
  | nil => rwa [List.append_nil]
  | cons s later ih =>
      rw [List.append_cons]
      exact ih (entry_step he s)

/-- An entry that is opened comes behind all others, and nothing has been done to it. -/
theorem entry_pair (h : (l.step .pair).2 = .opened index) :
    (l.step .pair).1.entries[index]? = some (entryAfter index []) := by
  rw [step] at *
  dsimp only [Step.index?, pair] at *
  cases hpermits : l.permits.acquire? with
  | none =>
      rw [hpermits] at h
      cases h
  | some permits =>
      rw [hpermits] at h
      cases h
      exact List.getElem?_concat_length

/-- The entries and the counters say all that there is to be seen. -/
theorem Counts.shows {ceiling : Nat} (h : l.Counts ceiling)
    (he : l.entries[index]? = some (entryAfter index steps)) : l.Shows index steps := by
  have hat : ∀ s : Step, s.index? = some index →
      l.step s = l.stepAt index (entryAfter index steps) s := fun s hs => step_eq_stepAt hs he
  refine ⟨?_, ?_, ?_, ?_, ?_, ?_, ?_⟩
  · intro hquiet s r hs
    have hlive : (entryAfter index steps).live = true := by rw [entryAfter, hquiet]; rfl
    have hpos : 0 < l.live := List.countP_pos_iff.2 ⟨_, List.mem_of_getElem? he, hlive⟩
    rw [step_eq_resolve hs he, resolve, if_pos hlive]
    exact ⟨rfl, Permits.taken_release_add_one (h.taken ▸ hpos),
      Nat.sub_add_cancel (h.outstanding ▸ hpos)⟩
  · intro r hanswer s r' hs
    rw [step_eq_resolve hs he, resolve, entryAfter, hanswer]
    rfl
  · intro htake
    rw [hat _ rfl, entryAfter, if_neg htake]
    rfl
  · intro htake
    rw [hat _ rfl, entryAfter, if_neg htake]
    rfl
  · intro htake
    rw [hat _ rfl, entryAfter, if_neg htake]
    rfl
  · intro htake r
    rw [hat _ rfl, entryAfter, if_neg htake]
    cases hcontent : content? index steps with
    | none =>
        rw [content?_eq_none_iff.1 hcontent]
        rfl
    | some old =>
        have hanswer : answer? index steps ≠ none := fun hnone => by
          rw [content?_eq_none_iff.2 hnone] at hcontent
          cases hcontent
        rw [Option.isNone_eq_false_iff.2 (Option.isSome_iff_ne_none.2 hanswer)]
        rfl
  · intro htake
    refine ⟨?_, ?_, ?_, fun r => ?_⟩ <;> rw [hat _ rfl, entryAfter, if_pos htake] <;> rfl

/-- An entry is opened as long as a permit is free. -/
theorem Counts.pair {ceiling : Nat} (h : l.Counts ceiling) : (l.step .pair).2 =
    if l.live < max 1 ceiling then .opened l.entries.length else .full := by
  have hfull : l.permits.isFull = decide (max 1 ceiling ≤ l.live) := by
    rw [Permits.isFull, h.pool, h.taken]
  show l.pair.2 = _
  rw [Ledger.pair, Permits.acquire?, hfull]
  by_cases hfree : l.live < max 1 ceiling
  · rw [if_pos hfree, decide_eq_false (Nat.not_le_of_lt hfree)]
    rfl
  · rw [if_neg hfree, decide_eq_true (Nat.le_of_not_lt hfree)]
    rfl

end

/-! ## Runs -/

/-- After every run both counters are the number of completions that have not been used up, of which
there are never more than permits. From then on an entry that is opened shows what the steps on it
make of it, and what is done to one entry leaves all others alone. -/
theorem run_uses_up_once (ceiling : Nat) (before : List Step) :
    let l := (ofCeiling ceiling).run before
    l.Counts ceiling ∧
      (l.step .pair).2 = (if l.live < max 1 ceiling then .opened l.entries.length else .full) ∧
      (∀ index later, (l.step .pair).2 = .opened index →
        ((l.step .pair).1.run later).Shows index later) ∧
      ∀ s index e, l.entries[index]? = some e → s.index? ≠ some index →
        (l.step s).1.entries[index]? = some e := by
  intro l
  have hcounts : l.Counts ceiling := (counts_ofCeiling ceiling).run before
  refine ⟨hcounts, hcounts.pair, fun index later hopened => ?_, fun s index e he hs => ?_⟩
  · exact ((hcounts.step .pair).run later).shows (entry_run (entry_pair hopened) later)
  · exact step_other he hs

/-- With a single permit a second entry is opened once the first has been answered. Its slot is
taken away before its completion is dropped, and what was written to the first stays. -/
theorem run_uses_up_once_taken :
    let written : Entry := ⟨some ⟨some (.integer 8)⟩, false⟩
    let later : List Step := [.take 1, .fail 0 "late", .abandon 1]
    let l := (ofCeiling 0).run [.pair, .complete 0 (.integer 7), .overwrite 0 (.integer 8)]
    ((l.step .pair).2 = .opened 1 ∧ ((l.step .pair).1.run later).Shows 1 later) ∧
      l.entries[0]? = some written ∧ Step.pair.index? ≠ some 0 ∧
        (l.step .pair).1.entries[0]? = some written := by
  intro written later l
  have hopened : (l.step .pair).2 = .opened 1 := by decide
  have hwritten : l.entries[0]? = some written := by decide
  have hindex : Step.pair.index? ≠ some 0 := by decide
  obtain ⟨-, -, hshows, hothers⟩ := run_uses_up_once 0
    [.pair, .complete 0 (.integer 7), .overwrite 0 (.integer 8)]
  exact ⟨⟨hopened, hshows 1 later hopened⟩, hwritten, hindex, hothers _ 0 written hwritten hindex⟩

end CommandPipeline.Ledger
