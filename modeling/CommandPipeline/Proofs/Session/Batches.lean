import CommandPipeline.Session.Registry

/-!
# Batches and their empty slots

The commands of a batch that wait for a reply are the positions of its empty slots. `Batch.waiting`
lists them in order, and each operation on a batch has one lemma that says what becomes of that
list. The look-ups by name have one lemma for each way of changing the batches of a connection.
-/

namespace CommandPipeline

/-! ## Slots -/

namespace Slot

/-- Filling never empties a slot, and an empty slot is filled. -/
theorem fill_ne_empty (s : Slot) (r : Reply) : s.fill r ≠ .empty := by
  obtain ⟨content⟩ := s
  cases content <;> simp [fill, empty]

@[simp] theorem fill_empty (r : Reply) : Slot.empty.fill r = ⟨some r⟩ := rfl

theorem overwrite_ne_empty (s : Slot) (r : Reply) : s.overwrite r ≠ .empty := by
  simp [overwrite, empty]

end Slot

/-! ## One batch -/

namespace Batch

/-- The positions of the commands that wait for a reply, in the order of submission. -/
def waiting (b : Batch) : List Nat :=
  (List.range b.size).filter fun i => b.slots[i]? = some .empty

/-- A command waits as long as its slot is empty. -/
@[simp] theorem mem_waiting_iff {b : Batch} {i : Nat} :
    i ∈ b.waiting ↔ b.slots[i]? = some .empty := by
  simp only [waiting, size, List.mem_filter, List.mem_range, decide_eq_true_eq,
    and_iff_right_iff_imp]
  intro h
  obtain ⟨hi, -⟩ := Array.getElem?_eq_some_iff.1 h
  exact hi

/-- The commands that wait are listed in the order of submission. -/
theorem waiting_pairwise (b : Batch) : b.waiting.Pairwise (· < ·) :=
  (List.pairwise_lt_range).filter _

theorem waiting_nodup (b : Batch) : b.waiting.Nodup :=
  b.waiting_pairwise.imp Nat.ne_of_lt

@[simp] theorem size_push (b : Batch) : b.push.size = b.size + 1 := by simp [push, size]

@[simp] theorem size_resolve (b : Batch) (i : Nat) (r : Reply) : (b.resolve i r).size = b.size := by
  simp [resolve, size]

/-- A new command waits behind all others. -/
@[simp] theorem waiting_push (b : Batch) : b.push.waiting = b.waiting ++ [b.size] := by
  -- The earlier slots are the same in the longer array.
  have hbefore : (List.range b.size).filter (fun i => b.push.slots[i]? = some .empty) =
      b.waiting := by
    apply List.filter_congr
    intro i hi
    rw [List.mem_range] at hi
    have hne : i ≠ b.slots.size := Nat.ne_of_lt hi
    simp [push, Array.getElem?_push, hne]
  have hlast : b.push.slots[b.size]? = some .empty := by simp [push, size]
  rw [waiting, size_push, List.range_succ, List.filter_append, hbefore]
  simp [hlast]

/-- A command that is answered does not wait any longer. The others are not touched. -/
@[simp] theorem waiting_resolve (b : Batch) (i : Nat) (r : Reply) :
    (b.resolve i r).waiting = b.waiting.filter fun j => j ≠ i := by
  rw [waiting, waiting, size_resolve, List.filter_filter]
  apply List.filter_congr
  intro j _
  by_cases hj : i = j
  · -- Filling never leaves a slot empty, so the position is gone whatever the slot held before.
    subst hj
    cases hslot : b.slots[i]? with
    | none => simp [resolve, Array.getElem?_modify, hslot]
    | some s => simp [resolve, Array.getElem?_modify, hslot, s.fill_ne_empty r]
  · have hji : j ≠ i := fun h => hj h.symm
    simp [resolve, Array.getElem?_modify, hj, hji]

/-- The oldest command of a batch is answered. -/
theorem waiting_resolve_of_cons {b : Batch} {i : Nat} {rest : List Nat} (h : b.waiting = i :: rest)
    (r : Reply) : (b.resolve i r).waiting = rest := by
  have hnodup := b.waiting_nodup
  rw [h, List.nodup_cons] at hnodup
  rw [waiting_resolve, h, List.filter_cons_of_neg (by simp)]
  apply List.filter_eq_self.2
  intro j hj
  have hne : j ≠ i := by
    rintro rfl
    exact hnodup.1 hj
  simpa using hne

@[simp] theorem size_overwriteAll (b : Batch) (changes : List (Nat × Reply)) :
    (b.overwriteAll changes).size = b.size := by
  induction changes generalizing b with
  | nil => rfl
  | cons change changes ih =>
      rw [overwriteAll, List.foldl_cons]
      refine (ih _).trans ?_
      simp [size]

/-- Overwriting does not count as answering. -/
@[simp] theorem outstanding_overwriteAll (b : Batch) (changes : List (Nat × Reply)) :
    (b.overwriteAll changes).outstanding = b.outstanding := by
  induction changes generalizing b with
  | nil => rfl
  | cons change changes ih =>
      rw [overwriteAll, List.foldl_cons]
      exact ih _

/-- Overwriting empties no slot. -/
theorem slot_of_overwriteAll {b : Batch} {changes : List (Nat × Reply)} {i : Nat}
    (h : (b.overwriteAll changes).slots[i]? = some .empty) : b.slots[i]? = some .empty := by
  induction changes generalizing b with
  | nil => exact h
  | cons change changes ih =>
      rw [overwriteAll, List.foldl_cons] at h
      have hstep := ih h
      rw [Array.getElem?_modify] at hstep
      split at hstep
      · obtain ⟨s, -, hs⟩ := Option.map_eq_some_iff.1 hstep
        exact absurd hs (s.overwrite_ne_empty change.2)
      · exact hstep

/-- Overwriting leaves the positions alone that it does not name. -/
theorem slot_overwriteAll_of_not_mem {b : Batch} {changes : List (Nat × Reply)} {i : Nat}
    (h : i ∉ changes.map Prod.fst) : (b.overwriteAll changes).slots[i]? = b.slots[i]? := by
  induction changes generalizing b with
  | nil => rfl
  | cons change changes ih =>
      rw [List.map_cons, List.mem_cons, not_or] at h
      have hne : change.1 ≠ i := fun heq => h.1 heq.symm
      rw [overwriteAll, List.foldl_cons]
      refine (ih h.2).trans ?_
      simp [Array.getElem?_modify, hne]

/-- A batch in which nothing waits still has nothing that waits after its owner has overwritten
replies. -/
theorem waiting_overwriteAll {b : Batch} (h : b.waiting = []) (changes : List (Nat × Reply)) :
    (b.overwriteAll changes).waiting = [] := by
  rw [List.eq_nil_iff_forall_not_mem]
  intro i hi
  have hmem := mem_waiting_iff.2 (slot_of_overwriteAll (mem_waiting_iff.1 hi))
  rw [h] at hmem
  exact absurd hmem List.not_mem_nil

end Batch

/-! ## Batches under their names -/

namespace Batches

variable {batches : Batches} {name n : BatchName}

/-- Only the batch of that name is changed. -/
theorem get?_modify (f : Batch → Batch) :
    get? n (modify name f batches) =
      if n = name then (get? n batches).map f else get? n batches := by
  induction batches with
  | nil => simp [modify, get?]
  | cons entry batches ih =>
      obtain ⟨m, b⟩ := entry
      rw [modify]
      by_cases hm : m = name
      · subst hm
        by_cases hn : m = n
        · simp [get?, hn]
        · have hnm : n ≠ m := fun h => hn h.symm
          simp [get?, hn, hnm]
      · rw [if_neg hm, get?, get?, ih]
        by_cases hn : m = n
        · subst hn
          simp [hm]
        · simp [hn]

@[simp] theorem names_modify (f : Batch → Batch) :
    (modify name f batches).map Prod.fst = batches.map Prod.fst := by
  induction batches with
  | nil => rfl
  | cons entry batches ih =>
      obtain ⟨m, b⟩ := entry
      rw [modify]
      split
      · rfl
      · simp [ih]

/-- A batch that is found is listed. -/
theorem mem_names_of_get? {b : Batch} (h : get? name batches = some b) :
    name ∈ batches.map Prod.fst := by
  induction batches with
  | nil => simp [get?] at h
  | cons entry batches ih =>
      obtain ⟨m, c⟩ := entry
      rw [get?] at h
      split at h
      · next hm => simp [hm]
      · exact List.mem_cons_of_mem _ (ih h)

/-- A name that is listed has a batch. -/
theorem exists_of_mem_names (h : name ∈ batches.map Prod.fst) :
    ∃ b, get? name batches = some b := by
  induction batches with
  | nil => exact absurd h List.not_mem_nil
  | cons entry batches ih =>
      obtain ⟨m, c⟩ := entry
      rw [get?]
      by_cases hm : m = name
      · exact ⟨c, by rw [if_pos hm]⟩
      · have hne : name ≠ m := fun h => hm h.symm
        rw [if_neg hm]
        rw [List.map_cons, List.mem_cons] at h
        exact ih (h.resolve_left hne)

theorem get?_eq_none_iff : get? name batches = none ↔ name ∉ batches.map Prod.fst := by
  constructor
  · intro h hmem
    obtain ⟨b, hb⟩ := exists_of_mem_names hmem
    rw [h] at hb
    cases hb
  · intro h
    cases hget : get? name batches with
    | none => rfl
    | some b => exact absurd (mem_names_of_get? hget) h

/-- Where no name is used twice, every batch is found under its own. -/
theorem get?_of_mem {b : Batch} (hnames : (batches.map Prod.fst).Nodup)
    (h : (name, b) ∈ batches) : get? name batches = some b := by
  induction batches with
  | nil => exact absurd h List.not_mem_nil
  | cons entry batches ih =>
      obtain ⟨m, c⟩ := entry
      rw [List.map_cons, List.nodup_cons] at hnames
      rw [get?]
      rcases List.mem_cons.1 h with heq | hmem
      · cases heq
        rw [if_pos rfl]
      · have hm : m ≠ name := by
          rintro rfl
          exact hnames.1 (List.mem_map.2 ⟨_, hmem, rfl⟩)
        rw [if_neg hm]
        exact ih hnames.2 hmem

@[simp] theorem names_erase :
    (erase name batches).map Prod.fst = (batches.map Prod.fst).erase name := by
  induction batches with
  | nil => rfl
  | cons entry batches ih =>
      obtain ⟨m, c⟩ := entry
      rw [erase, List.map_cons]
      by_cases hm : m = name
      · subst hm
        simp
      · rw [if_neg hm, List.map_cons, ih, List.erase_cons_tail (by simpa using hm)]

/-- Where no name is used twice, nothing is found any longer under a name that is removed. -/
theorem get?_erase (hnames : (batches.map Prod.fst).Nodup) :
    get? n (erase name batches) = if n = name then none else get? n batches := by
  by_cases hn : n = name
  · subst hn
    rw [if_pos rfl, get?_eq_none_iff]
    simp [hnames.mem_erase_iff]
  · rw [if_neg hn]
    clear hnames
    induction batches with
    | nil => rfl
    | cons entry batches ih =>
        obtain ⟨m, c⟩ := entry
        rw [erase]
        by_cases hm : m = name
        · have hmn : m ≠ n := fun h => hn (h.symm.trans hm)
          rw [if_pos hm, get?, if_neg hmn]
        · rw [if_neg hm, get?, get?, ih]

/-- Where no name is used twice, what is put under a name replaces what was there. -/
theorem get?_put (hnames : (batches.map Prod.fst).Nodup) (b : Batch) :
    get? n (put name b batches) = if n = name then some b else get? n batches := by
  rw [put, get?]
  by_cases hn : n = name
  · rw [if_pos hn.symm, if_pos hn]
  · have hne : name ≠ n := fun h => hn h.symm
    rw [if_neg hne, if_neg hn, get?_erase hnames, if_neg hn]

/-- No name is used twice after a batch has been put under one. -/
theorem names_put_nodup (hnames : (batches.map Prod.fst).Nodup) (b : Batch) :
    ((put name b batches).map Prod.fst).Nodup := by
  simp [put, hnames.mem_erase_iff, hnames.erase name]

/-- No name is used twice after a batch has been removed. -/
theorem names_erase_nodup (hnames : (batches.map Prod.fst).Nodup) :
    ((erase name batches).map Prod.fst).Nodup := by
  simpa using hnames.erase name

end Batches

end CommandPipeline
