import CommandPipeline.Proofs.Walks

/-!
# Entries one by one and in pairs

A step of a cursor draws one entry or, where the collection has them in pairs, two. What the steps
yield is therefore a matter of the entries of the whole walk, wherever its pages are cut: the pairs
are those of the first entry with the second, the third with the fourth, and so on
(`Cursor.pairUps_yields`). An entry that is left alone at the end of the collection is an error, and
one that is left alone by an error goes with it.
-/

namespace CommandPipeline.Cursor

variable {σ : Type} {request : Request σ} {fuel : σ → Nat} {P : σ → Prop} {c : Cursor} {s : σ}

/-! ## Single entries -/

/-- What a step has drawn by itself. -/
def Item.single? : Item → Option (Option (Except ClientError Bytes))
  | .single entry _ => some entry
  | .pair _ => none

/-- What requests keep is kept when an entry is drawn, and so is the collection. -/
theorem next_keeps (request : Request σ) (hkeeps : ∀ s c, P s → P (request s c).1) (fuel : Nat)
    (c : Cursor) (hs : P s) :
    P (Cursor.next request fuel c s).1 ∧
      (Cursor.next request fuel c s).2.1.collection = c.collection := by
  induction fuel generalizing c s with
  | zero =>
      unfold Cursor.next
      cases c.page with
      | cons entry page => exact ⟨hs, rfl⟩
      | nil => cases c.finished <;> exact ⟨hs, rfl⟩
  | succ fuel ih =>
      cases hpage : c.page with
      | cons entry page =>
          rw [next_cons _ _ hpage]
          exact ⟨hs, rfl⟩
      | nil =>
          cases hfinished : c.finished with
          | true =>
              rw [next_finished _ _ hpage hfinished]
              exact ⟨hs, rfl⟩
          | false =>
              have hkept := hkeeps s c.command hs
              rw [next_succ _ _ hpage hfinished]
              generalize request s c.command = answered at hkept ⊢
              obtain ⟨t, e | r⟩ := answered
              · exact ⟨hkept, rfl⟩
              · simp only [accept]
                cases readPage r with
                | error e => exact ⟨hkept, rfl⟩
                | ok result => exact ih (c.turn result.1 result.2) hkept

/-- Single steps draw one entry each. -/
theorem steps_single (request : Request σ) (fuel : σ → Nat) (count : Nat)
    (hsingle : c.collection.isPaired = false) (s : σ) :
    (steps request fuel count c s).1 = (draws request fuel count c s).1 ∧
      (steps request fuel count c s).2.map Item.single? =
        (draws request fuel count c s).2.2.map some := by
  induction count generalizing c s with
  | zero => exact ⟨rfl, rfl⟩
  | succ count ih =>
      obtain ⟨-, hcollection⟩ := next_keeps (P := fun _ => True) request (fun _ _ _ => trivial)
        (fuel s) c (s := s) trivial
      rw [steps, step, if_neg (by rw [hsingle]; exact Bool.false_ne_true), draws]
      generalize Cursor.next request (fuel s) c s = drawn at hcollection ⊢
      obtain ⟨t, c', entry⟩ := drawn
      obtain ⟨hstate, hitems⟩ := ih (c := c') (by rw [hcollection]; exact hsingle) t
      exact ⟨hstate, congrArg (some entry :: ·) hitems⟩

/-! ## Pairs -/

/-- What a step has drawn as a pair. -/
def Item.pair? : Item → Option (Option (Except ClientError (Bytes × Bytes)))
  | .pair entries => some entries
  | .single _ _ => none

/-- What two draws make together. -/
def pairUp :
    Option (Except ClientError Bytes) → Option (Except ClientError Bytes) →
      Option (Except ClientError (Bytes × Bytes))
  | none, _ => none
  | some (.error e), _ => some (.error e)
  | some (.ok _), none => some (.error (.reading (.mismatch .string .nil)))
  | some (.ok _), some (.error e) => some (.error e)
  | some (.ok first), some (.ok second) => some (.ok (first, second))

/-- What a number of draws make, two by two. -/
def pairUps :
    List (Option (Except ClientError Bytes)) → List (Option (Except ClientError (Bytes × Bytes)))
  | first :: second :: rest => pairUp first second :: pairUps rest
  | _ => []

/-- Behind an error or the end nothing more is drawn. -/
theorem next_again (hrelents : request.Relents (fuel s) s) {t : σ} {c' : Cursor}
    {drawn : Option (Except ClientError Bytes)}
    (hnext : Cursor.next request (fuel s) c s = (t, c', drawn))
    (hlast : ∀ entry, drawn ≠ some (.ok entry)) :
    Cursor.next request (fuel t) c' t = (t, c', none) := by
  cases hpage : c.page with
  | cons entry page =>
      rw [next_cons _ _ hpage] at hnext
      cases hnext
      exact absurd rfl (hlast entry)
  | nil =>
      cases hfinished : c.finished with
      | true =>
          rw [next_finished _ _ hpage hfinished] at hnext
          cases hnext
          exact next_finished _ _ hpage hfinished s
      | false =>
          obtain ⟨log, entries, standing, u, d, -, hturns, hresult⟩ :=
            exists_turns hrelents hpage hfinished
          rw [hresult] at hnext
          cases hnext
          cases entries with
          | cons entry entries => exact absurd rfl (hlast entry)
          | nil =>
              have hstands := hturns.stands
              cases standing with
              | live position => exact absurd rfl hstands.2.2
              | complete => exact next_finished _ _ hturns.page hstands t
              | broken e => exact next_finished _ _ hturns.page hstands.1 t

/-- A pair is what two draws make together, though behind an error or the end only one is made. -/
theorem nextPair_eq (hrelents : request.Relents (fuel s) s) {t u : σ} {c' c'' : Cursor}
    {first second : Option (Except ClientError Bytes)}
    (hfirst : Cursor.next request (fuel s) c s = (t, c', first))
    (hsecond : Cursor.next request (fuel t) c' t = (u, c'', second)) :
    nextPair request fuel c s = (u, c'', pairUp first second) := by
  unfold nextPair
  rw [hfirst]
  rcases first with _ | (e | entry)
  · cases (next_again hrelents hfirst nofun).symm.trans hsecond
    rfl
  · cases (next_again hrelents hfirst nofun).symm.trans hsecond
    rfl
  · dsimp only
    rw [hsecond]
    rcases second with _ | (e | entry) <;> rfl

/-- Paired steps draw two entries each. -/
theorem steps_paired (hkeeps : ∀ s c, P s → P (request s c).1)
    (hfuel : ∀ s, P s → request.Relents (fuel s) s) (count : Nat)
    (hpaired : c.collection.isPaired = true) (hs : P s) :
    (steps request fuel count c s).1 = (draws request fuel (2 * count) c s).1 ∧
      (steps request fuel count c s).2.map Item.pair? =
        (pairUps (draws request fuel (2 * count) c s).2.2).map some := by
  induction count generalizing c s with
  | zero => exact ⟨rfl, rfl⟩
  | succ count ih =>
      obtain ⟨ht, hcollection⟩ := next_keeps request hkeeps (fuel s) c hs
      rcases hfirst : Cursor.next request (fuel s) c s with ⟨t, c', first⟩
      rw [hfirst] at ht hcollection
      obtain ⟨hu, hcollection'⟩ := next_keeps request hkeeps (fuel t) c' ht
      rcases hsecond : Cursor.next request (fuel t) c' t with ⟨u, c'', second⟩
      rw [hsecond] at hu hcollection'
      have hstill : c''.collection.isPaired = true := by
        rw [hcollection', hcollection]
        exact hpaired
      obtain ⟨hstate, hitems⟩ := ih hstill hu
      rw [steps, step, if_pos hpaired, nextPair_eq (hfuel s hs) hfirst hsecond,
        show 2 * (count + 1) = 2 * count + 1 + 1 from rfl, draws_of_next hfirst,
        draws_of_next hsecond]
      exact ⟨hstate, congrArg (some (pairUp first second) :: ·) hitems⟩

/-! ## The pairs of a walk -/

/-- The first entry with the second, the third with the fourth, and so on. -/
def pairs : List Bytes → List (Bytes × Bytes)
  | first :: second :: rest => (first, second) :: pairs rest
  | _ => []

/-- What is yielded behind all pairs: the error that ended the walk, and otherwise an error about
the entry that the end leaves alone. -/
def Standing.lastPair (entries : List Bytes) : Standing → List (Except ClientError (Bytes × Bytes))
  | .broken e => [.error e]
  | .complete => if entries.length % 2 = 1 then [.error (.reading (.mismatch .string .nil))] else []
  | .live _ => []

/-- What a walk yields in pairs. -/
def pairYields (entries : List Bytes) (standing : Standing) :
    List (Except ClientError (Bytes × Bytes)) :=
  (pairs entries).map .ok ++ standing.lastPair entries

/-- Two entries make a pair, and an odd one at the end makes none. -/
@[simp] theorem length_pairs : (entries : List Bytes) → (pairs entries).length = entries.length / 2
  | [] => rfl
  | [_] => by simp [pairs]
  | first :: second :: rest => by
    simp only [pairs, List.length_cons, length_pairs rest]
    omega

variable {count : Nat} {entries : List Bytes} {standing : Standing}

/-- The first two entries are the first pair. -/
@[simp] theorem pairYields_cons_cons (first second : Bytes) :
    pairYields (first :: second :: entries) standing =
      .ok (first, second) :: pairYields entries standing := by
  have hlast : standing.lastPair (first :: second :: entries) = standing.lastPair entries := by
    cases standing with
    | complete =>
        simp [Standing.lastPair, Nat.add_assoc]
    | _ => rfl
  simp [pairYields, pairs, hlast]

/-- The draws of a walk make its pairs. -/
theorem pairUps_yields (count : Nat)
    (hlive : ∀ position, standing = .live position → 2 * count ≤ entries.length) :
    pairUps ((List.range (2 * count)).map fun i => (yields entries standing)[i]?) =
      (List.range count).map fun i => (pairYields entries standing)[i]? := by
  induction count generalizing entries standing with
  | zero => rfl
  | succ count ih =>
      rw [show 2 * (count + 1) = 2 * count + 1 + 1 from rfl, range_map_getElem?, range_map_getElem?,
        range_map_getElem?, pairUps]
      -- Behind the end there is nothing, as in a walk that is over and has no entries.
      have hover := @ih [] .complete nofun
      rcases entries with _ | ⟨first, _ | ⟨second, rest⟩⟩
      · cases standing with
        | live position => exact absurd (hlive position rfl) (by simp)
        | complete => exact congrArg (none :: ·) hover
        | broken e => exact congrArg (some (.error e) :: ·) hover
      · cases standing with
        | live position =>
            have hcount := hlive position rfl
            rw [List.length_singleton] at hcount
            omega
        | complete =>
            exact congrArg (some (.error (.reading (.mismatch .string .nil))) :: ·) hover
        | broken e => exact congrArg (some (.error e) :: ·) hover
      · have hrest : ∀ position, standing = .live position → 2 * count ≤ rest.length := by
          intro position hposition
          have hcount := hlive position hposition
          rw [List.length_cons, List.length_cons] at hcount
          omega
        rw [pairYields_cons_cons]
        exact congrArg (some (.ok (first, second)) :: ·) (ih hrest)

end CommandPipeline.Cursor
