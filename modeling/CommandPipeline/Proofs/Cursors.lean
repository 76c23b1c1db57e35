import CommandPipeline.Cursor

/-!
# Cursors over related requests

Reading is written against any way of making requests. Two ways that give equal replies and keep
their states related therefore read the same entries and end in related states.
-/

namespace CommandPipeline

variable {σ τ : Type}

/-- While their states are related, two ways of making requests get the same replies, and their
states stay related. -/
def Request.Follows (R : σ → τ → Prop) (request : Request σ) (other : Request τ) : Prop :=
  ∀ s t c, R s t → R (request s c).1 (other t c).1 ∧ (request s c).2 = (other t c).2

namespace Cursor

variable {R : σ → τ → Prop} {request : Request σ} {other : Request τ}

/-- The next entry is the same for two states that answer requests alike, and they stay alike. -/
theorem next_follows (h : Request.Follows R request other) (fuel : Nat) (c : Cursor) {s : σ} {t : τ}
    (hst : R s t) :
    R (next request fuel c s).1 (next other fuel c t).1 ∧
      (next request fuel c s).2 = (next other fuel c t).2 := by
  -- The induction is on the requests that are left, since each of them changes the cursor.
  induction fuel generalizing c s t with
  | zero =>
      unfold next
      cases c.page with
      | nil => cases c.finished <;> exact ⟨hst, rfl⟩
      | cons entry page => exact ⟨hst, rfl⟩
  | succ fuel ih =>
      unfold next
      cases c.page with
      | cons entry page => exact ⟨hst, rfl⟩
      | nil =>
          cases c.finished with
          | true => exact ⟨hst, rfl⟩
          | false =>
              obtain ⟨hnext, hreply⟩ := h s t c.command hst
              dsimp only
              rw [hreply]
              cases c.accept (other t c.command).2 with
              | error e => exact ⟨hnext, rfl⟩
              | ok turned => exact ih turned hnext

variable {fuel : σ → Nat} {limit : τ → Nat}

/-- Two states that answer requests alike give the same next pair, for which up to two entries are
asked. -/
theorem nextPair_follows (h : Request.Follows R request other)
    (hfuel : ∀ s t, R s t → fuel s = limit t) (c : Cursor) {s : σ} {t : τ} (hst : R s t) :
    R (nextPair request fuel c s).1 (nextPair other limit c t).1 ∧
      (nextPair request fuel c s).2 = (nextPair other limit c t).2 := by
  unfold nextPair
  rw [hfuel s t hst]
  obtain ⟨hfirst, heq⟩ := next_follows h (limit t) c hst
  generalize next request (limit t) c s = first at *
  generalize next other (limit t) c t = second at *
  obtain ⟨s, c, entry⟩ := first
  obtain ⟨t, c', entry'⟩ := second
  cases heq
  rcases entry with _ | (e | entry)
  · exact ⟨hfirst, rfl⟩
  · exact ⟨hfirst, rfl⟩
  · dsimp only at hfirst ⊢
    rw [hfuel s t hfirst]
    obtain ⟨hsecond, heq⟩ := next_follows h (limit t) c hfirst
    generalize next request (limit t) c s = first at *
    generalize next other (limit t) c t = second at *
    obtain ⟨s, c, entry⟩ := first
    obtain ⟨t, c', entry'⟩ := second
    cases heq
    rcases entry with _ | (e | entry) <;> exact ⟨hsecond, rfl⟩

/-- They give the same next item of a scan, whether that is a single entry or a pair. -/
theorem step_follows (h : Request.Follows R request other)
    (hfuel : ∀ s t, R s t → fuel s = limit t) (c : Cursor) {s : σ} {t : τ} (hst : R s t) :
    R (step request fuel c s).1 (step other limit c t).1 ∧
      (step request fuel c s).2 = (step other limit c t).2 := by
  unfold step
  cases c.collection.isPaired with
  | true =>
      obtain ⟨hrel, heq⟩ := nextPair_follows h hfuel c hst
      exact ⟨hrel, congrArg (fun p => (p.1, Item.pair p.2)) heq⟩
  | false =>
      rw [hfuel s t hst]
      obtain ⟨hrel, heq⟩ := next_follows h (limit t) c hst
      exact ⟨hrel, congrArg (fun p => (p.1, Item.single p.2 p.1.position)) heq⟩

/-- They give the same items, by induction on their number. -/
theorem steps_follows (h : Request.Follows R request other)
    (hfuel : ∀ s t, R s t → fuel s = limit t) (count : Nat) (c : Cursor) {s : σ} {t : τ}
    (hst : R s t) :
    R (steps request fuel count c s).1 (steps other limit count c t).1 ∧
      (steps request fuel count c s).2 = (steps other limit count c t).2 := by
  induction count generalizing c s t with
  | zero => exact ⟨hst, rfl⟩
  | succ count ih =>
      obtain ⟨hrel, heq⟩ := step_follows h hfuel c hst
      unfold steps
      simp only [heq]
      obtain ⟨hrest, hitems⟩ := ih (step other limit c t).2.1 hrel
      exact ⟨hrest, by rw [hitems]⟩

end Cursor

end CommandPipeline
