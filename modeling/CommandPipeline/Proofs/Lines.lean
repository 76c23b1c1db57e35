import CommandPipeline.Bytes

/-!
# Lines of the wire format

A line is a text in which no line end occurs. `splitLine?` cuts a byte string behind the first line
end, so it finds exactly the lines.
-/

namespace CommandPipeline.Bytes

/-- No line end occurs within the text. A text may end in a lone CR. -/
def OneLine (text : Bytes) : Prop := ¬ crlf <:+: text

instance (text : Bytes) : Decidable (OneLine text) := inferInstanceAs (Decidable (¬ _))

@[simp] theorem oneLine_nil : OneLine [] := by decide

/-- A line end starts at the first byte or behind it. -/
theorem oneLine_cons_iff {b : UInt8} {text : Bytes} :
    OneLine (b :: text) ↔ ¬ (b = cr ∧ text.head? = some lf) ∧ OneLine text := by
  rw [OneLine, OneLine, List.infix_cons_iff, not_or, crlf, List.cons_prefix_cons]
  cases text with
  | nil => simp
  | cons c text => simp [List.cons_prefix_cons, eq_comm]

/-- A text without CR is a line. -/
theorem oneLine_of_not_mem {text : Bytes} (h : cr ∉ text) : OneLine text :=
  fun hin => h (hin.subset (by simp [crlf]))

/-- Reading a line passes over the line itself and cuts behind its end. -/
theorem splitLineFrom_append {text : Bytes} (h : OneLine text) (passed rest : Bytes) :
    splitLineFrom passed (text ++ (crlf ++ rest)) = some (passed.reverse ++ text, rest) := by
  induction text generalizing passed with
  | nil => simp [splitLineFrom, crlf]
  | cons b text ih =>
      obtain ⟨hb, htext⟩ := oneLine_cons_iff.1 h
      -- A CR at the end of the text stands before the CR of the line end, which is not an LF.
      have hhead : ¬ (b = cr ∧ (text ++ (crlf ++ rest)).head? = some lf) := by
        rintro ⟨rfl, hlf⟩
        cases text with
        | nil => simp [crlf, cr, lf] at hlf
        | cons c text => exact hb ⟨rfl, hlf⟩
      rw [List.cons_append, splitLineFrom, if_neg hhead, ih htext]
      simp

/-- Whatever is cut off is a line, and the line end stood behind it. -/
theorem of_splitLineFrom {passed bytes line rest : Bytes}
    (h : splitLineFrom passed bytes = some (line, rest)) :
    ∃ text, line = passed.reverse ++ text ∧ OneLine text ∧ bytes = text ++ (crlf ++ rest) := by
  induction bytes generalizing passed with
  | nil => simp [splitLineFrom] at h
  | cons b bytes ih =>
      rw [splitLineFrom] at h
      split at h
      · next hend =>
        obtain ⟨rfl, hhead⟩ := hend
        simp only [Option.some.injEq, Prod.mk.injEq] at h
        obtain ⟨tail, rfl⟩ : ∃ tail, bytes = lf :: tail := by
          cases bytes with
          | nil => simp at hhead
          | cons c tail => exact ⟨tail, by simpa using hhead⟩
        exact ⟨[], by simp [← h.1], oneLine_nil, by simp [crlf, ← h.2]⟩
      · next hmore =>
        obtain ⟨text, hline, htext, rfl⟩ := ih h
        refine ⟨b :: text, by simp [hline], oneLine_cons_iff.2 ⟨?_, htext⟩, rfl⟩
        rintro ⟨rfl, hlf⟩
        refine hmore ⟨rfl, ?_⟩
        cases text with
        | nil => simp at hlf
        | cons c text => exact hlf

/-- The line that is split off, and what follows its end. -/
theorem splitLine?_eq_some_iff {bytes line rest : Bytes} :
    splitLine? bytes = some (line, rest) ↔ OneLine line ∧ bytes = line ++ (crlf ++ rest) := by
  constructor
  · intro h
    obtain ⟨text, rfl, htext, rfl⟩ := of_splitLineFrom h
    exact ⟨htext, rfl⟩
  · rintro ⟨hline, rfl⟩
    rw [splitLine?, splitLineFrom_append hline]
    rfl

end CommandPipeline.Bytes
