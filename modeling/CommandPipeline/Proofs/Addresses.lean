import CommandPipeline.Address
import CommandPipeline.Proofs.Characters
import CommandPipeline.Proofs.Numerals

/-!
# Addresses read back from their written form

The reader of addresses looks for the mark of a path first. If it is not there, the last colon
separates the host from the port, and in a written address what stands behind this colon are the
digits of the port. So a host may hold any number of colons, and digits behind them. What it must
not do is begin like the mark of a path: the colon in front of the port then completes the mark, or
the host has the whole mark, and the address is read back as a path.
-/

namespace CommandPipeline

/-! ## Ports -/

/-- The written form of a number, as bytes. -/
theorem Decimal.encode_toString (n : Nat) : Utf8.encode (toString n) = ofNat n := by
  rw [Utf8.encode_eq_flatMap, Nat.toString_eq_repr, Nat.toList_repr]
  have hdigit : ∀ d < 10, String.utf8EncodeChar (Nat.digitChar d) = [digit d] := by
    intro d hd
    have hnat := Nat.toNat_digitChar_of_lt_ten hd
    rw [Utf8.utf8EncodeChar_eq, hnat, if_pos (by omega), digit]
  fun_induction ofNat n with
  | case1 n hn =>
      rw [Nat.toDigits_of_lt_base hn, List.flatMap_singleton, hdigit n hn]
  | case2 n hn ih =>
      rw [Nat.toDigits_eq_if (by decide), if_neg hn, List.flatMap_append, ih,
        List.flatMap_singleton, hdigit _ (Nat.mod_lt n (by decide))]

namespace Address

/-- A numeral has no colon, so the last colon of a written address is the one before the port. -/
theorem colon_not_mem_toString (n : Nat) : ':' ∉ (toString n).toList := by
  rw [Nat.toString_eq_repr, Nat.toList_repr]
  intro hcolon
  have hdigit := Nat.isDigit_of_mem_toDigits (by decide) (by decide) hcolon
  exact absurd hdigit (by decide)

/-- Every port is read back from its numeral. -/
theorem readPort?_toString (port : UInt16) :
    readPort? (toString port.toNat).toList = some port := by
  have hlimit : port.toNat ≤ Decimal.portLimit := Nat.le_pred_of_lt port.toNat_lt
  rw [readPort?, String.ofList_toList, Decimal.encode_toString, Decimal.readUnsigned_ofNat hlimit]
  exact congrArg some UInt16.ofNat_toNat

/-! ## The last colon -/

/-- A text without a colon has no part behind one. -/
theorem splitLastColon?_eq_none {text : List Char} (h : ':' ∉ text) :
    splitLastColon? text = none := by
  induction text with
  | nil => rfl
  | cons c text ih =>
      rw [List.mem_cons, not_or] at h
      rw [splitLastColon?, ih h.2]
      exact if_neg (Ne.symm h.1)

/-- A colon is the last one if there is none behind it. -/
theorem splitLastColon?_append (before : List Char) {after : List Char} (h : ':' ∉ after) :
    splitLastColon? (before ++ ':' :: after) = some (before, after) := by
  induction before with
  | nil =>
      rw [List.nil_append, splitLastColon?, splitLastColon?_eq_none h]
      exact if_pos rfl
  | cons c before ih => rw [List.cons_append, splitLastColon?, ih]

/-! ## The mark of a path -/

/-- A word and a colon begin a text with a colon in it if the word is all that stands in front of
this colon, or if they begin what stands there. -/
theorem concat_colon_prefix_iff {word : List Char} (h : ':' ∉ word) (before after : List Char) :
    word ++ [':'] <+: before ++ ':' :: after ↔ before = word ∨ word ++ [':'] <+: before := by
  induction word generalizing before with
  | nil => cases before <;> simp
  | cons c word ih =>
      rw [List.mem_cons, not_or] at h
      cases before with
      | nil => simp [Ne.symm h.1]
      | cons d before =>
          rw [List.cons_append, List.cons_append, List.cons_prefix_cons, ih h.2,
            List.cons_prefix_cons, List.cons.injEq, eq_comm (a := d), and_or_left]

/-- With the colon of its port the host begins like a path. -/
def MarksPath (host : String) : Prop := host = "unix" ∨ pathMark <+: host.toList

instance (host : String) : Decidable (MarksPath host) := inferInstanceAs (Decidable (_ ∨ _))

/-- Whether a written address starts like one of a path is decided by the host alone. -/
theorem pathMark_prefix_iff (host : String) (after : List Char) :
    pathMark <+: host.toList ++ ':' :: after ↔ MarksPath host := by
  have hword : pathMark = "unix".toList ++ [':'] := by decide
  rw [MarksPath, hword, concat_colon_prefix_iff (by decide), String.toList_inj]

/-- What stands behind a colon in the host makes no difference. -/
theorem marksPath_append (host rest : String) :
    MarksPath (host ++ ":" ++ rest) ↔ MarksPath host := by
  have hne : host ++ ":" ++ rest ≠ "unix" := by
    intro h
    have hcolon : ':' ∈ "unix".toList := by
      rw [← h]
      simp
    exact absurd hcolon (by decide)
  rw [MarksPath, or_iff_right hne, ← pathMark_prefix_iff host rest.toList]
  simp

/-! ## Reading back -/

/-- Every written address is the mark of a path and a path, or a host, a colon and a port. -/
theorem toList_display (a : Address) :
    a.display.toList =
      match a with
      | .unix path => pathMark ++ path.toList
      | .tcp host port => host.toList ++ ':' :: (toString port.toNat).toList := by
  cases a with
  | unix path => simp [display]
  | tcp host port => simp [display]

@[simp] theorem parse_display_unix (path : String) : parse (unix path).display = unix path := by
  rw [parse, toList_display, ofChars, afterPathMark?,
    if_pos (List.isPrefixOf_iff_prefix.2 (List.prefix_append _ _)), List.drop_left]
  dsimp only
  rw [String.ofList_toList]

/-- A host that begins like a path is taken for one, and the port for the end of the path. -/
theorem parse_display_tcp (host : String) (port : UInt16) :
    parse (tcp host port).display =
      if MarksPath host then
        unix (String.ofList ((tcp host port).display.toList.drop pathMark.length))
      else tcp host port := by
  rw [parse, toList_display, ofChars, afterPathMark?]
  dsimp only
  have hmark := pathMark_prefix_iff host (toString port.toNat).toList
  rw [← List.isPrefixOf_iff_prefix] at hmark
  by_cases h : MarksPath host
  · rw [if_pos (hmark.2 h), if_pos h]
  · rw [if_neg (mt hmark.1 h), if_neg h]
    dsimp only
    rw [splitLastColon?_append _ (colon_not_mem_toString _)]
    dsimp only
    rw [readPort?_toString, String.ofList_toList]

/-- The written form of an address tells it from all others. -/
def Recoverable : Address → Prop
  | .unix _ => True
  | .tcp host _ => host ≠ "unix" ∧ ¬ pathMark <+: host.toList

/-- Only a host that looks like the mark of a path keeps an address from being read back. -/
theorem recoverable_tcp_iff (host : String) (port : UInt16) :
    (tcp host port).Recoverable ↔ ¬ MarksPath host := by
  rw [Recoverable, MarksPath, not_or]

/-- An address is read back from its written form as itself exactly if it is a path, or its host is
neither the word in front of a path nor begins with the mark of one. All other addresses are read
back as paths. Behind a colon a host may go on in any way, with more colons or with what looks like
a port, and a host without characters is as good as any. -/
theorem parse_display_eq_iff :
    (∀ a : Address, parse a.display = a ↔ a.Recoverable) ∧
      (∀ host port, ¬ (tcp host port).Recoverable ↔ (parse (tcp host port).display).isUnix) ∧
      (∀ host rest port, parse (tcp (host ++ ":" ++ rest) port).display =
        tcp (host ++ ":" ++ rest) port ↔ (tcp host port).Recoverable) ∧
      ∀ port, parse (tcp "" port).display = tcp "" port := by
  have htcp : ∀ host port, parse (tcp host port).display = tcp host port ↔ ¬ MarksPath host := by
    intro host port
    rw [parse_display_tcp]
    split <;> simp [*]
  refine ⟨?_, ?_, ?_, ?_⟩
  · intro a
    cases a with
    | unix path => simp [Recoverable]
    | tcp host port => rw [htcp, recoverable_tcp_iff]
  · intro host port
    rw [recoverable_tcp_iff, Decidable.not_not, parse_display_tcp]
    split <;> simp [*, isUnix]
  · intro host rest port
    rw [htcp, recoverable_tcp_iff, marksPath_append]
  · intro port
    rw [htcp]
    decide

/-- A bracketed literal whose end looks like a port, and a host that is read back as a path. -/
example :
    parse (tcp "[::1]:80" 6380).display = tcp "[::1]:80" 6380 ∧
      parse (tcp "unix" 7).display = unix "7" := by
  decide +kernel

end Address

end CommandPipeline
