import CommandPipeline.Proofs.Pages

/-!
# Walks through a collection

`Cursor.Walk` says what a walk is, request by request: each request asks for the position that the
page before it gave, a page that gives position zero is the last one, and so is whatever is not a
page. Nothing is requested after that. A cursor yields the entries of a walk in order, then the
error that ended it, if one did, and then nothing. It makes a request only when it has yielded all
entries that it was given (`Cursor.exists_draws`).

Between two entries a server may send any number of empty pages. The cursor asks on as long as its
fuel lasts, so it is assumed here that there are fewer of them in a row (`Request.Relents`).
-/

namespace CommandPipeline

variable {σ : Type}

/-- The requests that have been made, each with the reply that it got. -/
abbrev RequestLog := List (Command × Except ClientError Reply)

namespace Request

/-- The requests of a log, made one after the other, get its replies and change the state. -/
inductive Leads (request : Request σ) : σ → RequestLog → σ → Prop where
  | nil (s : σ) : Leads request s [] s
  | cons {s t : σ} {log : RequestLog} (c : Command) : Leads request (request s c).1 log t →
      Leads request s ((c, (request s c).2) :: log) t

/-- Whatever is requested, fewer than so many replies in a row are empty pages that are not the
last. -/
def Relents (request : Request σ) : Nat → σ → Prop
  | 0, _ => False
  | limit + 1, s => ∀ c r position, (request s c).2 = .ok r → Cursor.IsPage r position [] →
      position ≠ 0 → Relents request limit (request s c).1

variable {request : Request σ} {s t u : σ} {log later : RequestLog}

/-- Requests can be made one behind the other. -/
theorem Leads.append (h : request.Leads s log t) (hlater : request.Leads t later u) :
    request.Leads s (log ++ later) u := by
  induction h with
  | nil s => exact hlater
  | cons c _ ih => exact .cons c (ih hlater)

/-- What every request preserves, any number of them preserves. -/
theorem Leads.preserves {P : σ → Prop} (hkeeps : ∀ s c, P s → P (request s c).1)
    (h : request.Leads s log t) (hs : P s) : P t := by
  induction h with
  | nil s => exact hs
  | cons c _ ih => exact ih (hkeeps _ c hs)

end Request

namespace Cursor

/-! ## Walks -/

/-- The request for the page at a position. -/
def pageRequest (collection : Collection) (pattern : Option Bytes) (position : Nat) : Command :=
  ⟨collection.commandName,
    collection.key?.toList ++ [Decimal.ofNat position] ++
      (pattern.map fun p => [Command.word "MATCH", p]).getD [] ++
      [Command.word "COUNT", Decimal.ofNat pageSize]⟩

/-- How a walk stands. -/
inductive Standing where
  /-- The next request asks for a position. -/
  | live (position : Nat)
  /-- The last page has been given. -/
  | complete
  /-- A request failed, or its reply was not a page. -/
  | broken (e : ClientError)

/-- The error that is yielded behind all entries. -/
def Standing.last {α : Type} : Standing → List (Except ClientError α)
  | .broken e => [.error e]
  | _ => []

/-- The requests of a walk from a position, with the entries of all their pages and how the walk
stands after them. -/
inductive Walk (collection : Collection) (pattern : Option Bytes) :
    Nat → RequestLog → List Bytes → Standing → Prop where
  | stay (position : Nat) : Walk collection pattern position [] [] (.live position)
  | page {position next : Nat} {r : Reply} {entries more : List Bytes} {log : RequestLog}
      {standing : Standing} : IsPage r next entries → next ≠ 0 →
      Walk collection pattern next log more standing →
      Walk collection pattern position ((pageRequest collection pattern position, .ok r) :: log)
        (entries ++ more) standing
  | last {position : Nat} {r : Reply} {entries : List Bytes} : IsPage r 0 entries →
      Walk collection pattern position [(pageRequest collection pattern position, .ok r)] entries
        .complete
  | failed (position : Nat) (e : ClientError) :
      Walk collection pattern position [(pageRequest collection pattern position, .error e)] []
        (.broken e)
  | noPage {position : Nat} {r : Reply} {e : ReadingError} :
      (∀ next entries, ¬ IsPage r next entries) → readPage r = .error e →
      Walk collection pattern position [(pageRequest collection pattern position, .ok r)] []
        (.broken (.reading e))

/-- What a walk yields: the entries in order, and then the error that ended it. -/
def yields (entries : List Bytes) (standing : Standing) : List (Except ClientError Bytes) :=
  entries.map .ok ++ standing.last

variable {collection : Collection} {pattern : Option Bytes} {position next : Nat}
  {log later : RequestLog} {entries more : List Bytes} {standing : Standing}

/-- A walk goes on where it stands. -/
theorem Walk.append (h : Walk collection pattern position log entries (.live next))
    (hlater : Walk collection pattern next later more standing) :
    Walk collection pattern position (log ++ later) (entries ++ more) standing := by
  generalize hstands : Standing.live next = stands at h
  induction h with
  | stay position =>
      cases hstands
      exact hlater
  | page hpage hnext _ ih =>
      rw [List.cons_append, List.append_assoc]
      exact .page hpage hnext (ih hstands)
  | last _ => cases hstands
  | failed _ _ => cases hstands
  | noPage _ _ => cases hstands

/-- A page without entries adds nothing. -/
theorem Walk.emptyPage {r : Reply} (hpage : IsPage r next []) (hnext : next ≠ 0)
    (h : Walk collection pattern next log more standing) :
    Walk collection pattern position ((pageRequest collection pattern position, .ok r) :: log)
      more standing :=
  (Walk.page hpage hnext h : Walk collection pattern position _ ([] ++ more) standing)

/-! ## One entry -/

variable {c c' : Cursor}

/-- What a cursor goes through from now on. -/
def Goes (c : Cursor) (log : RequestLog) (entries : List Bytes) (standing : Standing) : Prop :=
  if c.finished then log = [] ∧ entries = [] ∧ standing = .complete
  else Walk c.collection c.pattern c.position log entries standing

/-- How a cursor is left by a walk that has given it some entries. -/
def Stands (c : Cursor) (entries : List Bytes) : Standing → Prop
  | .live position => c.finished = false ∧ c.position = position ∧ entries ≠ []
  | .complete => c.finished = true
  | .broken _ => c.finished = true ∧ entries = []

/-- A cursor whose page was used up has made some requests: the first page with entries has been
found, or there is none. -/
structure Turns (c c' : Cursor) (log : RequestLog) (entries : List Bytes) (standing : Standing) :
    Prop where
  walk : Walk c.collection c.pattern c.position log entries standing
  collection : c'.collection = c.collection
  pattern : c'.pattern = c.pattern
  /-- The first entry is yielded at once. -/
  page : c'.page = entries.tail
  stands : c'.Stands entries standing
  /-- No request follows a page with entries. -/
  empty : ∀ before request after, log = before ++ request :: after →
    ∃ position, Walk c.collection c.pattern c.position before [] (.live position)

/-- A request that is answered by an empty page is followed by another one. -/
theorem Turns.cons {r : Reply} (hpage : IsPage r next []) (hnext : next ≠ 0)
    (h : (c.turn next []).Turns c' log entries standing) :
    c.Turns c' ((c.command, .ok r) :: log) entries standing where
  walk := .emptyPage hpage hnext h.walk
  collection := h.collection
  pattern := h.pattern
  page := h.page
  stands := h.stands
  empty before request after hlog := by
    cases before with
    | nil => exact ⟨c.position, .stay _⟩
    | cons first before =>
        rw [List.cons_append, List.cons.injEq] at hlog
        obtain ⟨rfl, hlater⟩ := hlog
        obtain ⟨position, hwalk⟩ := h.empty before request after hlater
        exact ⟨position, .emptyPage hpage hnext hwalk⟩

/-- A single request, before which nothing has been received. -/
theorem turns_single {reply : Except ClientError Reply}
    (hwalk : Walk c.collection c.pattern c.position [(c.command, reply)] entries standing)
    (hcollection : c'.collection = c.collection) (hpattern : c'.pattern = c.pattern)
    (hpage : c'.page = entries.tail) (hstands : c'.Stands entries standing) :
    c.Turns c' [(c.command, reply)] entries standing where
  walk := hwalk
  collection := hcollection
  pattern := hpattern
  page := hpage
  stands := hstands
  empty before request after hlog := by
    cases before with
    | nil => exact ⟨c.position, .stay _⟩
    | cons first before => simp at hlog

variable {request : Request σ} {P : σ → Prop} {s t : σ}

/-- While the page has entries, no request is made. -/
theorem next_cons (request : Request σ) (fuel : Nat) {entry : Bytes} {page : List Bytes}
    (hpage : c.page = entry :: page) (s : σ) :
    Cursor.next request fuel c s = (s, { c with page := page }, some (.ok entry)) := by
  unfold Cursor.next
  rw [hpage]

/-- Behind the last page there is nothing. -/
theorem next_finished (request : Request σ) (fuel : Nat) (hpage : c.page = [])
    (hfinished : c.finished = true) (s : σ) : Cursor.next request fuel c s = (s, c, none) := by
  unfold Cursor.next
  rw [hpage]
  exact if_pos hfinished

/-- Behind the end of any other page, the next one is asked for. -/
theorem next_succ (request : Request σ) (fuel : Nat) (hpage : c.page = [])
    (hlive : c.finished = false) (s : σ) :
    Cursor.next request (fuel + 1) c s =
      match c.accept (request s c.command).2 with
      | .error e => ((request s c.command).1, c.stop, some (.error e))
      | .ok turned => Cursor.next request fuel turned (request s c.command).1 := by
  rw [Cursor.next, hpage]
  exact if_neg (by rw [hlive]; exact Bool.false_ne_true)

/-- When its page is used up a cursor turns pages until there is an entry, and yields it. -/
theorem exists_turns {fuel : Nat} (hrelents : request.Relents fuel s) (hpage : c.page = [])
    (hlive : c.finished = false) :
    ∃ log entries standing t c', request.Leads s log t ∧ c.Turns c' log entries standing ∧
      Cursor.next request fuel c s = (t, c', (yields entries standing).head?) := by
  induction fuel generalizing s c with
  | zero => exact absurd hrelents id
  | succ fuel ih =>
      rw [next_succ request fuel hpage hlive]
      have hagain := hrelents c.command
      have hfirst : ∀ log u, request.Leads (request s c.command).1 log u →
          request.Leads s ((c.command, (request s c.command).2) :: log) u :=
        fun _ _ => .cons c.command
      generalize request s c.command = answered at hagain hfirst ⊢
      have hleads := hfirst [] answered.1 (.nil _)
      obtain ⟨t, e | r⟩ := answered
      · -- The call has failed.
        exact ⟨_, [], .broken e, t, c.stop, hleads,
          turns_single (.failed c.position e) rfl rfl hpage ⟨rfl, rfl⟩, rfl⟩
      · cases hread : readPage r with
        | error e =>
            have hnone : ∀ next entries, ¬ IsPage r next entries := by
              intro next entries hpage
              rw [readPage_eq_ok_iff.2 hpage] at hread
              cases hread
            refine ⟨_, [], .broken (.reading e), t, c.stop, hleads,
              turns_single (.noPage hnone hread) rfl rfl hpage ⟨rfl, rfl⟩, ?_⟩
            simp only [accept, hread]
            rfl
        | ok result =>
            obtain ⟨next, found⟩ := result
            have hfound := readPage_eq_ok_iff.1 hread
            simp only [accept, hread]
            cases found with
            | cons entry found =>
                rw [next_cons _ _ (c := c.turn next (entry :: found)) rfl]
                by_cases hnext : next = 0
                · subst hnext
                  exact ⟨_, entry :: found, .complete, t, c.turn 0 found, hleads,
                    turns_single (.last hfound) rfl rfl rfl rfl, rfl⟩
                · have hwalk : Walk c.collection c.pattern c.position [(c.command, .ok r)]
                      ((entry :: found) ++ []) (.live next) := .page hfound hnext (.stay next)
                  rw [List.append_nil] at hwalk
                  exact ⟨_, entry :: found, .live next, t, c.turn next found, hleads,
                    turns_single hwalk rfl rfl rfl ⟨decide_eq_false hnext, rfl, nofun⟩, rfl⟩
            | nil =>
                by_cases hnext : next = 0
                · subst hnext
                  rw [next_finished _ _ (c := c.turn 0 []) rfl rfl]
                  exact ⟨_, [], .complete, t, c.turn 0 [], hleads,
                    turns_single (.last hfound) rfl rfl rfl rfl, rfl⟩
                · -- The page is empty but not the last, and the cursor asks on.
                  obtain ⟨log, entries, standing, u, c', hlater, hturns, hresult⟩ :=
                    ih (c := c.turn next []) (hagain r next rfl hfound hnext) rfl
                      (decide_eq_false hnext)
                  exact ⟨_, entries, standing, u, c', hfirst log u hlater,
                    hturns.cons hfound hnext, hresult⟩

/-! ## A number of entries -/

/-- What is drawn from a cursor one after the other. -/
def draws (request : Request σ) (fuel : σ → Nat) :
    Nat → Cursor → σ → σ × Cursor × List (Option (Except ClientError Bytes))
  | 0, c, s => (s, c, [])
  | count + 1, c, s =>
    let (s, c, entry) := Cursor.next request (fuel s) c s
    let (s, c, rest) := draws request fuel count c s
    (s, c, entry :: rest)

/-- The draws of a walk are its first entry and then those that follow. -/
theorem draws_of_next {fuel : σ → Nat} {t : σ} {entry : Option (Except ClientError Bytes)}
    (h : Cursor.next request (fuel s) c s = (t, c', entry)) (count : Nat) :
    draws request fuel (count + 1) c s =
      ((draws request fuel count c' t).1, (draws request fuel count c' t).2.1,
        entry :: (draws request fuel count c' t).2.2) := by
  rw [draws, h]

/-- A cursor that holds some entries of a page, and the requests that are made when so many entries
are drawn from it. -/
structure Draws (c : Cursor) (count : Nat) (log : RequestLog) (entries : List Bytes)
    (standing : Standing) (drawn : List (Option (Except ClientError Bytes))) : Prop where
  goes : c.Goes log entries standing
  /-- All is drawn in order, and nothing behind the end. -/
  drawn : drawn = (List.range count).map fun i => (yields (c.page ++ entries) standing)[i]?
  /-- A walk that has not ended gives as many entries as are asked for. -/
  live : ∀ position, standing = .live position → count ≤ (c.page ++ entries).length
  /-- When a request is made all entries received before it have been drawn. -/
  asks : ∀ before request after, log = before ++ request :: after → ∃ earlier position,
    c.Goes before earlier (.live position) ∧ (c.page ++ earlier).length < count

/-- The entries up to a number are the first one and those of the rest. -/
theorem range_map_getElem? {α : Type} (values : List α) (count : Nat) :
    (List.range (count + 1)).map (fun i => values[i]?) =
      values.head? :: (List.range count).map fun i => values.tail[i]? := by
  rw [List.range_succ_eq_map, List.map_cons, List.map_map, List.head?_eq_getElem?]
  simp [Function.comp_def, List.getElem?_tail]

variable {count : Nat} {drawn : List (Option (Except ClientError Bytes))}

/-- The cursor goes on by a walk unless it is finished. -/
theorem goes_iff_walk (hlive : c.finished = false) :
    c.Goes log entries standing ↔ Walk c.collection c.pattern c.position log entries standing := by
  rw [Goes, hlive, if_neg Bool.false_ne_true]

/-- A walk that is over makes no request and has no entry. -/
theorem goes_iff_of_finished (hfinished : c.finished = true) :
    c.Goes log entries standing ↔ log = [] ∧ entries = [] ∧ standing = .complete := by
  rw [Goes, hfinished, if_pos rfl]

/-- Nothing is drawn and nothing is requested. -/
theorem exists_draws_zero (c : Cursor) : ∃ standing, c.Draws 0 [] [] standing [] := by
  refine ⟨if c.finished then .complete else .live c.position, ?_, rfl, ?_, ?_⟩
  · rw [Goes]
    split
    · exact ⟨rfl, rfl, rfl⟩
    · exact .stay _
  · exact fun _ _ => Nat.zero_le _
  · intro before request after hlog
    simp at hlog

/-- An entry of the page comes first. -/
theorem Draws.entry {entry : Bytes} {page : List Bytes} (hpage : c.page = entry :: page)
    (h : ({ c with page := page } : Cursor).Draws count log entries standing drawn) :
    c.Draws (count + 1) log entries standing (some (.ok entry) :: drawn) where
  goes := h.goes
  drawn := by
    rw [range_map_getElem?, h.drawn, hpage]
    rfl
  live position hposition := by
    rw [hpage]
    exact Nat.succ_le_succ (h.live position hposition)
  asks before request after hlog := by
    obtain ⟨earlier, position, hearlier, hcount⟩ := h.asks before request after hlog
    rw [hpage]
    exact ⟨earlier, position, hearlier, Nat.succ_lt_succ hcount⟩

/-- Nothing is drawn from a finished cursor whose page is used up, now or later. -/
theorem Draws.over (hpage : c.page = []) (hfinished : c.finished = true)
    (h : c.Draws count log entries standing drawn) :
    c.Draws (count + 1) log entries standing (none :: drawn) := by
  obtain ⟨rfl, rfl, rfl⟩ := (goes_iff_of_finished hfinished).1 h.goes
  refine ⟨h.goes, ?_, nofun, ?_⟩
  · rw [range_map_getElem?, h.drawn, hpage]
    rfl
  · intro before request after hlog
    simp at hlog

/-- What comes behind some entries comes behind what they have left over. -/
theorem Turns.goes (h : c.Turns c' log entries standing) {rest : Standing}
    (hgoes : c'.Goes later more rest) :
    ∃ final, Walk c.collection c.pattern c.position (log ++ later) (entries ++ more) final ∧
      (yields (entries ++ more) final).head? = (yields entries standing).head? ∧
      (yields (entries ++ more) final).tail = yields (c'.page ++ more) rest ∧
      ∀ position, (final = .live position ↔ rest = .live position) ∧
        (rest = .live position → (entries ++ more).length = (c'.page ++ more).length + 1) := by
  have hwalk := h.walk
  have hstands := h.stands
  rw [h.page]
  cases standing with
  | live position =>
      obtain ⟨hlive, hposition, hne⟩ := hstands
      rw [goes_iff_walk hlive, h.collection, h.pattern, hposition] at hgoes
      obtain ⟨entry, page, rfl⟩ := List.exists_cons_of_ne_nil hne
      exact ⟨rest, hwalk.append hgoes, rfl, rfl, fun position => ⟨Iff.rfl, fun _ => rfl⟩⟩
  | complete =>
      obtain ⟨rfl, rfl, rfl⟩ := (goes_iff_of_finished hstands).1 hgoes
      rw [List.append_nil, List.append_nil, List.append_nil]
      refine ⟨.complete, hwalk, rfl, ?_, fun position => ⟨Iff.rfl, nofun⟩⟩
      simp [yields, Standing.last]
  | broken e =>
      obtain ⟨hfinished, rfl⟩ := hstands
      obtain ⟨rfl, rfl, rfl⟩ := (goes_iff_of_finished hfinished).1 hgoes
      rw [List.append_nil]
      exact ⟨.broken e, hwalk, rfl, rfl, fun position => ⟨⟨nofun, nofun⟩, nofun⟩⟩

/-- The first entry of the next page with entries comes first, or the error that ended the walk
before there was one. -/
theorem Turns.draws (hturns : c.Turns c' log entries standing) (hpage : c.page = [])
    (hlive : c.finished = false) {rest : Standing} (h : c'.Draws count later more rest drawn) :
    ∃ final, c.Draws (count + 1) (log ++ later) (entries ++ more) final
      ((yields entries standing).head? :: drawn) := by
  obtain ⟨final, hwalk, hhead, htail, hfinal⟩ := hturns.goes h.goes
  refine ⟨final, (goes_iff_walk hlive).2 hwalk, ?_, ?_, ?_⟩
  · rw [range_map_getElem?, hpage, List.nil_append, hhead, htail, h.drawn]
  · intro position hposition
    have hrest := (hfinal position).1.1 hposition
    rw [hpage, List.nil_append, (hfinal position).2 hrest]
    exact Nat.succ_le_succ (h.live position hrest)
  · intro before request after hlog
    rw [hpage]
    -- The request is one of those that have found the page, or it comes behind them.
    have hbehind : ∀ passed, later = passed ++ request :: after → before = log ++ passed →
        ∃ earlier position, c.Goes before earlier (.live position) ∧
          ([] ++ earlier).length < count + 1 := by
      rintro passed hlater rfl
      obtain ⟨earlier, position, hearlier, hcount⟩ := h.asks passed request after hlater
      obtain ⟨final, hwalk, -, -, hfinal⟩ := hturns.goes hearlier
      obtain rfl := (hfinal position).1.2 rfl
      refine ⟨entries ++ earlier, position, (goes_iff_walk hlive).2 hwalk, ?_⟩
      rw [List.nil_append, (hfinal position).2 rfl]
      exact Nat.succ_lt_succ hcount
    rcases List.append_eq_append_iff.1 hlog with
      ⟨passed, hbefore, hlater⟩ | ⟨left, hleft, hafter⟩
    · exact hbehind passed hlater hbefore
    · cases left with
      | nil => exact hbehind [] hafter.symm (by rw [hleft, List.append_nil, List.append_nil])
      | cons first left =>
          obtain ⟨rfl, -⟩ := List.cons.inj hafter
          obtain ⟨position, hbefore⟩ := hturns.empty before _ left hleft
          exact ⟨[], position, (goes_iff_walk hlive).2 hbefore, Nat.succ_pos count⟩

/-- What is drawn from a cursor are the entries of its page and of a walk, in order, then the error
that ended the walk, and then nothing. -/
theorem exists_draws {fuel : σ → Nat} (hkeeps : ∀ s c, P s → P (request s c).1)
    (hfuel : ∀ s, P s → request.Relents (fuel s) s) (count : Nat) (c : Cursor) (hs : P s) :
    ∃ log entries standing, request.Leads s log (draws request fuel count c s).1 ∧
      c.Draws count log entries standing (draws request fuel count c s).2.2 := by
  induction count generalizing c s with
  | zero =>
      obtain ⟨standing, h⟩ := exists_draws_zero c
      exact ⟨[], [], standing, .nil s, h⟩
  | succ count ih =>
      cases hpage : c.page with
      | cons entry page =>
          rw [draws_of_next (next_cons _ _ hpage s)]
          obtain ⟨log, entries, standing, hleads, h⟩ := ih { c with page := page } hs
          exact ⟨log, entries, standing, hleads, h.entry hpage⟩
      | nil =>
          cases hfinished : c.finished with
          | true =>
              rw [draws_of_next (next_finished _ _ hpage hfinished s)]
              obtain ⟨log, entries, standing, hleads, h⟩ := ih c hs
              exact ⟨log, entries, standing, hleads, h.over hpage hfinished⟩
          | false =>
              obtain ⟨log, entries, standing, t, c', hleads, hturns, hnext⟩ :=
                exists_turns (hfuel s hs) hpage hfinished
              rw [draws_of_next hnext]
              obtain ⟨later, more, rest, hlater, h⟩ := ih c' (hleads.preserves hkeeps hs)
              obtain ⟨final, hdraws⟩ := hturns.draws hpage hfinished h
              exact ⟨_, _, final, hleads.append hlater, hdraws⟩

end Cursor

end CommandPipeline
