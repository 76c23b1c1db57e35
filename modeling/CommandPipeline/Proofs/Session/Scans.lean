import CommandPipeline.Proofs.Pairings
import CommandPipeline.Proofs.Session.OneShot
import CommandPipeline.Proofs.Session.Schedules
import CommandPipeline.Proofs.Wire.Prefixes

/-!
# Scans

A client that goes through a collection makes one-shot calls, and what it yields is what a walk
yields: the entries of all pages in order or their pairs, whatever the server answers.

The server may answer with empty pages for as long as it has answers prepared. When it has none left
its line may still complete a page that bytes from before have begun. That line then is used up, so
the next call has an error for its reply, and the client has enough requests to come so far
(`Client.relents_request`).
-/

namespace CommandPipeline

/-! ## The last answer of a server -/

namespace Wire.Stream

variable {s : Stream} {ahead : Nat} {bytes : Bytes} {r : Reply}

/-- A stream without bytes is as good as new. -/
theorem CaughtUp.eq_fresh (h : s.CaughtUp) (hbuffer : s.buffer = []) : s = fresh := by
  obtain ⟨decoder, buffer⟩ := s
  cases hbuffer
  have hdecoder := (Decoder.scanFrom_nil _).symm.trans h
  cases hdecoder
  rfl

/-- A call that succeeds has got a reply. -/
theorem of_outcome_eq_ok (h : (s.replyBehind ahead bytes).outcome = .ok r) :
    (s.feed bytes).fault = none ∧ (s.feed bytes).replies ≠ [] := by
  rw [replyBehind] at h
  cases hfault : (s.feed bytes).fault with
  | some fault =>
      rw [hfault, Reply.outcome_error] at h
      cases h
  | none =>
      refine ⟨rfl, fun hnil => ?_⟩
      rw [hfault, hnil, List.getD_nil, Reply.outcome_error] at h
      cases h

/-- What a server says when it has no answer left is a line, and an error. -/
theorem exists_fallback_eq : ∃ text, Server.fallback = text ++ [Bytes.lf] ∧ Bytes.lf ∉ text :=
  ⟨Server.fallback.dropLast, by decide +kernel, by decide +kernel⟩

/-- The fallback of a server is an error. -/
theorem replyBehind_fallback :
    fresh.replyBehind 0 Server.fallback = .error "ERR no scripted reply" := by
  decide +kernel

/-- A call can succeed with such a line if other bytes have begun its reply. Nothing of the line is
left then. -/
theorem CaughtUp.stream_feed_fallback (h : s.CaughtUp)
    (hr : (s.replyBehind ahead Server.fallback).outcome = .ok r) :
    (s.feed Server.fallback).stream = fresh := by
  obtain ⟨hfault, hreplies⟩ := of_outcome_eq_ok hr
  obtain ⟨text, htext, hlf⟩ := exists_fallback_eq
  have hbuffer : (s.feed Server.fallback).stream.buffer = [] := by
    rw [htext] at hreplies ⊢
    exact h.buffer_feed_line hlf hreplies
  exact (h.stream_feed hfault).eq_fresh hbuffer

end Wire.Stream

/-- A reply never reads like a missing link. -/
theorem Reply.outcome_ne_notConnected (r : Reply) : r.outcome ≠ .error .notConnected := by
  rw [outcome]
  intro h
  split at h <;> cases h

namespace Session

variable {s : Session} {stream : Wire.Stream} {owed : List Ticket}

/-- After a call the link is down, or it owes nothing and goes on behind the answer. -/
theorem link_ask (hready : s.Ready) (hbusy : s.isBusy = false) (hlink : s.link = .up stream owed)
    (server : Server) (c : Command) :
    (s.ask server c).1.isUp = false ∨
      (s.ask server c).1.link = .up (stream.feed (server.answer c.frame).2).stream [] := by
  have hup : s.isUp = true := by rw [isUp, hlink]
  have hnone := batch?_eq_none_iff.2 hready.noCall
  obtain ⟨-, howed⟩ := hready.exchange hbusy server c
  obtain ⟨registry, hstart⟩ := exists_link_startCall hready.balanced hnone hlink
  rw [ask_up hup]
  show ((s.openBatch .oneShot).exchange server c).1.isUp = false ∨
    ((s.openBatch .oneShot).exchange server c).1.link = _
  rw [exchange_eq, hstart, receive_up] at howed ⊢
  cases hfault : (stream.feed (server.answer c.frame).2).fault with
  | some fault =>
      left
      dsimp only
      split <;> rfl
  | none =>
      rw [hfault] at howed
      dsimp only at howed ⊢
      split
      · next hend =>
        rw [if_pos hend] at howed
        right
        exact congrArg (Link.up _) howed
      · left
        rfl

end Session

namespace Client

open Cursor (Item Standing Walk)

variable {client : Client} {server : Server} {c : Command}

/-- The client is free to make a call. -/
structure Free (client : Client) : Prop where
  ready : client.session.Ready
  permit : client.session.isBusy = false
  caughtUp : client.session.CaughtUp

/-- A client with a free permit after a history is free to make a call. -/
theorem free_run (ceiling : Nat) (history : List Step)
    (hbusy : ((ofCeiling ceiling).run history).session.isBusy = false) :
    ((ofCeiling ceiling).run history).Free := by
  obtain ⟨hplays, hready⟩ := leads_run_ofCeiling ceiling history
  exact ⟨hready, hbusy, hplays.caughtUp (Session.caughtUp_of_down rfl)⟩

/-- A call leaves its client free for another one. -/
theorem Free.ask (h : client.Free) (server : Server) (c : Command) :
    (client.ask server c).1.Free := by
  obtain ⟨hplays, hready, hpermit⟩ := h.ready.ask h.permit server c
  exact ⟨hready, hpermit, hplays.caughtUp h.caughtUp⟩

/-! ## Requests -/

/-- Without a link every request is refused and leaves everything as it is. -/
theorem request_down (hdown : client.session.isUp = false) (server : Server) (c : Command) :
    request (client, server) c = ((client, server), .error .notConnected) := by
  rw [request, Client.ask, Session.ask_eq_of_down hdown]

/-- On a link a request gives the outcome of the reply behind those owed before. -/
theorem Free.request_up (h : client.Free) {stream : Wire.Stream} {owed : List Ticket}
    (hlink : client.session.link = .up stream owed) (server : Server) (c : Command) :
    request (client, server) c =
      (((client.ask server c).1, (server.answer c.frame).1),
        (stream.replyBehind owed.length (server.answer c.frame).2).outcome) := by
  rw [request, Client.ask, Session.ask_eq_endCall? h.ready h.permit hlink]

/-- A request leaves the client free for another one. -/
theorem free_request (state : Client × Server) (c : Command) (h : state.1.Free) :
    (request state c).1.1.Free :=
  h.ask state.2 c

/-! ## The patience of a cursor -/

/-- Where every request fails, a cursor asks only once. -/
theorem relents_of_error {state : Client × Server} (h : ∀ c, ∃ e, (request state c).2 = .error e) :
    request.Relents 1 state := by
  intro c r position hr _ _
  obtain ⟨e, he⟩ := h c
  rw [he] at hr
  cases hr

/-- When a server without answers has answered a call, the next one fails. -/
theorem relents_fallback (h : client.Free) {frames : List Bytes} {r : Reply}
    (hr : (request (client, ⟨[], frames⟩) c).2 = .ok r) :
    request.Relents 1 (request (client, ⟨[], frames⟩) c).1 := by
  cases hlink : client.session.link with
  | down error =>
      rw [request_down (by rw [Session.isUp, hlink])] at hr
      cases hr
  | up stream owed =>
      rw [h.request_up hlink] at hr ⊢
      have hlater := h.ask ⟨[], frames⟩ c
      have hfresh := (h.caughtUp stream owed hlink).stream_feed_fallback hr
      apply relents_of_error
      intro c'
      rcases Session.link_ask h.ready h.permit hlink ⟨[], frames⟩ c with hdown | hlast
      · exact ⟨_, congrArg Prod.snd (request_down hdown _ c')⟩
      · have hlink' : (client.ask ⟨[], frames⟩ c).1.session.link = .up .fresh [] :=
          hlast.trans (congrArg (Link.up · []) hfresh)
        have hreply := congrArg Prod.snd (hlater.request_up hlink' ⟨[], frames ++ [c.frame]⟩ c')
        exact ⟨_, hreply.trans (congrArg Reply.outcome Wire.Stream.replyBehind_fallback)⟩

/-- The requests of a client are enough for one entry. -/
theorem relents_request (state : Client × Server) (h : state.1.Free) :
    request.Relents (requestLimit state) state := by
  obtain ⟨client, answers, frames⟩ := state
  induction answers generalizing client frames with
  | nil => exact fun c r position hr _ _ => relents_fallback h hr
  | cons bytes answers ih =>
      intro c r position hr _ _
      cases hlink : client.session.link with
      | down error =>
          rw [request_down (by rw [Session.isUp, hlink])] at hr
          cases hr
      | up stream owed =>
          rw [Free.request_up h hlink]
          exact ih _ _ (h.ask _ c)

/-! ## Frames -/

/-- The frame of a request, which reaches the server unless there is no link. -/
def sentFrame? : Command × Except ClientError Reply → Option Bytes
  | (_, .error .notConnected) => none
  | (c, _) => some c.frame

/-- A request reaches the server unless there is no link. -/
theorem sentFrame?_of_ne {reply : Except ClientError Reply} (h : reply ≠ .error .notConnected) :
    sentFrame? (c, reply) = some c.frame := by
  unfold sentFrame?
  split
  · next heq =>
    cases heq
    exact absurd rfl h
  · next heq =>
    cases heq
    rfl

/-- The server receives the frames of all requests, in order. -/
theorem frames_of_leads {state later : Client × Server} {log : RequestLog}
    (h : request.Leads state log later) (hfree : state.1.Free) :
    later.2.frames = state.2.frames ++ log.filterMap sentFrame? := by
  induction h with
  | nil state => rw [List.filterMap_nil, List.append_nil]
  | @cons state later log c _ ih =>
      obtain ⟨client, server⟩ := state
      cases hlink : client.session.link with
      | down error =>
          rw [request_down (by rw [Session.isUp, hlink])] at ih ⊢
          rw [ih hfree, List.filterMap_cons_none rfl]
      | up stream owed =>
          rw [Free.request_up hfree hlink] at ih ⊢
          have hsent := sentFrame?_of_ne (c := c) (Reply.outcome_ne_notConnected
            (stream.replyBehind owed.length (server.answer c.frame).2))
          rw [ih (hfree.ask server c), List.filterMap_cons_some hsent]
          exact List.append_assoc server.frames [c.frame] _

/-! ## Going through a collection -/

/-- A step through a collection makes the requests of a walk as one-shot calls, one after the other,
and it sends nothing else. -/
structure Scans (client : Client) (collection : Collection) (pattern : Option Bytes) (count : Nat)
    (answers : List Bytes) (log : RequestLog) (entries : List Bytes) (standing : Standing)
    (items : List Item) : Prop where
  calls : ∃ later server, request.Leads (client, .ofAnswers answers) log (later, server) ∧
    client.step (.scan collection pattern count answers) =
      (later, .scanned items (log.filterMap sentFrame?))
  walk : Walk collection pattern 0 log entries standing

variable {collection : Collection} {pattern : Option Bytes} {answers : List Bytes}

/-- Every step through a collection makes the requests of a walk. -/
theorem Free.exists_scans (h : client.Free) {count draws : Nat}
    (hstate : (Cursor.steps request requestLimit count (.start collection pattern)
        (client, .ofAnswers answers)).1 =
      (Cursor.draws request requestLimit draws (.start collection pattern)
        (client, .ofAnswers answers)).1) :
    ∃ log entries standing,
      client.Scans collection pattern count answers log entries standing
        (client.scan (.ofAnswers answers) collection pattern count).2.2 ∧
      (Cursor.start collection pattern).Draws draws log entries standing
        (Cursor.draws request requestLimit draws (.start collection pattern)
          (client, .ofAnswers answers)).2.2 := by
  obtain ⟨log, entries, standing, hleads, hdraws⟩ :=
    Cursor.exists_draws (P := fun state => state.1.Free) (s := (client, .ofAnswers answers))
      free_request relents_request draws (.start collection pattern) h
  rw [← hstate] at hleads
  refine ⟨log, entries, standing, ⟨⟨_, _, hleads, ?_⟩, (Cursor.goes_iff_walk rfl).1 hdraws.goes⟩,
    hdraws⟩
  have hframes := frames_of_leads hleads h
  show client.unlessBusy _ = _
  rw [unlessBusy, h.permit, if_neg Bool.false_ne_true]
  exact congrArg (fun frames => (_, Outcome.scanned _ frames)) hframes

/-- Whatever the server answers, the entries of a collection that has them one by one are yielded in
order, each of them once, then the error that ended the walk, if one did, and nothing after that. A
page is requested only when all entries received before have been yielded. -/
theorem run_scan_single (ceiling : Nat) (history : List Step) (collection : Collection)
    (pattern : Option Bytes) (count : Nat) (answers : List Bytes)
    (hsingle : collection.isPaired = false)
    (hfree : ((ofCeiling ceiling).run history).session.isBusy = false) :
    let client := (ofCeiling ceiling).run history
    let items := (client.scan (.ofAnswers answers) collection pattern count).2.2
    ∃ log entries standing,
      client.Scans collection pattern count answers log entries standing items ∧
      items.map Item.single? =
        (List.range count).map (fun i => some (Cursor.yields entries standing)[i]?) ∧
      (∀ position, standing = .live position → count ≤ entries.length) ∧
      ∀ before request after, log = before ++ request :: after → ∃ earlier position,
        Walk collection pattern 0 before earlier (.live position) ∧ earlier.length < count := by
  intro client items
  obtain ⟨hstate, hitems⟩ := Cursor.steps_single request requestLimit
    (c := .start collection pattern) count hsingle (client, .ofAnswers answers)
  obtain ⟨log, entries, standing, hscans, hdraws⟩ :=
    (free_run ceiling history hfree).exists_scans hstate
  refine ⟨log, entries, standing, hscans, ?_, hdraws.live, ?_⟩
  · refine hitems.trans ?_
    rw [hdraws.drawn, List.map_map]
    rfl
  · intro before request after hlog
    obtain ⟨earlier, position, hgoes, hcount⟩ := hdraws.asks before request after hlog
    exact ⟨earlier, position, (Cursor.goes_iff_walk rfl).1 hgoes, hcount⟩

/-- An empty page, at a position that is no signed number, comes between two others. -/
theorem run_scan_single_pages :
    let client := (ofCeiling 1).run [.connect .established]
    let answers := [Utf8.encode "*2\r\n$20\r\n18446744073709551615\r\n*1\r\n$1\r\na\r\n",
      Utf8.encode "*2\r\n$1\r\n7\r\n*0\r\n",
      Utf8.encode "*2\r\n$1\r\n0\r\n*1\r\n$1\r\nb\r\n"]
    let yielded : List (Option (Option (Except ClientError Bytes))) :=
      [some (some (.ok (Utf8.encode "a"))), some (some (.ok (Utf8.encode "b"))), some none]
    (Collection.keys.isPaired = false ∧ client.session.isBusy = false) ∧
      (client.scan (.ofAnswers answers) .keys none 3).2.2.map Item.single? = yielded ∧
      ∃ log entries standing,
        client.Scans .keys none 3 answers log entries standing
          (client.scan (.ofAnswers answers) .keys none 3).2.2 ∧
        (List.range 3).map (fun i => some (Cursor.yields entries standing)[i]?) = yielded := by
  intro client answers yielded
  have hfree : client.session.isBusy = false := by decide +kernel
  have hyielded :
      (client.scan (.ofAnswers answers) .keys none 3).2.2.map Item.single? = yielded := by
    decide +kernel
  have hscan := run_scan_single 1 [.connect .established] .keys none 3 answers rfl hfree
  rw [show (ofCeiling 1).run [.connect .established] = client from rfl] at hscan
  obtain ⟨log, entries, standing, hscans, hitems, -, -⟩ := hscan
  exact ⟨⟨rfl, hfree⟩, hyielded, log, entries, standing, hscans, hitems.symm.trans hyielded⟩

/-- Where a collection has its entries in pairs, the pairs are those of all entries in order,
wherever the pages are cut. Behind them comes the error that ended the walk, or one about an entry
that the end has left alone, and nothing after that. -/
theorem run_scan_paired (ceiling : Nat) (history : List Step) (collection : Collection)
    (pattern : Option Bytes) (count : Nat) (answers : List Bytes)
    (hpaired : collection.isPaired = true)
    (hfree : ((ofCeiling ceiling).run history).session.isBusy = false) :
    let client := (ofCeiling ceiling).run history
    let items := (client.scan (.ofAnswers answers) collection pattern count).2.2
    ∃ log entries standing,
      client.Scans collection pattern count answers log entries standing items ∧
      items.map Item.pair? =
        (List.range count).map (fun i => some (Cursor.pairYields entries standing)[i]?) ∧
      (Cursor.pairs entries).length = entries.length / 2 ∧
      ∀ position, standing = .live position → 2 * count ≤ entries.length := by
  intro client items
  have hclient := free_run ceiling history hfree
  obtain ⟨hstate, hitems⟩ := Cursor.steps_paired (P := fun state => state.1.Free)
    (s := (client, .ofAnswers answers)) (c := .start collection pattern)
    free_request relents_request count hpaired hclient
  obtain ⟨log, entries, standing, hscans, hdraws⟩ := hclient.exists_scans hstate
  refine ⟨log, entries, standing, hscans, ?_, Cursor.length_pairs entries, hdraws.live⟩
  refine hitems.trans ?_
  have hpairs := Cursor.pairUps_yields count hdraws.live
  rw [hdraws.drawn]
  refine (congrArg (List.map some) hpairs).trans ?_
  rw [List.map_map]
  rfl

/-- A field comes without its value, the page behind it is empty, and the last page has the value
and a field that is left alone. -/
theorem run_scan_paired_pages :
    let client := (ofCeiling 1).run [.connect .established]
    let collection := Collection.hash (Utf8.encode "h")
    let answers := [Utf8.encode "*2\r\n$1\r\n3\r\n*1\r\n$1\r\nf\r\n",
      Utf8.encode "*2\r\n$1\r\n7\r\n*0\r\n",
      Utf8.encode "*2\r\n$1\r\n0\r\n*2\r\n$1\r\nv\r\n$1\r\ng\r\n"]
    let yielded : List (Option (Option (Except ClientError (Bytes × Bytes)))) :=
      [some (some (.ok (Utf8.encode "f", Utf8.encode "v"))),
        some (some (.error (.reading (.mismatch .string .nil)))), some none]
    (collection.isPaired = true ∧ client.session.isBusy = false) ∧
      (client.scan (.ofAnswers answers) collection none 3).2.2.map Item.pair? = yielded ∧
      ∃ log entries standing,
        client.Scans collection none 3 answers log entries standing
          (client.scan (.ofAnswers answers) collection none 3).2.2 ∧
        (List.range 3).map (fun i => some (Cursor.pairYields entries standing)[i]?) = yielded := by
  intro client collection answers yielded
  have hfree : client.session.isBusy = false := by decide +kernel
  have hyielded :
      (client.scan (.ofAnswers answers) collection none 3).2.2.map Item.pair? = yielded := by
    decide +kernel
  have hscan := run_scan_paired 1 [.connect .established] collection none 3 answers rfl hfree
  rw [show (ofCeiling 1).run [.connect .established] = client from rfl] at hscan
  obtain ⟨log, entries, standing, hscans, hitems, -, -⟩ := hscan
  exact ⟨⟨rfl, hfree⟩, hyielded, log, entries, standing, hscans, hitems.symm.trans hyielded⟩

end Client

end CommandPipeline
