import CommandPipeline.Proofs.Characters
import CommandPipeline.Proofs.Session.ManyValues

/-!
# Scripts are loaded once

What the loading of a script gives is decided by the cache or, if the body is not there, by the
reply to its upload. `Reply.GivesDigest` has the rules for the reply, in the order in which they
apply: an error at any depth, the kind of the reply, and whether its bytes are a text. They say when
a load succeeds, and that is when the digest is noted.

`Client.Memoises` puts this together with what the cache holds at any moment of a history. A script
that has been uploaded since the cache was emptied last is not uploaded again, and its digest needs
neither a link nor a permit. Every other script is asked for, and the reply delivered to that call
says what is returned and what is noted. In the same way the reply to a flush says whether the cache
is emptied.
-/

namespace CommandPipeline

/-! ## Digests -/

namespace Reply

/-- What the loading of a script is to give for the reply to its upload. -/
inductive GivesDigest : Reply → Except ClientError String → Prop where
  /-- An error at any depth comes first. All of them are counted. -/
  | failed {r : Reply} : r.HoldsError →
      GivesDigest r (.error (.batch ⟨r.errorCount, r.messages.take 3, 1⟩))
  /-- A reply of another kind is refused. -/
  | mismatch {r : Reply} : ¬ r.HoldsError → r.kind ≠ .string → r.kind ≠ .nil →
      GivesDigest r (.error (.reading (.mismatch .string r.kind)))
  /-- So are bytes that are no text. -/
  | notUtf8 {bytes : Bytes} : (∀ text, bytes ≠ Utf8.encode text) →
      GivesDigest (.string bytes) (.error (.reading .notUtf8))
  /-- A text is the digest. -/
  | digest (text : String) : GivesDigest (.string (Utf8.encode text)) (.ok text)
  /-- Nil is read as an empty digest. -/
  | empty : GivesDigest .nil (.ok "")

/-- What the loading of a script gives for the reply to its upload. -/
def digest (r : Reply) : Except ClientError String :=
  match r.outcome with
  | .error e => .error e
  | .ok r => r.toText.mapError .reading

variable {r : Reply} {given : Except ClientError String}

/-- Without an error the reply is read as a text. -/
theorem digest_of_not_holdsError (h : ¬ r.HoldsError) :
    r.digest = r.toText.mapError .reading := by
  rw [digest, outcome_of_not_holdsError h]

/-- A string is never an error, so its bytes are read. -/
@[simp] theorem digest_string (bytes : Bytes) :
    (string bytes).digest = (textOf bytes).mapError .reading :=
  digest_of_not_holdsError (by rintro ⟨⟩)

/-- A reply that is neither a string nor nil is refused by its kind. -/
theorem toText_of_kind (hstring : r.kind ≠ .string) (hnil : r.kind ≠ .nil) :
    r.toText = .error (.mismatch .string r.kind) := by
  rw [toText, toBytes, toOptional_of_kind ⟨hstring, hnil⟩]
  rfl

/-- The rules say what is given. -/
theorem GivesDigest.digest_eq (h : r.GivesDigest given) : r.digest = given := by
  cases h with
  | failed herror => rw [Reply.digest, outcome_of_holdsError herror]
  | mismatch herror hstring hnil =>
      rw [digest_of_not_holdsError herror, toText_of_kind hstring hnil]
      rfl
  | @notUtf8 bytes hbytes =>
      have hnone : Utf8.decode? bytes = none := by
        cases htext : Utf8.decode? bytes with
        | none => rfl
        | some text => exact absurd (Utf8.encode_of_decode? htext).symm (hbytes text)
      rw [digest_string, textOf, hnone]
      rfl
  | digest text =>
      simp [Except.mapError]
  | empty =>
      have herror : ¬ Reply.nil.HoldsError := by rintro ⟨⟩
      rw [digest_of_not_holdsError herror]
      exact congrArg (Except.mapError ClientError.reading) (textOf_encode "")

/-- There is a rule for every reply. -/
theorem exists_givesDigest (r : Reply) : ∃ given, r.GivesDigest given := by
  by_cases herror : r.HoldsError
  · exact ⟨_, .failed herror⟩
  cases r with
  | string bytes =>
      by_cases htext : ∃ text, bytes = Utf8.encode text
      · obtain ⟨text, rfl⟩ := htext
        exact ⟨_, .digest text⟩
      · exact ⟨_, .notUtf8 fun text hbytes => htext ⟨text, hbytes⟩⟩
  | nil => exact ⟨_, .empty⟩
  | _ => exact ⟨_, .mismatch herror nofun nofun⟩

/-- What a load gives for a reply is what the rules say. -/
theorem digest_eq_iff : r.digest = given ↔ r.GivesDigest given := by
  refine ⟨?_, GivesDigest.digest_eq⟩
  rintro rfl
  obtain ⟨given, hgiven⟩ := exists_givesDigest r
  rwa [hgiven.digest_eq]

end Reply

/-! ## What a client makes of the replies -/

namespace Client

open Session

/-- A load of the script is sent to the server, or refused if there is no link. -/
def Asks (client : Client) (body : String) : Prop :=
  ∀ server, if client.session.isUp then
      (client.loadScript server body).2.1.frames =
        server.frames ++ [(Command.scriptLoad body).frame]
    else client.loadScript server body = (client, server, .error .notConnected)

/-- A load of the script gives what the rules say for the reply, and the cache notes the digest if
there is one. -/
structure LoadsBy (client : Client) (server : Server) (body : String) (r : Reply) : Prop where
  given : ∀ given, (client.loadScript server body).2.2 = given ↔ r.GivesDigest given
  sent : (client.loadScript server body).2.1 = (server.answer (Command.scriptLoad body).frame).1
  session : (client.loadScript server body).1.session =
    (client.session.ask server (.scriptLoad body)).1
  noted : ∀ digest, r.GivesDigest (.ok digest) →
    (client.loadScript server body).1.scripts.digest? body = some digest
  others : ∀ other, other ≠ body →
    (client.loadScript server body).1.scripts.digest? other = client.scripts.digest? other
  kept : ∀ e, r.GivesDigest (.error e) →
    (client.loadScript server body).1.scripts = client.scripts

/-- A flush is confirmed by a reply without errors, and then the cache is emptied. -/
structure FlushesBy (client : Client) (server : Server) (r : Reply) : Prop where
  sent : (client.query server .scriptFlush).2.1 = (server.answer Command.scriptFlush.frame).1
  session : (client.query server .scriptFlush).1.session =
    (client.session.ask server .scriptFlush).1
  confirmed : ¬ r.HoldsError → (client.query server .scriptFlush).2.2 = .ok .done ∧
    (client.query server .scriptFlush).1.scripts = []
  failed : r.HoldsError → (client.query server .scriptFlush).2.2 =
      .error (.batch ⟨r.errorCount, r.messages.take 3, 1⟩) ∧
    (client.query server .scriptFlush).1.scripts = client.scripts

/-- What a client makes of its cache at any moment of a history. -/
structure Memoises (client : Client) (steps : List Step) : Prop where
  /-- No script is uploaded twice unless the cache has been emptied in between. -/
  once : ∀ i j body digest digest', i < j → client.UploadsAt steps i body digest →
    client.UploadsAt steps j body digest' → ∃ k, i < k ∧ k < j ∧ client.ForgetsAt steps k
  /-- The digest of a script that is remembered is given without any change to the client, and the
  server hears nothing of it. -/
  recalled : ∀ n body digest, client.Remembers steps n body digest →
    (∀ server, (client.before steps n).loadScript server body =
      (client.before steps n, server, .ok digest)) ∧
    ∀ answers, (client.before steps n).step (.loadScript body answers) =
      (client.before steps n, .loaded (.ok digest) [])
  /-- Any other script is asked for. -/
  asked : ∀ n body, (∀ digest, ¬ client.Remembers steps n body digest) →
    (client.before steps n).Asks body
  /-- What is given and what is noted is decided by the reply behind those owed before. -/
  answered : ∀ n body stream owed server, (∀ digest, ¬ client.Remembers steps n body digest) →
    (client.before steps n).session.link = .up stream owed →
    (client.before steps n).session.isBusy = false →
    (client.before steps n).LoadsBy server body
      (stream.replyBehind owed.length (server.answer (Command.scriptLoad body).frame).2)
  /-- If the answer breaks the format or does not get as far as the load, the link is lost and the
  load fails with what brought it down. -/
  lost : ∀ n body stream owed server, (∀ digest, ¬ client.Remembers steps n body digest) →
    (client.before steps n).session.link = .up stream owed →
    (client.before steps n).session.isBusy = false →
    let arrived := stream.feed (server.answer (Command.scriptLoad body).frame).2
    arrived.fault ≠ none ∨ arrived.replies.length ≤ owed.length →
      ((client.before steps n).loadScript server body).2.2 = .error (.batch
        ⟨1, [(arrived.fault.map Wire.Fault.message).getD closedByServer], 1⟩) ∧
      ((client.before steps n).loadScript server body).1.session.isUp = false
  /-- After a load that has failed the cache is what it was, and the script is asked for again. -/
  failed : ∀ n server body e,
    ((client.before steps n).loadScript server body).2.2 = .error e →
      ((client.before steps n).loadScript server body).1.scripts =
          (client.before steps n).scripts ∧
        ((client.before steps n).loadScript server body).1.Asks body
  /-- The step of a load is that load, which waits for a permit only if the server is asked. -/
  stepped : ∀ n body answers,
    ((client.before steps n).session.isBusy = false →
      (client.before steps n).step (.loadScript body answers) =
        (((client.before steps n).loadScript (.ofAnswers answers) body).1,
          .loaded ((client.before steps n).loadScript (.ofAnswers answers) body).2.2
            ((client.before steps n).loadScript (.ofAnswers answers) body).2.1.frames)) ∧
    ((client.before steps n).session.isBusy = true →
      (∀ digest, ¬ client.Remembers steps n body digest) →
      (client.before steps n).step (.loadScript body answers) =
        (client.before steps n, .wouldBlock))
  /-- Whether a flush is confirmed is decided by the reply to it. -/
  flushes : ∀ n stream owed server, (client.before steps n).session.link = .up stream owed →
    (client.before steps n).session.isBusy = false →
    (client.before steps n).FlushesBy server
      (stream.replyBehind owed.length (server.answer Command.scriptFlush.frame).2)
  /-- Without a link there is no flush. -/
  unlinked : ∀ n server, (client.before steps n).session.isUp = false →
    (client.before steps n).query server .scriptFlush =
      (client.before steps n, server, .error .notConnected)
  /-- A flush that is confirmed empties the cache. -/
  flushed : ∀ n server answer,
    ((client.before steps n).query server .scriptFlush).2.2 = .ok answer →
      ((client.before steps n).query server .scriptFlush).1.scripts = []
  /-- Any other flush leaves the cache as it was. -/
  unflushed : ∀ n server e,
    ((client.before steps n).query server .scriptFlush).2.2 = .error e →
      ((client.before steps n).query server .scriptFlush).1.scripts =
        (client.before steps n).scripts

variable {client : Client} {server : Server} {body : String}

/-- A script that is not in the cache is asked for on a link, and without a link the load is
refused. -/
theorem asks_of_none (h : client.scripts.digest? body = none) : client.Asks body := by
  intro server
  cases hup : client.session.isUp with
  | true =>
      rw [if_pos rfl, (loadScript_of_none h server).1]
      show (client.session.ask server (.scriptLoad body)).2.1.frames = _
      rw [server_ask, hup]
      rfl
  | false =>
      rw [if_neg Bool.false_ne_true, loadScript, h, Client.ask, ask_eq_of_down hup]

/-- Only a script that is not in the cache can fail to load, and then it is still not there. -/
theorem scripts_of_loadScript_error {e : ClientError}
    (h : (client.loadScript server body).2.2 = .error e) :
    (client.loadScript server body).1.scripts = client.scripts ∧
      client.scripts.digest? body = none := by
  cases hdigest : client.scripts.digest? body with
  | some digest =>
      rw [loadScript_of_some hdigest] at h
      cases h
  | none =>
      have hscripts := (loadScript_of_none hdigest server).2
      rw [h] at hscripts
      exact ⟨hscripts, rfl⟩

/-- A load that asks the server gives what it makes of the reply. -/
theorem loadScript_result (h : client.scripts.digest? body = none) (server : Server) :
    (client.loadScript server body).2.2 =
      match (client.session.ask server (.scriptLoad body)).2.2 with
      | .error e => .error e
      | .ok r => r.toText.mapError .reading := by
  rw [loadScript, h, Client.ask]
  generalize client.session.ask server (.scriptLoad body) = asked
  obtain ⟨s, server, e | r⟩ := asked
  · rfl
  · dsimp only
    cases r.toText <;> rfl

section

variable {stream : Wire.Stream} {owed : List Ticket} (hready : client.session.Ready)
  (hbusy : client.session.isBusy = false) (hlink : client.session.link = .up stream owed)

include hready hbusy hlink

/-- The load gives what it makes of the reply behind those owed before. -/
theorem loadScript_of_ready (hnone : client.scripts.digest? body = none) (server : Server) :
    (client.loadScript server body).2.2 =
      (stream.replyBehind owed.length
        (server.answer (Command.scriptLoad body).frame).2).digest := by
  have hask := ask_eq_endCall? hready hbusy hlink server (.scriptLoad body)
  rw [loadScript_result hnone, hask]
  rfl

/-- A load that asks follows the rules for the reply behind those owed before. -/
theorem loadsBy_of_ready (hnone : client.scripts.digest? body = none) (server : Server) :
    client.LoadsBy server body
      (stream.replyBehind owed.length (server.answer (Command.scriptLoad body).frame).2) := by
  have hresult := loadScript_of_ready hready hbusy hlink hnone server
  obtain ⟨hserver, hscripts⟩ := loadScript_of_none hnone server
  have hask := ask_eq_endCall? hready hbusy hlink server (.scriptLoad body)
  have hgiven : ∀ given, (client.loadScript server body).2.2 = given ↔
      (stream.replyBehind owed.length
        (server.answer (Command.scriptLoad body).frame).2).GivesDigest given := fun given => by
    rw [hresult, Reply.digest_eq_iff]
  refine ⟨hgiven, hserver.trans (congrArg (fun asked => asked.2.1) hask), ?_, ?_, ?_, ?_⟩
  · rw [loadScript_session, hnone]
  · intro digest hdigest
    simp [hscripts, (hgiven _).2 hdigest]
  · intro other hother
    rw [hscripts]
    split
    · simp [hother]
    · rfl
  · intro e herror
    rw [hscripts, (hgiven _).2 herror]

/-- If no such reply gets through, the load is told why the link went down. -/
theorem lost_of_ready (hnone : client.scripts.digest? body = none) (server : Server)
    (hlost : (stream.feed (server.answer (Command.scriptLoad body).frame).2).fault ≠ none ∨
      (stream.feed (server.answer (Command.scriptLoad body).frame).2).replies.length ≤
        owed.length) :
    (client.loadScript server body).2.2 = .error (.batch ⟨1,
        [((stream.feed (server.answer (Command.scriptLoad body).frame).2).fault.map
          Wire.Fault.message).getD closedByServer], 1⟩) ∧
      (client.loadScript server body).1.session.isUp = false := by
  constructor
  · rw [loadScript_of_ready hready hbusy hlink hnone, Wire.Stream.replyBehind_of_lost hlost]
    rfl
  · rw [loadScript_session, hnone]
    exact isUp_ask_of_lost hready hbusy hlink server (.scriptLoad body) hlost

/-- The flush is confirmed or refused by the reply behind those owed before. -/
theorem flushesBy_of_ready (server : Server) :
    client.FlushesBy server
      (stream.replyBehind owed.length (server.answer Command.scriptFlush.frame).2) := by
  have hresult : (client.query server .scriptFlush).2.2 = Query.scriptFlush.result
      (stream.replyBehind owed.length (server.answer Command.scriptFlush.frame).2) :=
    query_of_ready hready hbusy hlink server .scriptFlush
  have hask := ask_eq_endCall? hready hbusy hlink server .scriptFlush
  have hserver := query_snd_fst client server .scriptFlush
  have hscripts := query_scripts client server .scriptFlush
  refine ⟨hserver.trans (congrArg (fun asked => asked.2.1) hask),
    query_session client server .scriptFlush, ?_, ?_⟩
  · intro herror
    rw [Query.result_of_not_holdsError herror] at hresult
    exact ⟨hresult, by rw [hscripts, hresult]; rfl⟩
  · intro herror
    rw [Query.result_of_holdsError herror] at hresult
    exact ⟨hresult, by rw [hscripts, hresult]⟩

end

/-! ## Runs -/

section

variable {ceiling : Nat} {steps : List Step} {n : Nat}

/-- At any moment of a history the session is ready for a call. -/
theorem ready_before (ceiling : Nat) (steps : List Step) (n : Nat) :
    ((ofCeiling ceiling).before steps n).session.Ready :=
  (leads_run_ofCeiling ceiling (steps.take n)).2

/-- What is remembered is in the cache. -/
theorem digest?_of_remembers {digest : String}
    (h : (ofCeiling ceiling).Remembers steps n body digest) :
    ((ofCeiling ceiling).before steps n).scripts.digest? body = some digest :=
  (digest?_before_iff rfl steps n body digest).2 h

/-- The cache holds nothing else. -/
theorem digest?_of_not_remembers
    (h : ∀ digest, ¬ (ofCeiling ceiling).Remembers steps n body digest) :
    ((ofCeiling ceiling).before steps n).scripts.digest? body = none := by
  cases hdigest : ((ofCeiling ceiling).before steps n).scripts.digest? body with
  | none => rfl
  | some digest => exact absurd ((digest?_before_iff rfl steps n body digest).1 hdigest) (h digest)

/-- What is uploaded is not in the cache, so what was uploaded before has been dropped since. -/
theorem exists_forgetsAt {i j : Nat} {digest digest' : String} (hij : i < j)
    (hfirst : (ofCeiling ceiling).UploadsAt steps i body digest)
    (hsecond : (ofCeiling ceiling).UploadsAt steps j body digest') :
    ∃ k, i < k ∧ k < j ∧ (ofCeiling ceiling).ForgetsAt steps k := by
  by_contra hkept
  have hremembers : (ofCeiling ceiling).Remembers steps j body digest :=
    ⟨i, hij, hfirst, fun k hik hkj hforgets => hkept ⟨k, hik, hkj, hforgets⟩⟩
  obtain ⟨step, -, hupload⟩ := hsecond
  have hknown := digest?_of_remembers hremembers
  rw [hupload.digest?_eq_none] at hknown
  cases hknown

end

/-- Every client that starts with an empty cache loads each script once and remembers it. -/
theorem run_memoises (ceiling : Nat) (steps : List Step) :
    (ofCeiling ceiling).Memoises steps where
  once _ _ _ _ _ hij hfirst hsecond := exists_forgetsAt hij hfirst hsecond
  recalled _ _ _ h :=
    ⟨loadScript_of_some (digest?_of_remembers h), load_of_some (digest?_of_remembers h)⟩
  asked _ _ h := asks_of_none (digest?_of_not_remembers h)
  answered n _ _ _ server h hlink hbusy :=
    loadsBy_of_ready (ready_before ceiling steps n) hbusy hlink (digest?_of_not_remembers h) server
  lost n _ _ _ server h hlink hbusy hlost :=
    lost_of_ready (ready_before ceiling steps n) hbusy hlink (digest?_of_not_remembers h) server
      hlost
  failed _ _ _ _ herror := by
    obtain ⟨hscripts, hnone⟩ := scripts_of_loadScript_error herror
    exact ⟨hscripts, asks_of_none (by rwa [hscripts])⟩
  stepped _ body answers :=
    ⟨fun hbusy => load_of_free hbusy body answers,
      fun hbusy h => load_of_busy hbusy (digest?_of_not_remembers h) answers⟩
  flushes n _ _ server hlink hbusy :=
    flushesBy_of_ready (ready_before ceiling steps n) hbusy hlink server
  unlinked _ server hdown := (refusesCalls_of_down hdown).query server .scriptFlush
  flushed _ _ _ hanswer := by
    rw [query_scripts, hanswer]
    rfl
  unflushed _ _ _ herror := by rw [query_scripts, herror]

/-- A load that fails with an error inside the reply, one that succeeds, one that needs no link, and
a flush after which the script is asked for again. -/
theorem run_memoises_until_flush :
    let body := "return 1"
    let sends (text : String) : Server := .ofAnswers [Utf8.encode text]
    let steps : List Step := [.connect .established,
      .loadScript body [Utf8.encode "*1\r\n-ERR\r\n"],
      .loadScript body [Utf8.encode "$2\r\nd1\r\n"], .hangUp [], .connect .established,
      .query .scriptFlush [Utf8.encode "+OK\r\n"]]
    let client (n : Nat) : Client := (ofCeiling 1).before steps n
    (((client 1).loadScript (sends "*1\r\n-ERR\r\n") body).2.2 =
          .error (.batch ⟨1, ["ERR"], 1⟩) ∧
        ((client 1).loadScript (sends "*1\r\n-ERR\r\n") body).1.scripts = []) ∧
      (((client 2).loadScript (sends "$2\r\nd1\r\n") body).2.2 = .ok "d1" ∧
        ((client 2).loadScript (sends "$2\r\nd1\r\n") body).1.scripts.digest? body = some "d1") ∧
      ((client 4).session.isUp = false ∧
        ∀ server, (client 4).loadScript server body = (client 4, server, .ok "d1")) ∧
      (((client 5).query (sends "+OK\r\n") .scriptFlush).2.2 = .ok .done ∧
        ((client 5).query (sends "+OK\r\n") .scriptFlush).1.scripts = []) ∧
      (client 6).Asks body := by
  intro body sends steps client
  have hmemoises := run_memoises 1 steps
  have hnone (n : Nat) (hempty : (client n).scripts = []) (digest : String) :
      ¬ (ofCeiling 1).Remembers steps n body digest := by
    intro hremembers
    have hknown := digest?_of_remembers hremembers
    rw [show ((ofCeiling 1).before steps n).scripts = [] from hempty] at hknown
    cases hknown
  have hremembers : (ofCeiling 1).Remembers steps 4 body "d1" :=
    (digest?_before_iff rfl steps 4 body "d1").1 (by decide +kernel)
  -- What the server sends is read once here, so that the fields below are about single replies.
  have hfailing : (client 1).LoadsBy (sends "*1\r\n-ERR\r\n") body (.array [.error "ERR"]) := by
    have hanswered := hmemoises.answered 1 body .fresh [] (sends "*1\r\n-ERR\r\n")
      (hnone 1 (by decide +kernel)) (by decide +kernel) (by decide +kernel)
    rwa [show Wire.Stream.replyBehind _ _ _ = .array [.error "ERR"] by decide +kernel] at hanswered
  have hloading : (client 2).LoadsBy (sends "$2\r\nd1\r\n") body (.string (Utf8.encode "d1")) := by
    have hanswered := hmemoises.answered 2 body .fresh [] (sends "$2\r\nd1\r\n")
      (hnone 2 (by decide +kernel)) (by decide +kernel) (by decide +kernel)
    rwa [show Wire.Stream.replyBehind _ _ _ = .string (Utf8.encode "d1") by decide +kernel]
      at hanswered
  have hflushing : (client 5).FlushesBy (sends "+OK\r\n") (.status "OK") := by
    have hanswered := hmemoises.flushes 5 .fresh [] (sends "+OK\r\n") (by decide +kernel)
      (by decide +kernel)
    rwa [show Wire.Stream.replyBehind _ _ _ = .status "OK" by decide +kernel] at hanswered
  have herror : (Reply.array [.error "ERR"]).GivesDigest (.error (.batch ⟨1, ["ERR"], 1⟩)) :=
    .failed (.array (List.mem_singleton_self _) (.error "ERR"))
  refine ⟨⟨(hfailing.given _).2 herror, ?_⟩,
    ⟨(hloading.given _).2 (.digest "d1"), hloading.noted "d1" (.digest "d1")⟩,
    ⟨by decide +kernel, (hmemoises.recalled 4 body "d1" hremembers).1⟩,
    hflushing.confirmed nofun, hmemoises.asked 6 body (hnone 6 (by decide +kernel))⟩
  rw [hfailing.kept _ herror]
  decide +kernel

end Client

end CommandPipeline
