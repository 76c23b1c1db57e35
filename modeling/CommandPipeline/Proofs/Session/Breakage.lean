import CommandPipeline.Proofs.Session.Schedules
import CommandPipeline.Proofs.Session.Teardown

/-!
# Complete replies in front of a fault

A server may send complete replies and, behind them, bytes that break the wire format. Which of the
replies are handed on depends on how the bytes arrive. All of an arrival is decoded before any of it
is dispatched, so the arrival that brings the fault takes the replies that become complete in it
down with the link. Those of earlier arrivals have been handed on. Byte by byte no reply is lost,
since a byte that completes a reply brings no fault.
-/

namespace CommandPipeline

namespace Ending

/-- The stream breaks the wire format behind some replies that are handed on. -/
def brokenBehind (handedOn : List Reply) (fault : Wire.Fault) : Ending :=
  { Ending.broken fault with final := handedOn }

end Ending

namespace Session

/-- An arrival that breaks the format, behind one that keeps to it. -/
theorem Balanced.tornDown_receive_receive {registry : Registry} {stream : Wire.Stream}
    {owed : List Ticket} (h : Balanced ⟨registry, .up stream owed⟩) {bytes last : Bytes}
    {fault : Wire.Fault} (hbytes : (stream.feed bytes).fault = none)
    (hlast : ((stream.feed bytes).stream.feed last).fault = some fault) :
    TornDown ⟨registry, .up stream owed⟩ (.brokenBehind (stream.feed bytes).replies fault)
      ((receive ⟨registry, .up stream owed⟩ bytes).receive last) := by
  have htorn := h.tornDown (.brokenBehind (stream.feed bytes).replies fault)
  rw [receive_up, hbytes]
  dsimp only
  rw [receive_up, hlast]
  exact htorn

end Session

namespace Client

open Session

variable {client : Client} {stream : Wire.Stream} {owed : List Ticket} {pieces : List Bytes}

/-- Pieces that keep to the format may as well arrive in one. -/
theorem run_sends (hlink : client.session.link = .up stream owed) (hstream : stream.CaughtUp)
    (hfault : (stream.feed pieces.flatten).fault = none) :
    client.run (pieces.map .send) = client.onSession fun s => s.receive pieces.flatten := by
  induction pieces generalizing client stream owed with
  | nil =>
      show client = client.onSession fun s => s.receive []
      rw [onSession, receive_nil hlink hstream]
  | cons piece later ih =>
      rw [List.flatten_cons] at hfault
      obtain ⟨hpiece, hlater, -⟩ := hstream.feed_append hfault
      have hreceived : (client.onSession fun s => s.receive piece).session.link = _ :=
        link_receive hlink hpiece
      have hnext := ih hreceived (hstream.stream_feed hpiece) hlater
      show (client.step (.send piece)).1.run (later.map .send) = _
      rw [send_eq, hnext]
      show client.onSession (fun s => (s.receive piece).receive later.flatten) =
        client.onSession fun s => s.receive (piece ++ later.flatten)
      rw [onSession, onSession, receive_append hlink hstream hfault]

/-- Nothing arrives without a link. -/
theorem run_sends_of_down (hdown : client.session.isUp = false) (pieces : List Bytes) :
    client.run (pieces.map .send) = client := by
  induction pieces with
  | nil => rfl
  | cons piece later ih =>
      have hstep : (client.step (.send piece)).1 = client := by
        rw [send_eq, onSession, receive_down hdown]
      show (client.step (.send piece)).1.run (later.map .send) = client
      rw [hstep, ih]

/-- The pieces in front of the first that brings a fault are received, and those behind it are
not. -/
theorem tornDown_sends {early late : List Bytes} {last : Bytes} {fault : Wire.Fault}
    (hbalanced : client.session.Balanced) (hlink : client.session.link = .up stream owed)
    (hstream : stream.CaughtUp) (hearly : (stream.feed early.flatten).fault = none)
    (hlast : ((stream.feed early.flatten).stream.feed last).fault = some fault) :
    client.session.TornDown (.brokenBehind (stream.feed early.flatten).replies fault)
      (client.run ((early ++ last :: late).map .send)).session := by
  have hreceived := run_sends hlink hstream hearly
  obtain ⟨⟨registry, link⟩, scripts⟩ := client
  cases hlink
  have htorn := hbalanced.tornDown_receive_receive hearly hlast
  have hdown : ((receive ⟨registry, .up stream owed⟩ early.flatten).receive last).isUp = false := by
    rw [isUp, htorn.link]
  have hrun :
      Client.run ⟨⟨registry, .up stream owed⟩, scripts⟩ ((early ++ last :: late).map .send) =
      ⟨(receive ⟨registry, .up stream owed⟩ early.flatten).receive last, scripts⟩ := by
    rw [List.map_append, run_append, hreceived, List.map_cons]
    show (Client.step _ (.send last)).1.run (late.map .send) = _
    rw [send_eq]
    exact run_sends_of_down hdown late
  rw [hrun]
  exact htorn

/-- On a link of a run, bytes arrive in pieces that break the wire format in the end. One of the
pieces is the first that brings the fault. The replies that were complete before it go to the
commands of the queue, in order, and all other commands are told what is wrong. The replies that
become complete in this piece are lost. In pieces of at most one byte there are none of these. -/
theorem run_sends_broken (ceiling : Nat) (history : List Step) (pieces : List Bytes)
    {stream : Wire.Stream} {owed : List Ticket} {fault : Wire.Fault}
    (hlink : ((ofCeiling ceiling).run history).session.link = .up stream owed)
    (hfault : (stream.feed pieces.flatten).fault = some fault) :
    let client := (ofCeiling ceiling).run history
    let after := (client.run (pieces.map .send)).session
    let replies := (stream.feed pieces.flatten).replies
    (∃ early last late, pieces = early ++ last :: late ∧
        (stream.feed early.flatten).fault = none ∧
        (stream.feed (early.flatten ++ last)).fault = some fault ∧
        (∃ lost, replies = (stream.feed early.flatten).replies ++ lost) ∧
        client.session.TornDown (.brokenBehind (stream.feed early.flatten).replies fault) after) ∧
      ((∀ piece ∈ pieces, piece.length ≤ 1) →
        client.session.TornDown (.brokenBehind replies fault) after) := by
  intro client after replies
  obtain ⟨hplays, hready⟩ := leads_run_ofCeiling ceiling history
  have hstream : stream.CaughtUp := hplays.caughtUp (caughtUp_of_down rfl) stream owed hlink
  obtain ⟨early, last, late, hpieces, hearly, hlast⟩ := hstream.exists_first_fault hfault
  have hbroken := hstream.feed_append_eq hearly last
  have hreplies : replies = (stream.feed early.flatten).replies ++
      ((stream.feed early.flatten).stream.feed last).replies := by
    have hflatten : pieces.flatten = early.flatten ++ last ++ late.flatten := by simp [hpieces]
    have hfinal := hstream.feed_append_of_fault ((congrArg Wire.Decoded.fault hbroken).trans hlast)
      late.flatten
    show (stream.feed pieces.flatten).replies = _
    rw [hflatten, hfinal.1, hbroken]
  have htorn : client.session.TornDown _ (client.run ((early ++ last :: late).map .send)).session :=
    tornDown_sends hready.balanced hlink hstream hearly hlast
  rw [← hpieces] at htorn
  refine ⟨⟨early, last, late, hpieces, hearly, ?_, ⟨_, hreplies⟩, htorn⟩, fun hbytes => ?_⟩
  · rw [hbroken]
    exact hlast
  · have hnone := (hstream.stream_feed hearly).replies_of_fault hlast
      (hbytes last (by simp [hpieces]))
    rwa [hreplies, hnone, List.append_nil]

/-- Two commands are owed a reply. The first reply and malformed bytes behind it arrive in three
pieces, the fault in the second of them, and then byte by byte. -/
theorem run_sends_broken_cut :
    let history : List Step := [.connect .established, .openBatch "b", .submit "b" .ping none,
      .submit "b" .ping none]
    let client := (ofCeiling 2).run history
    let fault : Wire.Fault := .unexpectedMarker 63
    let pieces := [Utf8.encode "+A\r\n:", Utf8.encode "1\r\n?x\r\n", Utf8.encode "+B\r\n"]
    let bytes := (Utf8.encode "+A\r\n?x\r\n").map fun b => [b]
    (client.session.link = .up .fresh [⟨.named "b", 0⟩, ⟨.named "b", 1⟩] ∧
        (Wire.Stream.fresh.feed pieces.flatten).fault = some fault ∧
        (Wire.Stream.fresh.feed bytes.flatten).fault = some fault) ∧
      (∃ early last late, pieces = early ++ last :: late ∧
        (Wire.Stream.fresh.feed early.flatten).fault = none ∧
        (Wire.Stream.fresh.feed (early.flatten ++ last)).fault = some fault ∧
        client.session.TornDown
          (.brokenBehind (Wire.Stream.fresh.feed early.flatten).replies fault)
          (client.run (pieces.map .send)).session) ∧
      client.session.TornDown (.brokenBehind [.status "A"] fault)
        (client.run (bytes.map .send)).session := by
  intro history client fault pieces bytes
  have hlink : client.session.link = .up .fresh [⟨.named "b", 0⟩, ⟨.named "b", 1⟩] := by
    decide +kernel
  have hpieces : (Wire.Stream.fresh.feed pieces.flatten).fault = some fault := by decide +kernel
  have hbytes : (Wire.Stream.fresh.feed bytes.flatten).fault = some fault := by decide +kernel
  have hreplies : (Wire.Stream.fresh.feed bytes.flatten).replies = [.status "A"] := by
    decide +kernel
  obtain ⟨⟨early, last, late, hcut, hearly, hlast, -, htorn⟩, -⟩ :=
    run_sends_broken 2 history pieces hlink hpieces
  obtain ⟨-, hsingle⟩ := run_sends_broken 2 history bytes hlink hbytes
  refine ⟨⟨hlink, hpieces, hbytes⟩, ⟨early, last, late, hcut, hearly, hlast, htorn⟩, ?_⟩
  rw [← hreplies]
  exact hsingle (by decide +kernel)

/-- A complete reply that arrives together with malformed bytes is not handed on. So it is not true
that every cut of some bytes hands on the replies that are complete in them. -/
theorem not_handed_on_in_one_piece :
    let client := (ofCeiling 2).run [.connect .established, .openBatch "b",
      .submit "b" .ping none, .submit "b" .ping none]
    let bytes := Utf8.encode "+A\r\n?x\r\n"
    let fault : Wire.Fault := .unexpectedMarker 63
    (client.session.link = .up .fresh [⟨.named "b", 0⟩, ⟨.named "b", 1⟩] ∧
        (Wire.Stream.fresh.feed bytes).replies = [.status "A"] ∧
        (Wire.Stream.fresh.feed bytes).fault = some fault) ∧
      ¬ ∀ pieces : List Bytes, pieces.flatten = bytes →
        client.session.TornDown (.brokenBehind [.status "A"] fault)
          (client.run (pieces.map .send)).session := by
  intro client bytes fault
  refine ⟨by decide +kernel, fun h => ?_⟩
  have hslot := (h [bytes] (by simp)).settled 0 ⟨.named "b", 0⟩ (by decide +kernel)
  -- In one piece the command is told what is wrong with the bytes behind its reply.
  have htold : (client.run [.send bytes]).session.slot? ⟨.named "b", 0⟩ =
      some ⟨some (.error fault.message)⟩ := by decide +kernel
  rw [show (client.run ([bytes].map .send)).session.slot? ⟨.named "b", 0⟩ = _ from htold] at hslot
  cases hslot

end Client

end CommandPipeline
