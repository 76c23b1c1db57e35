import CommandPipeline.Tool.Run

/-!
# Rehearsing the load tool

A rehearsal runs the load tool against a server with prepared answers, one for each command in the
order of their arrival. After those it acknowledges every command, and answers a command without
fields by the number of commands that came before. A server that leaves a command unanswered ends
the link.
-/

namespace CommandPipeline.Tool

/-- A server in a rehearsal. -/
structure Stage where
  /-- The answers still prepared. -/
  answers : List Bytes
  /-- The number of commands received. -/
  received : Nat
  /-- The frames kept for inspection, last one first: the first four and every frame of a command
  without fields. -/
  kept : List Bytes

namespace Stage

/-- The number of frames that are kept whatever they hold. -/
def keptAtFirst : Nat := 4

/-- The answer to a command for which none is prepared. -/
def standardAnswer (received : Nat) (c : Command) : Bytes :=
  if c.fields.isEmpty then Wire.header Wire.integerMarker received
  else Utf8.encode "+OK\r\n"

/-- Receives a command and answers it. -/
def answer (stage : Stage) (c : Command) : Stage × Bytes :=
  let keep := decide (stage.received < keptAtFirst) || c.fields.isEmpty
  (⟨stage.answers.tail, stage.received + 1,
      if keep then c.frame :: stage.kept else stage.kept⟩,
    stage.answers.headD (standardAnswer stage.received c))

end Stage

/-- Goes on with a run, at most `fuel` steps. -/
def rehearseFrom : Nat → Run → Stage → Run × Stage
  | 0, r, stage => (r, stage)
  | fuel + 1, r, stage =>
    match r.step with
    | (r, .ended) | (r, .waiting) => (r, stage)
    | (r, .submitted none) => rehearseFrom fuel r stage
    | (r, .submitted (some c)) =>
      let (stage, bytes) := stage.answer c
      let r := r.receive bytes
      let r := if r.session.owed.isEmpty then r else r.hangUp
      rehearseFrom fuel r stage

/-- Rehearses a run from its start to its end. Every command is one step, the last question another,
and one more ends the run. -/
def rehearse (r : Run) (answers : List Bytes) : Run × Stage :=
  rehearseFrom (r.count + 2) r ⟨answers, 0, []⟩

end CommandPipeline.Tool
