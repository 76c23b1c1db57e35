import CommandPipeline.Reply

/-!
# Failed replies

An error may sit anywhere inside a reply. `errorCount` counts the errors of a reply at any depth. A
batch of replies with at least one error is reported as a `BatchFailure`, which counts all errors
and shows the first three messages. The report is collected in one pass over all replies, which
passes on the messages shown so far.
-/

namespace CommandPipeline

namespace Reply

mutual

/-- The errors of a reply, nested ones included. -/
def errorCount : Reply → Nat
  | .error _ => 1
  | .array items => errorCountFrom 0 items
  | _ => 0

/-- The errors of several replies, on top of `counted`. -/
def errorCountFrom (counted : Nat) : List Reply → Nat
  | [] => counted
  | r :: rest => errorCountFrom (counted + errorCount r) rest

end

end Reply

/-- The report on a batch in which some reply is or holds an error. -/
structure BatchFailure where
  /-- All errors of the batch. -/
  errors : Nat
  /-- The messages that are shown. -/
  shown : List String
  /-- All replies of the batch. -/
  replies : Nat
  deriving DecidableEq, Repr

namespace BatchFailure

/-- The number of messages that a report shows at most. -/
def shownLimit : Nat := 3

/-- Takes in a message, unless enough of them are shown. -/
def quote (shown : List String) (message : String) : List String :=
  if shown.length < shownLimit then shown ++ [message] else shown

mutual

/-- Collects the errors of a reply: the messages shown, on top of those shown before, and the number
of errors. -/
def collect (shown : List String) : Reply → List String × Nat
  | .error message => (quote shown message, 1)
  | .array items => collectAll shown items
  | _ => (shown, 0)

/-- Collects the errors of several replies, one after the other. -/
def collectAll (shown : List String) : List Reply → List String × Nat
  | [] => (shown, 0)
  | r :: rest =>
    let (shown, errors) := collect shown r
    let (shown, more) := collectAll shown rest
    (shown, errors + more)

end

/-- The report on a list of replies, if one of them is or holds an error. -/
def ofReplies? (replies : List Reply) : Option BatchFailure :=
  let (shown, errors) := collectAll [] replies
  if errors = 0 then none else some ⟨errors, shown, replies.length⟩

/-- The wording of a report. Messages stand between quotation marks as they are. -/
def message (f : BatchFailure) : String :=
  let quoted := f.shown.map fun m => "\"" ++ m ++ "\""
  "error in reply: " ++ " ".intercalate quoted ++ " (showing " ++ toString f.shown.length ++
    " of " ++ toString f.errors ++ " errors on " ++ toString f.replies ++ " total replies)"

end BatchFailure

end CommandPipeline
