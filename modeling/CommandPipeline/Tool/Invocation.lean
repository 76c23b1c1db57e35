import CommandPipeline.Address
import CommandPipeline.ClientError

/-!
# Invoking the load tool

The load tool is invoked with an address and a count, both optional. The address may also come from
the environment. An invocation, or a run of the tool, fails with a message and sometimes with the
cause behind it, which is written below the message.
-/

namespace CommandPipeline.Tool

/-- What the tool is asked to do: where to connect, as it was written, and how many commands to
send. -/
structure Invocation where
  address : String
  count : Nat
  deriving DecidableEq, Repr

/-- Why the tool ends without success. -/
inductive Failure where
  /-- The count is no number in range. -/
  | invalidCount (text : String) (fault : Decimal.Fault)
  /-- The attempt to connect was started and failed. -/
  | unreachable (address : String) (error : SystemError)
  /-- An operation of the client failed. -/
  | client (error : ClientError)
  deriving DecidableEq, Repr

/-- The variable of the environment that may hold the address. -/
def addressVariable : String := "KVPIPE_ADDR"

/-- The number of commands that are sent unless told otherwise. -/
def standardCount : Nat := 100000

/-- Reads a count. -/
def readCount (text : String) : Except Failure Nat :=
  match Decimal.readUnsigned Decimal.wordLimit (Utf8.encode text) with
  | .ok count => .ok count
  | .error fault => .error (.invalidCount text fault)

/-- Reads the arguments: the address, the count, and anything else, which is ignored. -/
def Invocation.ofArguments (arguments : List String) (environment : Option String) :
    Except Failure Invocation := do
  let address := arguments.head?.getD (environment.getD Address.standard.display)
  let count ← match arguments[1]? with
    | some text => readCount text
    | none => .ok standardCount
  .ok ⟨address, count⟩

namespace Failure

/-- Why a count cannot be read. -/
def countCause : Decimal.Fault → String
  | .empty => "cannot parse integer from empty string"
  | .invalidDigit _ => "invalid digit found in string"
  | .tooLarge => "number too large to fit in target type"

/-- The message of a failure. -/
def message : Failure → String
  | .invalidCount text _ => "invalid count " ++ Text.quote text
  | .unreachable address error => "unable to connect to " ++ address ++ ": " ++ error.message
  | .client error => error.message

/-- The cause behind a failure, where there is one. -/
def cause? : Failure → Option String
  | .invalidCount _ fault => some (countCause fault)
  | .unreachable .. => none
  | .client error => error.source?

/-- The failure as it is reported. -/
def report (f : Failure) : String :=
  "Error: " ++ f.message ++
    match f.cause? with
    | some cause => "\n\nCaused by:\n    " ++ cause
    | none => ""

end Failure

end CommandPipeline.Tool
