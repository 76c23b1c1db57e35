import CommandPipeline.Tool.Run
import Std.Async.TCP
import Std.Async.DNS

/-!
# The load tool on the command line

The outer layer of the load tool: it reads the arguments and the environment, holds the socket and
prints the report. What is sent, when the tool waits and how it ends is decided by `Tool.Run`.
-/

open Std.Async Std.Net
open Std.Async.TCP (Socket.Client)

namespace CommandPipeline.Tool

/-- The standard number of a failure, which some operations report as its negative in 32 bits. -/
def errorNumber (n : UInt32) : Nat := if n < 0x80000000 then n.toNat else Nat.pow 2 32 - n.toNat

/-- A failed operation as a failure of the operating system. -/
def systemError : IO.Error → SystemError
  | .alreadyExists _ n text | .otherError n text | .resourceBusy n text | .resourceVanished n text
  | .unsupportedOperation n text | .hardwareFault n text | .unsatisfiedConstraints n text
  | .illegalOperation n text | .protocolError n text | .timeExpired n text
  | .interrupted _ n text | .noFileOrDirectory _ n text | .invalidArgument _ n text
  | .permissionDenied _ n text | .resourceExhausted _ n text | .inappropriateType _ n text
  | .noSuchThing _ n text => ⟨text, some (errorNumber n)⟩
  | .unexpectedEof => ⟨"end of file", none⟩
  | .userError text => ⟨text, none⟩

/-- The socket address of a resolved host. -/
def socketAddress (port : UInt16) : IPAddr → SocketAddress
  | .v4 addr => .v4 ⟨addr, port⟩
  | .v6 addr => .v6 ⟨addr, port⟩

/-- Finds the socket address of a server and makes a socket. -/
def prepare (address : Address) : IO (Except SystemError (Socket.Client × SocketAddress)) := do
  match address with
  | .unix _ => return .error .unsupportedFamily
  | .tcp host port =>
    try
      let hosts ← (DNS.getAddrInfo host (toString port.toNat)).block
      match hosts[0]? with
      | none => return .error .noAddress
      | some found => return .ok (← Socket.Client.mk, socketAddress port found)
    catch e => return .error (systemError e)

/-- Connects a socket, and gives the reason if that fails. -/
def establish (socket : Socket.Client) (target : SocketAddress) : IO (Option SystemError) := do
  try
    (socket.connect target).block
    socket.noDelay
    return none
  catch e => return some (systemError e)

/-- Sends the frame of a command. A failed write ends the link. -/
def transmit (socket : Socket.Client) (r : Run) (c : Command) : IO Run := do
  try
    (socket.send c.frame.toByteArray).block
    return r
  catch e => return r.lose ("write error: " ++ (systemError e).message)

/-- Waits for bytes from the server. -/
def await (socket : Socket.Client) (r : Run) : IO Run := do
  try
    match ← (socket.recv? 4096).block with
    | some bytes => return r.receive bytes.data.toList
    | none => return r.hangUp
  catch e => return r.lose ("read error: " ++ (systemError e).message)

/-- Carries a run to its end. -/
partial def carryOn (socket : Socket.Client) (r : Run) : IO Run := do
  match r.step with
  | (r, .ended) => return r
  | (r, .submitted none) => carryOn socket r
  | (r, .submitted (some c)) => carryOn socket (← transmit socket r c)
  | (r, .waiting) => carryOn socket (← await socket r)

/-- Prints the failure of a run, if there is one, and gives the exit code. -/
def conclude (r : Run) : IO UInt32 := do
  if let some failure := r.failure? then IO.eprintln failure.report
  return r.exitCode.toUInt32

/-- Runs the tool. -/
def execute (invocation : Invocation) : IO UInt32 := do
  match ← prepare (Address.parse invocation.address) with
  | .error error => conclude (Run.start invocation (.impossible error))
  | .ok (socket, target) =>
    match ← establish socket target with
    | some error => conclude (Run.start invocation (.failed error))
    | none =>
      let r := Run.start invocation .established
      for line in r.lines do IO.println line.text
      let told := r.lines.length
      let r ← carryOn socket r
      for line in r.lines.drop told do IO.println line.text
      conclude r

end CommandPipeline.Tool

/-- The load tool: an address and a count, both optional. -/
def main (arguments : List String) : IO UInt32 := do
  let environment ← IO.getEnv CommandPipeline.Tool.addressVariable
  match CommandPipeline.Tool.Invocation.ofArguments arguments environment with
  | .error failure =>
    IO.eprintln failure.report
    return 1
  | .ok invocation => CommandPipeline.Tool.execute invocation
