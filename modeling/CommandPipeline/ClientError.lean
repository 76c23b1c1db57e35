import CommandPipeline.Reply.Failure
import CommandPipeline.Reply.Reading

/-!
# Errors of the client

What a caller may be told instead of an answer. A lost link is not among them: it shows as error
replies of the commands that it cut off.
-/

namespace CommandPipeline

/-- A failure below the client, with its standard number if the operating system reported it. -/
structure SystemError where
  text : String
  number : Option Nat
  deriving DecidableEq, Repr

namespace SystemError

/-- The wording of a system failure. -/
def message (e : SystemError) : String :=
  match e.number with
  | some number => e.text ++ " (os error " ++ toString number ++ ")"
  | none => e.text

/-- Nothing goes by the path of the socket. -/
def noSuchFile : SystemError := ⟨"No such file or directory", some 2⟩

/-- The path of the socket cannot be a path. -/
def invalidArgument : SystemError := ⟨"Invalid argument", some 22⟩

/-- Sockets of that sort cannot be made here. -/
def unsupportedFamily : SystemError := ⟨"Address family not supported by protocol", some 97⟩

/-- No route leads to the host. -/
def networkUnreachable : SystemError := ⟨"Network is unreachable", some 101⟩

/-- Nobody listens at the port. -/
def connectionRefused : SystemError := ⟨"Connection refused", some 111⟩

/-- The path of the socket does not fit into a socket address. -/
def pathTooLong : SystemError :=
  ⟨"path must be shorter than libc::sockaddr_un.sun_path", none⟩

/-- The name of the host leads nowhere. -/
def noAddress : SystemError := ⟨"host name resolved to no addresses", none⟩

end SystemError

/-- Why an operation of the client gave no answer. -/
inductive ClientError where
  /-- The socket could not be set up. -/
  | connect (address source : String)
  /-- The service of the link could not be set up. -/
  | eventLoop (source : String)
  /-- There is no link. -/
  | notConnected
  /-- Some reply is or holds an error. -/
  | batch (failure : BatchFailure)
  /-- The reply cannot be read as asked. -/
  | reading (error : ReadingError)
  deriving DecidableEq, Repr

namespace ClientError

/-- The wording of an error. -/
def message : ClientError → String
  | .connect address source => "unable to connect to " ++ address ++ ": " ++ source
  | .eventLoop source => "unable to set up event loop: " ++ source
  | .notConnected => "not connected"
  | .batch failure => failure.message
  | .reading error => error.message

/-- The wording of the failure behind an error, where there is one. -/
def source? : ClientError → Option String
  | .connect _ source => some source
  | .eventLoop source => some source
  | _ => none

end ClientError

end CommandPipeline
