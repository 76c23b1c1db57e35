import CommandPipeline.Bytes
import CommandPipeline.Text.Utf8

/-!
# A scripted server

A scripted server answers each frame that it receives with the next of its prepared answers, and
with a fixed error line when none is left. It keeps the frames that it has received.
-/

namespace CommandPipeline

/-- The answers still to be given and the frames received, in order. -/
structure Server where
  answers : List Bytes
  frames : List Bytes
  deriving DecidableEq, Repr

namespace Server

/-- A server with its answers prepared. -/
def ofAnswers (answers : List Bytes) : Server := ⟨answers, []⟩

/-- The answer of a server that has no other left. -/
def fallback : Bytes := Utf8.encode "-ERR no scripted reply\r\n"

/-- Receives a frame and answers it. -/
def answer (server : Server) (frame : Bytes) : Server × Bytes :=
  (⟨server.answers.tail, server.frames ++ [frame]⟩, server.answers.headD fallback)

end Server

end CommandPipeline
