import CommandPipeline.Session.Exchange
import CommandPipeline.Query
import CommandPipeline.Cursor
import CommandPipeline.ScriptCache

/-!
# Clients

A client is a session with a cache of scripts. It answers queries, loads scripts once, and goes
through collections. Forgetting all scripts empties the cache once the server has confirmed it.
-/

namespace CommandPipeline

/-- A session and the scripts that have been loaded through it. -/
structure Client where
  session : Session
  scripts : ScriptCache
  deriving DecidableEq

namespace Client

/-- A client that has never been connected. -/
def ofCeiling (ceiling : Nat) : Client := ⟨.ofCeiling ceiling, []⟩

/-- Runs one command and gives its reply. -/
def ask (client : Client) (server : Server) (c : Command) :
    Client × Server × Except ClientError Reply :=
  let (session, server, result) := client.session.ask server c
  ({ client with session := session }, server, result)

/-- What the cache holds after a query has been answered without an error. -/
def scriptsAfter (client : Client) (q : Query) : ScriptCache :=
  match q with
  | .scriptFlush => []
  | _ => client.scripts

/-- Answers a query. -/
def query (client : Client) (server : Server) (q : Query) :
    Client × Server × Except ClientError Answer :=
  match client.ask server q.command with
  | (client, server, .error e) => (client, server, .error e)
  | (client, server, .ok r) =>
    match q.read r with
    | .error e => (client, server, .error (.reading e))
    | .ok answer => ({ client with scripts := client.scriptsAfter q }, server, .ok answer)

/-- The digest of a script, which is loaded unless it is in the cache. Only a load that succeeds
changes the cache. -/
def loadScript (client : Client) (server : Server) (body : String) :
    Client × Server × Except ClientError String :=
  match client.scripts.digest? body with
  | some digest => (client, server, .ok digest)
  | none =>
    match client.ask server (.scriptLoad body) with
    | (client, server, .error e) => (client, server, .error e)
    | (client, server, .ok r) =>
      match r.toText with
      | .error e => (client, server, .error (.reading e))
      | .ok digest =>
        ({ client with scripts := client.scripts.insert body digest }, server, .ok digest)

/-- A request of a cursor, as a one-shot call. -/
def request : Request (Client × Server) := fun (client, server) c =>
  let (client, server, result) := client.ask server c
  ((client, server), result)

/-- Enough requests for one entry: one for each answer that the server has prepared, one that its
fallback may complete together with bytes left from before, and one that is then answered by an
error. -/
def requestLimit (state : Client × Server) : Nat := state.2.answers.length + 2

/-- Goes through a collection for a number of steps. -/
def scan (client : Client) (server : Server) (collection : Collection) (pattern : Option Bytes)
    (count : Nat) : Client × Server × List Cursor.Item :=
  let ((client, server), items) :=
    Cursor.steps request requestLimit count (.start collection pattern) (client, server)
  (client, server, items)

end Client

end CommandPipeline
