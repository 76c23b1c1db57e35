import CommandPipeline.Command
import CommandPipeline.Reply.Reading

/-!
# Queries

A query is a command together with the way in which its reply is read. The answer of a query is a
value of the sort that the query promises; a reply of any other sort is a reading error.
-/

namespace CommandPipeline

/-- The value that a query gives. -/
inductive Answer where
  /-- The command has been carried out. -/
  | done
  /-- The reply as it is. -/
  | reply (r : Reply)
  | text (content : String)
  | flag (value : Bool)
  | number (value : Int)
  /-- A value that may be missing. -/
  | value (content : Option Bytes)
  /-- Values, each of which may be missing. -/
  | values (contents : List (Option Bytes))
  /-- A collection that may be missing as a whole. -/
  | members (contents : Option (List Bytes))
  deriving DecidableEq

/-- The queries, by the commands that they send. -/
inductive Query where
  | run (c : Command)
  | ping
  | select (db : Nat)
  | clientSetName (name : String)
  | get (key : Bytes)
  | set (key value : Bytes)
  | existsKey (key : Bytes)
  | incr (key : Bytes)
  | del (keys : List Bytes)
  | dbsize
  | flushdb
  | hget (key field : Bytes)
  | hincrby (key field : Bytes) (amount : Int)
  | hmget (key : Bytes) (fields : List Bytes)
  | hmset (key : Bytes) (pairs : List Bytes)
  | sadd (key : Bytes) (members : List Bytes)
  | smembers (key : Bytes)
  | srandmember (key : Bytes)
  | srandmembers (key : Bytes) (count : Int)
  | zadd (key : Bytes) (policy : UpdatePolicy) (changed : Bool) (members : List (Score × Bytes))
  | zrangebyscore (key : Bytes) (low high : ScoreBound) (withScores : Bool)
  | scriptFlush
  deriving DecidableEq

namespace Query

/-- The command that a query sends. -/
def command : Query → Command
  | .run c => c
  | .ping => .ping
  | .select db => .select db
  | .clientSetName name => .clientSetName name
  | .get key => .get key
  | .set key value => .set key value
  | .existsKey key => .existsKey key
  | .incr key => .incr key
  | .del keys => .del keys
  | .dbsize => .dbsize
  | .flushdb => .flushdb
  | .hget key field => .hget key field
  | .hincrby key field amount => .hincrby key field amount
  | .hmget key fields => .hmget key fields
  | .hmset key pairs => .hmset key pairs
  | .sadd key members => .sadd key members
  | .smembers key => .smembers key
  | .srandmember key => .srandmember key
  | .srandmembers key count => .srandmembers key count
  | .zadd key policy changed members => .zadd key policy changed members
  | .zrangebyscore key low high withScores => .zrangebyscore key low high withScores
  | .scriptFlush => .scriptFlush

/-- Reads the reply to a query. -/
def read (q : Query) (r : Reply) : Except ReadingError Answer :=
  match q with
  | .run _ => .ok (.reply r)
  | .ping => r.toStatus.map .text
  | .set .. => .ok (.flag r.isOk)
  | .existsKey _ => r.toInteger.map fun n => .flag (decide (0 < n))
  | .get _ | .hget .. | .srandmember _ => r.toOptional.map .value
  | .incr _ | .del _ | .dbsize | .hincrby .. | .sadd .. | .zadd .. => r.toInteger.map .number
  | .hmget .. => r.toOptionals.map .values
  | .smembers _ | .srandmembers .. => r.toByteStrings.map fun ms => .members (some ms)
  | .zrangebyscore .. => r.toByteStrings?.map .members
  | .select _ | .clientSetName _ | .flushdb | .hmset .. | .scriptFlush => .ok .done

end Query

end CommandPipeline
