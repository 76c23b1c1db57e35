import CommandPipeline.Wire.Encoding
import CommandPipeline.Text.Utf8
import CommandPipeline.Score

/-!
# Commands

A command is a name and a list of fields. Fields are byte strings; `Argument` renders text, numbers
and scores as fields, and `Arguments` is the shape in which several of them are handed over. The
functions below `Command` build the commands that have a form of their own, in the order of fields
that the server reads.
-/

namespace CommandPipeline

/-- A value that can be a field of a command. -/
inductive Argument where
  | bytes (content : Bytes)
  | text (content : String)
  | letter (content : Char)
  | integer (value : Int)
  | score (value : Score)
  deriving DecidableEq, Repr

/-- The field that an argument is rendered as. -/
def Argument.field : Argument → Bytes
  | .bytes content => content
  | .text content => Utf8.encode content
  | .letter content => Utf8.encode content.toString
  | .integer value => Decimal.ofInt value
  | .score value => Utf8.encode value.wireText

/-- Arguments in the shape in which a caller hands them over. -/
inductive Arguments where
  /-- No arguments. -/
  | none
  /-- A tuple, whose values may be of different types. -/
  | tuple (values : List Argument)
  /-- A sequence of values of one type. -/
  | sequence (values : List Argument)
  /-- Arguments that are lent. -/
  | lent (args : Arguments)
  deriving DecidableEq, Repr

namespace Arguments

/-- The values in their order, whatever the shape. -/
def values : Arguments → List Argument
  | none => []
  | tuple values | sequence values => values
  | lent args => args.values

/-- Puts the fields of all values behind `fields`. A tuple gives its values one by one, a sequence
all at once. -/
def pushFields (fields : List Bytes) : Arguments → List Bytes
  | none => fields
  | tuple values => values.foldl (fun fields value => fields ++ [value.field]) fields
  | sequence values => fields ++ values.map Argument.field
  | lent args => args.pushFields fields

/-- The shape leaves no trace. -/
@[simp] theorem pushFields_eq (fields : List Bytes) (args : Arguments) :
    args.pushFields fields = fields ++ args.values.map Argument.field := by
  induction args with
  | none => simp [pushFields, values]
  | sequence values => rfl
  | lent args ih => exact ih
  | tuple values =>
      rw [pushFields, Arguments.values]
      induction values generalizing fields with
      | nil => simp
      | cons value rest ih => rw [List.foldl_cons, ih]; simp

end Arguments

/-- One end of an interval of scores. -/
inductive ScoreBound where
  | inclusive (score : Score)
  | exclusive (score : Score)
  deriving DecidableEq, Repr

namespace ScoreBound

/-- A bound that leaves out its score when `exclude` is set. -/
def of (score : Score) (exclude : Bool) : ScoreBound :=
  if exclude then .exclusive score else .inclusive score

/-- The wire form of a bound: an exclusive one has an opening parenthesis in front. -/
def wireText : ScoreBound → String
  | .inclusive score => score.wireText
  | .exclusive score => "(" ++ score.wireText

/-- The field that a bound is rendered as. -/
def field (b : ScoreBound) : Bytes := Utf8.encode b.wireText

/-- The display form of a bound. -/
def displayText : ScoreBound → String
  | .inclusive score => "Inclusive(" ++ score.displayText ++ ")"
  | .exclusive score => "Exclusive(" ++ score.displayText ++ ")"

/-- Two bounds of the same sort whose scores are the same number. -/
def sameBound : ScoreBound → ScoreBound → Bool
  | .inclusive a, .inclusive b => a.sameNumber b
  | .exclusive a, .exclusive b => a.sameNumber b
  | _, _ => false

end ScoreBound

/-- Which members of a sorted set an update may touch. -/
inductive UpdatePolicy where
  /-- Only members that exist already. -/
  | updateOnly
  /-- Only members that do not exist yet. -/
  | addOnly
  /-- Both. -/
  | upsert
  deriving DecidableEq, Repr

/-- The flag that announces an update policy. -/
def UpdatePolicy.flags : UpdatePolicy → List Bytes
  | .updateOnly => [Utf8.encode "XX"]
  | .addOnly => [Utf8.encode "NX"]
  | .upsert => []

/-- A command as it is sent: its name and its fields. -/
structure Command where
  name : String
  fields : List Bytes
  deriving DecidableEq, Repr

namespace Command

/-- The bytes of a command on the wire. -/
def frame (c : Command) : Bytes := Wire.fieldsFrame (Utf8.encode c.name :: c.fields)

/-- The command of a name with arguments of any shape. -/
def call (name : String) (args : Arguments) : Command := ⟨name, args.pushFields []⟩

/-- The commands of a list one after the other, behind what the buffer holds. -/
def appendAll (buffer : Bytes) (commands : List Command) : Bytes :=
  commands.foldl (fun out c => out ++ c.frame) buffer

/-! ## Commands with a form of their own -/

/-- A word of a command, as a field. -/
def word (text : String) : Bytes := Utf8.encode text

/-- A number, as a field. -/
def number (n : Int) : Bytes := Decimal.ofInt n

/-- Asks whether the server is there. -/
def ping : Command := ⟨"PING", []⟩

/-- Chooses the database that later commands work on. -/
def select (db : Nat) : Command := ⟨"SELECT", [Decimal.ofNat db]⟩

/-- Names the connection, for the server's own listings. -/
def clientSetName (name : String) : Command := ⟨"CLIENT", [word "SETNAME", word name]⟩

/-- Asks for the value of a key. -/
def get (key : Bytes) : Command := ⟨"GET", [key]⟩

/-- Sets the value of a key. -/
def set (key value : Bytes) : Command := ⟨"SET", [key, value]⟩

/-- Asks whether a key exists. -/
def existsKey (key : Bytes) : Command := ⟨"EXISTS", [key]⟩

/-- Adds one to the number that a key holds. -/
def incr (key : Bytes) : Command := ⟨"INCR", [key]⟩

/-- Removes keys. -/
def del (keys : List Bytes) : Command := ⟨"DEL", keys⟩

/-- Asks how many keys the database has. -/
def dbsize : Command := ⟨"DBSIZE", []⟩

/-- Removes every key of the database. -/
def flushdb : Command := ⟨"FLUSHDB", []⟩

/-- Asks for one field of a hash. -/
def hget (key field : Bytes) : Command := ⟨"HGET", [key, field]⟩

/-- Adds an amount to the number that a field of a hash holds. -/
def hincrby (key field : Bytes) (amount : Int) : Command :=
  ⟨"HINCRBY", [key, field, number amount]⟩

/-- Asks for several fields of a hash. -/
def hmget (key : Bytes) (fields : List Bytes) : Command := ⟨"HMGET", key :: fields⟩

/-- Sets hash fields; the pairs are field, value, field, value and so on. -/
def hmset (key : Bytes) (pairs : List Bytes) : Command := ⟨"HMSET", key :: pairs⟩

/-- Adds members to a set. -/
def sadd (key : Bytes) (members : List Bytes) : Command := ⟨"SADD", key :: members⟩

/-- Asks for all members of a set. -/
def smembers (key : Bytes) : Command := ⟨"SMEMBERS", [key]⟩

/-- Asks for one random member of a set. -/
def srandmember (key : Bytes) : Command := ⟨"SRANDMEMBER", [key]⟩

/-- Asks for several random members, a negative count allowing repeats. -/
def srandmembers (key : Bytes) (count : Int) : Command := ⟨"SRANDMEMBER", [key, number count]⟩

/-- Adds scored members to a sorted set. The policy and the wish to count changed members come as
flags between the key and the members. -/
def zadd (key : Bytes) (policy : UpdatePolicy) (changed : Bool) (members : List (Score × Bytes)) :
    Command :=
  ⟨"ZADD", key :: policy.flags ++ (if changed then [word "CH"] else []) ++
    members.flatMap fun (score, member) => [word score.wireText, member]⟩

/-- Asks for the members scored between two bounds, on demand with their scores. -/
def zrangebyscore (key : Bytes) (low high : ScoreBound) (withScores : Bool) : Command :=
  ⟨"ZRANGEBYSCORE", [key, low.field, high.field] ++
    if withScores then [word "WITHSCORES"] else []⟩

/-- Empties the server's store of scripts. -/
def scriptFlush : Command := ⟨"SCRIPT", [word "FLUSH"]⟩

/-- Stores a script at the server, which answers with its digest. -/
def scriptLoad (body : String) : Command := ⟨"SCRIPT", [word "LOAD", word body]⟩

/-- Runs a script by its digest. The number of keys comes before keys and values, so the server can
tell them apart. -/
def evalsha (digest : String) (keys values : List Bytes) : Command :=
  ⟨"EVALSHA", word digest :: Decimal.ofNat keys.length :: keys ++ values⟩

/-- Runs a script with keys and values of any shape. The keys are counted when all their fields are
there, and then the values are put behind them. -/
def runScript (digest : String) (keys values : Arguments) : Command :=
  let keyFields := keys.pushFields []
  ⟨"EVALSHA", values.pushFields (word digest :: Decimal.ofNat keyFields.length :: keyFields)⟩

/-- A script call carries its digest, the number of its key fields, these fields, and those of the
values. -/
theorem runScript_eq (digest : String) (keys values : Arguments) :
    runScript digest keys values =
      evalsha digest (keys.values.map Argument.field) (values.values.map Argument.field) := by
  simp [runScript, evalsha]

end Command

end CommandPipeline
