import CommandPipeline.Command

/-!
# Reading commands

Some commands have as many fields as their caller wants. A server tells the fields apart by what
comes first: the number of keys of a script call, and the flags of an update, which it takes in any
letter case until a field is none.
-/

namespace CommandPipeline

/-! ## Script calls -/

/-- A script call as the server reads it. -/
structure ScriptCall where
  digest : Bytes
  keys : List Bytes
  values : List Bytes
  deriving DecidableEq, Repr

/-- Reads a script call. There cannot be more keys than fields behind their number. -/
def ScriptCall.read? : List Bytes → Option ScriptCall
  | name :: digest :: count :: rest =>
    if name = Command.word "EVALSHA" then
      match Decimal.readUnsigned rest.length count with
      | .ok keys => some ⟨digest, rest.take keys, rest.drop keys⟩
      | .error _ => none
    else none
  | _ => none

/-! ## Updates of sorted sets -/

/-- A flag of an update. -/
inductive UpdateFlag where
  | existingOnly
  | newOnly
  | changed
  deriving DecidableEq, Repr

/-- A lower-case letter in upper case, and any other byte as it is. -/
def upperCase (b : UInt8) : UInt8 := if 97 ≤ b ∧ b ≤ 122 then b - 32 else b

namespace UpdateFlag

/-- The word for a flag. -/
def word : UpdateFlag → Bytes
  | existingOnly => Command.word "XX"
  | newOnly => Command.word "NX"
  | changed => Command.word "CH"

/-- The flag that a field is, in any letter case. -/
def of? (field : Bytes) : Option UpdateFlag :=
  [existingOnly, newOnly, changed].find? fun flag => flag.word = field.map upperCase

/-- Takes flags off the front as long as there are any. -/
def take : List Bytes → List UpdateFlag × List Bytes
  | [] => ([], [])
  | field :: rest =>
    match of? field with
    | some flag => (flag :: (take rest).1, (take rest).2)
    | none => ([], field :: rest)

/-- The policy that flags announce. Two of them exclude each other. -/
def policy? (flags : List UpdateFlag) : Option UpdatePolicy :=
  match flags.contains existingOnly, flags.contains newOnly with
  | true, true => none
  | true, false => some .updateOnly
  | false, true => some .addOnly
  | false, false => some .upsert

end UpdateFlag

/-- An update of a sorted set as the server reads it, with scores as they are written. -/
structure Update where
  key : Bytes
  policy : UpdatePolicy
  changed : Bool
  members : List (Bytes × Bytes)
  deriving DecidableEq, Repr

namespace Update

/-- Reads fields two by two. -/
def pairs? : List Bytes → Option (List (Bytes × Bytes))
  | [] => some []
  | [_] => none
  | score :: member :: rest => (pairs? rest).map ((score, member) :: ·)

/-- Reads an update: the key, then flags, then pairs of a score and a member. -/
def read? : List Bytes → Option Update
  | name :: key :: rest =>
    if name = Command.word "ZADD" then
      let (flags, rest) := UpdateFlag.take rest
      match UpdateFlag.policy? flags, pairs? rest with
      | some policy, some members => some ⟨key, policy, flags.contains .changed, members⟩
      | _, _ => none
    else none
  | _ => none

end Update

end CommandPipeline
