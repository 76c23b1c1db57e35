import CommandPipeline.Bytes

/-!
# Replies

A server answers each command with one reply: an integer, a string of bytes, an array of further
replies, an error, a status line, or nil. This module holds the value, its kinds and its equality;
`Reply.Reading` takes values out of it.
-/

namespace CommandPipeline

/-- One answer of the server. -/
inductive Reply where
  /-- A signed 64-bit integer. -/
  | integer (value : Int)
  /-- A string of arbitrary bytes. -/
  | string (bytes : Bytes)
  /-- Replies in order, of any kind and nesting. -/
  | array (items : List Reply)
  /-- The message of a failed command. -/
  | error (message : String)
  /-- A status line such as `OK`. -/
  | status (text : String)
  /-- The absence of a value. -/
  | nil
  deriving Inhabited

namespace Reply

/-- The six kinds of reply. -/
inductive Kind where
  | integer
  | string
  | array
  | error
  | status
  | nil
  deriving DecidableEq, Repr

/-- The name of a kind in messages. -/
def Kind.name : Kind → String
  | .integer => "integer"
  | .string => "string"
  | .array => "array"
  | .error => "error"
  | .status => "status"
  | .nil => "nil"

/-- The kind of a reply. -/
def kind : Reply → Kind
  | .integer _ => .integer
  | .string _ => .string
  | .array _ => .array
  | .error _ => .error
  | .status _ => .status
  | .nil => .nil

/-- The status that acknowledges a command. -/
def isOk : Reply → Bool
  | .status text => text == "OK"
  | _ => false

/-! ## Equality

Replies are equal when they have the same kind and the same content, arrays element by element.
-/

mutual

/-- Decides equality of replies. -/
def same : Reply → Reply → Bool
  | .integer a, .integer b => a == b
  | .string a, .string b => a == b
  | .array a, .array b => sameItems a b
  | .error a, .error b => a == b
  | .status a, .status b => a == b
  | .nil, .nil => true
  | _, _ => false

/-- Decides equality of lists of replies. -/
def sameItems : List Reply → List Reply → Bool
  | [], [] => true
  | a :: as, b :: bs => same a b && sameItems as bs
  | _, _ => false

end

mutual

/-- Replies that are found the same are equal. -/
theorem eq_of_same : (a b : Reply) → same a b = true → a = b
  | .integer _, .integer _, h => by simpa [same] using h
  | .string _, .string _, h => by simpa [same] using h
  | .array a, .array b, h => by
    rw [same] at h
    rw [eq_of_sameItems a b h]
  | .error _, .error _, h => by simpa [same] using h
  | .status _, .status _, h => by simpa [same] using h
  | .nil, .nil, _ => rfl

theorem eq_of_sameItems : (as bs : List Reply) → sameItems as bs = true → as = bs
  | [], [], _ => rfl
  | a :: as, b :: bs, h => by
    rw [sameItems, Bool.and_eq_true] at h
    rw [eq_of_same a b h.1, eq_of_sameItems as bs h.2]

end

mutual

/-- Every reply is found the same as itself. -/
@[simp] theorem same_self : (a : Reply) → same a a = true
  | .integer _ => by simp [same]
  | .string _ => by simp [same]
  | .array items => by rw [same]; exact sameItems_self items
  | .error _ => by simp [same]
  | .status _ => by simp [same]
  | .nil => by simp [same]

@[simp] theorem sameItems_self : (as : List Reply) → sameItems as as = true
  | [] => by simp [sameItems]
  | a :: as => by rw [sameItems, same_self a, sameItems_self as]; rfl

end

@[simp] theorem same_iff {a b : Reply} : same a b = true ↔ a = b :=
  ⟨eq_of_same a b, fun h => h ▸ same_self a⟩

instance : DecidableEq Reply := fun _ _ => decidable_of_iff _ same_iff

end Reply

end CommandPipeline
