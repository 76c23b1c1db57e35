import CommandPipeline.Reply

/-!
# Slots

A submitted command has a slot that waits for its reply. A slot is filled at most once by the link;
before that it reads as nil. Once filled it belongs to its owner, who may overwrite it.
-/

namespace CommandPipeline

/-- The place for one reply. -/
structure Slot where
  /-- The reply, once there is one. -/
  content : Option Reply
  deriving DecidableEq

namespace Slot

/-- A slot that waits for its reply. -/
def empty : Slot := ⟨none⟩

/-- The reply as seen by readers. -/
def read (s : Slot) : Reply := s.content.getD .nil

/-- Delivers a reply. A slot keeps the first one that it is given. -/
def fill (s : Slot) (r : Reply) : Slot :=
  match s.content with
  | none => ⟨some r⟩
  | some _ => s

/-- Replaces what the slot holds. -/
def overwrite (_ : Slot) (r : Reply) : Slot := ⟨some r⟩

/-- The reply that a command gets when its link goes away without a word. -/
def abandonedMessage : String := "ERR connection closed before a reply was received"

end Slot

end CommandPipeline
