import CommandPipeline.Address

/-!
# Connection settings

Where a connection leads and how it is sized. Only the ceiling on unanswered commands can be seen
from the outside; it is never zero.
-/

namespace CommandPipeline

/-- The settings of a connection. -/
structure Config where
  address : Address := .standard
  /-- How many commands may be unanswered at a time. -/
  maxInFlight : Nat := 1000
  /-- How many bytes are read from the link at a time. -/
  readBuffer : Nat := 4096
  /-- How many link events are taken note of at a time. -/
  eventCapacity : Nat := 1024
  /-- Small messages are sent without delay. -/
  nodelay : Bool := true
  deriving Repr

/-- The settings with another ceiling, at least one. -/
def Config.withMaxInFlight (config : Config) (n : Nat) : Config :=
  { config with maxInFlight := max 1 n }

end CommandPipeline
