import Plunder.Value

/-!
# The journal

What the program notes while it works: a level and a value.
-/

namespace Plunder

/-- How much a note matters. -/
inductive Level where
  | debug
  | info
  | warning
  | error
  /-- The journal is told to keep notes for debugging from here on. -/
  | setDebug
  /-- The journal is told to keep every note from here on. -/
  | setTrace
  deriving DecidableEq

def Level.text : Level → String
  | debug => "debug"
  | info => "info"
  | warning => "warning"
  | error => "error"
  | setDebug => "set_debug"
  | setTrace => "set_trace"

/-- An entry of the journal. -/
structure Note where
  level : Level
  body : Value

namespace Note

def under (level : Level) (topic : String) (fs : Fields) : Note :=
  ⟨level, .object [(topic, .object fs)]⟩

end Note
end Plunder
