import Plunder.Journal
import Plunder.Options

/-!
# Flags of the journal

The options by which the user tells the journal to keep more notes.
-/

namespace Plunder.Journal

def debugFlag : String := "--logging.debug"

/-- The flag that keeps every note. -/
def traceFlag : String := "--logging.trace"

def options : List Options.Opt := [⟨debugFlag, .flag⟩, ⟨traceFlag, .flag⟩]

/-- The note that the journal makes when it is told to keep notes for debugging. -/
def debugNotes (r : Options.Reading) : List Note :=
  if r.has debugFlag then [⟨.setDebug, .bool true⟩] else []

/-- The note that the journal makes when it is told to keep every note. -/
def traceNotes (r : Options.Reading) : List Note :=
  if r.has traceFlag then [⟨.setTrace, .bool true⟩] else []

end Plunder.Journal
