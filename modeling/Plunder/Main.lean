import Plunder.Chart.Sketch
import Plunder.Console
import Plunder.Node

/-!
# The program

Serves a ledger and runs console commands against it. The arguments are those of the node; the first
line of the standard input is the text of the roster file, and every line after it is either a request
on the wire, which begins with a brace and is answered by a line, or a console command, whose lines
and exit code are printed.
-/

open Plunder

/-- The variables of the environment that the program looks at. -/
def watched : List String := Environment.testVariable :: Settings.sources.map (·.1)

def environment : IO Environment := do
  let values ← watched.mapM fun v => do
    let value ← IO.getEnv v
    return value.map (v, ·)
  return values.filterMap id

/-- When calls are issued: there is no calendar here. -/
def epoch : Moment := ⟨1970, 1, 1, 0, 0, 0, 0, some 0⟩

/-- No file can be written. -/
def unwritable (path : String) : Option Fault := some (.noFile path)

def argumentsIn (line : String) : List String :=
  (line.splitOn " ").filter fun s => !s.isEmpty

/-- A request on the wire, and the text of its reply. -/
def answer (r : Rehearsal) (line : String) : Rehearsal × String :=
  let (r, o) := r.play [.request line]
  (r, (Rehearsal.httpReplyOf (o.getD (.ok .nothing))).text)

/-- A console command, and what it prints. -/
def command (r : Rehearsal) (env : Environment) (line : String) : Rehearsal × String :=
  let (r, report) := Console.execute r env unwritable (argumentsIn line)
  let ending := match report.outcome with
    | .ok code => "exit " ++ toString code
    | .error f => f.message
  (r, "\n".intercalate (report.lines ++ [ending]))

/-- A ledger on which every transaction gets a block of its own at once: no time passes here. -/
def timeless (l : Ledger) : Ledger := { l with setup := { l.setup with blockTime := none } }

/-- Reads lines and prints what they are answered with, until the input ends. -/
partial def converse (env : Environment) (r : Rehearsal) : IO Unit := do
  let line ← (← IO.getStdin).getLine
  if line.isEmpty then return
  let text := Text.trim line
  let (r, reply) := if text.startsWith "\x7b" then answer r text else command r env text
  IO.println reply
  converse env r

/-- The program. -/
def main (args : List String) : IO UInt32 := do
  let env ← environment
  let roster ← (← IO.getStdin).getLine
  let report := Node.serve env (fun _ => some roster) Chart.sketch epoch args
  match report.outcome, report.served with
  | .ok _, some (ledger, _, _) =>
    converse env (.start (timeless ledger) (.bare none 1 epoch) .direct)
    return 0
  | .ok code, none => return UInt32.ofNat code
  | .error f, _ =>
    IO.eprintln f.message
    return 1
