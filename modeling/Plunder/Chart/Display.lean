import Plunder.Chart.Artifact

/-!
# Displaying charts

A chart is shown from a file that its handle owns. The desk is the directory of these files; a new
file gets a path that no other file has, and a handle removes its file once, however often it is
released.

* `Desk.openBy`: an artifact is written to a new file; what was begun is undone where that fails
* `Desk.releaseBy`, `Desk.leave`: a handle is released, by itself or at the end of a block
* `Desk.open?`, `Desk.release`: the same on a system that does what it is asked
-/

namespace Plunder

/-- The directory of the chart files. -/
structure Desk where
  /-- The path of the directory. -/
  directory : String
  /-- Whether the directory exists. -/
  present : Bool
  /-- The files in it, by path. -/
  files : List (String × Bytes)
  /-- How many paths have been given away. -/
  opened : Nat

/-- Owns one chart file. -/
structure DisplayHandle where
  path : String
  released : Bool
  deriving DecidableEq, Inhabited

namespace DisplayHandle

/-- The address under which a viewer finds the file. -/
def uri (h : DisplayHandle) : String := "file://" ++ h.path

end DisplayHandle

/-- How the writing of a file goes. -/
inductive Writing where
  /-- All octets are written. -/
  | whole
  /-- A fault ends it when some octets have been written. -/
  | broken (written : Nat) (fault : Fault)

/-- What the system does while a file is opened. -/
structure Opening where
  /-- The paths that it tries, one after the other. -/
  paths : List String
  writing : Writing
  /-- Why it does not remove a file that could not be written, if it does not. -/
  refusal : Option Fault

namespace Desk

/-- A desk without files. -/
def empty (present : Bool) : Desk := ⟨"/tmp/plunder", present, [], 0⟩

def nextPath (d : Desk) : String :=
  d.directory ++ "/haul-chart-" ++ toString d.opened ++ ".png"

def content? (d : Desk) (path : String) : Option Bytes :=
  (d.files.find? (·.1 == path)).map (·.2)

/-! ## What the system does -/

/-- Whether no file has a path. -/
def isFree (d : Desk) (path : String) : Bool := !d.files.any (·.1 == path)

/-- The wording where every path that was tried is taken. -/
def noPathText : String := "[Errno 17] No usable temporary file name found"

/-- A new file without octets, at the first of some paths that is free. -/
def create (d : Desk) (paths : List String) : Except Fault (Desk × String) :=
  if d.present then
    match paths.find? d.isFree with
    | some path => .ok ({ d with files := d.files ++ [(path, [])] }, path)
    | none => .error (.other .system noPathText)
  else .error (.noFile (paths.headD ""))

/-- Octets take the place of those that a file has. -/
def write (d : Desk) (path : String) (bs : Bytes) : Desk :=
  { d with files := d.files.map fun f => if f.1 == path then (path, bs) else f }

def remove (d : Desk) (path : String) : Desk :=
  { d with files := d.files.filter (·.1 != path) }

/-- Removes a file, unless the system refuses to. -/
def unlink (d : Desk) (path : String) : Option Fault → Desk
  | none => d.remove path
  | some _ => d

/-! ## Handles -/

/-- Writes an artifact to a new file, which the handle owns. A file that could not be written is
removed again; where the system does not do that either, nothing is said of it. -/
def openBy (d : Desk) (o : Opening) (a : ChartArtifact) : Desk × Except Fault DisplayHandle :=
  match d.create o.paths with
  | .error f => (d, .error f)
  | .ok (made, path) =>
    match o.writing with
    | .whole => (made.write path a.data, .ok ⟨path, false⟩)
    | .broken written f => ((made.write path (a.data.take written)).unlink path o.refusal, .error f)

def openNote (path : String) (a : ChartArtifact) : Note :=
  .under .debug "artifact_decoder" [("display", .text path), ("bytes", .nat a.data.length)]

/-- Writes an artifact to a new file, which the handle owns. -/
def open? (d : Desk) (a : ChartArtifact) : Except Fault (Desk × DisplayHandle) :=
  let (made, h) := { d with opened := d.opened + 1 }.openBy ⟨[d.nextPath], .whole, none⟩ a
  h.map (made, ·)

/-- Removes the file of a handle, unless the handle has been released before. The handle counts as
released even if the system refuses to remove the file; that there is no file is no fault. -/
def releaseBy (d : Desk) (refusal : Option Fault) (h : DisplayHandle) :
    Desk × DisplayHandle × Option Fault :=
  if h.released then (d, h, none)
  else (d.unlink h.path refusal, { h with released := true }, refusal.filter (·.kind != .noFile))

/-- Removes the file of a handle, unless the handle has been released before. -/
def release (d : Desk) (h : DisplayHandle) : Desk × DisplayHandle :=
  let r := d.releaseBy none h
  (r.1, r.2.1)

/-- A block that a handle guards is left, with the fault that ended it if one did. The handle is
released, and the fault is passed on unless there is one in releasing the handle. -/
def leave (d : Desk) (refusal ending : Option Fault) (h : DisplayHandle) :
    Desk × DisplayHandle × Option Fault :=
  let r := d.releaseBy refusal h
  (r.1, r.2.1, r.2.2.or ending)

end Desk
end Plunder
