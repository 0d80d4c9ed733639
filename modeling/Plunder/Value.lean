import Plunder.Number.Binary64
import Plunder.Text.Bytes

/-!
# Values

What a message, a setting or a field of a record may hold before anything is known about its shape:
the values of JSON, octet strings, and tuples. Objects keep their fields in order of first insertion.
-/

namespace Plunder

/-- How an octet string is held. -/
inductive OctetKind where
  /-- A fixed octet string. -/
  | fixed
  /-- An octet string that can be changed in place. -/
  | buffer
  /-- A window onto octets held elsewhere. -/
  | window
  deriving DecidableEq

/-- A value of unknown shape. -/
inductive Value where
  | null
  | bool (b : Bool)
  | int (n : Int)
  | float (x : Binary64)
  | text (s : String)
  | octets (kind : OctetKind) (bs : Bytes)
  | list (items : List Value)
  | tuple (items : List Value)
  | object (fields : List (String × Value))
  deriving Inhabited

/-- The fields of an object, in order. -/
abbrev Fields := List (String × Value)

namespace Fields

def get? (fs : Fields) (name : String) : Option Value :=
  (fs.find? fun f => f.1 == name).map (·.2)

/-- Sets a field: in its place if it is there already, at the end otherwise. -/
def set (fs : Fields) (name : String) (v : Value) : Fields :=
  if fs.any (·.1 == name) then fs.map fun f => if f.1 == name then (name, v) else f
  else fs ++ [(name, v)]

/-- Sets every field of the second object in the first. -/
def merge (fs gs : Fields) : Fields := gs.foldl (fun acc f => acc.set f.1 f.2) fs

end Fields

namespace Value

def ofBytes (bs : Bytes) : Value := .octets .fixed bs

/-- A natural number. -/
def nat (n : Nat) : Value := .int n

/-- Whether the value counts as nothing: null, false, zero, and every empty text or collection. -/
def isVoid : Value → Bool
  | null => true
  | bool b => !b
  | int n => n == 0
  | float x => x.same Binary64.zero
  | text s => s.isEmpty
  | octets _ bs => bs.isEmpty
  | list xs | tuple xs => xs.isEmpty
  | object fs => fs.isEmpty

/-- The name of the kind of value, as messages give it. -/
def kindName : Value → String
  | null => "NoneType"
  | bool _ => "bool"
  | int _ => "int"
  | float _ => "float"
  | text _ => "str"
  | octets .fixed _ => "bytes"
  | octets .buffer _ => "bytearray"
  | octets .window _ => "memoryview"
  | list _ => "list"
  | tuple _ => "tuple"
  | object _ => "dict"

def text? : Value → Option String
  | text s => some s
  | _ => none

def object? : Value → Option Fields
  | object fs => some fs
  | _ => none

mutual

/-- Whether the value may serve as a key: it holds no list, object or changeable octets. -/
def isKey : Value → Bool
  | list _ | object _ | octets .buffer _ => false
  | tuple xs => areKeys xs
  | _ => true

def areKeys : List Value → Bool
  | [] => true
  | x :: xs => isKey x && areKeys xs

end

mutual

/-- Objects with their fields in increasing order of the names, at every level. -/
def sortFields : Value → Value
  | list xs => .list (sortItems xs)
  | tuple xs => .tuple (sortItems xs)
  | object fs => .object ((sortEach fs).mergeSort fun f g => f.1 ≤ g.1)
  | v => v

def sortItems : List Value → List Value
  | [] => []
  | x :: xs => sortFields x :: sortItems xs

/-- Every field's value with its own fields sorted; the fields themselves stay in order. -/
def sortEach : List (String × Value) → List (String × Value)
  | [] => []
  | (k, v) :: fs => (k, sortFields v) :: sortEach fs

end

end Value
end Plunder
