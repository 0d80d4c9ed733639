import Plunder.Value

/-!
# Forms

Reading records out of values of unknown shape. Every field is read before the record is refused,
and the refusal lists each defect with the path to where it was found, in the order of the fields.

* `Form.Checked`: a value read, or every issue found on the way
* `Form.field`, `Form.fieldOr`: the fields of an object
* `Form.Invalid`: a refused record, with its title and its issues
-/

namespace Plunder.Form

/-- A step on the path to a defect. -/
inductive Step where
  | field (name : String)
  | item (index : Nat)
  deriving DecidableEq

/-- What is wrong with a field. -/
inductive Defect where
  | missing
  | intType
  | intParsing
  | intParsingSize
  | intFromFloat
  | finiteNumber
  | floatType
  | floatParsing
  | greaterThan
  | greaterThanEqual
  | stringType
  | stringTooShort
  | stringUnicode
  | stringPattern
  | bytesType
  | dictType
  | tupleType
  | modelType
  | notAMember
  | refusedValue
  | frozen
  | datetimeType
  | datetimeParsing
  | datetimeFromDate
  deriving DecidableEq

/-- The code by which a defect is reported. -/
def Defect.code : Defect → String
  | missing => "missing"
  | intType => "int_type"
  | intParsing => "int_parsing"
  | intParsingSize => "int_parsing_size"
  | intFromFloat => "int_from_float"
  | finiteNumber => "finite_number"
  | floatType => "float_type"
  | floatParsing => "float_parsing"
  | greaterThan => "greater_than"
  | greaterThanEqual => "greater_than_equal"
  | stringType => "string_type"
  | stringTooShort => "string_too_short"
  | stringUnicode => "string_unicode"
  | stringPattern => "string_pattern_mismatch"
  | bytesType => "bytes_type"
  | dictType => "dict_type"
  | tupleType => "tuple_type"
  | modelType => "model_type"
  | notAMember => "enum"
  | refusedValue => "value_error"
  | frozen => "frozen_instance"
  | datetimeType => "datetime_type"
  | datetimeParsing => "datetime_parsing"
  | datetimeFromDate => "datetime_from_date_parsing"

/-- A defect and the path to it. -/
structure Issue where
  path : List Step
  defect : Defect
  deriving DecidableEq

/-- A refused record. -/
structure Invalid where
  title : String
  issues : List Issue
  deriving DecidableEq

/-- The first line of the report on a refused record. -/
def Invalid.headline (i : Invalid) : String :=
  let n := i.issues.length
  toString n ++ (if n = 1 then " validation error for " else " validation errors for ") ++ i.title

/-- A value read, or every issue found while reading it. -/
def Checked (α : Type) := Except (List Issue) α

namespace Checked

def ok {α : Type} (a : α) : Checked α := Except.ok a

/-- A single defect where the reader stands. -/
def defect {α : Type} (d : Defect) : Checked α := Except.error [⟨[], d⟩]

/-- Puts a step in front of the path of every issue. -/
def within {α : Type} (s : Step) : Checked α → Checked α
  | .ok a => .ok a
  | .error is => Except.error (is.map fun i => { i with path := s :: i.path })

/-- Reads on only if nothing was wrong so far. -/
def andThen {α β : Type} (x : Checked α) (f : α → Checked β) : Checked β :=
  match x with
  | .ok a => f a
  | .error is => Except.error is

/-- Keeps the issues of both sides. -/
def ap {α β : Type} (f : Checked (α → β)) (x : Checked α) : Checked β :=
  match f, x with
  | .ok f, .ok a => Except.ok (f a)
  | .ok _, .error is => Except.error is
  | .error is, .ok _ => Except.error is
  | .error is, .error js => Except.error (is ++ js)

instance : Applicative Checked where
  pure := ok
  seq f x := ap f (x ())

end Checked

def field {α : Type} (fs : Fields) (name : String) (read : Value → Checked α) : Checked α :=
  match fs.get? name with
  | some v => (read v).within (.field name)
  | none => (Checked.defect .missing).within (.field name)

def fieldOr {α : Type} (fs : Fields) (name : String) (absent : α) (read : Value → Checked α) :
    Checked α :=
  match fs.get? name with
  | some v => (read v).within (.field name)
  | none => .ok absent

/-- Every item of a list, the issues under their indexes. -/
def items {α : Type} (read : Value → Checked α) : Nat → List Value → Checked (List α)
  | _, [] => .ok []
  | i, v :: vs => List.cons <$> (read v).within (.item i) <*> items read (i + 1) vs

/-- Closes a record under its title. -/
def finish {α : Type} (title : String) : Checked α → Except Invalid α
  | .ok a => .ok a
  | .error is => .error ⟨title, is⟩

/-- The refusal to change a field of a record that cannot change. -/
def Invalid.frozen (title field : String) : Invalid := ⟨title, [⟨[.field field], .frozen⟩]⟩

end Plunder.Form
