import Plunder.Fault
import Plunder.Form.Scalar
import Plunder.Journal

/-!
# Chart artifacts

The ledger's chart arrives as a text of hexadecimal digits, as octets, or as a list of numbers. All
three stand for the same octets, which are trusted only if they begin with the mark of a picture.

* `ChartArtifact.convert`: the octets of a payload of any accepted shape
* `ChartArtifact.validate`: the check of the first octet
* `ChartArtifact.decode`: both, with nothing in place of a payload that cannot be trusted
-/

namespace Plunder

/-- The octets of a chart. -/
structure ChartArtifact where
  data : Bytes
  deriving DecidableEq

namespace ChartArtifact

/-- The first octet of every picture. -/
def mark : UInt8 := 0x89

def title : String := "ChartArtifact"

def check (fs : Fields) : Except Form.Invalid ChartArtifact :=
  Form.finish title (mk <$> Form.field fs "data" Form.octets)

/-- The octets of a text of hexadecimal digits after a two-character mark. -/
def ofDigits (ds : List Char) : Except ArtifactFault Bytes :=
  if ds.length % 2 = 1 then .error (.oddLength ds.length)
  else (Text.Hex.decode ds).mapError .notHex

/-- The octet that an item of a list stands for: a whole number below 256, but no truth value. -/
def octet? : Value → Option UInt8
  | .int n => if 0 ≤ n ∧ n ≤ 255 then some (UInt8.ofNat n.toNat) else none
  | _ => none

/-- The octets of a list of numbers, the first of which has the given index. -/
def ofItems : Nat → List Value → Except Fault Bytes
  | _, [] => .ok []
  | i, v :: vs =>
    match octet? v with
    | some b => (ofItems (i + 1) vs).map (b :: ·)
    | none =>
      match v.show? with
      | some shown => .error (.artifact (.notAnOctet i shown))
      | none => .error .numberTooLong

/-- The octets of a payload. -/
def convert : Value → Except Fault Bytes
  | .text s =>
    match s.toList with
    | '0' :: x :: ds =>
      if x = 'x' ∨ x = 'X' then (ofDigits ds).mapError .artifact
      else .error (.artifact .unmarkedText)
    | _ => .error (.artifact .unmarkedText)
  | .octets _ bs => .ok bs
  | .list vs | .tuple vs => ofItems 0 vs
  | v => .error (.artifact (.unsupported v.kindName))

/-- The artifact of octets that begin with the mark of a picture. -/
def validate (bs : Bytes) : Except ArtifactFault ChartArtifact :=
  match bs with
  | b :: _ => if b = mark then .ok ⟨bs⟩ else .error (.badHeader (some b))
  | [] => .error (.badHeader none)

/-- The artifact of a payload, or why there is none. -/
def read (raw : Value) : Except Fault ChartArtifact :=
  (convert raw).bind fun bs => (validate bs).mapError .artifact

/-- What an untrusted payload is called in the journal. -/
def faultName (f : ArtifactFault) : String :=
  if f.isHeader then "HeaderMismatch" else "UnrecognizedFormat"

/-- The note on an untrusted payload. -/
def faultNote (f : ArtifactFault) (raw : Value) : Note :=
  .under .warning "artifact_decoder" [("error", .text (faultName f)), ("detail", .text f.message),
    ("payload_type", .text raw.kindName)]

/-- The artifact of a payload, or nothing and a note where it cannot be trusted. A payload with a
number too long to be shown is a fault of its own. -/
def decode (raw : Value) : Except Fault (Option ChartArtifact × List Note) :=
  match read raw with
  | .ok a => .ok (some a, [])
  | .error (.artifact f) => .ok (none, [faultNote f raw])
  | .error f => .error f

end ChartArtifact
end Plunder
