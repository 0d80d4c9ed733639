import Plunder.Form
import Plunder.Value.Json
import Plunder.Value.Show

/-!
# Faults

Everything that can go wrong, by cause. The wording of each cause is in one place,
`Fault.message`, and `Fault.kind` sorts the causes into the classes that callers tell apart.
-/

namespace Plunder

/-- Why a text is no amount. -/
inductive AmountFault where
  /-- There is nothing but blanks. -/
  | required
  /-- The text, quoted here, is no plain decimal. -/
  | malformed (quoted : String)
  /-- The text, quoted here, has too many digits after the point. -/
  | tooManyPlaces (quoted : String)
  /-- The whole part has this many digits, more than can be converted. -/
  | tooLong (digits : Nat)
  deriving DecidableEq

/-- Why a chart payload is not trusted. -/
inductive ArtifactFault where
  /-- A text without the mark of hexadecimal digits. -/
  | unmarkedText
  /-- An odd number of digits. -/
  | oddLength (digits : Nat)
  /-- The character at this position among the digits fits no pair. -/
  | notHex (position : Nat)
  /-- The item at this index, shown here, is no octet. -/
  | notAnOctet (index : Nat) (shown : String)
  /-- The payload is of a kind that holds no octets. -/
  | unsupported (kindName : String)
  /-- The octets do not begin with the mark of a picture. -/
  | badHeader (first : Option UInt8)
  deriving DecidableEq

/-- Whether an artifact fault is about the shape of the payload or about its header. -/
def ArtifactFault.isHeader : ArtifactFault → Bool
  | badHeader _ => true
  | _ => false

/-- The classes of faults. -/
inductive FaultKind where
  | gateway
  | sync
  | submission
  | credential
  | amount
  | format
  | header
  | artifact
  | ledger
  | value
  | key
  | runtime
  | system
  | type
  | attribute
  | overflow
  | noFile
  | json
  | address
  | validation
  | serialization
  | cancelled
  | exit
  deriving DecidableEq

/-- Something that went wrong. -/
inductive Fault where
  | amount (fault : AmountFault)
  | artifact (fault : ArtifactFault)
  /-- The gateway could not answer; the code is null unless the node gave one. -/
  | gateway (message : String) (code : Value)
  /-- Reading the round failed, and what it failed from. -/
  | sync (cause : Fault)
  /-- An action was refused or failed. -/
  | submission (reason : String)
  /-- There is nothing to sign with. -/
  | noCredential
  /-- A record was refused. -/
  | invalid (record : Form.Invalid)
  /-- A value is not acceptable. -/
  | badValue (message : String)
  /-- A text stands for no whole number; the text is shown. -/
  | badNumeral (shown : String)
  /-- A whole number out of a text would have this many digits. -/
  | numeralTooLong (digits : Nat)
  /-- A whole number is too long to be written. -/
  | numberTooLong
  /-- A field is missing from a reply. -/
  | missingKey (name : String)
  /-- A value of this kind is not what an operation works on. -/
  | badKind (message : String)
  /-- A value of this kind does not have what is asked of it. -/
  | noAttribute (kindName name : String)
  /-- A number has no place in the range of the result. -/
  | overflow (message : String)
  /-- There is no file at the path. -/
  | noFile (path : String)
  /-- A text is no JSON. -/
  | json (fault : Json.ReadFault)
  /-- A task was cancelled. -/
  | cancelled
  /-- The program ends with this code. -/
  | exit (code : Nat)
  /-- A fault of another party, of which only the class and the wording are known. -/
  | other (kind : FaultKind) (message : String)
  deriving Inhabited

def limitText : String :=
  "Exceeds the limit (" ++ toString Numeral.maxDigits ++ " digits) for integer string conversion"

/-- What lifts the limit on conversions, as the wording names it. -/
def limitHint : String := "; use sys.set_int_max_str_digits() to increase the limit"

def tooLongText (digits : Nat) : String :=
  limitText ++ ": value has " ++ toString digits ++ " digits" ++ limitHint

/-- The wording for a whole number that is too long to be written. -/
def tooLongNumberText : String := limitText ++ limitHint

def AmountFault.message : AmountFault → String
  | required => "Amount is required"
  | malformed q => "Invalid amount: " ++ q
  | tooManyPlaces q => "Too many decimal places (max 18): " ++ q
  | tooLong n => tooLongText n

/-- An octet as two hexadecimal digits after `0x`. -/
def octetText (b : UInt8) : String := "0x" ++ String.ofList (Text.Hex.pair b)

def ArtifactFault.message : ArtifactFault → String
  | unmarkedText => "string payload is not 0x-prefixed hex"
  | oddLength n => "odd-length hex payload (" ++ toString n ++ " digits)"
  | notHex i => "invalid hex payload: non-hexadecimal number found in fromhex() arg at position "
      ++ toString i
  | notAnOctet i shown => "array element " ++ toString i ++ " is not a byte: " ++ shown
  | unsupported k => "unsupported payload type: " ++ k
  | badHeader first => "PNG header is not correct (first byte "
      ++ (match first with
        | some b => octetText b
        | none => "none") ++ ")"

def Json.ReadFault.message : Json.ReadFault → String
  | .malformed flaw line column offset =>
    flaw.text ++ ": line " ++ toString line ++ " column " ++ toString column
      ++ " (char " ++ toString offset ++ ")"
  | .tooLong n => tooLongText n

namespace Fault

/-- What a failed reading of the round tells the user. -/
def syncText : String := "Failed to fetch round info."

/-- What an action without a credential tells the user. -/
def noCredentialText : String := "Private key not set"

/-- The wording of a fault. -/
def message : Fault → String
  | amount f => f.message
  | artifact f => f.message
  | gateway m _ => m
  | sync _ => syncText
  | submission r => r
  | noCredential => noCredentialText
  | invalid i => i.headline
  | badValue m => m
  | badNumeral shown => "invalid literal for int() with base 10: " ++ shown
  | numeralTooLong n => tooLongText n
  | numberTooLong => tooLongNumberText
  | missingKey name => Text.Quoted.ofText name
  | badKind m => m
  | noAttribute k name => "'" ++ k ++ "' object has no attribute '" ++ name ++ "'"
  | overflow m => m
  | noFile path => "[Errno 2] No such file or directory: " ++ Text.Quoted.ofText path
  | json f => f.message
  | cancelled => ""
  | exit code => toString code
  | other _ m => m

/-- The class of a fault. -/
def kind : Fault → FaultKind
  | amount (.tooLong _) => .value
  | amount _ => .amount
  | artifact f => if f.isHeader then .header else .format
  | gateway .. => .gateway
  | sync _ => .sync
  | submission _ => .submission
  | noCredential => .credential
  | invalid _ => .validation
  | badValue _ | badNumeral _ | numeralTooLong _ | numberTooLong => .value
  | missingKey _ => .key
  | badKind _ => .type
  | noAttribute .. => .attribute
  | overflow _ => .overflow
  | noFile _ => .noFile
  | json (.tooLong _) => .value
  | json _ => .json
  | cancelled => .cancelled
  | exit _ => .exit
  | other k _ => k

end Fault

namespace FaultKind

/-- The faults that refuse an action. -/
def isSubmission : FaultKind → Bool
  | submission | credential => true
  | _ => false

/-- The faults of values, among them those of records, amounts and JSON texts. -/
def isValue : FaultKind → Bool
  | value | amount | json | validation => true
  | _ => false

def isSystem : FaultKind → Bool
  | system | noFile => true
  | _ => false

/-- The faults of chart payloads. -/
def isArtifact : FaultKind → Bool
  | format | header | artifact => true
  | _ => false

end FaultKind

def Json.WriteFault.fault : Json.WriteFault → Fault
  | .tooLong => .numberTooLong
  | .octets kind =>
    .badKind ("Object of type " ++ (Value.octets kind []).kindName ++ " is not JSON serializable")

namespace Value

/-- The text of a value in a message; faulty where a number in it is too long. -/
def shown (v : Value) : Except Fault String :=
  match v.show? with
  | some t => .ok t
  | none => .error .numberTooLong

/-- The text of a value in a running text; faulty where a number in it is too long. -/
def inline (v : Value) : Except Fault String :=
  match v.inline? with
  | some t => .ok t
  | none => .error .numberTooLong

def numeralWidth : Nat := 200

/-- The fault of a text that is no whole number. -/
def numeralFault (shown : String) : Numeral.Fault → Fault
  | .malformed => .badNumeral (String.ofList (shown.toList.take numeralWidth))
  | .tooLong n => .numeralTooLong n

/-- The whole number that a value stands for: itself, a fraction cut towards zero, or a text or
octets that spell one. -/
def toWhole : Value → Except Fault Int
  | int n => .ok n
  | bool b => .ok (if b then 1 else 0)
  | float x =>
    match x.truncate? with
    | some n => .ok n
    | none =>
      if x.isNan then .error (.badValue "cannot convert float NaN to integer")
      else .error (.overflow "cannot convert float infinity to integer")
  | text s => (Numeral.parseInt s).mapError (numeralFault (Text.Quoted.ofText s))
  | octets _ bs =>
    (Numeral.parseIntOctets bs).mapError
      (numeralFault (Text.Quoted.ofBytes (bs.take numeralWidth)))
  | v => .error (.badKind ("int() argument must be a string, a bytes-like object or a real number"
      ++ ", not '" ++ v.kindName ++ "'"))

end Value
end Plunder
