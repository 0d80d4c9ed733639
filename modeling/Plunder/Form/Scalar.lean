import Plunder.Form
import Plunder.Number.Numeral
import Plunder.Text.Bytes

/-!
# Scalars in forms

What a field of each scalar kind accepts. The readers are lenient: a text may stand for a number, a
number without fraction for a whole number, octets in UTF-8 for a text.
-/

namespace Plunder.Form

/-! ## Texts and octets -/

/-- A text, or octets that encode one. -/
def text : Value → Checked String
  | .text s => .ok s
  | .octets .window _ => .defect .stringType
  | .octets _ bs =>
    match Text.ofUtf8? bs with
    | some s => .ok s
    | none => .defect .stringUnicode
  | _ => .defect .stringType

/-- A text with at least one character. -/
def nonemptyText (v : Value) : Checked String :=
  (text v).andThen fun s => if s.isEmpty then .defect .stringTooShort else .ok s

/-- An optional text; null stands for none. -/
def optionalText : Value → Checked (Option String)
  | .null => .ok none
  | v => some <$> text v

/-- Octets, or the UTF-8 octets of a text. -/
def octets : Value → Checked Bytes
  | .octets .window _ => .defect .bytesType
  | .octets _ bs => .ok bs
  | .text s => .ok (Text.utf8 s)
  | _ => .defect .bytesType

/-! ## Whole numbers -/

/-- The text of octets or of a text, for the readers of numbers. -/
def numeral? : Value → Option (Option (List Char))
  | .text s => some (some s.toList)
  | .octets .fixed bs => some ((Text.ofUtf8? bs).map String.toList)
  | _ => none

/-- Cuts leading zeros and the underscores among them; a zero before a point or at the end stays.
The flag says whether a zero has been cut. -/
def cutLeadingZeros (last : Char) : List Char → Option (List Char)
  | [] => some [last]
  | c :: rest =>
    if c = '0' ∨ c = '_' then cutLeadingZeros c rest
    else if ('1' ≤ c ∧ c ≤ '9') ∨ c = '-' then some (c :: rest)
    else if c = '.' then some (last :: c :: rest)
    else none

/-- A numeral without leading zeros; `none` where it does not begin like a number. -/
def withoutLeadingZeros : List Char → Option (List Char)
  | [] => none
  | c :: rest =>
    if c = '0' then cutLeadingZeros c rest
    else if ('1' ≤ c ∧ c ≤ '9') ∨ c = '-' then some (c :: rest)
    else none

/-- Cuts a point followed by nothing but zeros. -/
def cutZeroFraction (cs : List Char) : List Char :=
  let whole := cs.takeWhile (· ≠ '.')
  if (cs.drop (whole.length + 1)).all (· = '0') then whole else cs

/-- Whether no underscore stands at either end or beside another. -/
def underscoresOk : List Char → Bool
  | [] => true
  | [c] => c ≠ '_'
  | c :: d :: rest => !(c = '_' && d = '_') && underscoresOk (d :: rest)

/-- The numeral without its underscores, where they are placed as they may be. -/
def cutUnderscores (cs : List Char) : List Char :=
  if cs.head? ≠ some '_' && underscoresOk cs then cs.filter (· ≠ '_') else cs

/-- A whole number out of a plain numeral: digits that begin with a zero only where it stands alone,
behind a minus or not. The length is checked before what follows the digits. -/
def parsePlain (cs : List Char) : Checked Int :=
  let (negative, body) := match cs with
    | '-' :: rest => (true, rest)
    | cs => (false, cs)
  let ds := body.takeWhile Text.isAsciiDigit
  match ds with
  | [] | '0' :: _ :: _ => .defect .intParsing
  | ds =>
    if Numeral.maxDigits < ds.length + (if negative then 1 else 0) then .defect .intParsingSize
    else if ds.length < body.length then .defect .intParsing
    else
      let n : Int := Text.foldDigits (ds.filterMap Text.asciiDigit?)
      .ok (if negative then -n else n)

/-- A whole number out of a numeral: blanks around, a plus, zeros in front, underscores inside and a
fraction of nothing but zeros are allowed. -/
def parseWhole (cs : List Char) : Checked Int :=
  let cs := Text.trimWhite cs
  let unsigned := match cs with
    | '+' :: '-' :: _ => none
    | '+' :: rest => some rest
    | cs => some cs
  match unsigned.bind withoutLeadingZeros with
  | none => .defect .intParsing
  | some cs => parsePlain (cutUnderscores (cutZeroFraction cs))

/-- A whole number. -/
def whole : Value → Checked Int
  | .int n => .ok n
  | .bool b => .ok (if b then 1 else 0)
  | .float x =>
    match x.truncate? with
    | none => .defect .finiteNumber
    | some n =>
      if !x.isWhole then .defect .intFromFloat
      else if twoPow 63 ≤ n.natAbs then .defect .intParsingSize
      else .ok n
  | v =>
    match numeral? v with
    | some (some cs) => parseWhole cs
    | some none => .defect .intParsing
    | none => .defect .intType

/-- A whole number that is not negative. -/
def natural (v : Value) : Checked Nat :=
  (whole v).andThen fun n => if n < 0 then .defect .greaterThanEqual else .ok n.toNat

/-- An optional whole number; null stands for none. -/
def optionalWhole : Value → Checked (Option Int)
  | .null => .ok none
  | v => some <$> whole v

/-! ## Fractions -/

/-- A double out of a numeral of ASCII characters: blanks around, or underscores inside, not both. -/
def parseReal? (cs : List Char) : Option Binary64 :=
  let cs := if cs.contains '_' then cutUnderscores cs else Text.trimWhite cs
  if cs.contains '_' then none
  else
    let (negative, cs) := Numeral.splitSign cs
    Numeral.parseMagnitude? Text.asciiDigit? negative cs

/-- A double. -/
def real : Value → Checked Binary64
  | .float x => .ok x
  | .bool b => .ok (if b then Binary64.ofNat 1 else Binary64.zero)
  | .int n =>
    let x := Binary64.ofInt n
    if x.isFinite then .ok x else .defect .floatType
  | v =>
    match numeral? v with
    | some (some cs) =>
      match parseReal? cs with
      | some x => .ok x
      | none => .defect .floatParsing
    | some none => .defect .floatParsing
    | none => .defect .floatType

/-- A double above zero. -/
def positiveReal (v : Value) : Checked Binary64 :=
  (real v).andThen fun x => if Binary64.zero.lt x then .ok x else .defect .greaterThan

/-! ## Collections -/

def object : Value → Checked Fields
  | .object fs => .ok fs
  | _ => .defect .dictType

def record {α : Type} (read : Fields → Checked α) : Value → Checked α
  | .object fs => read fs
  | _ => .defect .modelType

/-- A list or tuple of items; a window onto octets counts as the list of their numbers. -/
def listOf {α : Type} (read : Value → Checked α) : Value → Checked (List α)
  | .list vs | .tuple vs => items read 0 vs
  | .octets .window bs => items read 0 (bs.map fun b => .nat b.toNat)
  | _ => .defect .tupleType

/-- A value of an enumeration, by its text. -/
def memberOf {α : Type} (ofText? : String → Option α) (v : Value) : Checked α :=
  match v.text?.bind ofText? with
  | some a => .ok a
  | none => .defect .notAMember

end Plunder.Form
