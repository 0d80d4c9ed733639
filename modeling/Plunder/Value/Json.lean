import Plunder.Value
import Plunder.Number.Numeral
import Plunder.Number.Shortest
import Plunder.Text.Quoted

/-!
# JSON text

Writing values as JSON in ASCII and reading them back.

* `Json.Style`: what separates items and fields, and what becomes of octets
* `Json.write`: the text of a value; refused for a whole number of more than `Numeral.maxDigits`
  digits and, in a strict style, for octets
* `Json.read`: the value of a text, or what is wrong with it and where
* `Json.canonical`: the one text of a value whatever the order of its fields
-/

namespace Plunder.Json

/-! ## Writing -/

/-- A layout of JSON text. -/
structure Style where
  /-- What follows the comma between two items. -/
  afterComma : List Char
  /-- What follows the colon between a name and its value. -/
  afterColon : List Char
  /-- Whether octets are refused; otherwise they are written as messages show them. -/
  strict : Bool

/-- No blanks at all; octets are written as messages show them. -/
def Style.compact : Style := ⟨[], [], false⟩

/-- One blank after every comma and colon; octets are refused. -/
def Style.spaced : Style := ⟨[' '], [' '], true⟩

/-- Why a value has no text. -/
inductive WriteFault where
  /-- A whole number has more than `Numeral.maxDigits` digits. -/
  | tooLong
  /-- The value holds octets. -/
  | octets (kind : OctetKind)
  deriving DecidableEq

/-- Four hexadecimal digits after `\u`. -/
def escapeUnit (n : Nat) : List Char := '\\' :: 'u' :: Text.Quoted.padHex 4 n

/-- How a character stands in a string: ASCII as it is or as a short escape, a character beyond the
first plane as the two halves of a pair. -/
def escapeChar (c : Char) : List Char :=
  if c = '"' ∨ c = '\\' then ['\\', c]
  else if c = '\n' then ['\\', 'n']
  else if c = '\r' then ['\\', 'r']
  else if c = '\t' then ['\\', 't']
  else if c = '\x0c' then ['\\', 'f']
  else if c = '\x08' then ['\\', 'b']
  else if ' ' ≤ c ∧ c ≤ '~' then [c]
  else if c.toNat < 0x10000 then escapeUnit c.toNat
  else
    let v := c.toNat - 0x10000
    escapeUnit (0xD800 + v / 0x400) ++ escapeUnit (0xDC00 + v % 0x400)

def quote (s : String) : List Char := '"' :: s.toList.flatMap escapeChar ++ ['"']

/-- A double: its shortest text, or a word. -/
def floatText (x : Binary64) : List Char :=
  match x.form with
  | .nan => "NaN".toList
  | .infinity negative => (if negative then "-Infinity" else "Infinity").toList
  | .finite .. => x.text.toList

/-- Texts in a row, separated by commas. -/
def joinItems (style : Style) : List (List Char) → List Char
  | [] => []
  | [t] => t
  | t :: ts => t ++ ',' :: style.afterComma ++ joinItems style ts

/-- Octets in a text that allows them. -/
def octetsText (style : Style) (kind : OctetKind) (bs : Bytes) : Except WriteFault (List Char) :=
  if style.strict then .error (.octets kind)
  else .ok (quote (match kind with
    | .fixed => Text.Quoted.ofBytes bs
    | .buffer => "bytearray(" ++ Text.Quoted.ofBytes bs ++ ")"
    | .window => "<memory>"))

mutual

/-- The text of a value. -/
def write (style : Style) : Value → Except WriteFault (List Char)
  | .null => .ok "null".toList
  | .bool b => .ok (if b then "true" else "false").toList
  | .int n =>
    match Numeral.intText? n with
    | some t => .ok t.toList
    | none => .error .tooLong
  | .float x => .ok (floatText x)
  | .text s => .ok (quote s)
  | .octets kind bs => octetsText style kind bs
  | .list xs | .tuple xs => do
    let ts ← writeItems style xs
    .ok ('[' :: joinItems style ts ++ [']'])
  | .object fs => do
    let ts ← writeFields style fs
    .ok ('\x7b' :: joinItems style ts ++ ['\x7d'])

/-- The texts of the items of a list. -/
def writeItems (style : Style) : List Value → Except WriteFault (List (List Char))
  | [] => .ok []
  | x :: xs => do
    let t ← write style x
    let ts ← writeItems style xs
    .ok (t :: ts)

/-- The texts of the fields of an object. -/
def writeFields (style : Style) : List (String × Value) → Except WriteFault (List (List Char))
  | [] => .ok []
  | (k, v) :: fs => do
    let t ← write style v
    let ts ← writeFields style fs
    .ok ((quote k ++ ':' :: style.afterColon ++ t) :: ts)

end

/-- The text of a value with the fields of every object in increasing order and no blanks. -/
def canonical (v : Value) : Except WriteFault String :=
  (write .compact v.sortFields).map String.ofList

/-! ## Reading -/

/-- What is wrong with a text. -/
inductive Flaw where
  | value
  | name
  | colon
  | comma
  | unterminated
  | control
  | escape
  | unit
  | extra
  | byteOrderMark
  deriving DecidableEq

/-- The wording of a flaw. -/
def Flaw.text : Flaw → String
  | value => "Expecting value"
  | name => "Expecting property name enclosed in double quotes"
  | colon => "Expecting ':' delimiter"
  | comma => "Expecting ',' delimiter"
  | unterminated => "Unterminated string starting at"
  | control => "Invalid control character at"
  | escape => "Invalid \\escape"
  | unit => "Invalid \\uXXXX escape"
  | extra => "Extra data"
  | byteOrderMark => "Unexpected UTF-8 BOM (decode using utf-8-sig)"

/-- Why a text is not read. -/
inductive ReadFault where
  /-- The text is malformed at a position: its line, its column and its offset. -/
  | malformed (flaw : Flaw) (line column offset : Nat)
  /-- A whole number has this many digits, more than `Numeral.maxDigits`. -/
  | tooLong (digits : Nat)
  deriving DecidableEq

/-- Where reading stopped: the flaw and how many characters were left. -/
inductive Stop where
  | flawed (flaw : Flaw) (left : Nat)
  | tooLong (digits : Nat)

def isGap (c : Char) : Bool := c == ' ' || c == '\t' || c == '\n' || c == '\r'

/-- The text from the first character that is no blank. -/
def skip (cs : List Char) : List Char := cs.dropWhile isGap

/-- The number that four hexadecimal digits denote. -/
def unitOf? (a b c d : Char) : Option Nat := do
  let a ← Text.Hex.digit? a
  let b ← Text.Hex.digit? b
  let c ← Text.Hex.digit? c
  let d ← Text.Hex.digit? d
  some (((a * 16 + b) * 16 + c) * 16 + d)

/-- What a short escape stands for. -/
def shortEscape? (c : Char) : Option Char :=
  if c = '"' ∨ c = '\\' ∨ c = '/' then some c
  else if c = 'b' then some '\x08'
  else if c = 'f' then some '\x0c'
  else if c = 'n' then some '\n'
  else if c = 'r' then some '\r'
  else if c = 't' then some '\t'
  else none

/-- The character of a code point; half of a pair stands for the replacement character. -/
def charOf (n : Nat) : Char := if n.isValidChar then Char.ofNat n else '\uFFFD'

/-- The second half of a pair, where the text goes on with an escape that is one. Only a text that
goes on beyond the escape is looked at. -/
def lowHalf? (high : Nat) (cs : List Char) : Except Stop (Option (Char × List Char)) :=
  match cs with
  | '\\' :: 'u' :: a :: b :: c :: d :: e :: rest =>
    match unitOf? a b c d with
    | none => .error (.flawed .unit (rest.length + 6))
    | some low =>
      if 0xDC00 ≤ low ∧ low ≤ 0xDFFF then
        .ok (some (charOf (0x10000 + (high - 0xD800) * 0x400 + (low - 0xDC00)), e :: rest))
      else .ok none
  | _ => .ok none

/-- The character that an escape stands for and what follows it, given the text after the
backslash. `start` is how many characters were left where the string began. -/
def readEscape (start : Nat) (cs : List Char) : Except Stop (Char × List Char) :=
  match cs with
  | [] => .error (.flawed .unterminated start)
  | 'u' :: a :: b :: c :: d :: e :: rest =>
    match unitOf? a b c d with
    | none => .error (.flawed .unit (rest.length + 6))
    | some n => do
      if 0xD800 ≤ n ∧ n ≤ 0xDBFF then
        if let some pair ← lowHalf? n (e :: rest) then
          return pair
      return (charOf n, e :: rest)
  | 'u' :: rest => .error (.flawed .unit (rest.length + 1))
  | c :: rest =>
    match shortEscape? c with
    | some e => .ok (e, rest)
    | none => .error (.flawed .escape (rest.length + 2))

/-- A string, given the text after its first quotation mark, and what follows it. -/
def readString (start : Nat) : Nat → List Char → Except Stop (List Char × List Char)
  | 0, _ | _, [] => .error (.flawed .unterminated start)
  | fuel + 1, c :: rest =>
    if c = '"' then .ok ([], rest)
    else if c = '\\' then do
      let (e, rest) ← readEscape start rest
      let (cs, rest) ← readString start fuel rest
      .ok (e :: cs, rest)
    else if c.toNat ≤ 0x1F then .error (.flawed .control (rest.length + 1))
    else do
      let (cs, rest) ← readString start fuel rest
      .ok (c :: cs, rest)

/-- The digits before the point: a single zero, or digits that do not begin with one. -/
def splitWhole (cs : List Char) : List Char × List Char :=
  match cs with
  | '0' :: rest => (['0'], rest)
  | cs => (cs.takeWhile Text.isAsciiDigit, cs.dropWhile Text.isAsciiDigit)

/-- The digits after a point, where a digit follows it. -/
def splitFraction (cs : List Char) : Option (List Char × List Char) :=
  match cs with
  | '.' :: d :: rest =>
    if Text.isAsciiDigit d then some (d :: rest.takeWhile Text.isAsciiDigit, rest.dropWhile Text.isAsciiDigit) else none
  | _ => none

/-- The exponent after a mark, where it has a digit. -/
def splitExponent (cs : List Char) : Option (Int × List Char) :=
  match cs with
  | c :: rest =>
    if c = 'e' ∨ c = 'E' then
      let (negative, rest) := Numeral.splitSign rest
      let ds := rest.takeWhile Text.isAsciiDigit
      if ds.isEmpty then none
      else
        let n : Int := Text.foldDigits (ds.filterMap Text.asciiDigit?)
        some (if negative then -n else n, rest.dropWhile Text.isAsciiDigit)
    else none
  | [] => none

/-- A number and what follows it; `limit` is the greatest count of digits of a whole number. -/
def readNumber (limit : Nat) (cs : List Char) : Except Stop (Value × List Char) :=
  let (negative, body) := match cs with
    | '-' :: rest => (true, rest)
    | cs => (false, cs)
  let (whole, rest) := splitWhole body
  if whole.isEmpty then .error (.flawed .value cs.length)
  else
    let digits := whole.filterMap Text.asciiDigit?
    let (fraction, rest') := (splitFraction rest).getD ([], rest)
    match splitExponent rest' with
    | some (e, rest'') =>
      let c := Text.foldDigits (digits ++ fraction.filterMap Text.asciiDigit?)
      .ok (.float (Numeral.decimalToBinary64 negative c (e - fraction.length)), rest'')
    | none =>
      if fraction.isEmpty then
        if limit < digits.length then .error (.tooLong digits.length)
        else
          let n : Int := Text.foldDigits digits
          .ok (.int (if negative then -n else n), rest)
      else
        let c := Text.foldDigits (digits ++ fraction.filterMap Text.asciiDigit?)
        .ok (.float (Numeral.decimalToBinary64 negative c (-fraction.length)), rest')

/-- The words, and the values they stand for. -/
def words : List (String × Value) :=
  [("null", .null), ("true", .bool true), ("false", .bool false), ("NaN", .float Binary64.nan),
    ("Infinity", .float (Binary64.infinity false)), ("-Infinity", .float (Binary64.infinity true))]

/-- A word that the text begins with, and what follows it. -/
def readWord (cs : List Char) : Option (Value × List Char) :=
  words.findSome? fun w =>
    if w.1.toList.isPrefixOf cs then some (w.2, cs.drop w.1.length) else none

mutual

/-- A value and what follows it. -/
def readValue (limit : Nat) : Nat → List Char → Except Stop (Value × List Char)
  | 0, cs => .error (.flawed .value cs.length)
  | _, [] => .error (.flawed .value 0)
  | fuel + 1, c :: rest =>
    if c = '"' then do
      let (s, rest) ← readString (rest.length + 1) (rest.length + 1) rest
      .ok (.text (String.ofList s), rest)
    else if c = '\x7b' then
      match skip rest with
      | '\x7d' :: rest => .ok (.object [], rest)
      | rest => do
        let (fs, rest) ← readFields limit fuel [] rest
        .ok (.object fs, rest)
    else if c = '[' then
      match skip rest with
      | ']' :: rest => .ok (.list [], rest)
      | rest => do
        let (xs, rest) ← readItems limit fuel rest
        .ok (.list xs, rest)
    else
      match readWord (c :: rest) with
      | some r => .ok r
      | none => readNumber limit (c :: rest)

/-- The items of a list, at least one, and what follows the closing bracket. -/
def readItems (limit : Nat) : Nat → List Char → Except Stop (List Value × List Char)
  | 0, cs => .error (.flawed .value cs.length)
  | fuel + 1, cs => do
    let (x, rest) ← readValue limit fuel cs
    match skip rest with
    | ']' :: rest => .ok ([x], rest)
    | ',' :: rest => do
      let (xs, rest) ← readItems limit fuel (skip rest)
      .ok (x :: xs, rest)
    | rest => .error (.flawed .comma rest.length)

/-- The fields of an object, at least one, after those read already, and what follows the closing
brace. A name that comes again keeps its first place and takes its last value. -/
def readFields (limit : Nat) : Nat → Fields → List Char → Except Stop (Fields × List Char)
  | 0, _, cs => .error (.flawed .value cs.length)
  | fuel + 1, before, cs =>
    match cs with
    | '"' :: rest => do
      let (k, rest) ← readString (rest.length + 1) (rest.length + 1) rest
      match skip rest with
      | ':' :: rest => do
        let (v, rest) ← readValue limit fuel (skip rest)
        let fs := before.set (String.ofList k) v
        match skip rest with
        | '\x7d' :: rest => .ok (fs, rest)
        | ',' :: rest => readFields limit fuel fs (skip rest)
        | rest => .error (.flawed .comma rest.length)
      | rest => .error (.flawed .colon rest.length)
    | _ => .error (.flawed .name cs.length)

end

/-- The fault of a text of which reading stopped with some characters left. -/
def Stop.fault (cs : List Char) : Stop → ReadFault
  | .tooLong digits => .tooLong digits
  | .flawed flaw left =>
    let before := cs.take (cs.length - left)
    .malformed flaw (before.count '\n' + 1) ((before.reverse.takeWhile (· ≠ '\n')).length + 1)
      before.length

/-- The value of a text in which whole numbers may have up to `limit` digits. -/
def readWithin (limit : Nat) (s : String) : Except ReadFault Value :=
  let cs := s.toList
  if cs.head? = some '\uFEFF' then .error (Stop.fault cs (.flawed .byteOrderMark cs.length))
  else
    match readValue limit (2 * cs.length + 2) (skip cs) with
    | .error stop => .error (stop.fault cs)
    | .ok (v, rest) =>
      match skip rest with
      | [] => .ok v
      | rest => .error (Stop.fault cs (.flawed .extra rest.length))

def read (s : String) : Except ReadFault Value := readWithin Numeral.maxDigits s

/-- The value of a text that may begin with a byte order mark. -/
def readMarked (s : String) : Except ReadFault Value :=
  match s.toList with
  | '\uFEFF' :: rest => read (String.ofList rest)
  | _ => read s

end Plunder.Json
