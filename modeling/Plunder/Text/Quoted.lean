import Plunder.Text.Bytes
import Plunder.Text.Hex
import Plunder.Text.Printable

/-!
# Quoted text

How a message shows a text or an octet string: between apostrophes, or between quotation marks
when it holds an apostrophe and no quotation mark; what cannot be shown is escaped.
-/

namespace Plunder.Text.Quoted

/-- The mark that encloses a text: an apostrophe unless that would force an escape that a
quotation mark avoids. -/
def mark (cs : List Char) : Char := if cs.contains '\'' && !cs.contains '"' then '"' else '\''

/-- A number in lower-case hexadecimal digits, filled up with zeros on the left. -/
def padHex (width n : Nat) : List Char :=
  let ds := (Nat.toDigits 16 n)
  List.replicate (width - ds.length) '0' ++ ds

/-- How one character stands inside the marks. -/
def showChar (q c : Char) : List Char :=
  if c = q ∨ c = '\\' then ['\\', c]
  else if c = '\n' then ['\\', 'n']
  else if c = '\r' then ['\\', 'r']
  else if c = '\t' then ['\\', 't']
  else if isPrintable c then [c]
  else if c.toNat < 0x100 then '\\' :: 'x' :: padHex 2 c.toNat
  else if c.toNat < 0x10000 then '\\' :: 'u' :: padHex 4 c.toNat
  else '\\' :: 'U' :: padHex 8 c.toNat

/-- A text between marks. -/
def showChars (cs : List Char) : List Char :=
  let q := mark cs
  q :: cs.flatMap (showChar q) ++ [q]

/-- A text between marks. -/
def ofText (s : String) : String := String.ofList (showChars s.toList)

/-- How one octet stands inside the marks. -/
def showOctet (q : Char) (b : UInt8) : List Char :=
  let c := Char.ofNat b.toNat
  if c = q ∨ c = '\\' then ['\\', c]
  else if c = '\n' then ['\\', 'n']
  else if c = '\r' then ['\\', 'r']
  else if c = '\t' then ['\\', 't']
  else if 0x20 ≤ b.toNat ∧ b.toNat < 0x7F then [c]
  else '\\' :: 'x' :: padHex 2 b.toNat

/-- An octet string between marks, after a `b`. -/
def ofBytes (bs : Bytes) : String :=
  let q := mark (bs.map fun b => Char.ofNat b.toNat)
  String.ofList ('b' :: q :: bs.flatMap (showOctet q) ++ [q])

end Plunder.Text.Quoted
