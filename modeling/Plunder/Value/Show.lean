import Plunder.Value
import Plunder.Number.Numeral
import Plunder.Number.Shortest
import Plunder.Text.Quoted

/-!
# Values in messages

How a message shows a value: texts and octets quoted, numbers in their shortest form, lists in
square brackets, tuples in parentheses, objects in braces. A value that holds a whole number of
more than `Numeral.maxDigits` digits cannot be shown.
-/

namespace Plunder.Value

mutual

/-- A value as a message shows it. -/
def show? : Value → Option String
  | null => some "None"
  | bool b => some (if b then "True" else "False")
  | int n => Numeral.intText? n
  | float x => some x.text
  | text s => some (Text.Quoted.ofText s)
  | octets .fixed bs => some (Text.Quoted.ofBytes bs)
  | octets .buffer bs => some ("bytearray(" ++ Text.Quoted.ofBytes bs ++ ")")
  | octets .window _ => some "<memory>"
  | list xs => (showItems? xs).map fun ts => "[" ++ ", ".intercalate ts ++ "]"
  | tuple xs => (showItems? xs).map fun ts =>
      match ts with
      | [t] => "(" ++ t ++ ",)"
      | ts => "(" ++ ", ".intercalate ts ++ ")"
  | object fs => (showFields? fs).map fun ts => "\x7b" ++ ", ".intercalate ts ++ "\x7d"

/-- The items as a message shows them. -/
def showItems? : List Value → Option (List String)
  | [] => some []
  | x :: xs =>
    match show? x, showItems? xs with
    | some t, some ts => some (t :: ts)
    | _, _ => none

/-- The fields as a message shows them. -/
def showFields? : List (String × Value) → Option (List String)
  | [] => some []
  | (k, v) :: fs =>
    match show? v, showFields? fs with
    | some t, some ts => some ((Text.Quoted.ofText k ++ ": " ++ t) :: ts)
    | _, _ => none

end

/-- A value inside a running text: a text stands as it is, everything else as it is shown. -/
def inline? : Value → Option String
  | text s => some s
  | v => v.show?

end Plunder.Value
