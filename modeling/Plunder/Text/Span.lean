/-!
# Spans of code points

A property of characters as an increasing list of inclusive spans of code points.
-/

namespace Plunder.Text

/-- An inclusive span of code points. -/
abbrev Span := Nat × Nat

/-- Whether a code point lies in one of the spans. -/
def Span.covers (spans : List Span) (n : Nat) : Bool :=
  spans.any fun s => s.1 ≤ n && n ≤ s.2

end Plunder.Text
