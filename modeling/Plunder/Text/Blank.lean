/-!
# Blanks

White space of Unicode 14, with and without the four information separators of ASCII, and the
functions that cut it away or split at it. Texts are trimmed of the separators too; around a numeral
they are not allowed.

Main statement: `isBlank_of_isWhitespace`, every character of ASCII white space is a blank.
-/

namespace Plunder.Text

/-- Whether the character counts as white space. -/
def isBlank (c : Char) : Bool :=
  let n := c.toNat
  (0x09 ≤ n && n ≤ 0x0D) || (0x1C ≤ n && n ≤ 0x20) || n == 0x85 || n == 0xA0 || n == 0x1680 ||
    (0x2000 ≤ n && n ≤ 0x200A) || n == 0x2028 || n == 0x2029 || n == 0x202F || n == 0x205F ||
    n == 0x3000

/-- Whether the character is white space and no information separator. -/
def isWhite (c : Char) : Bool := isBlank c && !(0x1C ≤ c.toNat && c.toNat ≤ 0x1F)

/-- The characters without the white space around them; information separators stay. -/
def trimWhite (cs : List Char) : List Char :=
  ((cs.dropWhile isWhite).reverse.dropWhile isWhite).reverse

def trimLeft (cs : List Char) : List Char := cs.dropWhile isBlank

def trimChars (cs : List Char) : List Char := (trimLeft (trimLeft cs).reverse).reverse

/-- A text without the blanks around it. -/
def trim (s : String) : String := String.ofList (trimChars s.toList)

/-- How many words a text has, words being parted by blanks. The flag says whether the character
before was part of a word. -/
def countWordsFrom : Bool → List Char → Nat
  | _, [] => 0
  | inWord, c :: rest =>
    if isBlank c then countWordsFrom false rest
    else (if inWord then 0 else 1) + countWordsFrom true rest

/-- How many words a text has. -/
def countWords (s : String) : Nat := countWordsFrom false s.toList

/-- Every character of ASCII white space is a blank. -/
theorem isBlank_of_isWhitespace {c : Char} (h : c.isWhitespace = true) : isBlank c = true := by
  simp only [Char.isWhitespace, Bool.or_eq_true, decide_eq_true_eq] at h
  rcases h with ((rfl | rfl) | rfl) | rfl <;> decide

end Plunder.Text
