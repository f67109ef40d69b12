/-!
# Blank characters

The Unicode `White_Space` characters: the ASCII tab, line feed, vertical tab, form feed,
carriage return and space, and the further spaces and separators U+0085, U+00A0, U+1680,
U+2000–U+200A, U+2028, U+2029, U+202F, U+205F and U+3000. Trimming a text drops these at its
ends.
-/

namespace StreamDispatch.Text

/-- Whether a character has the Unicode `White_Space` property. -/
def isBlank (c : Char) : Bool :=
  let n := c.toNat
  (0x09 ≤ n && n ≤ 0x0D) || n == 0x20 || n == 0x85 || n == 0xA0 || n == 0x1680 ||
    (0x2000 ≤ n && n ≤ 0x200A) || n == 0x2028 || n == 0x2029 || n == 0x202F ||
    n == 0x205F || n == 0x3000

/-- The characters after the leading blanks. -/
def dropBlank (cs : List Char) : List Char := cs.dropWhile isBlank

/-- A text without its leading and trailing blanks. -/
def trimBlank (s : String) : String :=
  String.ofList (dropBlank (dropBlank s.toList).reverse).reverse

example : isBlank (Char.ofNat 0x3000) = true ∧ isBlank 'a' = false := by decide

end StreamDispatch.Text
