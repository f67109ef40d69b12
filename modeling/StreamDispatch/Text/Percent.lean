/-!
# Percent-decoding

`%` followed by two hex digits stands for the byte they spell; every other character stands for
its UTF-8 bytes, a `%` without two hex digits included. The decoded bytes form a text only
when they are valid UTF-8.
-/

namespace StreamDispatch.Text

/-- The value of a hex digit. -/
def hexValue (c : Char) : Option Nat :=
  if '0' ≤ c && c ≤ '9' then some (c.toNat - 48)
  else if 'a' ≤ c && c ≤ 'f' then some (c.toNat - 87)
  else if 'A' ≤ c && c ≤ 'F' then some (c.toNat - 55)
  else none

/-- The bytes a percent-encoded text stands for. -/
def percentBytes : List Char → List UInt8
  | [] => []
  | '%' :: a :: b :: rest =>
    match hexValue a, hexValue b with
    | some x, some y => (x * 16 + y).toUInt8 :: percentBytes rest
    | _, _ => '%'.toUInt8 :: percentBytes (a :: b :: rest)
  | c :: rest => (String.singleton c).toUTF8.toList ++ percentBytes rest

/-- The text a percent-encoded text stands for, if its bytes are valid UTF-8. -/
def percentDecode? (s : String) : Option String :=
  String.fromUTF8? (ByteArray.mk (percentBytes s.toList).toArray)

end StreamDispatch.Text
