import StreamDispatch.Decimal.Shortest

/-!
# JSON values

A JSON value as this library reads and writes it. Numbers keep the reader's three kinds:
a natural number below `2^64`, a negative integer not below `-2^63`, and anything else as a
double. Objects read from text have their keys sorted and unique (a later duplicate wins);
objects built by the library keep the order they are built in.

Printing follows one fixed format: no blanks in the compact form, two-space indentation in the
pretty form, and the escapes `\"`, `\\`, `\b`, `\f`, `\n`, `\r`, `\t` and `\u00xx` (lower-case hex)
for the other control characters; every other character is written as itself.
-/

namespace StreamDispatch.Json

/-- A JSON number: a natural below `2^64`, a negative integer from `-2^63`, or a double. -/
inductive Number where
  | nat (n : Nat)
  | neg (n : Int)
  | float (x : Float)

end StreamDispatch.Json

namespace StreamDispatch

/-- A JSON value. -/
inductive Json where
  | null
  | bool (b : Bool)
  | num (n : Json.Number)
  | str (s : String)
  | arr (items : List Json)
  | obj (fields : List (String × Json))

instance : Inhabited Json := ⟨.null⟩

end StreamDispatch

namespace StreamDispatch.Json

/-! ## Number text -/

/-- `n` zeros. -/
def zeros (n : Nat) : String := String.ofList (List.replicate n '0')

/-- The text of a finite double: the shortest digits that read back, written positionally when
the decimal point falls within the first sixteen places (a whole number keeps `.0`) or at most
four zeros after the point, and otherwise as one digit, the rest after a point, and `e` with the
signed exponent (`e+16`, `e-7`). Zero is `0.0` with its sign. -/
def floatText (x : Float) : String :=
  match Decimal.Binary.ofFloat x with
  | none => if x.toBits.toNat ≥ Nat.pow 2 63 then "-0.0" else "0.0"
  | some b =>
    let (j, k) := b.shortest
    let s := (Nat.toDigits 10 j)
    let n : Int := s.length
    let kk : Int := n + k
    let sign := if b.negative then "-" else ""
    let body :=
      if 0 ≤ k ∧ kk ≤ 16 then String.ofList s ++ zeros k.toNat ++ ".0"
      else if 0 < kk ∧ kk ≤ 16 then
        String.ofList (s.take kk.toNat) ++ "." ++ String.ofList (s.drop kk.toNat)
      else if -5 < kk ∧ kk ≤ 0 then "0." ++ zeros (-kk).toNat ++ String.ofList s
      else
        let mark := if kk - 1 < 0 then "e" else "e+"
        if s.length == 1 then String.ofList s ++ mark ++ toString (kk - 1)
        else String.ofList (s.take 1) ++ "." ++ String.ofList (s.drop 1) ++ mark ++ toString (kk - 1)
    sign ++ body

/-- The text of a number. -/
def Number.text : Number → String
  | .nat n => toString n
  | .neg n => toString n
  | .float x => floatText x

/-! ## String text -/

/-- A hex digit in lower case. -/
def hexDigit (n : Nat) : Char :=
  if n < 10 then Char.ofNat (48 + n) else Char.ofNat (87 + n)

/-- The escape of one character inside a JSON string. -/
def escapeChar (c : Char) : List Char :=
  if c == '"' then ['\\', '"']
  else if c == '\\' then ['\\', '\\']
  else if c == '\n' then ['\\', 'n']
  else if c == '\r' then ['\\', 'r']
  else if c == '\t' then ['\\', 't']
  else if c.toNat == 8 then ['\\', 'b']
  else if c.toNat == 12 then ['\\', 'f']
  else if c.toNat < 32 then ['\\', 'u', '0', '0', hexDigit (c.toNat / 16), hexDigit (c.toNat % 16)]
  else [c]

/-- A string in JSON quotes. -/
def quoted (s : String) : String :=
  String.ofList ('"' :: (s.toList.flatMap escapeChar ++ ['"']))

/-! ## Printing values -/

mutual
/-- The compact text of a value. -/
def compact : Json → String
  | .null => "null"
  | .bool true => "true"
  | .bool false => "false"
  | .num n => n.text
  | .str s => quoted s
  | .arr items => "[" ++ compactItems items ++ "]"
  | .obj fields => "\x7b" ++ compactFields fields ++ "\x7d"

/-- The compact text of array items, comma separated. -/
def compactItems : List Json → String
  | [] => ""
  | [x] => x.compact
  | x :: rest => x.compact ++ "," ++ compactItems rest

/-- The compact text of object members, comma separated. -/
def compactFields : List (String × Json) → String
  | [] => ""
  | [(k, v)] => quoted k ++ ":" ++ v.compact
  | (k, v) :: rest => quoted k ++ ":" ++ v.compact ++ "," ++ compactFields rest
end

/-- Two blanks per level. -/
def indent (level : Nat) : String := String.ofList (List.replicate (2 * level) ' ')

mutual
/-- The pretty text of a value at a nesting level. -/
def prettyAt (level : Nat) : Json → String
  | .arr [] => "[]"
  | .obj [] => "\x7b\x7d"
  | .arr items => "[\n" ++ prettyItems (level + 1) items ++ "\n" ++ indent level ++ "]"
  | .obj fields => "\x7b\n" ++ prettyFields (level + 1) fields ++ "\n" ++ indent level ++ "\x7d"
  | v => v.compact

/-- Pretty array items, one per line. -/
def prettyItems (level : Nat) : List Json → String
  | [] => ""
  | [x] => indent level ++ x.prettyAt level
  | x :: rest => indent level ++ x.prettyAt level ++ ",\n" ++ prettyItems level rest

/-- Pretty object members, one per line. -/
def prettyFields (level : Nat) : List (String × Json) → String
  | [] => ""
  | [(k, v)] => indent level ++ quoted k ++ ": " ++ v.prettyAt level
  | (k, v) :: rest =>
    indent level ++ quoted k ++ ": " ++ v.prettyAt level ++ ",\n" ++ prettyFields level rest
end

/-- The pretty text of a value. -/
def pretty (v : Json) : String := v.prettyAt 0

/-! ## Objects -/

/-- Inserts a member into a sorted object, replacing a member of the same key. -/
def insertSorted (k : String) (v : Json) : List (String × Json) → List (String × Json)
  | [] => [(k, v)]
  | (k', v') :: rest =>
    if k < k' then (k, v) :: (k', v') :: rest
    else if k == k' then (k, v) :: rest
    else (k', v') :: insertSorted k v rest

/-- An object of the given members, sorted by key; a later member replaces an earlier one of
the same key. -/
def record (fields : List (String × Json)) : Json :=
  .obj (fields.foldl (fun acc (k, v) => insertSorted k v acc) [])

/-- The member of an object with the given key. -/
def field? (v : Json) (k : String) : Option Json :=
  match v with
  | .obj fields => fields.lookup k
  | _ => none

/-- An unsigned integer value. -/
def nat (n : Nat) : Json := .num (.nat n)

/-- An integer value. -/
def int (n : Int) : Json := if 0 ≤ n then .num (.nat n.toNat) else .num (.neg n)

/-- A value or `null`. -/
def opt {α : Type} (f : α → Json) : Option α → Json
  | some a => f a
  | none => .null

end StreamDispatch.Json
