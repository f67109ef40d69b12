import StreamDispatch.Json.Value

/-!
# Scanning JSON text

The lexical layer of the JSON reader: a cursor over the characters left, the kinds of malformed
text with their messages, and the scanners for blanks, literal words, numbers and strings, plus
`skipValue`, which steps over a whole value without building it.

Positions are a line (from 1) and a column counted in UTF-8 bytes from the start of the line. An
error found by looking at the next character without taking it counts one byte of that
character; an error found after taking characters sits right after them.
-/

namespace StreamDispatch.Json

/-! ## Positions and errors -/

/-- A place in the text: the line (from 1) and the bytes before it on that line. -/
structure Position where
  line : Nat
  col : Nat
  deriving Repr, BEq

/-- The ways a text fails to be JSON. -/
inductive Malformed where
  | eofInList
  | eofInObject
  | eofInString
  | eofInValue
  | expectedColon
  | expectedListCommaOrEnd
  | expectedObjectCommaOrEnd
  | expectedIdent
  | expectedValue
  | invalidEscape
  | invalidNumber
  | numberOutOfRange
  | controlCharInString
  | keyNotString
  | loneLeadingSurrogate
  | trailingComma
  | trailingCharacters
  | unexpectedEndOfHexEscape
  | recursionLimit
  deriving Repr, BEq

/-- The message of a malformation. -/
def Malformed.message : Malformed → String
  | .eofInList => "EOF while parsing a list"
  | .eofInObject => "EOF while parsing an object"
  | .eofInString => "EOF while parsing a string"
  | .eofInValue => "EOF while parsing a value"
  | .expectedColon => "expected `:`"
  | .expectedListCommaOrEnd => "expected `,` or `]`"
  | .expectedObjectCommaOrEnd => "expected `,` or `\x7d`"
  | .expectedIdent => "expected ident"
  | .expectedValue => "expected value"
  | .invalidEscape => "invalid escape"
  | .invalidNumber => "invalid number"
  | .numberOutOfRange => "number out of range"
  | .controlCharInString => "control character (\\u0000-\\u001F) found while parsing a string"
  | .keyNotString => "key must be a string"
  | .loneLeadingSurrogate => "lone leading surrogate in hex escape"
  | .trailingComma => "trailing comma"
  | .trailingCharacters => "trailing characters"
  | .unexpectedEndOfHexEscape => "unexpected end of hex escape"
  | .recursionLimit => "recursion limit exceeded"

/-- A reading error: its message and, when read from text, where it was found. -/
structure ReadError where
  text : String
  place : Option Position
  deriving Repr, BEq

/-- The message with its place: `… at line L column C`. -/
def ReadError.message (e : ReadError) : String :=
  match e.place with
  | some p => s!"{e.text} at line {p.line} column {p.col}"
  | none => e.text

/-! ## The cursor -/

/-- What is left to read, and where it starts. `located` is false when the text is only a
stand-in for a value already in memory; its errors then carry no place. -/
structure Cursor where
  rest : List Char
  line : Nat := 1
  col : Nat := 0
  located : Bool := true

/-- A cursor at the start of a text. -/
def Cursor.ofString (s : String) (located : Bool := true) : Cursor :=
  { rest := s.toList, located }

/-- The next character, if any. -/
def Cursor.peek (c : Cursor) : Option Char := c.rest.head?

/-- The cursor after taking one character. -/
def Cursor.bump (c : Cursor) : Cursor :=
  match c.rest with
  | [] => c
  | ch :: rest =>
    if ch == '\n' then { c with rest, line := c.line + 1, col := 0 }
    else { c with rest, col := c.col + ch.utf8Size }

/-- The place right after what has been taken. -/
def Cursor.place (c : Cursor) : Position := ⟨c.line, c.col⟩

/-- The place after one more byte: where an error about the next character is reported. -/
def Cursor.peekPlace (c : Cursor) : Position :=
  match c.rest with
  | [] => c.place
  | ch :: _ => if ch == '\n' then ⟨c.line + 1, 0⟩ else ⟨c.line, c.col + 1⟩

/-- An error with a message, placed right after what has been taken. -/
def Cursor.fail (c : Cursor) (text : String) : ReadError :=
  ⟨text, if c.located then some c.place else none⟩

/-- A malformation found after taking characters. -/
def Cursor.err (c : Cursor) (m : Malformed) : ReadError := c.fail m.message

/-- A malformation found by looking at the next character. -/
def Cursor.peekErr (c : Cursor) (m : Malformed) : ReadError :=
  ⟨m.message, if c.located then some c.peekPlace else none⟩

/-- Gives an error without a place the place of the cursor; an error with a place keeps it. -/
def Cursor.settle (c : Cursor) (e : ReadError) : ReadError :=
  match e.place with
  | some _ => e
  | none => if c.located then { e with place := some c.place } else e

/-- A step of reading: the value read and the cursor after it, or an error. -/
abbrev Reader (α : Type) := Cursor → Except ReadError (α × Cursor)

/-! ## Blanks and words -/

/-- Whether a character is a JSON blank. -/
def isBlank (ch : Char) : Bool := ch == ' ' || ch == '\n' || ch == '\t' || ch == '\r'

/-- Takes characters while they satisfy `p`, keeping count of lines and columns. -/
def advanceWhile (p : Char → Bool) : List Char → Nat → Nat → List Char × Nat × Nat
  | [], line, col => ([], line, col)
  | ch :: rest, line, col =>
    if p ch then
      if ch == '\n' then advanceWhile p rest (line + 1) 0
      else advanceWhile p rest line (col + ch.utf8Size)
    else (ch :: rest, line, col)

/-- The cursor after the characters satisfying `p` that come next. -/
def Cursor.skipWhile (p : Char → Bool) (c : Cursor) : Cursor :=
  let (rest, line, col) := advanceWhile p c.rest c.line c.col
  { c with rest, line, col }

/-- Skips blanks. -/
def Cursor.skipBlank (c : Cursor) : Cursor := c.skipWhile isBlank

/-- Takes the rest of a literal word (`ull`, `rue`, `alse`), one character at a time. -/
def Cursor.word (c : Cursor) : List Char → Except ReadError Cursor
  | [] => .ok c
  | w :: ws =>
    match c.peek with
    | none => .error (c.err .eofInValue)
    | some ch => if ch == w then c.bump.word ws else .error (c.bump.err .expectedIdent)

/-! ## Numbers -/

/-- The largest value of an unsigned 64-bit word. -/
def u64Max : Nat := Nat.pow 2 64 - 1

/-- The largest value of a signed 32-bit word. -/
def i32Max : Nat := Nat.pow 2 31 - 1

/-- Whether `acc * 10 + d` would pass `limit`. -/
def overflows (acc d limit : Nat) : Bool :=
  acc ≥ limit / 10 && (acc > limit / 10 || d > limit % 10)

/-- The digit value of a character, if it is an ASCII digit. -/
def digitOf (ch : Char) : Option Nat :=
  if '0' ≤ ch && ch ≤ '9' then some (ch.toNat - 48) else none

/-- Skips ASCII digits. -/
def Cursor.skipDigits (c : Cursor) : Cursor := c.skipWhile fun ch => (digitOf ch).isSome

/-- Builds a double from a significand and a decimal exponent. Text read at a place goes the fast
way: the significand is rounded to a double and then multiplied or divided by a rounded power
of ten, dividing by `1e308` first while the exponent is below the table. A value's own text
(`located` false) is rounded once, so the shortest text of a double reads back as that double.
A positive exponent that overflows is out of range. -/
def composeDouble (c : Cursor) (positive : Bool) (sig : Nat) (exp : Int) :
    Except ReadError Float :=
  if !c.located && exp.natAbs ≤ 800 then
    let f := Decimal.nearestScaled sig exp
    if f.isInf then .error (c.err .numberOutOfRange) else .ok (if positive then f else -f)
  else
  let rec go (fuel : Nat) (f : Float) (exp : Int) : Except ReadError Float :=
    match fuel with
    | 0 => .ok 0
    | fuel + 1 =>
      if exp.natAbs ≤ 308 then
        let pow := Decimal.powerOfTen exp.natAbs
        if 0 ≤ exp then
          let g := f * pow
          if g.isInf then .error (c.err .numberOutOfRange) else .ok g
        else .ok (f / pow)
      else if f == 0 then .ok f
      else if 0 ≤ exp then .error (c.err .numberOutOfRange)
      else go fuel (f / Decimal.powerOfTen 308) (exp + 308)
  match go 4 (Decimal.nearestDouble sig) exp with
  | .ok f => .ok (if positive then f else -f)
  | .error e => .error e

/-- The exponent part, after `e` or `E` has been seen. -/
def Cursor.exponentPart (c : Cursor) (positive : Bool) (sig : Nat) (start : Int) :
    Except ReadError (Float × Cursor) :=
  let c := c.bump
  let (positiveExp, c) :=
    match c.peek with
    | some '+' => (true, c.bump)
    | some '-' => (false, c.bump)
    | _ => (true, c)
  match c.peek with
  | none => .error (c.err .eofInValue)
  | some ch =>
    match digitOf ch with
    | none => .error (c.bump.err .invalidNumber)
    | some d =>
      let rec more (fuel : Nat) (exp : Nat) (c : Cursor) : Except ReadError (Float × Cursor) :=
        match fuel with
        | 0 => .error (c.err .invalidNumber)
        | fuel + 1 =>
          match c.peek.bind digitOf with
          | some d =>
            let c := c.bump
            if overflows exp d i32Max then
              -- the exponent overflows: zero, or out of range when it grows the value
              if sig != 0 && positiveExp then .error (c.err .numberOutOfRange)
              else .ok (if positive then 0 else -0, c.skipDigits)
            else more fuel (exp * 10 + d) c
          | none =>
            let total := if positiveExp then start + exp else start - exp
            match composeDouble c positive sig total with
            | .ok f => .ok (f, c)
            | .error e => .error e
      more c.rest.length d c.bump

/-- The fraction part, after `.` has been seen. -/
def Cursor.fractionPart (c : Cursor) (positive : Bool) (sig : Nat) (before : Int) :
    Except ReadError (Float × Cursor) :=
  let rec go (fuel : Nat) (sig : Nat) (after : Int) (c : Cursor) :
      Except ReadError (Float × Cursor) :=
    match fuel with
    | 0 => .error (c.err .invalidNumber)
    | fuel + 1 =>
      match c.peek.bind digitOf with
      | some d =>
        if overflows sig d u64Max then
          -- further digits cannot change the significand
          let c := c.skipDigits
          match c.peek with
          | some 'e' | some 'E' => c.exponentPart positive sig (before + after)
          | _ =>
            match composeDouble c positive sig (before + after) with
            | .ok f => .ok (f, c)
            | .error e => .error e
        else go fuel (sig * 10 + d) (after - 1) c.bump
      | none =>
        if after == 0 then
          match c.peek with
          | some _ => .error (c.peekErr .invalidNumber)
          | none => .error (c.peekErr .eofInValue)
        else
          match c.peek with
          | some 'e' | some 'E' => c.exponentPart positive sig (before + after)
          | _ =>
            match composeDouble c positive sig (before + after) with
            | .ok f => .ok (f, c)
            | .error e => .error e
  go (c.rest.length + 1) sig 0 c.bump

/-- After the integer digits: a fraction, an exponent, or the integer itself. A negative integer
below `-2^63`, and `-0`, become doubles. -/
def Cursor.numberTail (c : Cursor) (positive : Bool) (sig : Nat) :
    Except ReadError (Number × Cursor) :=
  match c.peek with
  | some '.' => (c.fractionPart positive sig 0).map fun (f, c) => (.float f, c)
  | some 'e' | some 'E' => (c.exponentPart positive sig 0).map fun (f, c) => (.float f, c)
  | _ =>
    if positive then .ok (.nat sig, c)
    else if sig == 0 then .ok (.float (-0), c)
    else if sig ≤ Nat.pow 2 63 then .ok (.neg (-(sig : Int)), c)
    else .ok (.float (-(Decimal.nearestDouble sig)), c)

/-- Integer digits past the range of a 64-bit word: they are counted as powers of ten and do
not enter the significand. -/
def Cursor.longInteger (c : Cursor) (positive : Bool) (sig : Nat) :
    Except ReadError (Number × Cursor) :=
  let rec go (fuel : Nat) (exp : Nat) (c : Cursor) : Except ReadError (Number × Cursor) :=
    match fuel with
    | 0 => .error (c.err .invalidNumber)
    | fuel + 1 =>
      match c.peek with
      | some '.' => (c.fractionPart positive sig exp).map fun (f, c) => (.float f, c)
      | some 'e' | some 'E' => (c.exponentPart positive sig exp).map fun (f, c) => (.float f, c)
      | some ch =>
        if (digitOf ch).isSome then go fuel (exp + 1) c.bump
        else
          match composeDouble c positive sig exp with
          | .ok f => .ok (.float f, c)
          | .error e => .error e
      | none =>
        match composeDouble c positive sig exp with
        | .ok f => .ok (.float f, c)
        | .error e => .error e
  go (c.rest.length + 1) 0 c

/-- A number, the minus sign (if any) already taken. -/
def Cursor.number (c : Cursor) (positive : Bool) : Except ReadError (Number × Cursor) :=
  match c.peek with
  | none => .error (c.err .eofInValue)
  | some '0' =>
    let c := c.bump
    match c.peek.bind digitOf with
    | some _ => .error (c.peekErr .invalidNumber)
    | none => c.numberTail positive 0
  | some ch =>
    match digitOf ch with
    | none => .error (c.bump.err .invalidNumber)
    | some d =>
      let rec go (fuel : Nat) (sig : Nat) (c : Cursor) : Except ReadError (Number × Cursor) :=
        match fuel with
        | 0 => .error (c.err .invalidNumber)
        | fuel + 1 =>
          match c.peek.bind digitOf with
          | some d =>
            if overflows sig d u64Max then c.longInteger positive sig
            else go fuel (sig * 10 + d) c.bump
          | none => c.numberTail positive sig
      go (c.rest.length + 1) d c.bump

/-- Skips a number the way an ignored value is skipped, the minus sign already taken. Unlike
reading, nothing is range checked. -/
def Cursor.skipNumber (c : Cursor) : Except ReadError Cursor := do
  let c ← match c.peek with
    | some '0' =>
      let c := c.bump
      match c.peek.bind digitOf with
      | some _ => .error (c.peekErr .invalidNumber)
      | none => pure c
    | some ch =>
      if (digitOf ch).isSome then pure c.bump.skipDigits else .error (c.bump.err .invalidNumber)
    | none => .error (c.err .invalidNumber)
  let c ← match c.peek with
    | some '.' =>
      let d := c.bump
      let e := d.skipDigits
      if e.rest.length == d.rest.length then .error (e.peekErr .invalidNumber) else pure e
    | _ => pure c
  match c.peek with
  | some 'e' | some 'E' =>
    let c := c.bump
    let c := match c.peek with
      | some '+' | some '-' => c.bump
      | _ => c
    match c.peek.bind digitOf with
    | some _ => pure c.bump.skipDigits
    | none => .error (c.bump.err .invalidNumber)
  | _ => pure c

/-! ## Strings -/

/-- The value of a hex digit. -/
def hexOf (ch : Char) : Option Nat :=
  if '0' ≤ ch && ch ≤ '9' then some (ch.toNat - 48)
  else if 'a' ≤ ch && ch ≤ 'f' then some (ch.toNat - 87)
  else if 'A' ≤ ch && ch ≤ 'F' then some (ch.toNat - 55)
  else none

/-- The cursor four bytes on; a character cut in two counts only its first bytes. -/
def Cursor.fourBytesOn (c : Cursor) : Cursor :=
  let rec take (n : Nat) (d : Cursor) (fuel : Nat) : Cursor :=
    match fuel with
    | 0 => d
    | fuel + 1 =>
      match d.rest with
      | [] => d
      | ch :: _ =>
        if n == 0 then d
        else if ch.utf8Size ≤ n then take (n - ch.utf8Size) d.bump fuel
        else { d with col := d.col + n }
  take 4 c 4

/-- Takes the next four bytes as hex digits. Fewer than four bytes left is the end of the text
inside a string; four bytes that are not all hex digits are an invalid escape, reported after
them. -/
def Cursor.hexEscape (c : Cursor) : Except ReadError (Nat × Cursor) :=
  let bytes := (c.rest.map Char.utf8Size).foldl (· + ·) 0
  if bytes < 4 then
    .error ((c.skipWhile fun _ => true).err .eofInString)
  else
    match (c.rest.take 4).map hexOf with
    | [some x, some y, some z, some w] =>
      .ok (((x * 16 + y) * 16 + z) * 16 + w, c.bump.bump.bump.bump)
    | _ => .error (c.fourBytesOn.err .invalidEscape)

/-- The character of a `\u` escape (the `\u` already taken), joining a surrogate pair. -/
def Cursor.unicodeEscape (c : Cursor) : Except ReadError (Char × Cursor) := do
  let (n, c) ← c.hexEscape
  if 0xDC00 ≤ n && n ≤ 0xDFFF then throw (c.err .loneLeadingSurrogate)
  if n < 0xD800 || n > 0xDBFF then return (Char.ofNat n, c)
  match c.peek with
  | none => throw (c.err .eofInString)
  | some '\\' =>
    let c := c.bump
    match c.peek with
    | none => throw (c.err .eofInString)
    | some 'u' =>
      let (n2, c) ← c.bump.hexEscape
      if n2 < 0xDC00 || n2 > 0xDFFF then throw (c.err .loneLeadingSurrogate)
      return (Char.ofNat ((n - 0xD800) * 0x400 + (n2 - 0xDC00) + 0x10000), c)
    | some _ => throw (c.bump.err .unexpectedEndOfHexEscape)
  | some _ => throw (c.bump.err .unexpectedEndOfHexEscape)

/-- The characters of a string up to its closing quote, the opening quote already taken. -/
def Cursor.stringBody (c : Cursor) : Except ReadError (String × Cursor) :=
  let rec go (fuel : Nat) (acc : List Char) (c : Cursor) : Except ReadError (String × Cursor) :=
    match fuel with
    | 0 => .error (c.err .eofInString)
    | fuel + 1 =>
      match c.peek with
      | none => .error (c.err .eofInString)
      | some '"' => .ok (String.ofList acc.reverse, c.bump)
      | some '\\' =>
        let c := c.bump
        match c.peek with
        | none => .error (c.err .eofInString)
        | some e =>
          let simple : Option Char :=
            match e with
            | '"' => some '"'
            | '\\' => some '\\'
            | '/' => some '/'
            | 'b' => some (Char.ofNat 8)
            | 'f' => some (Char.ofNat 12)
            | 'n' => some '\n'
            | 'r' => some '\r'
            | 't' => some '\t'
            | _ => none
          match simple with
          | some ch => go fuel (ch :: acc) c.bump
          | none =>
            if e == 'u' then
              match c.bump.unicodeEscape with
              | .ok (ch, c) => go fuel (ch :: acc) c
              | .error err => .error err
            else .error (c.bump.err .invalidEscape)
      | some ch =>
        if ch.toNat < 32 then .error (c.bump.err .controlCharInString)
        else go fuel (ch :: acc) c.bump
  go (c.rest.length + 1) [] c

/-- Skips a string up to its closing quote, the opening quote already taken. Escapes are checked
for form only; a control character is reported before it. -/
def Cursor.skipString (c : Cursor) : Except ReadError Cursor :=
  let rec go (fuel : Nat) (c : Cursor) : Except ReadError Cursor :=
    match fuel with
    | 0 => .error (c.err .eofInString)
    | fuel + 1 =>
      match c.peek with
      | none => .error (c.err .eofInString)
      | some '"' => .ok c.bump
      | some '\\' =>
        let c := c.bump
        match c.peek with
        | none => .error (c.err .eofInString)
        | some e =>
          if e == '"' || e == '\\' || e == '/' || e == 'b' || e == 'f' || e == 'n' ||
              e == 'r' || e == 't' then go fuel c.bump
          else if e == 'u' then
            match c.bump.hexEscape with
            | .ok (_, c) => go fuel c
            | .error err => .error err
          else .error (c.bump.err .invalidEscape)
      | some ch =>
        if ch.toNat < 32 then .error (c.err .controlCharInString)
        else go fuel c.bump
  go (c.rest.length + 1) c

/-! ## Skipping a whole value -/

/-- Where the skipping machine is: about to skip a value, or after a value (or an opening
bracket) inside the innermost open container. -/
inductive SkipAt where
  | value
  | after (acceptComma : Bool) (inObject : Bool)

/-- Steps over one value of any shape, keeping a stack of the open containers (`true` for an
object). There is no nesting limit here. -/
def Cursor.skipValue (c : Cursor) : Except ReadError Cursor :=
  let rec run (fuel : Nat) (at_ : SkipAt) (stack : List Bool) (enclosing : Option Bool)
      (c : Cursor) : Except ReadError Cursor :=
    match fuel with
    | 0 => .error (c.err .eofInValue)
    | fuel + 1 =>
      match at_ with
      | .value =>
        let c := c.skipBlank
        let scalar (r : Except ReadError Cursor) : Except ReadError Cursor :=
          match r with
          | .error e => .error e
          | .ok c =>
            match enclosing with
            | some f => run fuel (.after true f) stack none c
            | none =>
              match stack with
              | f :: stack => run fuel (.after true f) stack none c
              | [] => .ok c
        match c.peek with
        | none => .error (c.peekErr .eofInValue)
        | some 'n' => scalar (c.bump.word ['u', 'l', 'l'])
        | some 't' => scalar (c.bump.word ['r', 'u', 'e'])
        | some 'f' => scalar (c.bump.word ['a', 'l', 's', 'e'])
        | some '-' => scalar c.bump.skipNumber
        | some '"' => scalar c.bump.skipString
        | some '[' => run fuel (.after false false) (enclosing.toList ++ stack) none c.bump
        | some '{' => run fuel (.after false true) (enclosing.toList ++ stack) none c.bump
        | some ch =>
          if (digitOf ch).isSome then scalar c.skipNumber
          else .error (c.peekErr .expectedValue)
      | .after acceptComma inObject =>
        let c := c.skipBlank
        let close : Except ReadError Cursor :=
          match stack with
          | f :: stack => run fuel (.after true f) stack none c.bump
          | [] => .ok c.bump
        -- a new member: its key and colon first inside an object
        let open_ (c : Cursor) : Except ReadError Cursor :=
          if inObject then
            match c.skipBlank.peek with
            | some '"' =>
              match c.skipBlank.bump.skipString with
              | .error e => .error e
              | .ok d =>
                let d := d.skipBlank
                match d.peek with
                | some ':' => run fuel .value stack (some inObject) d.bump
                | some _ => .error (d.peekErr .expectedColon)
                | none => .error (d.peekErr .eofInObject)
            | some _ => .error (c.skipBlank.peekErr .keyNotString)
            | none => .error (c.skipBlank.peekErr .eofInValue)
          else run fuel .value stack (some inObject) c
        match c.peek with
        | some ',' => if acceptComma then open_ c.bump else
            if inObject then open_ c else open_ c
        | some ']' => if !inObject then close else
            if acceptComma then .error (c.peekErr .expectedObjectCommaOrEnd) else open_ c
        | some '}' => if inObject then close else
            if acceptComma then .error (c.peekErr .expectedListCommaOrEnd) else open_ c
        | some _ =>
          if acceptComma then
            .error (c.peekErr (if inObject then .expectedObjectCommaOrEnd
              else .expectedListCommaOrEnd))
          else open_ c
        | none => .error (c.peekErr (if inObject then .eofInObject else .eofInList))
  run (2 * c.rest.length + 2) .value [] none c

end StreamDispatch.Json
