import StreamDispatch.Json.Scan
import StreamDispatch.Text.Quoted

/-!
# Reading typed records from JSON

Readers that turn JSON text straight into typed values, field by field, in the order the text
gives them. A reader looks at the next character to decide: a wrong kind of value is an
`invalid type` error naming what was found and what was expected; a number outside the target
range is an `invalid value`.

Records (`RecordSpec`) are read from an object, whose members may come in any order and whose
unknown members are stepped over, or from an array holding the fields in declaration order.
A field that is missing is an error, takes its default, or (only in object form) is empty,
as the field says. Errors about the record as a whole — a missing or duplicate field, an array
of the wrong length — are placed after the closing bracket; all others where they were found.

The same readers serve values already in memory: the value is written compactly and read back
from a cursor whose errors carry no place.
-/

namespace StreamDispatch.Json

/-! ## What was found -/

/-- The kind of value a reader found where it expected another. -/
inductive Unexpected where
  | bool (b : Bool)
  | unsigned (n : Nat)
  | signed (n : Int)
  | float (x : Float)
  | str (s : String)
  | null
  | seq
  | map

/-- How a found value is named in messages. -/
def Unexpected.text : Unexpected → String
  | .bool b => s!"boolean `{b}`"
  | .unsigned n => s!"integer `{n}`"
  | .signed n => s!"integer `{n}`"
  | .float x => "floating point `" ++ floatText x ++ "`"
  | .str s => "string " ++ Text.quote s
  | .null => "null"
  | .seq => "sequence"
  | .map => "map"

/-- The found value of a number. -/
def Number.unexpected : Number → Unexpected
  | .nat n => .unsigned n
  | .neg n => .signed n
  | .float x => .float x

/-- `invalid type: …, expected …`. -/
def invalidType (u : Unexpected) (expected : String) : String :=
  s!"invalid type: {u.text}, expected {expected}"

/-- `invalid value: …, expected …`. -/
def invalidValue (u : Unexpected) (expected : String) : String :=
  s!"invalid value: {u.text}, expected {expected}"

/-- `invalid length n, expected …`. -/
def invalidLength (n : Nat) (expected : String) : String :=
  s!"invalid length {n}, expected {expected}"

/-- `missing field `name``. -/
def missingField (name : String) : String := "missing field `" ++ name ++ "`"

/-- `duplicate field `name``. -/
def duplicateField (name : String) : String := "duplicate field `" ++ name ++ "`"

/-- The list of allowed names: one, two joined by `or`, or `one of` a comma list. -/
def oneOf (names : List String) : String :=
  let tick (s : String) := "`" ++ s ++ "`"
  match names with
  | [] => "nothing"
  | [a] => tick a
  | [a, b] => tick a ++ " or " ++ tick b
  | _ => "one of " ++ ", ".intercalate (names.map tick)

/-- `unknown variant `v`, expected …`. -/
def unknownVariant (v : String) (names : List String) : String :=
  "unknown variant `" ++ v ++ "`, expected " ++ oneOf names

/-! ## The wrong kind of value -/

/-- The error for a value of the wrong kind at the cursor (blanks already skipped): scalars are
read to name them and the error sits after them; an array or object is named from its bracket
and the error sits before it. -/
def Cursor.wrongKind (c : Cursor) (expected : String) : ReadError :=
  let after (r : Except ReadError Cursor) (u : Unexpected) : ReadError :=
    match r with
    | .error e => e
    | .ok d => d.fail (invalidType u expected)
  match c.peek with
  | some 'n' => after (c.bump.word ['u', 'l', 'l']) .null
  | some 't' => after (c.bump.word ['r', 'u', 'e']) (.bool true)
  | some 'f' => after (c.bump.word ['a', 'l', 's', 'e']) (.bool false)
  | some '-' =>
    match c.bump.number false with
    | .error e => e
    | .ok (n, d) => d.fail (invalidType n.unexpected expected)
  | some '"' =>
    match c.bump.stringBody with
    | .error e => e
    | .ok (s, d) => d.fail (invalidType (.str s) expected)
  | some '[' => c.fail (invalidType .seq expected)
  | some '{' => c.fail (invalidType .map expected)
  | some ch =>
    if (digitOf ch).isSome then
      match c.number true with
      | .error e => e
      | .ok (n, d) => d.fail (invalidType n.unexpected expected)
    else c.peekErr .expectedValue
  | none => c.peekErr .expectedValue

/-! ## Scalars -/

/-- Reads a number and checks it with `accept`, whose refusal is placed after the number. -/
def readNumber {α : Type} (expected : String) (accept : Number → Except String α) :
    Reader α := fun c =>
  let c := c.skipBlank
  let got : Except ReadError (Number × Cursor) :=
    match c.peek with
    | none => .error (c.peekErr .eofInValue)
    | some '-' => c.bump.number false
    | some ch => if (digitOf ch).isSome then c.number true else .error (c.wrongKind expected)
  match got with
  | .error e => .error e
  | .ok (n, d) =>
    match accept n with
    | .ok a => .ok (a, d)
    | .error msg => .error (d.fail msg)

/-- An unsigned integer below `2^bits`, named `name` (`u32`, `u16`, …). -/
def readUnsigned (bits : Nat) (name : String) : Reader Nat :=
  readNumber name fun
    | .nat n => if n < Nat.pow 2 bits then .ok n else .error (invalidValue (.unsigned n) name)
    | .neg n => .error (invalidValue (.signed n) name)
    | .float x => .error (invalidType (.float x) name)

/-- A 32-bit unsigned integer. -/
def readU32 : Reader Nat := readUnsigned 32 "u32"

/-- A 64-bit signed integer. -/
def readI64 : Reader Int :=
  readNumber "i64" fun
    | .nat n => if n < Nat.pow 2 63 then .ok n else .error (invalidValue (.unsigned n) "i64")
    | .neg n => .ok n
    | .float x => .error (invalidType (.float x) "i64")

/-- A boolean. -/
def readBool : Reader Bool := fun c =>
  let c := c.skipBlank
  match c.peek with
  | none => .error (c.peekErr .eofInValue)
  | some 't' => (c.bump.word ['r', 'u', 'e']).map fun d => (true, d)
  | some 'f' => (c.bump.word ['a', 'l', 's', 'e']).map fun d => (false, d)
  | some _ => .error (c.wrongKind "a boolean")

/-- Reads a string and checks it with `accept`, whose refusal is placed after the string. -/
def readStringWith {α : Type} (expected : String) (accept : String → Except String α) :
    Reader α := fun c =>
  let c := c.skipBlank
  match c.peek with
  | none => .error (c.peekErr .eofInValue)
  | some '"' =>
    match c.bump.stringBody with
    | .error e => .error e
    | .ok (s, d) =>
      match accept s with
      | .ok a => .ok (a, d)
      | .error msg => .error (d.fail msg)
  | some _ => .error (c.wrongKind expected)

/-- A string. -/
def readString : Reader String := readStringWith "a string" .ok

/-- `null` or a value. -/
def readOption {α : Type} (r : Reader α) : Reader (Option α) := fun c =>
  let c := c.skipBlank
  match c.peek with
  | some 'n' => (c.bump.word ['u', 'l', 'l']).map fun d => (none, d)
  | _ => (r c).map fun (a, d) => (some a, d)

/-- Steps over a value of any shape. -/
def readIgnored : Reader Unit := fun c => (c.skipValue).map fun d => ((), d)

/-! ## Closing brackets -/

/-- The check after the last element of an array: its closing bracket. -/
def Cursor.endArray (c : Cursor) : Except ReadError Cursor :=
  let c := c.skipBlank
  match c.peek with
  | some ']' => .ok c.bump
  | some ',' =>
    let d := c.bump.skipBlank
    if d.peek == some ']' then .error (d.peekErr .trailingComma)
    else .error (d.peekErr .trailingCharacters)
  | some _ => .error (c.peekErr .trailingCharacters)
  | none => .error (c.peekErr .eofInList)

/-- The check after the last member of an object: its closing brace. -/
def Cursor.endObject (c : Cursor) : Except ReadError Cursor :=
  let c := c.skipBlank
  match c.peek with
  | some '}' => .ok c.bump
  | some ',' => .error (c.peekErr .trailingComma)
  | some _ => .error (c.peekErr .trailingCharacters)
  | none => .error (c.peekErr .eofInObject)

/-- Where the closing check of an array leaves the cursor, whatever it finds. -/
def Cursor.afterArrayEnd (c : Cursor) : Cursor :=
  let c := c.skipBlank
  match c.peek with
  | some ']' => c.bump
  | some ',' => c.bump.skipBlank
  | _ => c

/-- Where the closing check of an object leaves the cursor, whatever it finds. -/
def Cursor.afterObjectEnd (c : Cursor) : Cursor :=
  let c := c.skipBlank
  if c.peek == some '}' then c.bump else c

/-! ## Arrays -/

/-- Finds the next element of an array: `none` at the closing bracket (not taken), or the cursor
at the element after an optional comma. -/
def Cursor.nextElement (c : Cursor) (first : Bool) : Except ReadError (Option Cursor) :=
  let c := c.skipBlank
  let at_ (d : Cursor) : Except ReadError (Option Cursor) :=
    match d.peek with
    | some ']' => .error (d.peekErr .trailingComma)
    | some _ => .ok (some d)
    | none => .error (d.peekErr .eofInValue)
  match c.peek with
  | some ']' => .ok none
  | some ',' => if first then at_ c else at_ c.bump.skipBlank
  | some _ => if first then at_ c else .error (c.peekErr .expectedListCommaOrEnd)
  | none => .error (c.peekErr .eofInList)

/-- The elements of an array, up to its closing bracket (not taken). -/
def readElements {α : Type} (r : Reader α) : Nat → Bool → List α → Reader (List α)
  | 0, _, acc, c => .ok (acc.reverse, c)
  | fuel + 1, first, acc, c =>
    match c.nextElement first with
    | .error e => .error e
    | .ok none => .ok (acc.reverse, c.skipBlank)
    | .ok (some d) =>
      match r d with
      | .error e => .error e
      | .ok (a, d) => readElements r fuel false (a :: acc) d

/-- An array of values. -/
def readArray {α : Type} (r : Reader α) : Reader (List α) := fun c =>
  let c := c.skipBlank
  match c.peek with
  | none => .error (c.peekErr .eofInValue)
  | some '[' =>
    match readElements r (c.rest.length + 1) true [] c.bump with
    | .error e => .error e
    | .ok (items, d) => (d.endArray).map fun d => (items, d)
  | some _ => .error (c.wrongKind "a sequence")

/-! ## Objects -/

/-- Finds the next member of an object: `none` at the closing brace (not taken), or its key and
the cursor after the key. The key is checked with `key`, whose refusal sits after the key. -/
def Cursor.nextKey {κ : Type} (c : Cursor) (first : Bool) (key : String → Except String κ) :
    Except ReadError (Option (κ × Cursor)) :=
  let c := c.skipBlank
  let at_ (d : Cursor) : Except ReadError (Option (κ × Cursor)) :=
    match d.peek with
    | some '"' =>
      match d.bump.stringBody with
      | .error e => .error e
      | .ok (s, e) =>
        match key s with
        | .ok k => .ok (some (k, e))
        | .error msg => .error (e.fail msg)
    | some '}' => .error (d.peekErr .trailingComma)
    | some _ => .error (d.peekErr .keyNotString)
    | none => .error (d.peekErr .eofInValue)
  match c.peek with
  | some '}' => .ok none
  | some ',' => if first then at_ c else at_ c.bump.skipBlank
  | some _ => if first then at_ c else .error (c.peekErr .expectedObjectCommaOrEnd)
  | none => .error (c.peekErr .eofInObject)

/-- The colon between a key and its value. -/
def Cursor.colon (c : Cursor) : Except ReadError Cursor :=
  let c := c.skipBlank
  match c.peek with
  | some ':' => .ok c.bump
  | some _ => .error (c.peekErr .expectedColon)
  | none => .error (c.peekErr .eofInObject)

/-- The members of an object, keys checked by `key`, up to the closing brace (not taken). -/
def readMembers {κ α : Type} (key : String → Except String κ) (r : Reader α) :
    Nat → Bool → List (κ × α) → Reader (List (κ × α))
  | 0, _, acc, c => .ok (acc.reverse, c)
  | fuel + 1, first, acc, c =>
    match c.nextKey first key with
    | .error e => .error e
    | .ok none => .ok (acc.reverse, c.skipBlank)
    | .ok (some (k, d)) =>
      match d.colon with
      | .error e => .error e
      | .ok d =>
        match r d with
        | .error e => .error e
        | .ok (a, d) => readMembers key r fuel false ((k, a) :: acc) d

/-- An object read as a list of members in text order, keys checked by `key`. -/
def readObject {κ α : Type} (key : String → Except String κ) (r : Reader α) :
    Reader (List (κ × α)) := fun c =>
  let c := c.skipBlank
  match c.peek with
  | none => .error (c.peekErr .eofInValue)
  | some '{' =>
    match readMembers key r (c.rest.length + 1) true [] c.bump with
    | .error e => .error e
    | .ok (items, d) => (d.endObject).map fun d => (items, d)
  | some _ => .error (c.wrongKind "a map")

/-! ## Records -/

/-- What a field becomes when it is not given: an error, its default, or (in object form
only) empty. -/
inductive Absent where
  | required
  | defaulted
  | optional
  deriving BEq

/-- A field of a record: its key, what its absence means, and the reader that stores its value
into a record under construction. -/
structure Field (α : Type) where
  name : String
  absent : Absent
  read : α → Reader α

/-- A field read by `r` and stored by `set`. -/
def Field.of {α β : Type} (name : String) (absent : Absent) (r : Reader β) (set : α → β → α) :
    Field α :=
  ⟨name, absent, fun acc c => (r c).map fun (v, d) => (set acc v, d)⟩

/-- A record: its name, its fields in declaration order, and the record with every field at its
default, which reading fills in. -/
structure RecordSpec (α : Type) where
  name : String
  fields : List (Field α)
  init : α

/-- The name a record is expected by: `struct Name`. -/
def RecordSpec.expected {α : Type} (spec : RecordSpec α) : String := "struct " ++ spec.name

/-- The index of the field with the given key. -/
def RecordSpec.indexOf {α : Type} (spec : RecordSpec α) (key : String) : Option Nat :=
  spec.fields.findIdx? (·.name == key)

/-- The first field, in declaration order, that is required and was not seen. -/
def RecordSpec.firstMissing {α : Type} (spec : RecordSpec α) (seen : List Nat) :
    Option String :=
  ((spec.fields.zipIdx).find? fun (f, i) => f.absent == .required && !seen.contains i).map
    (·.1.name)

/-- The members of a record in object form, up to the closing brace (not taken). -/
def RecordSpec.members {α : Type} (spec : RecordSpec α) :
    Nat → Bool → List Nat → α → Cursor → Except ReadError (List Nat × α × Cursor)
  | 0, _, seen, acc, c => .ok (seen, acc, c)
  | fuel + 1, first, seen, acc, c =>
    match c.nextKey first (fun s => .ok (spec.indexOf s)) with
    | .error e => .error e
    | .ok none => .ok (seen, acc, c.skipBlank)
    | .ok (some (none, d)) =>
      match d.colon with
      | .error e => .error e
      | .ok d =>
        match d.skipValue with
        | .error e => .error e
        | .ok d => spec.members fuel false seen acc d
    | .ok (some (some i, d)) =>
      match spec.fields[i]? with
      | none => .error (d.fail "unknown field")
      | some f =>
        if seen.contains i then .error (d.afterObjectEnd.settle ⟨duplicateField f.name, none⟩)
        else
          match d.colon with
          | .error e => .error e
          | .ok d =>
            match f.read acc d with
            | .error e => .error e
            | .ok (acc, d) => spec.members fuel false (i :: seen) acc d

/-- The fields of a record in array form, in declaration order. -/
def RecordSpec.elements {α : Type} (spec : RecordSpec α) (count : Nat) :
    List (Field α) → Nat → Bool → α → Cursor → Except ReadError (α × Cursor)
  | [], _, _, acc, c => .ok (acc, c)
  | f :: rest, i, first, acc, c =>
    match c.nextElement first with
    | .error e => .error e
    | .ok none =>
      if f.absent == .defaulted then spec.elements count rest (i + 1) first acc c
      else
        .error (c.afterArrayEnd.settle
          ⟨invalidLength i s!"{spec.expected} with {count} elements", none⟩)
    | .ok (some d) =>
      match f.read acc d with
      | .error e => .error e
      | .ok (acc, d) => spec.elements count rest (i + 1) false acc d

/-- How many further elements an array holds, from a cursor after an element. -/
def Cursor.remainingElements (c : Cursor) : Nat → Nat → Nat
  | 0, n => n
  | fuel + 1, n =>
    match c.nextElement false with
    | .ok (some d) =>
      match d.skipValue with
      | .ok d => d.remainingElements fuel (n + 1)
      | .error _ => n + 1
    | _ => n

/-- A record, from an object or from an array of its fields. -/
def RecordSpec.read {α : Type} (spec : RecordSpec α) : Reader α := fun c =>
  let c := c.skipBlank
  match c.peek with
  | none => .error (c.peekErr .eofInValue)
  | some '{' =>
    match spec.members (c.rest.length + 1) true [] spec.init c.bump with
    | .error e => .error e
    | .ok (seen, acc, d) =>
      match spec.firstMissing seen with
      | some name => .error (d.afterObjectEnd.settle ⟨missingField name, none⟩)
      | none => (d.endObject).map fun d => (acc, d)
  | some '[' =>
    let count := spec.fields.length
    match spec.elements count spec.fields 0 true spec.init c.bump with
    | .error e => .error e
    | .ok (acc, d) =>
      if !d.located && d.skipBlank.peek == some ',' then
        let extra := d.remainingElements (d.rest.length + 1) 0
        .error ⟨invalidLength (count + extra) "fewer elements in array", none⟩
      else (d.endArray).map fun d => (acc, d)
  | some _ => .error (c.wrongKind spec.expected)

/-! ## Whole texts and values -/

/-- Reads a whole text: the value, then nothing but blanks. -/
def readText {α : Type} (r : Reader α) (s : String) : Except ReadError α :=
  match r (Cursor.ofString s) with
  | .error e => .error e
  | .ok (a, c) =>
    let c := c.skipBlank
    if c.peek.isSome then .error (c.peekErr .trailingCharacters) else .ok a

/-- Reads a value already in memory; errors carry no place. -/
def readValue {α : Type} (r : Reader α) (v : Json) : Except ReadError α :=
  (r (Cursor.ofString v.compact false)).map (·.1)

end StreamDispatch.Json
