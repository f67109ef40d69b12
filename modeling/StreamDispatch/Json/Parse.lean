import StreamDispatch.Json.Decode

/-!
# Parsing JSON text into values

`Json.parse` reads a whole text into a `Json` value: arrays in order, objects with sorted keys
where a later duplicate key replaces an earlier one. Containers nest at most 127 deep; opening
the 128th is an error. Malformed text gives the same errors, at the same places, as the typed
readers of `StreamDispatch.Json.Decode`.
-/

namespace StreamDispatch.Json

mutual
/-- A value, with `depth` containers still allowed to open. -/
def parseValue (depth : Nat) (c : Cursor) : Except ReadError (Json × Cursor) :=
  let c := c.skipBlank
  match c.peek with
  | none => .error (c.peekErr .eofInValue)
  | some 'n' => (c.bump.word ['u', 'l', 'l']).map fun d => (.null, d)
  | some 't' => (c.bump.word ['r', 'u', 'e']).map fun d => (.bool true, d)
  | some 'f' => (c.bump.word ['a', 'l', 's', 'e']).map fun d => (.bool false, d)
  | some '-' => (c.bump.number false).map fun (n, d) => (.num n, d)
  | some '"' => (c.bump.stringBody).map fun (s, d) => (.str s, d)
  | some '[' =>
    match depth with
    | 0 | 1 => .error (c.peekErr .recursionLimit)
    | d + 2 =>
      match parseItems (d + 1) (c.rest.length + 1) true [] c.bump with
      | .error e => .error e
      | .ok (items, e) => (e.endArray).map fun e => (.arr items, e)
  | some '{' =>
    match depth with
    | 0 | 1 => .error (c.peekErr .recursionLimit)
    | d + 2 =>
      match parseMembers (d + 1) (c.rest.length + 1) true [] c.bump with
      | .error e => .error e
      | .ok (fields, e) => (e.endObject).map fun e => (.obj fields, e)
  | some ch =>
    if (digitOf ch).isSome then (c.number true).map fun (n, d) => (.num n, d)
    else .error (c.peekErr .expectedValue)
termination_by (depth, 0)

/-- The items of an array, up to its closing bracket (not taken). -/
def parseItems (depth : Nat) (fuel : Nat) (first : Bool) (acc : List Json) (c : Cursor) :
    Except ReadError (List Json × Cursor) :=
  match fuel with
  | 0 => .ok (acc.reverse, c)
  | fuel + 1 =>
    match c.nextElement first with
    | .error e => .error e
    | .ok none => .ok (acc.reverse, c.skipBlank)
    | .ok (some d) =>
      match parseValue depth d with
      | .error e => .error e
      | .ok (v, d) => parseItems depth fuel false (v :: acc) d
termination_by (depth, fuel + 1)

/-- The members of an object, sorted by key, up to its closing brace (not taken). -/
def parseMembers (depth : Nat) (fuel : Nat) (first : Bool) (acc : List (String × Json))
    (c : Cursor) : Except ReadError (List (String × Json) × Cursor) :=
  match fuel with
  | 0 => .ok (acc, c)
  | fuel + 1 =>
    match c.nextKey first (fun s => .ok s) with
    | .error e => .error e
    | .ok none => .ok (acc, c.skipBlank)
    | .ok (some (k, d)) =>
      match d.colon with
      | .error e => .error e
      | .ok d =>
        match parseValue depth d with
        | .error e => .error e
        | .ok (v, d) => parseMembers depth fuel false (insertSorted k v acc) d
termination_by (depth, fuel + 1)
end

/-- The value of a whole text. -/
def parse (s : String) : Except ReadError Json :=
  match parseValue 128 (Cursor.ofString s) with
  | .error e => .error e
  | .ok (v, c) =>
    let c := c.skipBlank
    if c.peek.isSome then .error (c.peekErr .trailingCharacters) else .ok v

end StreamDispatch.Json
