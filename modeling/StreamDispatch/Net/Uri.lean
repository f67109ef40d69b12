/-!
# Absolute URIs

Whether a text is an absolute URI `scheme://authority[path][?query][#fragment]` as clients
dialing a worker accept it. The authority runs to the first `/`, `?` or `#`, must not be
empty, and may hold only the characters allowed in URIs: letters, digits and
`! # $ & ' ( ) * + , - . / : ; = ? @ [ ] _ ~`, and `%` only inside a user part ended by `@`.
Brackets must pair, at most one colon may stand outside them after the user part, and an `@`
must not end it. The path may also hold `"`, `{`, `}` and bytes of UTF-8 characters; the
query may hold every printable character but `"`, `#`, `<` and `>`. The whole text is shorter
than 65535 bytes.

A request names its resource by a path, or by an absolute URI whose path counts; the query
and the fragment do not count (`requestPath`).
-/

namespace StreamDispatch.Net

/-- Whether an ASCII character may stand in a URI. -/
def uriChar (c : Char) : Bool :=
  c.isAlphanum || "!#$&'()*+,-./:;=?@[]_~".contains c

/-- What the scan of an authority has seen so far. -/
structure AuthorityScan where
  colons : Nat := 0
  openBracket : Bool := false
  closeBracket : Bool := false
  percent : Bool := false
  /-- whether the last character seen was an `@` -/
  lastAt : Bool := false

/-- Scans an authority up to its end; gives the scan state and the rest after the authority,
or `none` for a character or bracket that is not allowed. -/
def scanAuthority (st : AuthorityScan) : List Char → Option (AuthorityScan × List Char)
  | [] => some (st, [])
  | c :: rest =>
    if c = '/' || c = '?' || c = '#' then some (st, c :: rest)
    else if c = ':' then
      if st.colons ≥ 8 then none else scanAuthority { st with colons := st.colons + 1, lastAt := false } rest
    else if c = '[' then
      if st.percent || st.openBracket then none
      else scanAuthority { st with openBracket := true, lastAt := false } rest
    else if c = ']' then
      if !st.openBracket || st.closeBracket then none
      else scanAuthority { st with closeBracket := true, colons := 0, percent := false, lastAt := false } rest
    else if c = '@' then scanAuthority { st with colons := 0, percent := false, lastAt := true } rest
    else if c = '%' then scanAuthority { st with percent := true, lastAt := false } rest
    else if c.toNat < 128 && uriChar c then scanAuthority { st with lastAt := false } rest
    else none

/-- Whether a character may stand in a path as it is. -/
def pathChar (c : Char) : Bool :=
  let n := c.toNat
  n == 0x21 || (0x24 ≤ n && n ≤ 0x3B) || n == 0x3D || (0x40 ≤ n && n ≤ 0x5F) ||
    (0x61 ≤ n && n ≤ 0x7A) || n == 0x7C || n == 0x7E || n ≥ 0x7F || c = '"' || c = '{' || c = '}'

/-- Whether a character may stand in a query as it is. -/
def queryChar (c : Char) : Bool :=
  let n := c.toNat
  n == 0x21 || (0x24 ≤ n && n ≤ 0x3B) || n == 0x3D || (0x3F ≤ n && n ≤ 0x7E) || n ≥ 0x7F

/-- Whether the part after the authority is a valid path, query and fragment. -/
def validPathAndQuery (cs : List Char) : Bool :=
  let path := cs.takeWhile fun c => c ≠ '?' && c ≠ '#'
  let rest := cs.drop path.length
  path.all pathChar &&
    match rest with
    | '?' :: q => (q.takeWhile (· ≠ '#')).all queryChar
    | _ => true

/-- Whether a text is an absolute URI with the given scheme. -/
def validUri (scheme s : String) : Bool :=
  let head := (scheme ++ "://").toList
  let all := s.toList
  s.utf8ByteSize < 65535 && head.isPrefixOf all &&
    let cs := all.drop head.length
    match scanAuthority {} cs with
    | none => false
    | some (st, rest) =>
      cs.length - rest.length > 0 && st.openBracket == st.closeBracket && st.colons ≤ 1 &&
        !st.lastAt && !st.percent && validPathAndQuery rest

/-- The path of a request target: the part before any `?` or `#`; for an absolute target
`scheme://authority…`, the part after the authority, `/` when that is empty. -/
def requestPath (target : String) : String :=
  let cs := target.toList
  let beforeQuery (xs : List Char) : List Char := xs.takeWhile fun c => c ≠ '?' && c ≠ '#'
  if cs.head? = some '/' then String.ofList (beforeQuery cs)
  else
    match target.splitOn "://" with
    | _ :: rest@(_ :: _) =>
      let afterScheme := ("://".intercalate rest).toList
      let path := beforeQuery (afterScheme.dropWhile fun c => c ≠ '/' && c ≠ '?' && c ≠ '#')
      if path.isEmpty then "/" else String.ofList path
    | _ => String.ofList (beforeQuery cs)

example : validUri "http" "http://127.0.0.1:50051" = true ∧
    validUri "http" "http://h:2:50051" = false ∧ validUri "http" "http://%zz:1" = false := by
  cbv

end StreamDispatch.Net
