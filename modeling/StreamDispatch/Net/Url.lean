import StreamDispatch.Net.SocketAddr
import StreamDispatch.Net.Idna
import StreamDispatch.Text.Percent

/-!
# Web addresses

Reading and writing `http` addresses the way web clients do. The address is cleaned first:
leading and trailing control characters and spaces are dropped, and tabs and line breaks
anywhere. The host runs from after `http://` (and any further slashes) to the first `/`, `\`,
`?` or `#`; a user part ending in `@` comes off first. A port follows the first colon outside
brackets: decimal digits below 65536, with the default port 80 left out. A host in
brackets is an IPv6 address; any other host is percent-decoded, brought to ASCII as a domain
name, must hold no forbidden character, and is read as an IPv4 address when its last label is
a number. Path,
query and fragment keep their characters, with spaces, quotes, angle brackets and characters
beyond ASCII percent-encoded as each part requires, and `.` and `..` path segments resolved.
-/

namespace StreamDispatch.Net

/-- Characters no host may hold. -/
def forbiddenInHost (c : Char) : Bool :=
  c.toNat ≤ 0x20 || c.toNat == 0x7F || "#%/:<>?@[\\]^|".contains c

/-- The percent-encoding of a character's UTF-8 bytes. -/
def percentEncode (c : Char) : String :=
  String.join ((String.singleton c).toUTF8.toList.map fun b =>
    let hex := fun (n : Nat) => if n < 10 then Char.ofNat (48 + n) else Char.ofNat (55 + n)
    String.ofList ['%', hex (b.toNat / 16), hex (b.toNat % 16)])

/-- A part written with the characters of `encode` percent-encoded. -/
def encodeWith (encode : Char → Bool) (cs : List Char) : String :=
  String.join (cs.map fun c => if encode c then percentEncode c else String.singleton c)

/-- Characters a path segment encodes. -/
def pathEncoded (c : Char) : Bool :=
  c.toNat < 0x20 || c.toNat > 0x7E || " \"#<>?`\x7b\x7d".contains c

/-- Characters a query of a special address encodes. -/
def queryEncoded (c : Char) : Bool :=
  c.toNat < 0x20 || c.toNat > 0x7E || " \"#<>'".contains c

/-- Characters a fragment encodes. -/
def fragmentEncoded (c : Char) : Bool :=
  c.toNat < 0x20 || c.toNat > 0x7E || " \"<>`".contains c

/-- Characters a user part encodes. -/
def userEncoded (c : Char) : Bool :=
  c.toNat < 0x20 || c.toNat > 0x7E || " \"#<>?`\x7b\x7d/:;=@[\\]^|".contains c

/-- The value of a number in an IPv4 host: decimal, `0x` hex, or octal with a leading zero. -/
def ipv4Part (cs : List Char) : Option Nat :=
  let (radix, digits) := match cs with
    | '0' :: 'x' :: r => (16, r)
    | '0' :: 'X' :: r => (16, r)
    | '0' :: r@(_ :: _) => (8, r)
    | r => (10, r)
  let value := fun (ds : List Char) =>
    ds.foldlM (fun n d => (digitIn 16 d).bind fun v => if v < radix then some (n * radix + v) else none) 0
  if digits.isEmpty then (if radix == 16 then some 0 else none) else value digits

/-- Whether the last label of a host is a number, so that the host is an IPv4 address. -/
def endsInNumber (labels : List String) : Bool :=
  let labels := if labels.getLast? == some "" && labels.length > 1 then labels.dropLast else labels
  match labels.getLast? with
  | none => false
  | some last =>
    let cs := last.toList
    (!cs.isEmpty && cs.all Char.isDigit) ||
      (match cs with
       | '0' :: x :: r => (x = 'x' || x = 'X') && r.all fun c => (digitIn 16 c).isSome
       | _ => false)

/-- An IPv4 host's four octets. -/
def ipv4Host (labels : List String) : Option (List Nat) := do
  let labels := if labels.getLast? == some "" && labels.length > 1 then labels.dropLast else labels
  if labels.length > 4 then none
  let parts ← labels.mapM fun l => ipv4Part l.toList
  let n := parts.length
  let front := parts.take (n - 1)
  let last ← parts.getLast?
  if front.any (· > 255) then none
  if last ≥ Nat.pow 256 (5 - n) then none
  let value := front.foldl (fun acc p => acc * 256 + p) 0 * Nat.pow 256 (5 - n) + last
  pure [value / Nat.pow 2 24 % 256, value / Nat.pow 2 16 % 256, value / Nat.pow 2 8 % 256, value % 256]

/-- The written host of a host text, or `none` when it is not a valid host. A host in brackets
is an IPv6 address; any other host is percent-decoded, must be UTF-8 text, is brought to ASCII
(`Idna.toAscii`), must then be nonempty and hold no forbidden character, and is an IPv4
address when its last label is a number. -/
def hostText? (host : String) : Option String :=
  match host.toList with
  | '[' :: rest =>
    match rest.reverse with
    | ']' :: inner =>
      match ipv6 inner.reverse with
      | some (gs, []) =>
        let (start, len) := longestZeroRun gs
        let part := fun (xs : List Nat) => ":".intercalate (xs.map hexGroup)
        some ("[" ++ (if len > 1 then part (gs.take start) ++ "::" ++ part (gs.drop (start + len))
          else part gs) ++ "]")
      | _ => none
    | _ => none
  | _ => do
    let decoded ← Text.percentDecode? host
    let ascii ← Idna.toAscii decoded
    if ascii.isEmpty || ascii.any forbiddenInHost then none
    else
      let labels := ascii.splitOn "."
      if endsInNumber labels then (ipv4Host labels).map ipv4Text else some ascii

/-- The path with its `.` and `..` segments resolved. -/
def resolveSegments (acc : List String) : List String → List String
  | [] => acc.reverse
  | [s] =>
    if s == "." then ("" :: acc).reverse
    else if s == ".." then ("" :: acc.drop 1).reverse
    else (s :: acc).reverse
  | s :: rest =>
    if s == "." then resolveSegments acc rest
    else if s == ".." then resolveSegments (acc.drop 1) rest
    else resolveSegments (s :: acc) rest

/-- The host and the port text of an authority without its user part: the port follows the
first colon outside brackets. -/
def splitPort (cs : List Char) : List Char × Option (List Char) :=
  go false [] cs
where
  /-- Walks the authority, `inside` while within brackets, with the host read so far reversed. -/
  go (inside : Bool) (acc : List Char) : List Char → List Char × Option (List Char)
    | [] => (acc.reverse, none)
    | c :: rest =>
      if c = ':' && !inside then (acc.reverse, some rest)
      else go (if c = '[' then true else if c = ']' then false else inside) (c :: acc) rest

/-- An `http` address as read: each part in its written form. -/
structure HttpUrl where
  /-- the user name, percent-encoded -/
  username : String := ""
  /-- the password, percent-encoded -/
  password : String := ""
  host : String
  /-- the port, unless it is the default port 80 -/
  port : Option Nat := none
  path : String
  query : Option String := none
  fragment : Option String := none
  deriving Repr, DecidableEq

/-- The text of an address. -/
def HttpUrl.text (u : HttpUrl) : String :=
  let credentials :=
    if u.username.isEmpty && u.password.isEmpty then ""
    else u.username ++ (if u.password.isEmpty then "" else ":" ++ u.password) ++ "@"
  "http://" ++ credentials ++ u.host ++ (match u.port with | some p => ":" ++ toString p | none => "") ++
    u.path ++ (match u.query with | some q => "?" ++ q | none => "") ++
    (match u.fragment with | some f => "#" ++ f | none => "")

/-- The address with its credentials taken off, as a client does that sends them apart: the user
name must percent-decode to UTF-8 text, and there must be a user name or a password that
decodes. Otherwise the address stays as it is. -/
def HttpUrl.withoutCredentials (u : HttpUrl) : HttpUrl :=
  match Text.percentDecode? u.username with
  | none => u
  | some name =>
    if !name.isEmpty || (!u.password.isEmpty && (Text.percentDecode? u.password).isSome) then
      { u with username := "", password := "" }
    else u

/-- Reads an `http` address, or `none` when it is not a valid address. -/
def HttpUrl.parse? (s : String) : Option HttpUrl := do
  let cs := s.toList.dropWhile (·.toNat ≤ 0x20)
  let cs := (cs.reverse.dropWhile (·.toNat ≤ 0x20)).reverse
  let cs := cs.filter fun c => c ≠ '\t' && c ≠ '\n' && c ≠ '\r'
  let scheme := "http:".toList
  if !(cs.take 5).map Char.toLower == scheme then none
  let cs := (cs.drop 5).dropWhile fun c => c = '/' || c = '\\'
  let authority := cs.takeWhile fun c => c ≠ '/' && c ≠ '\\' && c ≠ '?' && c ≠ '#'
  let rest := cs.drop authority.length
  let (user, hostPort) :=
    match authority.reverse.findIdx? (· = '@') with
    | some i =>
      let k := authority.length - 1 - i
      (some (authority.take k), authority.drop (k + 1))
    | none => (none, authority)
  let (host, port) := splitPort hostPort
  let hostWritten ← hostText? (String.ofList host)
  let portNumber ← match port with
    | none | some [] => some none
    | some ds =>
      if ds.all Char.isDigit then
        let v := ds.foldl (fun n d => 10 * n + (d.toNat - 48)) 0
        if v > 65535 then none else if v == 80 then some none else some (some v)
      else none
  let (username, password) := match user with
    | none => ("", "")
    | some u =>
      let name := u.takeWhile (· ≠ ':')
      let pass := u.drop (name.length + 1)
      (encodeWith userEncoded name, encodeWith userEncoded pass)
  if user.isSome && host.isEmpty then none
  let pathPart := rest.takeWhile fun c => c ≠ '?' && c ≠ '#'
  let afterPath := rest.drop pathPart.length
  let segments := (String.ofList (pathPart.map fun c => if c = '\\' then '/' else c)).splitOn "/"
  let segments := (segments.drop 1).map fun seg =>
    let lower := String.map Char.toLower seg
    if lower == "%2e" then "." else if lower == ".%2e" || lower == "%2e." || lower == "%2e%2e" then ".."
    else encodeWith pathEncoded seg.toList
  let (query, fragment) := match afterPath with
    | '?' :: r =>
      let q := r.takeWhile (· ≠ '#')
      (some q, match r.drop q.length with | '#' :: f => some f | _ => none)
    | '#' :: f => (none, some f)
    | _ => (none, none)
  pure { username, password, host := hostWritten, port := portNumber
         path := "/" ++ "/".intercalate (resolveSegments [] segments)
         query := query.map (encodeWith queryEncoded)
         fragment := fragment.map (encodeWith fragmentEncoded) }

end StreamDispatch.Net
