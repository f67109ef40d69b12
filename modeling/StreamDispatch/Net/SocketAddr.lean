/-!
# Socket addresses

An address to listen on or connect to: an IPv4 address and a port, `a.b.c.d:port`, or an IPv6
address with an optional numeric scope and a port, `[addr%scope]:port`.

Reading is strict. An IPv4 address has four decimal parts of at most three digits, each below
256 and without a leading zero. An IPv6 address has up to eight groups of at most four hex
digits, at most one `::` standing for at least one zero group, and may end in an IPv4 address
where two groups are left. A port is any run of decimal digits below 65536, leading zeros
allowed.

Writing gives IPv6 addresses in their shortest form: lowercase groups without leading zeros,
the first longest run of two or more zero groups as `::`, and addresses that map an IPv4
address as `::ffff:a.b.c.d`.
-/

namespace StreamDispatch.Net

/-- An IP address: four octets or eight 16-bit groups. -/
inductive IpAddr where
  | v4 (octets : List Nat)
  | v6 (groups : List Nat)
  deriving Repr, DecidableEq, BEq

/-- An IP address with a port, and for IPv6 a scope (0 for none). -/
structure SocketAddr where
  ip : IpAddr
  port : Nat
  scope : Nat := 0
  deriving Repr, DecidableEq, BEq

/-- A reading step: a value and the rest of the text, or nothing. -/
abbrev Scan (α : Type) := List Char → Option (α × List Char)

/-- The value of a digit in base 10 or 16. -/
def digitIn (radix : Nat) (c : Char) : Option Nat :=
  if '0' ≤ c && c ≤ '9' then some (c.toNat - 48)
  else if radix == 16 && 'a' ≤ c && c ≤ 'f' then some (c.toNat - 87)
  else if radix == 16 && 'A' ≤ c && c ≤ 'F' then some (c.toNat - 55)
  else none

/-- A run of digits: at least one, at most `maxDigits` when given, without a leading zero
unless `zeroPrefix`, with a value at most `limit`. -/
def number (radix : Nat) (maxDigits : Option Nat) (zeroPrefix : Bool) (limit : Nat) :
    Scan Nat := fun cs =>
  let run := cs.takeWhile fun c => (digitIn radix c).isSome
  let value := run.foldl (fun n c => n * radix + (digitIn radix c).getD 0) 0
  if run.isEmpty then none
  else if maxDigits.any (run.length > ·) then none
  else if !zeroPrefix && run.head? == some '0' && run.length > 1 then none
  else if value > limit then none
  else some (value, cs.drop run.length)

/-- One given character. -/
def char (ch : Char) : Scan Unit
  | c :: r => if c = ch then some ((), r) else none
  | [] => none

/-- A part after a separator, except for the first part. -/
def separated {α : Type} (sep : Char) (first : Bool) (p : Scan α) : Scan α := fun cs =>
  if first then p cs else (char sep cs).bind fun ((), r) => p r

/-- Four dotted decimal octets. -/
def ipv4 : Scan (List Nat) := fun cs => do
  let octet := number 10 (some 3) false 255
  let (a, cs) ← octet cs
  let (b, cs) ← separated '.' false octet cs
  let (c, cs) ← separated '.' false octet cs
  let (d, cs) ← separated '.' false octet cs
  pure ([a, b, c, d], cs)

/-- Colon-separated groups, at most `slots`; an IPv4 address may end them where two slots are
left. Gives the groups and whether they ended in an IPv4 address. -/
def groups : (slots : Nat) → (first : Bool) → List Nat → List Char →
    (List Nat × Bool) × List Char
  | 0, _, acc, cs => ((acc.reverse, false), cs)
  | r + 1, first, acc, cs =>
    let embedded := if r ≥ 1 then separated ':' first ipv4 cs else none
    match embedded with
    | some ([a, b, c, d], rest) => ((acc.reverse ++ [a * 256 + b, c * 256 + d], true), rest)
    | _ =>
      match separated ':' first (number 16 (some 4) true 0xFFFF) cs with
      | some (g, rest) => groups r false (g :: acc) rest
      | none => ((acc.reverse, false), cs)

/-- Eight groups, with at most one `::` for a run of zero groups. -/
def ipv6 : Scan (List Nat) := fun cs =>
  let ((head, headEmbedded), cs) := groups 8 true [] cs
  if head.length = 8 then some (head, cs)
  else if headEmbedded then none
  else
    match cs with
    | ':' :: ':' :: cs =>
      let ((tail, _), cs) := groups (8 - (head.length + 1)) true [] cs
      some (head ++ List.replicate (8 - head.length - tail.length) 0 ++ tail, cs)
    | _ => none

/-- A port after its colon. -/
def portPart : Scan Nat := fun cs =>
  (char ':' cs).bind fun ((), r) => number 10 none true 65535 r

/-- An IPv4 socket address. -/
def socketV4 : Scan SocketAddr := fun cs => do
  let (ip, cs) ← ipv4 cs
  let (port, cs) ← portPart cs
  pure (⟨.v4 ip, port, 0⟩, cs)

/-- An IPv6 socket address in brackets, with an optional scope. -/
def socketV6 : Scan SocketAddr := fun cs => do
  let ((), cs) ← char '[' cs
  let (ip, cs) ← ipv6 cs
  let (scope, cs) := match cs with
    | '%' :: r => (number 10 none true (Nat.pow 2 32 - 1) r).getD (0, cs)
    | _ => (0, cs)
  let ((), cs) ← char ']' cs
  let (port, cs) ← portPart cs
  pure (⟨.v6 ip, port, scope⟩, cs)

/-- Reads a whole socket address. -/
def SocketAddr.parse? (s : String) : Option SocketAddr :=
  match socketV4 s.toList with
  | some (a, []) => some a
  | some _ => none
  | none =>
    match socketV6 s.toList with
    | some (a, []) => some a
    | _ => none

/-! ## Writing -/

/-- Dotted decimal octets. -/
def ipv4Text (octets : List Nat) : String := ".".intercalate (octets.map toString)

/-- A group in lowercase hex without leading zeros. -/
def hexGroup (g : Nat) : String := String.ofList (Nat.toDigits 16 g)

/-- The first longest run of zero groups: its start and length. -/
def longestZeroRun (gs : List Nat) : Nat × Nat :=
  let step := fun (acc : (Nat × Nat) × (Nat × Nat) × Nat) (g : Nat) =>
    let (best, (start, len), i) := acc
    if g = 0 then
      let cur := if len = 0 then (i, 1) else (start, len + 1)
      ((if cur.2 > best.2 then cur else best), cur, i + 1)
    else (best, (0, 0), i + 1)
  (gs.foldl step ((0, 0), (0, 0), 0)).1

/-- An IPv6 address in its shortest form. -/
def ipv6Text (gs : List Nat) : String :=
  match gs with
  | [0, 0, 0, 0, 0, 0xFFFF, x, y] => "::ffff:" ++ ipv4Text [x / 256, x % 256, y / 256, y % 256]
  | _ =>
    let (start, len) := longestZeroRun gs
    let part := fun (xs : List Nat) => ":".intercalate (xs.map hexGroup)
    if len > 1 then part (gs.take start) ++ "::" ++ part (gs.drop (start + len))
    else part gs

/-- The text of a socket address. -/
def SocketAddr.text (a : SocketAddr) : String :=
  match a.ip with
  | .v4 os => ipv4Text os ++ ":" ++ toString a.port
  | .v6 gs =>
    "[" ++ ipv6Text gs ++ (if a.scope = 0 then "" else "%" ++ toString a.scope) ++ "]:" ++
      toString a.port

example : (SocketAddr.parse? "[2001:db8::1]:65535").map SocketAddr.text =
    some "[2001:db8::1]:65535" := by decide +kernel

end StreamDispatch.Net
