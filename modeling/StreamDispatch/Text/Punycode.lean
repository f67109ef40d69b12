/-!
# Punycode

The bootstring encoding of RFC 3492 with the parameters that internationalized domain names use:
base 36, `tmin` 1, `tmax` 26, skew 38, damp 700, initial bias 72 and initial code point 128.

A label's ASCII characters come first, in order, then a hyphen when there are any; the other
code points follow as variable-length base-36 numbers (least significant digit first, digits
`a`–`z` for 0–25 and `0`–`9` for 26–35). Each number is the distance, counted over the
positions of the growing output, from the last insertion to the next one, taking the code
points in increasing order and each code point's places from left to right.

Decoding reverses this. It refuses a character that is no digit, a number cut short, a number
or code point past 32 bits, and a code point that is no character (a surrogate or beyond
U+10FFFF).
-/

namespace StreamDispatch.Text.Punycode

/-- The digit character of a value below 36. -/
def digitChar (d : Nat) : Char :=
  if d < 26 then Char.ofNat (0x61 + d) else Char.ofNat (0x30 + d - 26)

/-- The value of a digit character; both cases of a letter count. -/
def digitValue (c : Char) : Option Nat :=
  let n := c.toNat
  if 0x61 ≤ n && n ≤ 0x7A then some (n - 0x61)
  else if 0x41 ≤ n && n ≤ 0x5A then some (n - 0x41)
  else if 0x30 ≤ n && n ≤ 0x39 then some (n - 0x30 + 26)
  else none

/-- The threshold of the digit at weight position `k`: `k - bias`, kept within 1 to 26. -/
def threshold (k bias : Nat) : Nat :=
  if k ≤ bias then 1 else if bias + 26 ≤ k then 26 else k - bias

theorem threshold_pos (k bias : Nat) : 1 ≤ threshold k bias := by
  unfold threshold
  split
  · omega
  · split <;> omega

theorem threshold_le (k bias : Nat) : threshold k bias ≤ 26 := by
  unfold threshold
  split
  · omega
  · split <;> omega

/-- Divides a delta by 35 until it is at most 455, counting 36 for each division. -/
def shrink (delta k : Nat) : Nat × Nat :=
  if 455 < delta then shrink (delta / 35) (k + 36) else (delta, k)
termination_by delta
decreasing_by omega

/-- The bias after a delta, for an output that now holds `points` code points. -/
def adapt (delta points : Nat) (first : Bool) : Nat :=
  let d := if first then delta / 700 else delta / 2
  let (d, k) := shrink (d + d / points) 0
  k + 36 * d / (d + 38)

/-- The digits of the number `q`, starting at weight position `k`. -/
def digitsOf (bias k q : Nat) : List Char :=
  if q < threshold k bias then [digitChar q]
  else
    digitChar (threshold k bias + (q - threshold k bias) % (36 - threshold k bias)) ::
      digitsOf bias (k + 36) ((q - threshold k bias) / (36 - threshold k bias))
termination_by q
decreasing_by
  have h1 := threshold_pos k bias
  exact Nat.lt_of_le_of_lt (Nat.div_le_self _ _) (by omega)

/-- What the encoder carries from one code point to the next: the digits written, the delta
and bias, and how many code points are placed. -/
structure Encoder where
  out : List Char := []
  delta : Nat := 0
  bias : Nat := 72
  placed : Nat

/-- Walks the label for the code point `m`: every smaller code point adds one to the delta, and
every place of `m` writes the delta and starts it again. -/
def Encoder.visit (basic m : Nat) (e : Encoder) (c : Nat) : Encoder :=
  if c < m then { e with delta := e.delta + 1 }
  else if c == m then
    { out := e.out ++ digitsOf e.bias 36 e.delta, delta := 0,
      bias := adapt e.delta (e.placed + 1) (e.placed == basic), placed := e.placed + 1 }
  else e

/-- The Punycode of a label. -/
def encode (label : List Char) : String :=
  let codes := label.map Char.toNat
  let basic := label.filter (·.toNat < 128)
  let b := basic.length
  let targets := ((codes.filter (128 ≤ ·)).mergeSort (· ≤ ·)).eraseDups
  let (e, _) := targets.foldl (fun (acc : Encoder × Nat) m =>
    let (e, n) := acc
    let e := { e with delta := e.delta + (m - n) * (e.placed + 1) }
    let e := codes.foldl (Encoder.visit b m) e
    ({ e with delta := e.delta + 1 }, m + 1)) ({ placed := b }, 128)
  String.ofList (basic ++ (if b > 0 then ['-'] else []) ++ e.out)

/-- The largest number a decoder holds. -/
def limit : Nat := 4294967295

/-- Reads one number from weight position `k` with weight `w`, added to `i`; gives the sum and
the rest of the input. -/
def readNumber (bias : Nat) : List Char → Nat → Nat → Nat → Option (Nat × List Char)
  | [], _, _, _ => none
  | c :: rest, k, w, i =>
    match digitValue c with
    | none => none
    | some d =>
      if w = 0 || d > (limit - i) / w then none
      else
        let i := i + d * w
        let t := threshold k bias
        if d < t then some (i, rest)
        else if w > limit / (36 - t) then none
        else readNumber bias rest (k + 36) (w * (36 - t)) i

/-- Whether a number is a character's code point. -/
def isScalar (n : Nat) : Bool := n < 0xD800 || (0xDFFF < n && n ≤ 0x10FFFF)

/-- Inserts the code points that the numbers in `cs` describe into `out`; at most `fuel`
numbers are read, and every number takes at least one character. -/
def insertAll (fuel : Nat) (bias n i : Nat) (cs : List Char) (out : List Nat) :
    Option (List Nat) :=
  match fuel, cs with
  | _, [] => some out
  | 0, _ :: _ => none
  | fuel + 1, cs@(_ :: _) =>
    match readNumber bias cs 36 1 i with
    | none => none
    | some (j, rest) =>
      let len := out.length
      let bias := adapt (j - i) (len + 1) (i == 0)
      if j / (len + 1) > limit - n then none
      else
        let n := n + j / (len + 1)
        let pos := j % (len + 1)
        if !isScalar n then none
        else insertAll fuel bias n (pos + 1) rest (out.take pos ++ [n] ++ out.drop pos)

/-- The label a Punycode text stands for: the ASCII part before the last hyphen, with the
encoded code points inserted; `none` for a malformed text. -/
def decode (s : List Char) : Option (List Char) :=
  let (base, digits) :=
    match s.reverse.findIdx? (· = '-') with
    | some i => (s.take (s.length - 1 - i), s.drop (s.length - i))
    | none => ([], s)
  if base.any (·.toNat ≥ 128) then none
  else (insertAll (digits.length + 1) 72 128 0 digits (base.map Char.toNat)).map
    (·.map Char.ofNat)

end StreamDispatch.Text.Punycode
