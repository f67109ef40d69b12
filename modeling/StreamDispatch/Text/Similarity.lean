/-!
# Jaro similarity

The Jaro similarity of two words is a number between 0 and 1: with `m` characters matched
(equal characters at most `max |a| |b| / 2 - 1` places apart, each used once) and `t` half the
matched characters that come in a different order, it is `(m/|a| + m/|b| + (m-t)/m) / 3`, 0
when nothing matches and 1 for two empty words.

The counts are exact; the similarity itself is a double, each of the three ratios rounded, then
their sum, then the division by 3. Thresholds compare against that double, so `j` against
`join-token` (exactly 0.7) comes out at `0.7000000000000001` and passes a bar of 0.7.
-/

namespace StreamDispatch.Text

/-- The counts behind a Jaro similarity: the two lengths, the matched characters, and half the
matched characters that come in a different order. -/
structure JaroCounts where
  lengthA : Nat
  lengthB : Nat
  matched : Nat
  transposed : Nat
  deriving Repr, DecidableEq

/-- The similarity of the counts, in double precision. -/
def JaroCounts.value (k : JaroCounts) : Float :=
  if k.lengthA = 0 && k.lengthB = 0 then 1
  else if k.matched = 0 then 0
  else
    let m := k.matched.toFloat
    (m / k.lengthA.toFloat + m / k.lengthB.toFloat + (k.matched - k.transposed).toFloat / m) / 3

/-- The characters of `a` that find a partner in `b`, in the order of `a`, and the positions
in `b` of the partners. -/
def jaroMatches (a b : List Char) : List Char × List Nat :=
  let window := max a.length b.length / 2 - 1
  a.zipIdx.foldl (fun (acc : List Char × List Nat) (c, i) =>
    let lo := i - window
    let hi := min b.length (i + window + 1)
    match (List.range' lo (hi - lo)).find? (fun j => b[j]? == some c && !acc.2.contains j) with
    | some j => (acc.1 ++ [c], j :: acc.2)
    | none => acc) ([], [])

/-- The Jaro counts of two words. -/
def jaroCounts (a b : List Char) : JaroCounts :=
  let (fromA, taken) := jaroMatches a b
  let fromB := b.zipIdx.filterMap fun (c, j) => if taken.contains j then some c else none
  let t := ((fromA.zip fromB).filter fun (x, y) => x != y).length / 2
  ⟨a.length, b.length, fromA.length, t⟩

/-- The Jaro similarity of two words. -/
def jaro (a b : List Char) : Float := (jaroCounts a b).value

example : jaroCounts "serv".toList "serve".toList = ⟨4, 5, 4, 0⟩ := by decide
example : jaroCounts "verison".toList "version".toList = ⟨7, 7, 7, 1⟩ := by decide

end StreamDispatch.Text
