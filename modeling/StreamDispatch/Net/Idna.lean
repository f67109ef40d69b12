import StreamDispatch.Net.Idna.Table
import StreamDispatch.Text.Punycode
import StreamDispatch.Text.NormalForm
import StreamDispatch.Text.BidiClass

/-!
# Domain names in ASCII

A web address's host name is prepared the way UTS #46 prescribes for addresses: processing is
nontransitional, hyphens are not checked, lengths are not limited, and joiners are checked.

1. Every code point is looked up in the mapping table: valid ones and deviations stay, ignored
   ones go, mapped ones are replaced, and a disallowed one fails the name.
2. The name is brought to normal form C and splits into labels at full stops.
3. A label that begins with `xn--` must be ASCII, and the rest must decode as Punycode to a
   label that is not all ASCII and passes the validity checks; the label stays as written.
4. Any other label must pass the validity checks, and is written as `xn--` followed by its
   Punycode when it is not all ASCII.

A label passes the validity checks when it is in normal form C, does not begin with a mark,
each of its code points is valid or a deviation, it holds no full stop, it does not begin with
`xn--`, and every zero-width joiner or non-joiner in it follows a virama.

A name with a right-to-left label (one holding a right-to-left character or an Arabic number)
must keep the bidi rule of RFC 5893 in every label: a label begins with a left-to-right
character and then holds only left-to-right characters, European numbers, separators,
terminators, neutrals and marks, ending (marks aside) in a left-to-right character or a European
number; or it begins with a right-to-left character or Arabic letter and then holds only
right-to-left characters, numbers, separators, terminators, neutrals and marks, ends (marks
aside) in a right-to-left character, an Arabic letter or a number, and does not mix European and
Arabic numbers.
-/

namespace StreamDispatch.Net.Idna

open Text

/-- The name with every code point mapped, or `none` when one is disallowed. -/
def mapName (cs : List Char) : Option (List Char) :=
  (cs.mapM fun c =>
    match status c with
    | .valid | .deviation => some [c]
    | .ignored => some []
    | .mapped target => some target
    | .disallowed => none).map List.flatten

/-- Whether a character is a zero-width joiner or non-joiner. -/
def isJoiner (c : Char) : Bool := c.toNat == 0x200C || c.toNat == 0x200D

/-- Whether every joiner of a label follows a virama. -/
def joinersFollowViramas (label : List Char) : Bool :=
  ((none :: label.map some).zip label).all fun (prev, c) =>
    !isJoiner c || (prev.map isVirama).getD false

/-- The prefix that marks a label written in Punycode. -/
def acePrefix : List Char := "xn--".toList

/-- Whether a label passes the validity checks. -/
def validLabel (label : List Char) : Bool :=
  normalFormC label == label &&
  (match label.head? with
   | some c => !isMark c
   | none => true) &&
  label.all (fun c => match status c with
    | .valid | .deviation => true
    | _ => false) &&
  !label.contains '.' && !acePrefix.isPrefixOf label && joinersFollowViramas label

/-- Whether all characters of a label are ASCII. -/
def isAscii (label : List Char) : Bool := label.all (·.toNat < 128)

/-- The Unicode form of one mapped label: a label in Punycode decoded, any other as it is; `none`
when the label is not valid. -/
def unicodeLabel (label : List Char) : Option (List Char) :=
  if acePrefix.isPrefixOf label then
    if !isAscii label then none
    else
      match Punycode.decode (label.drop acePrefix.length) with
      | some u => if u.isEmpty || isAscii u || !validLabel u then none else some u
      | none => none
  else if validLabel label then some label
  else none

/-- The ASCII form of a valid label. -/
def asciiLabel (label : List Char) : String :=
  if isAscii label then String.ofList label else "xn--" ++ Punycode.encode label

/-- Whether a label makes its name a bidirectional one. -/
def isRightToLeft (label : List Char) : Bool :=
  label.any fun c => match bidiClass c with
    | .r | .al | .an => true
    | _ => false

/-- The class of the last character of a label that is not a nonspacing mark. -/
def lastUnmarked (label : List Char) : Option BidiClass :=
  (label.reverse.map bidiClass).find? (· ≠ .nsm)

/-- Whether a label of a bidirectional name keeps the bidi rule. -/
def keepsBidiRule (label : List Char) : Bool :=
  match label with
  | [] => true
  | c :: rest =>
    let classes := rest.map bidiClass
    match bidiClass c with
    | .l =>
      classes.all (· ∈ [.l, .en, .es, .cs, .et, .on, .bn, .nsm]) &&
        (match lastUnmarked label with
         | some k => k == .l || k == .en
         | none => true)
    | .r | .al =>
      classes.all (· ∈ [.r, .al, .an, .en, .es, .cs, .et, .on, .bn, .nsm]) &&
        (match lastUnmarked label with
         | some k => k ∈ [.r, .al, .en, .an]
         | none => false) &&
        !(classes.contains .en && classes.contains .an)
    | _ => false

/-- The labels of a name, split at full stops. -/
def labels (cs : List Char) : List (List Char) := cs.splitOn '.'

/-- The ASCII form of a domain name, or `none` when it cannot be prepared. -/
def toAscii (name : String) : Option String := do
  let mapped ← mapName name.toList
  let ls := labels (normalFormC mapped)
  let forms ← ls.mapM unicodeLabel
  if forms.any isRightToLeft && !forms.all keepsBidiRule then none
  pure (".".intercalate (ls.map asciiLabel))

end StreamDispatch.Net.Idna
