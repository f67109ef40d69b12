import StreamDispatch.Cli.Grammar
import StreamDispatch.Text.Similarity

/-!
# Reading a command line

Arguments are read from left to right. The first word that names a command hands the rest to
it; `help` prints the help of the command its words name. Inside a command, `--name value`,
`--name=value`, flags and `--` are read as they come:

* an option's value is checked when the next option begins or the line ends, so a faulty value
  is reported before the option after it runs, but an unknown argument after it is reported
  instead;
* `-h`, `--help`, `-V` and `--version` print at once, after the value before them is checked;
* an unknown argument is reported with the most similar known option (Jaro similarity, as a
  double, above 0.7), or, on the program's level, with a command's option of that name when
  that command follows;
* an option given twice, a missing value and a word after `--` are refused;
* the usage line under an unknown long argument or an unwanted value names the options used
  before it (the suggested option, or the flag that got the value, included), or is the
  command's plain usage line when there are none.

Numbers are read digit by digit: an optional sign, then decimal digits, and the first character
that is no digit, or the first digit past the type's range, names the error; a port must then
lie in 0–65535 and an interval or timeout must be positive. Nothing given at all prints the
program's help as an error.
-/

namespace StreamDispatch.Cli

/-- A value read for an option. -/
inductive Value where
  | nat (n : Nat)
  | text (s : String)
  deriving Repr, DecidableEq

/-- The options a command line gives, by long name, in the order given. -/
abbrev Given := List (String × Value)

/-- The command a command line asks to run, with its options. -/
inductive Request where
  | serve (given : Given)
  | dispatchOnce (given : Given)
  deriving Repr, DecidableEq

/-- A command line that ends before a command runs. -/
inductive Early where
  /-- help or a version, printed on standard output -/
  | shown (text : String)
  /-- a usage error, or help when nothing was asked, printed on standard error -/
  | refused (text : String)
  deriving Repr, DecidableEq

/-! ## Numbers -/

/-- Why a decimal number was refused. -/
inductive NumberError where
  | empty
  | invalidDigit
  | tooLarge
  | tooSmall
  deriving Repr, DecidableEq

/-- The message of a refused number. -/
def NumberError.message : NumberError → String
  | .empty => "cannot parse integer from empty string"
  | .invalidDigit => "invalid digit found in string"
  | .tooLarge => "number too large to fit in target type"
  | .tooSmall => "number too small to fit in target type"

/-- One more digit of a number in `lo..=hi`, subtracted for a negative number. -/
def digitStep (lo hi : Int) (negative : Bool) (acc : Int) (c : Char) : Except NumberError Int :=
  if c.isDigit then
    let d : Int := ((c.toNat - 48 : Nat) : Int)
    let v := if negative then acc * 10 - d else acc * 10 + d
    if v > hi then .error .tooLarge else if v < lo then .error .tooSmall else .ok v
  else .error .invalidDigit

/-- A decimal integer in `lo..=hi`: an optional `+`, or `-` for a `signed` type, then digits. -/
def readInteger (signed : Bool) (lo hi : Int) (s : String) : Except NumberError Int :=
  match s.toList with
  | [] => .error .empty
  | ['+'] | ['-'] => .error .invalidDigit
  | '+' :: ds => ds.foldlM (digitStep lo hi false) 0
  | '-' :: ds =>
    if signed then ds.foldlM (digitStep lo hi true) 0 else .error .invalidDigit
  | ds => ds.foldlM (digitStep lo hi false) 0

/-- Why an option's value was refused: it is empty where one is required, or it is invalid,
shown as read, for a reason. -/
inductive ValueError where
  | missing
  | invalid (shown reason : String)
  deriving Repr, DecidableEq

/-- A count below `2^64`. -/
def readCount (raw : String) : Except ValueError Nat :=
  match readInteger false 0 (Nat.pow 2 64 - 1) raw with
  | .ok v => .ok v.toNat
  | .error e => .error (.invalid raw e.message)

/-- Reads a value of a kind. -/
def ValueKind.read (k : ValueKind) (raw : String) : Except ValueError Value :=
  match k with
  | .path => if raw.isEmpty then .error .missing else .ok (.text raw)
  | .text => .ok (.text raw)
  | .count => (readCount raw).map .nat
  | .positive => do
    let v ← readCount raw
    if v = 0 then .error (.invalid raw "0 is not in 1..18446744073709551615") else .ok (.nat v)
  | .port =>
    match readInteger true (-(Nat.pow 2 63 : Int)) ((Nat.pow 2 63 - 1 : Nat) : Int) raw with
    | .error e => .error (.invalid raw e.message)
    | .ok v =>
      if 0 ≤ v && v ≤ 65535 then .ok (.nat v.toNat)
      else .error (.invalid raw (toString v ++ " is not in 0..=65535"))

/-! ## Messages -/

/-- An error message: the error, tips, the usage line of the command, and the pointer to
help. -/
def errorText (body : String) (tips : List String) (usage : Option String) : String :=
  "error: " ++ body ++
    (if tips.isEmpty then "" else "\n" ++ String.join (tips.map fun t => "\n  tip: " ++ t)) ++
    (match usage with
     | some u => "\n\nUsage: " ++ u
     | none => "") ++
    "\n\nFor more information, try '--help'.\n"

/-- A required value did not come. -/
def missingValue (o : Opt) : String :=
  errorText ("a value is required for '" ++ o.spec ++ "' but none was supplied") [] none

/-- A value was refused. -/
def invalidValue (o : Opt) (shown reason : String) : String :=
  errorText ("invalid value '" ++ shown ++ "' for '" ++ o.spec ++ "': " ++ reason) [] none

/-- An option came twice. -/
def repeated (c : Command) (o : Opt) : String :=
  errorText ("the argument '" ++ o.spec ++ "' cannot be used multiple times") [] (some c.usage)

/-- A flag was given a value, after the options in `used`. -/
def extraValue (c : Command) (used : List Opt) (o : Opt) (v : String) : String :=
  errorText ("unexpected value '" ++ v ++ "' for '" ++ o.spec ++ "' found; no more were expected")
    [] (some (c.usageWith (used ++ [o])))

/-- An argument that the command does not know, after the options in `used`. -/
def unexpected (c : Command) (used : List Opt) (arg : String) (tips : List String) : String :=
  errorText ("unexpected argument '" ++ arg ++ "' found") tips (some (c.usageWith used))

/-- A word that names no command. -/
def unrecognized (c : Command) (word : String) (tips : List String) : String :=
  errorText ("unrecognized subcommand '" ++ word ++ "'") tips (some c.usage)

/-- The candidates more than 0.7 similar to `word`, least similar first, equally similar ones
in the candidates' order. -/
def similar (word : String) (candidates : List String) : List String :=
  let scored := candidates.filterMap fun c =>
    let s := Text.jaro word.toList c.toList
    if s > 0.7 then some (s, c) else none
  (scored.mergeSort fun a b => a.1 ≤ b.1).map (·.2)

/-- The long option of a command most similar to `name`. -/
def suggestOption (c : Command) (name : String) : Option Opt :=
  (similar name (c.options.map (·.long))).getLast?.bind fun l => c.options.find? (·.long = l)

/-- The tip that names a suggested option. -/
def optionTip (o : Opt) : String := "a similar argument exists: '--" ++ o.long ++ "'"

/-- Quotes joined by commas. -/
def quotedList (ws : List String) : String := ", ".intercalate (ws.map fun w => "'" ++ w ++ "'")

/-! ## Reading -/

/-- The name and attached value of a long option's text after `--`. -/
def splitAtEq (s : String) : String × Option String :=
  match s.splitOn "=" with
  | n :: v :: rest => (n, some ("=".intercalate (v :: rest)))
  | _ => (s, none)

/-- The options read so far, and the last option while its value is unchecked (`none` until
the value comes). -/
structure Scan where
  given : Given := []
  pending : Option (Opt × Option String) := none
  deriving Repr, DecidableEq

/-- The options read so far. -/
def Scan.read (c : Command) (st : Scan) : List Opt :=
  st.given.filterMap fun (l, _) => c.options.find? (·.long = l)

/-- The options that an unknown argument finds used: those read so far, and the pending one
once a value came for it, valid or not. -/
def Scan.used (c : Command) (st : Scan) : List Opt :=
  match st.pending with
  | some (o, some _) => st.read c ++ [o]
  | _ => st.read c

/-- Checks the pending option's value and records it. -/
def Scan.settle (c : Command) (st : Scan) : Except String Scan :=
  match st.pending with
  | none => .ok st
  | some (o, none) => .error (missingValue o)
  | some (o, some raw) =>
    if st.given.any (·.1 == o.long) then .error (repeated c o)
    else
      match o.action with
      | .set _ k =>
        match k.read raw with
        | .ok v => .ok { given := st.given ++ [(o.long, v)], pending := none }
        | .error .missing => .error (missingValue o)
        | .error (.invalid shown reason) => .error (invalidValue o shown reason)
      | _ => .ok { st with pending := none }

/-- A refusal of a command line. -/
def refuse {α : Type} (x : Except String α) : Except Early α := x.mapError .refused

/-- What a flag prints. -/
def Command.flag (c : Command) (o : Opt) : Early :=
  match o.action with
  | .version => .shown c.versionText
  | _ => .shown c.help

/-- Reads a command's arguments; `escaped` once `--` was read. -/
def Command.scan (c : Command) : Scan → Bool → List String → Except Early Given
  | st, _, [] => refuse ((st.settle c).map (·.given))
  | _, true, a :: _ => .error (.refused (unexpected c [] a []))
  | st, false, a :: rest =>
    if a = "--" then c.scan st true rest
    else if a.startsWith "--" then
      let (name, attached) := splitAtEq (a.drop 2).toString
      match c.options.find? (·.long = name) with
      | none =>
        let hint := suggestOption c name
        .error (.refused (unexpected c (st.used c ++ hint.toList) ("--" ++ name)
          (hint.map optionTip).toList))
      | some o =>
        match o.action, attached with
        | .set _ _, some v => do
          let st ← refuse (st.settle c)
          let st ← refuse ({ st with pending := some (o, some v) }.settle c)
          c.scan st false rest
        | .set _ _, none => do
          let st ← refuse (st.settle c)
          c.scan { st with pending := some (o, none) } false rest
        | _, some v => .error (.refused (extraValue c (st.read c) o v))
        | _, none => do
          discard (refuse (st.settle c))
          .error (c.flag o)
    else
      match a.toList with
      | '-' :: ch :: _ =>
        match c.options.find? (·.short = some ch) with
        | none => .error (.refused (unexpected c [] ("-" ++ ch.toString) []))
        | some o => do
          discard (refuse (st.settle c))
          .error (c.flag o)
      | _ =>
        match st.pending with
        | some (o, none) => c.scan { st with pending := some (o, some a) } false rest
        | _ => .error (.refused (unexpected c [] a []))

/-- The help of the command that the words name, from the program down. -/
def helpFor (c : Command) : List String → Early
  | [] => .shown c.help
  | w :: rest =>
    let subs := if c.name = programName then commands else []
    match subs.find? (·.name = w) with
    | some s => helpFor s rest
    | none => .refused (unrecognized c w [])

/-- The tip for an unknown long option of the program: a similar program option, or else an
option of that name of the first command named later on the line. -/
def programTip (name : String) (later : List String) : Option String :=
  match suggestOption program name with
  | some o => some (optionTip o)
  | none =>
    let found := commands.filterMap fun s =>
      match (similar name (s.options.map (·.long))).getLast?, later.idxOf? s.name with
      | some l, some i => some (i, "'" ++ s.name ++ " --" ++ l ++ "' exists")
      | _, _ => none
    (found.foldl (fun best x =>
      match best with
      | some b => if x.1 < b.1 then some x else some b
      | none => some x) none).map (·.2)

/-- A word that is no command. -/
def notACommand (word : String) : Early :=
  match similar word (commands.map (·.name)) with
  | [] => .refused (unrecognized program word [])
  | found =>
    let first := if found.length = 1 then "a similar subcommand exists: " else
      "some similar subcommands exist: "
    .refused (unrecognized program word [first ++ quotedList found])

/-- Reads the program's arguments up to its command; `escaped` once `--` was read. -/
def readProgram : Bool → List String → Except Early Request
  | _, [] => .error (.refused program.help)
  | true, a :: _ =>
    if commands.any (·.name = a) then
      .error (.refused (unexpected program [] "--"
        ["subcommand '" ++ a ++ "' exists; to use it, remove the '--' before it"]))
    else .error (notACommand a)
  | false, a :: rest =>
    if a = serveCommand.name then (serveCommand.scan {} false rest).map .serve
    else if a = dispatchOnceCommand.name then
      (dispatchOnceCommand.scan {} false rest).map .dispatchOnce
    else if a = helpCommand.name then .error (helpFor program rest)
    else if a = "--" then readProgram true rest
    else if a.startsWith "--" then
      let (name, attached) := splitAtEq (a.drop 2).toString
      match program.options.find? (·.long = name), attached with
      | some o, some v => .error (.refused (extraValue program [] o v))
      | some o, none => .error (program.flag o)
      | none, _ =>
        .error (.refused (unexpected program (suggestOption program name).toList ("--" ++ name)
          (programTip name rest).toList))
    else
      match a.toList with
      | '-' :: ch :: _ =>
        match program.options.find? (·.short = some ch) with
        | some o => .error (program.flag o)
        | none => .error (.refused (unexpected program [] ("-" ++ ch.toString) []))
      | _ => .error (notACommand a)

/-- Reads a command line, the program's name left out. -/
def parse (args : List String) : Except Early Request := readProgram false args

end StreamDispatch.Cli
