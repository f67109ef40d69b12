import StreamDispatch.Text.Printing
/-!
# Quoted text for diagnostics

Diagnostic messages quote a string between double quotes with these escapes: `\"`, `\\`, `\n`,
`\r`, `\t` and `\0` by name, and `\u{h…}` (lower-case hex, no leading zeros) for a combining
mark or other character that extends the one before it, and for a character that does not
print: controls, format characters, separators other than the plain space, surrogates,
private use, unassigned code points and noncharacters. Everything else is written as itself.

The two character classes are the tables of `Text.Printing`.
-/

namespace StreamDispatch.Text

/-- Lower-case hex digits of a number, without leading zeros. -/
def hexText (n : Nat) : String :=
  String.ofList (Nat.toDigits 16 n)

/-- The quoted form of one character. -/
def quoteChar (c : Char) : String :=
  if c == '"' then "\\\""
  else if c == '\\' then "\\\\"
  else if c == '\n' then "\\n"
  else if c == '\r' then "\\r"
  else if c == '\t' then "\\t"
  else if c.toNat == 0 then "\\0"
  else if isExtending c || !isPrintable c then
    "\\u" ++ String.ofList ['\x7b'] ++ hexText c.toNat ++ String.ofList ['\x7d']
  else String.singleton c

/-- A string between double quotes, escaped for a diagnostic. -/
def quote (s : String) : String :=
  "\"" ++ String.join (s.toList.map quoteChar) ++ "\""

end StreamDispatch.Text
