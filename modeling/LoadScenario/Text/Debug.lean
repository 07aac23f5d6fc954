import LoadScenario.Text.Printable

/-!
# Quoted text for diagnostics

`debugQuote` writes a text between double quotes for a diagnostic message: a
quote and a backslash get a backslash, NUL, tab, line feed and carriage return
their short escapes, and nonspacing marks and characters that are not
printable a `\u` escape with the code in lower-case hex between braces.
-/

namespace LoadScenario.Text

/-- The lower-case hex digits of a number. -/
def hexText (n : Nat) : String := String.ofList (Nat.toDigits 16 n)

/-- The escaped form of one character. -/
def debugChar (c : Char) : String :=
  if c = '"' then "\\\""
  else if c = '\\' then "\\\\"
  else if c = '\n' then "\\n"
  else if c = '\r' then "\\r"
  else if c = '\t' then "\\t"
  else if c.toNat = 0 then "\\0"
  else if isNonspacingMark c || !isPrintable c then "\\u\x7b" ++ hexText c.toNat ++ "\x7d"
  else c.toString

/-- A text between double quotes with diagnostic escapes. -/
def debugQuote (s : String) : String :=
  "\"" ++ String.join (s.toList.map debugChar) ++ "\""

end LoadScenario.Text
