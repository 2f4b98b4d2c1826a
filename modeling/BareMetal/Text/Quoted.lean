import BareMetal.Text.Hidden

/-!
Text in quotes, with everything a reader could not see or not tell apart written
as an escape. Problems with a text show it in this form.

* `Text.quoted`: the text between quotes.
-/

namespace BareMetal.Text

/-- A number in hexadecimal digits, in lower case and without leading zeros. -/
def hexDigits (n : Nat) : String :=
  String.ofList (Nat.toDigits 16 n)

/-- Whether a character shows as itself. -/
def isVisible (c : Char) : Bool :=
  32 ≤ c.toNat && c.toNat != 127 && !isHidden c

/-- A character between quotes: the usual short escapes, the code point in hexadecimal for what
does not show, and itself otherwise. -/
def quoteChar (c : Char) : String :=
  if c.toNat = 0 then "\\0"
  else if c = '\t' then "\\t"
  else if c = '\r' then "\\r"
  else if c = '\n' then "\\n"
  else if c = '\\' then "\\\\"
  else if c = '"' then "\\\""
  else if isVisible c then c.toString
  else "\\u\x7b" ++ hexDigits c.toNat ++ "\x7d"

/-- A text between quotes. -/
def quoted (s : String) : String :=
  "\"" ++ String.join (s.toList.map quoteChar) ++ "\""

end BareMetal.Text
