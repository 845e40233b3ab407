import BoxOffice.Text.Hex
import BoxOffice.Text.Printable

/-!
# Quoted text in reports

An error that shows a text shows it between double quotes: a quote and a backslash get a backslash, tab,
carriage return, line feed and NUL have their letters, and any other character with nothing to show is
written as its code point in hexadecimal between braces.
-/

namespace BoxOffice.Text

/-- One character of a quoted text. -/
def quoteChar (c : Char) : List Char :=
  if c = '"' then ['\\', '"']
  else if c = '\\' then ['\\', '\\']
  else if c = '\t' then ['\\', 't']
  else if c = '\n' then ['\\', 'n']
  else if c = '\r' then ['\\', 'r']
  else if c.toNat = 0 then ['\\', '0']
  else if isPrintable c then [c]
  else ['\\', 'u', '\x7b'] ++ hexText c.toNat ++ ['\x7d']

/-- The text between double quotes, with its escapes. -/
def quote (s : String) : String :=
  String.ofList ('"' :: s.toList.flatMap quoteChar ++ ['"'])

end BoxOffice.Text
