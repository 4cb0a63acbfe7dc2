import GoTemplates.Text.Printable

/-! # Quoted text in messages

Error messages quote the text they complain about: the text stands between
double quotes, a quote or backslash is preceded by a backslash, the null
character, tab, carriage return and line feed take their short escapes, and a
character that combines with the one before it or does not print is written
as its code point in lowercase hex, as in `\u{301}`.
-/

namespace GoTemplates.Text

/-- How one character is written inside quoted text. -/
def quoteChar (c : Char) : String :=
  if c == '\x00' then "\\0"
  else if c == '\t' then "\\t"
  else if c == '\r' then "\\r"
  else if c == '\n' then "\\n"
  else if c == '\\' then "\\\\"
  else if c == '"' then "\\\""
  else if isGraphemeExtend c || !isPrintable c then
    "\\u\x7b" ++ String.ofList (Nat.toDigits 16 c.toNat) ++ "\x7d"
  else c.toString

/-- A text between double quotes, escaped as messages show it. -/
def quoted (s : String) : String :=
  "\"" ++ String.join (s.toList.map quoteChar) ++ "\""

end GoTemplates.Text
