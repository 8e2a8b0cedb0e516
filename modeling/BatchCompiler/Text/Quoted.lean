import BatchCompiler.Text.Numeral
import BatchCompiler.Text.Printable

/-!
# Quoted texts

A text between double quotes, for log records: what cannot be shown as it stands is escaped, so that
the quoted form is one line of visible characters.
-/

namespace BatchCompiler.Text

/-- One character inside quotes. -/
def quotedChar (c : Char) : String :=
  if c = '\x00' then "\\0"
  else if c = '\t' then "\\t"
  else if c = '\r' then "\\r"
  else if c = '\n' then "\\n"
  else if c = '\x22' then "\\\""
  else if c = '\\' then "\\\\"
  else if isPrintable c && !extendsGrapheme c then String.singleton c
  else "\\u\x7b" ++ hexadecimal c.toNat ++ "\x7d"

/-- **The quoted form** of a text. -/
def quoted (s : String) : String :=
  "\"" ++ s.toList.foldl (fun done c => done ++ quotedChar c) "" ++ "\""

end BatchCompiler.Text
