import BatchCompiler.Text.Numeral

/-!
# JSON documents

A document type and its indented text: two blanks a level, fields in the order given, an empty list
on one line, no line feed at the end.
-/

namespace BatchCompiler.Text

/-- **A JSON document.** -/
inductive Json where
  | null
  | bool (b : Bool)
  | number (n : Nat)
  | text (s : String)
  | list (items : List Json)
  | object (fields : List (String × Json))

namespace Json

/-- One character inside quotes: quotes, backslashes and control characters are escaped. -/
def escapeChar (c : Char) : String :=
  if c = '\x22' then "\\\""
  else if c = '\\' then "\\\\"
  else if c = '\x08' then "\\b"
  else if c = '\x0c' then "\\f"
  else if c = '\n' then "\\n"
  else if c = '\r' then "\\r"
  else if c = '\t' then "\\t"
  else if c.toNat < 0x20 then "\\u" ++ padLeft 4 '0' (hexadecimal c.toNat)
  else String.singleton c

/-- A text between quotes. -/
def quote (s : String) : String :=
  "\"" ++ s.toList.foldl (fun done c => done ++ escapeChar c) "" ++ "\""

/-- A new line at a level. -/
def newLine (level : Nat) : String := "\n" ++ String.ofList (List.replicate (2 * level) ' ')

mutual

/-- **The text of a document** at a level. -/
def render (level : Nat) : Json → String
  | .null => "null"
  | .bool b => if b then "true" else "false"
  | .number n => toString n
  | .text s => quote s
  | .list [] => "[]"
  | .list (item :: items) =>
      "[" ++ newLine (level + 1) ++ render (level + 1) item ++ renderItems (level + 1) items ++
        newLine level ++ "]"
  | .object [] => "\x7b\x7d"
  | .object ((name, value) :: fields) =>
      "\x7b" ++ newLine (level + 1) ++ quote name ++ ": " ++ render (level + 1) value ++
        renderFields (level + 1) fields ++ newLine level ++ "\x7d"

/-- Items after the first. -/
def renderItems (level : Nat) : List Json → String
  | [] => ""
  | item :: items => "," ++ newLine level ++ render level item ++ renderItems level items

/-- Fields after the first. -/
def renderFields (level : Nat) : List (String × Json) → String
  | [] => ""
  | (name, value) :: fields =>
      "," ++ newLine level ++ quote name ++ ": " ++ render level value ++
        renderFields level fields

end

/-- The text of a whole document. -/
def pretty (doc : Json) : String := render 0 doc

/-- A text, or null. -/
def optionalText : Option String → Json
  | some s => .text s
  | none => .null

end Json

end BatchCompiler.Text
