import BatchCompiler.Collaborator.Basic

/-!
# The documentation file

An XML file with one member for every declared type, in the order of the declaration table.
-/

namespace BatchCompiler.Host

/-- One character inside a quoted attribute. -/
def escapeXmlChar (c : Char) : List Char :=
  if c = '&' then "&amp;".toList
  else if c = '<' then "&lt;".toList
  else if c = '>' then "&gt;".toList
  else if c = '\x22' then "&quot;".toList
  else [c]

/-- A text inside a quoted attribute. -/
def escapeXml (s : String) : String := String.ofList (s.toList.flatMap escapeXmlChar)

/-- The line of a declared type. -/
def memberLine (name : String) : String := "    <member name=\"T:" ++ escapeXml name ++ "\" />\n"

/-- **The documentation of some names.** -/
def documentation (names : List String) : String :=
  "<?xml version=\"1.0\"?>\n<doc>\n  <members>\n" ++ String.join (names.map memberLine) ++
    "  </members>\n</doc>\n"

/-- The names of a tree's declarations, in table order. -/
def documentedNames (tree : ProgramTree) : List String :=
  tree.declarations.values.map TypeDeclaration.name

/-- **The exporter of documentation files.** -/
def xmlExporter {σ : Type} : DocumentationExporter σ where
  export_ path tree _ := do
    match ← Act.write path (Text.Utf8.encode (documentation (documentedNames tree))) with
    | .ok () => return (true, [])
    | .error fault => return (false, [.error 16 ("Could not write to file `" ++ path.text ++
        "', cause: " ++ fault.message)])

end BatchCompiler.Host
