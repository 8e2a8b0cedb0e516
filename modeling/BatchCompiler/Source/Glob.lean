import BatchCompiler.Regex

/-!
# Wildcard patterns

In a pattern `*` stands for any characters and `?` for one, line feeds excepted; every other
character stands for itself.  Which names match is left to an engine for regular expressions.
-/

namespace BatchCompiler.Glob

/-- What a character of a pattern is in an expression. -/
def expressionOfChar (c : Char) : String :=
  if c = '*' then ".*"
  else if c = '?' then "."
  else Regex.escape (String.singleton c)

/-- **The expression of a pattern.**  It is held to the start and to the end of a name. -/
def expression (pattern : String) : String :=
  pattern.toList.foldl (fun text c => text ++ expressionOfChar c) "^" ++ "$"

end BatchCompiler.Glob
