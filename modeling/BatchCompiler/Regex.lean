/-!
# Regular expressions

An expression is a text.  To say in which other texts it is found is the work of an engine; here is what
it takes to write one down.  The syntax goes as far as expressions are needed: assertions that the text
begins or ends, any character, characters that stand for themselves, and repetition.

## Main definitions

* `Regex` — an expression, read
* `Regex.escape` — the expression that only a given text matches
* `Regex.Engine` — expressions as written to tests on texts
-/

namespace BatchCompiler

namespace Regex

/-- **The smallest part of an expression.** -/
inductive Atom where
  /-- Nothing, where the text begins. -/
  | textStart
  /-- Nothing, where the text ends. -/
  | textEnd
  /-- Any one character but a line feed. -/
  | anyChar
  | char (c : Char)
deriving DecidableEq, Repr

/-- **An atom**, once or as often as it comes. -/
inductive Piece where
  | once (a : Atom)
  | anyTimes (a : Atom)
deriving DecidableEq, Repr

end Regex

/-- **A regular expression**: pieces one behind the other. -/
abbrev Regex := List Regex.Piece

namespace Regex

/-- Characters that do not stand for themselves. -/
def metaCharacters : List Char :=
  ['\\', '.', '+', '*', '?', '(', ')', '|', '[', ']', '\x7b', '\x7d', '^', '$', '#', '&', '-', '~']

/-- The character does not stand for itself. -/
def isMeta (c : Char) : Bool := metaCharacters.contains c

/-- A character quoted so that it stands for itself. -/
def escapeChar (c : Char) : List Char := if isMeta c then ['\\', c] else [c]

/-- **A text quoted** so that it stands for itself. -/
def escape (text : String) : String := String.ofList (text.toList.flatMap escapeChar)

/-- **An engine**: it compiles an expression as written to a test of whether it is found in a text, or
says why it does not. -/
structure Engine where
  compile : String → Except String (String → Bool)

end Regex

end BatchCompiler
