import BatchCompiler.Text.Split

/-!
# Arguments in a response file

A response file holds arguments separated by blanks.  A quote of either kind opens a span in which
blanks do not separate; it ends at the next quote of its kind, or with the line.
-/

namespace BatchCompiler.ResponseFile

/-- A quote of either kind. -/
def isQuote (c : Char) : Bool := c = '\x22' || c = '\x27'

/-- An argument that has come to its end; nothing was there if it is empty. -/
def finish (carry : List Char) : List (List Char) :=
  if carry.isEmpty then [] else [carry.reverse]

/-- **Arguments of a line**, with `carry` the open argument so far, last character first, and
`open?` the quote whose span is open. -/
def lineTokens (open? : Option Char) (carry : List Char) : List Char → List (List Char)
  | [] => finish carry
  | c :: rest =>
      match open? with
      | some quote =>
          if c = quote then lineTokens none carry rest
          else lineTokens open? (c :: carry) rest
      | none =>
          if isQuote c then lineTokens (some c) carry rest
          else if c = ' ' then finish carry ++ lineTokens none [] rest
          else lineTokens none (c :: carry) rest

/-- **The arguments in a text**, line by line. -/
def tokenize (text : String) : List String :=
  ((Text.lines text).flatMap (lineTokens none [])).map String.ofList

end BatchCompiler.ResponseFile
