import BatchCompiler.Collaborator.Basic
import BatchCompiler.Host.Lexeme

/-!
# The declaration scanner

The scanner is no parser.  Line by line it looks for four things: a namespace, type declarations,
`Main` methods, and braces.  That is enough to choose an entry point and to write documentation.

## Main definitions

* `declarationAt?`, `namespaceOf?`, `hasMain` — what a line may hold
* `ScanState.line` — one line
* `scanText` — a file, up to the first line at which more braces have been closed than opened
-/

namespace BatchCompiler.Host

/-- Words that introduce a declaration. -/
def declarationKeywords : List (List Char × DeclarationKind) :=
  [("class".toList, .class), ("struct".toList, .struct), ("interface".toList, .interface),
   ("enum".toList, .enum), ("delegate".toList, .delegate)]

/-- The declaration keyword at the front, and what follows it. -/
def takeKeyword? (cs : List Char) : Option (DeclarationKind × List Char) :=
  declarationKeywords.findSome? fun (keyword, kind) =>
    (Text.afterChars? keyword cs).map (kind, ·)

/-- What may follow the name of a declared type. -/
def endsHead (c : Char) : Bool := c = ':' || c = '{' || c = '<' || c = '('

/-- **The name at the front of a declaration's head**, and what follows the head: blanks, and a
character that ends it or the end of the line. -/
def takeHead? (cs : List Char) : Option (List Char × List Char) :=
  (Text.takeName? cs).bind fun (name, after) =>
    match after.dropWhile Text.isBlank with
    | [] => some (name, [])
    | c :: rest => if endsHead c then some (name, rest) else none

/-- What follows one word and the blanks behind it. -/
def afterWord? (cs : List Char) : Option (List Char) :=
  match cs.takeWhile Text.isWordChar with
  | [] => none
  | _ => Text.afterBlanks? (cs.dropWhile Text.isWordChar)

/-- **A declaration found on a line**: kind and name, how many bytes stand before the name, and what
follows the head. -/
structure FoundDeclaration where
  kind : DeclarationKind
  name : List Char
  bytesBefore : Nat
  after : List Char
deriving DecidableEq, Repr

/-- **The declaration at the front**: a keyword, blanks, and a head, before which one more word may
stand. -/
def declarationAt? (cs : List Char) : Option FoundDeclaration :=
  (takeKeyword? cs).bind fun (kind, behind) =>
    (Text.afterBlanks? behind).bind fun start =>
      let found (before : List Char) : Option FoundDeclaration :=
        (takeHead? before).map fun (name, after) =>
          ⟨kind, name, Text.byteLength (cs.take (cs.length - before.length)), after⟩
      (found start).orElse fun _ => (afterWord? start).bind found

/-- **All declarations of a line** from a point on: `passed` bytes stand before it, the character
before it is a word character or not, and `skip` characters belong to a declaration already found. -/
def declarationsFrom (skip passed : Nat) (afterWordChar : Bool) :
    List Char → List (DeclarationKind × List Char × Nat)
  | [] => []
  | c :: rest =>
      let next := passed + c.utf8Size
      match skip with
      | skip + 1 => declarationsFrom skip next (Text.isWordChar c) rest
      | 0 =>
          match if afterWordChar then none else declarationAt? (c :: rest) with
          | none => declarationsFrom 0 next (Text.isWordChar c) rest
          | some found =>
              (found.kind, found.name, passed + found.bytesBefore + 1) ::
                declarationsFrom (rest.length - found.after.length) next (Text.isWordChar c) rest

/-- **The declarations of a line**: kind, name, and the column of the name. -/
def declarationsOf (line : List Char) : List (DeclarationKind × List Char × Nat) :=
  declarationsFrom 0 0 false line

/-- A character of a qualified name. -/
def isQualifiedChar (c : Char) : Bool := Text.isWordChar c || c = '.'

/-- **The namespace that a line opens**, when nothing but blanks stands before it. -/
def namespaceOf? (line : List Char) : Option String :=
  (Text.afterChars? "namespace".toList (line.dropWhile Text.isBlank)).bind fun behind =>
    (Text.afterBlanks? behind).bind fun start =>
      match start.takeWhile isQualifiedChar with
      | [] => none
      | name => some (String.ofList name)

/-- A `Main` method that can start a program, at the front. -/
def isMainAt (cs : List Char) : Bool :=
  let found := do
    let behind ← Text.afterChars? "static".toList cs
    let result ← Text.afterBlanks? behind
    let behind ← (Text.afterChars? "void".toList result).orElse fun _ =>
      Text.afterChars? "int".toList result
    let name ← Text.afterBlanks? behind
    let behind ← Text.afterChars? "Main".toList name
    (behind.dropWhile Text.isBlank).head?
  found = some '('

/-- A `Main` method from a point on. -/
def hasMainFrom (afterWordChar : Bool) : List Char → Bool
  | [] => false
  | c :: rest => (!afterWordChar && isMainAt (c :: rest)) || hasMainFrom (Text.isWordChar c) rest

/-- **The line has a `Main` method.** -/
def hasMain (line : List Char) : Bool := hasMainFrom false line

/-- Braces opened on a line, less those closed. -/
def braceBalance (line : List Char) : Int := (line.count '{' : Int) - (line.count '}' : Int)

/-- **The scanner between two lines.** -/
structure ScanState where
  tree : ProgramTree
  space : Option String := none
  /-- The last class or struct declared in this file. -/
  current : Option String := none
  /-- Braces that are open. -/
  depth : Int := 0
  reports : List Report := []
  log : List LogRecord := []

namespace ScanState

/-- The name of a declared type, qualified by the namespace that is open. -/
def qualify (s : ScanState) (name : String) : String :=
  match s.space with
  | some space => space ++ "." ++ name
  | none => name

/-- The report that a type is declared twice. -/
def duplicate (s : ScanState) (location : SourceLocation) (name : String) : Report :=
  .errorAt 101 location ("The namespace `" ++ s.space.getD "global::" ++
    "' already contains a definition for `" ++ name ++ "'")

/-- **Enter a declaration** found at a place. -/
def declare (s : ScanState) (path : Path) (line : Nat)
    (found : DeclarationKind × List Char × Nat) : ScanState :=
  let (kind, chars, column) := found
  let simple := String.ofList chars
  let name := s.qualify simple
  let location : SourceLocation := ⟨path, line, column⟩
  if s.tree.declarations.contains name then
    { s with reports := s.reports ++ [s.duplicate location simple] }
  else
    { s with
      tree := { s.tree with declarations := s.tree.declarations.put name ⟨name, kind, location⟩ }
      current := if kind.canHostEntryPoint then some name else s.current
      log := s.log ++ [⟨.trace, .scanner, "declaration " ++ kind.logName ++ " " ++ name⟩] }

/-- **Enter a `Main` method**, which belongs to the last class or struct. -/
def enterMain (s : ScanState) (path : Path) (line : Nat) : ScanState :=
  match s.current with
  | some type =>
      { s with tree := { s.tree with candidates := s.tree.candidates ++ [⟨type, "Main"⟩] } }
  | none =>
      { s with reports := s.reports ++ [.errorAt 116 ⟨path, line, 1⟩
          "A namespace can only contain types and namespace declarations"] }

/-- **Scan one line.** -/
def line (path : Path) (number : Nat) (s : ScanState) (text : List Char) : ScanState :=
  let s := { s with space := (namespaceOf? text).orElse fun _ => s.space }
  let s := (declarationsOf text).foldl (fun s found => s.declare path number found) s
  let s := if hasMain text then s.enterMain path number else s
  { s with depth := s.depth + braceBalance text }

/-- **Scan lines** from a number on; the line at which braces become unbalanced is the last. -/
def lines (path : Path) (number : Nat) (s : ScanState) :
    List (List Char) → ScanState × Option Nat
  | [] => (s, none)
  | text :: rest =>
      let s := s.line path number text
      if s.depth < 0 then (s, some number) else s.lines path (number + 1) rest

end ScanState

/-- Why a file is given up at a line. -/
def unbalanced (line : Nat) : String := "unbalanced `\x7d' at line " ++ toString line

/-- **Scan a file** into a tree. -/
def scanText (path : Path) (text : String) (tree : ProgramTree) : ParseResult × List LogRecord :=
  let all := Text.lines text
  match ScanState.lines path 1 { tree } all with
  | (s, some number) => (⟨s.tree, s.reports, some (unbalanced number)⟩, s.log)
  | (s, none) =>
      let missing : List Report :=
        if 0 < s.depth then [.errorAt 1513 ⟨path, max all.length 1, 1⟩ "\x7d expected"] else []
      (⟨s.tree, s.reports ++ missing, none⟩, s.log)

/-- **The scanning frontend.** -/
def scanFrontend {σ : Type} : Frontend σ where
  tokens _ text := return Lexeme.kinds text
  parse request tree _ := fun site =>
    let (result, log) := scanText request.path request.text tree
    (result, { site with log := site.log ++ log })

end BatchCompiler.Host
