import BatchCompiler.Regex

/-!
# The bundled engine

An engine for expressions as this library writes them.  Whether an expression is found in a text is
told by keeping the set of positions that the pieces read so far can have come to, in time proportional
to the lengths of both.

## Main definitions

* `Regex.read?` — the expression that is written in a text
* `Regex.isFoundIn` — the expression is found somewhere in a text
* `Regex.Engine.bundled` — the engine
-/

namespace BatchCompiler.Regex

/-! ## Reading -/

/-- The atom that a character is. -/
def Atom.ofChar? (c : Char) : Option Atom :=
  if c = '^' then some .textStart
  else if c = '$' then some .textEnd
  else if c = '.' then some .anyChar
  else if isMeta c then none
  else some (.char c)

/-- Read behind some pieces, of which the last comes first. -/
def readBehind : List Piece → List Char → Option Regex
  | ahead, [] => some ahead.reverse
  | ahead, '*' :: rest =>
      match ahead with
      | .once a :: earlier => readBehind (.anyTimes a :: earlier) rest
      | _ => none
  | ahead, '\\' :: c :: rest =>
      if isMeta c then readBehind (.once (.char c) :: ahead) rest else none
  | ahead, c :: rest =>
      match Atom.ofChar? c with
      | some a => readBehind (.once a :: ahead) rest
      | none => none

/-- **The expression written in a text**, if it is one of those known here. -/
def read? (text : String) : Option Regex := readBehind [] text.toList

/-! ## Finding -/

/-- The atom takes this character. -/
def Atom.takes : Atom → Char → Bool
  | .anyChar, c => c ≠ '\n'
  | .char d, c => c = d
  | _, _ => false

/-- Positions reached by one more character that satisfies `p`. -/
def advance (p : Char → Bool) (reached : List Bool) (text : List Char) : List Bool :=
  false :: List.zipWith (fun here c => here && p c) reached text

/-- Positions reached by any run of characters that satisfy `p`, `carried` telling whether the run
reaches the first one. -/
def spread (p : Char → Bool) (carried : Bool) : List Bool → List Char → List Bool
  | [], _ => []
  | here :: _, [] => [here || carried]
  | here :: reached, c :: text =>
      (here || carried) :: spread p ((here || carried) && p c) reached text

/-- Positions in `text` reached after one more piece. -/
def step (text : List Char) (reached : List Bool) : Piece → List Bool
  | .once .textStart => reached.mapIdx fun i here => here && i = 0
  | .once .textEnd => reached.mapIdx fun i here => here && i = text.length
  | .once a => advance a.takes reached text
  | .anyTimes a => spread a.takes false reached text

/-- **The expression is found** somewhere in a text: from any position on. -/
def isFoundIn (r : Regex) (text : List Char) : Bool :=
  (r.foldl (step text) (List.replicate (text.length + 1) true)).any id

/-! ## The engine -/

/-- The bytes that a piece is taken to need once compiled.  Any character is a class of its own. -/
def Piece.size : Piece → Nat
  | .once .anyChar | .anyTimes .anyChar => 1024
  | _ => 32

/-- The bytes that an expression is taken to need once compiled. -/
def size (r : Regex) : Nat := r.foldl (fun bytes p => bytes + p.size) 0

/-- The bytes that an expression may need. -/
def sizeLimit : Nat := 10485760

/-- **The bundled engine.** -/
def Engine.bundled : Engine where
  compile expression :=
    match read? expression with
    | none => .error "Expression is not supported."
    | some r =>
        if r.size ≤ sizeLimit then .ok fun text => r.isFoundIn text.toList
        else .error ("Compiled regex exceeds size limit of " ++ toString sizeLimit ++ " bytes.")

end BatchCompiler.Regex
