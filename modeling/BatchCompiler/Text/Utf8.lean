/-!
# UTF-8

Characters as bytes and back.  Reading is by units: each maximal piece of bytes that could have
begun a character but does not complete one counts as a single malformed unit, and the byte that
broke it off is read anew.
-/

namespace BatchCompiler.Text.Utf8

/-- **The bytes of a text.** -/
def encode (s : String) : List UInt8 := s.toList.flatMap String.utf8EncodeChar

/-- Between two bytes: nothing open, or a character with value `value` so far that still needs
`missing + 1` bytes, the next of them from `low` to `high`. -/
inductive State where
  | start
  | within (value missing low high : Nat)

/-- The state after a first byte, and the unit it completes, if any: `some none` is malformed. -/
def lead (b : Nat) : Option (Option Char) × State :=
  if b < 0x80 then (some (some (Char.ofNat b)), .start)
  else if b < 0xC2 then (some none, .start)
  else if b < 0xE0 then (none, .within (b - 0xC0) 0 0x80 0xBF)
  else if b = 0xE0 then (none, .within 0 1 0xA0 0xBF)
  else if b = 0xED then (none, .within 0xD 1 0x80 0x9F)
  else if b < 0xF0 then (none, .within (b - 0xE0) 1 0x80 0xBF)
  else if b = 0xF0 then (none, .within 0 2 0x90 0xBF)
  else if b < 0xF4 then (none, .within (b - 0xF0) 2 0x80 0xBF)
  else if b = 0xF4 then (none, .within 4 2 0x80 0x8F)
  else (some none, .start)

/-- **One byte**: the units it completes and the state it leaves. -/
def feed : State → UInt8 → List (Option Char) × State
  | .start, b =>
      let (done, next) := lead b.toNat
      (done.toList, next)
  | .within value missing low high, b =>
      if low ≤ b.toNat ∧ b.toNat ≤ high then
        let value := value * 0x40 + (b.toNat - 0x80)
        match missing with
        | 0 => ([some (Char.ofNat value)], .start)
        | missing + 1 => ([], .within value missing 0x80 0xBF)
      else
        let (done, next) := lead b.toNat
        (none :: done.toList, next)

/-- Units read from the state `st` on. -/
def unitsFrom (st : State) : List UInt8 → List (Option Char)
  | [] => match st with
    | .start => []
    | .within .. => [none]
  | b :: rest => (feed st b).1 ++ unitsFrom (feed st b).2 rest

/-- **The units of a byte sequence**: characters, and `none` for each malformed piece. -/
def units (bytes : List UInt8) : List (Option Char) := unitsFrom .start bytes

/-- The text of well-formed bytes; `none` when any piece is malformed. -/
def decode? (bytes : List UInt8) : Option String :=
  ((units bytes).mapM id).map String.ofList

/-- The character that stands for a malformed piece. -/
def replacement : Char := Char.ofNat 0xFFFD

/-- **The text of any bytes**, with U+FFFD for each malformed piece. -/
def decode (bytes : List UInt8) : String :=
  String.ofList ((units bytes).map (·.getD replacement))

end BatchCompiler.Text.Utf8
