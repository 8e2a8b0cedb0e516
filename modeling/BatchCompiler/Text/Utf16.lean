import BatchCompiler.Text.Utf8

/-!
# UTF-16

Reading 16-bit units in either byte order.  A surrogate without its partner is malformed, and so is
what is left over at the end, once however much it is.
-/

namespace BatchCompiler.Text.Utf16

/-- **Byte order** of the units. -/
inductive ByteOrder where
  | bigEndian
  | littleEndian
deriving DecidableEq, Repr

/-- The 16-bit units, and whether a single byte is left over. -/
def units (order : ByteOrder) : List UInt8 → List Nat × Bool
  | [] => ([], false)
  | [_] => ([], true)
  | a :: b :: rest =>
      let unit := match order with
        | .bigEndian => a.toNat * 0x100 + b.toNat
        | .littleEndian => b.toNat * 0x100 + a.toNat
      let (tail, odd) := units order rest
      (unit :: tail, odd)

/-- What a unit gives when no surrogate is open: a character or a malformed piece, or a surrogate
that stays open. -/
def lead (u : Nat) : Option (Option Char) × Option Nat :=
  if 0xD800 ≤ u ∧ u < 0xDC00 then (none, some u)
  else if 0xDC00 ≤ u ∧ u < 0xE000 then (some none, none)
  else (some (some (Char.ofNat u)), none)

/-- Characters read with `opened` the surrogate before, and `none` for each malformed piece. -/
def charsFrom (odd : Bool) (opened : Option Nat) : List Nat → List (Option Char)
  | [] => if opened.isSome || odd then [none] else []
  | u :: rest =>
      match opened with
      | none => (lead u).1.toList ++ charsFrom odd (lead u).2 rest
      | some high =>
          if 0xDC00 ≤ u ∧ u < 0xE000 then
            some (Char.ofNat (0x10000 + (high - 0xD800) * 0x400 + (u - 0xDC00))) ::
              charsFrom odd none rest
          else none :: ((lead u).1.toList ++ charsFrom odd (lead u).2 rest)

/-- **The text of any bytes**, with U+FFFD for each malformed piece. -/
def decode (order : ByteOrder) (bytes : List UInt8) : String :=
  let (us, odd) := units order bytes
  String.ofList ((charsFrom odd none us).map (·.getD Utf8.replacement))

end BatchCompiler.Text.Utf16
