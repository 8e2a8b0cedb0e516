import BatchCompiler.Text.Utf8

/-!
# Double-byte sets

A double-byte set gives a character to a pair of seven-bit bytes.  It is kept by rows: a row holds the
characters of one first byte, for the second bytes 21 to 7E in order.
-/

namespace BatchCompiler.Text.CodePage

/-- **A double-byte set**: first bytes with their rows.  U+FFFD stands where a row leaves a second byte
undefined, and a row may end early. -/
abbrev PairSet := List (UInt8 × String)

/-- **The character of a pair**; U+FFFD if the set has none. -/
def PairSet.char (set : PairSet) (lead trail : UInt8) : Char :=
  if trail < 0x21 || 0x7E < trail then Utf8.replacement
  else
    match set.lookup lead with
    | some row => (row.toList[trail.toNat - 0x21]?).getD Utf8.replacement
    | none => Utf8.replacement

end BatchCompiler.Text.CodePage
