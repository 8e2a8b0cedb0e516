import BatchCompiler.Text.CodePage.JapaneseSets

/-!
# ISO 2022 for Japanese

Japanese in seven-bit bytes.  An escape sequence names the character set of what follows: ASCII,
halfwidth katakana, or one of the double-byte sets.  A line that ends inside double-byte text goes on
in ASCII.
-/

namespace BatchCompiler.Text.CodePage.Iso2022

/-- **What the bytes stand for** between two escape sequences. -/
inductive CharacterSet where
  | ascii
  /-- Halfwidth katakana and their punctuation, U+FF61 to U+FF9F. -/
  | katakana
  | paired (set : PairSet)

/-- One byte of a single-byte set. -/
def halfwidth (b : UInt8) : Char :=
  if 0x21 ≤ b && b ≤ 0x5F then Char.ofNat (0xFF61 + (b - 0x21).toNat) else Utf8.replacement

/-- The text ends inside an escape sequence, of which `bytes` come after the escape character. -/
def isUnfinished (bytes : List UInt8) : Bool :=
  bytes = [] || bytes = [0x28] || bytes = [0x24] || bytes = [0x24, 0x28]

/-- **The characters of some bytes**, starting in a character set.  An escape character that begins no
sequence is malformed, and the bytes behind it are read anew as ASCII. -/
def chars (set : CharacterSet) : List UInt8 → List Char
  | [] => []
  | 0x1B :: 0x28 :: 0x42 :: rest => chars .ascii rest
  | 0x1B :: 0x28 :: 0x4A :: rest => chars .ascii rest
  | 0x1B :: 0x28 :: 0x49 :: rest => chars .katakana rest
  | 0x1B :: 0x24 :: 0x40 :: rest => chars (.paired kanji) rest
  | 0x1B :: 0x24 :: 0x42 :: rest => chars (.paired kanji) rest
  | 0x1B :: 0x24 :: 0x28 :: 0x44 :: rest => chars (.paired supplementaryKanji) rest
  | 0x1B :: rest =>
      Utf8.replacement :: if isUnfinished rest then [] else chars .ascii rest
  | b :: rest =>
      match set with
      | .ascii => (if b < 0x80 then Char.ofNat b.toNat else Utf8.replacement) :: chars .ascii rest
      | .katakana => halfwidth b :: chars .katakana rest
      | .paired set =>
          if b = 0x0A then '\n' :: chars .ascii rest
          else
            match rest with
            | [] => [Utf8.replacement]
            | trail :: rest => set.char b trail :: chars (.paired set) rest

/-- **The text of any bytes** in ISO 2022. -/
def decode (bytes : List UInt8) : String := String.ofList (chars .ascii bytes)

end BatchCompiler.Text.CodePage.Iso2022
