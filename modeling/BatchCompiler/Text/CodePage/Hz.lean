import BatchCompiler.Text.CodePage.Guobiao

/-!
# HZ

Chinese in seven-bit bytes.  The text is ASCII until a tilde and an opening brace; from there on two
bytes are one character, until a tilde and a closing brace.  A doubled tilde is a tilde, a tilde at
the end of a line joins it to the next one, and a line that ends inside double-byte text is malformed
and goes on in ASCII.
-/

namespace BatchCompiler.Text.CodePage.Hz

/-- **The characters of some bytes**, with `paired` when they start inside double-byte text.  A tilde
that begins nothing is malformed, and the byte behind it is read anew. -/
def chars (paired : Bool) : List UInt8 → List Char
  | [] => []
  | 0x7E :: 0x7B :: rest => chars true rest
  | 0x7E :: 0x7D :: rest => chars false rest
  | 0x7E :: 0x7E :: rest => '~' :: chars paired rest
  | 0x7E :: 0x0A :: rest => chars paired rest
  | 0x7E :: rest => Utf8.replacement :: chars paired rest
  | b :: rest =>
      if !paired then
        (if b < 0x80 then Char.ofNat b.toNat else Utf8.replacement) :: chars false rest
      else if b = 0x0A then Utf8.replacement :: chars false rest
      else if b < 0x20 || 0x7F < b then Utf8.replacement :: chars true rest
      else
        match rest with
        | [] => [Utf8.replacement]
        | 0x0A :: rest => Utf8.replacement :: chars false rest
        | trail :: rest => guobiao b trail :: chars true rest

/-- **The text of any bytes** in HZ. -/
def decode (bytes : List UInt8) : String := String.ofList (chars false bytes)

end BatchCompiler.Text.CodePage.Hz
