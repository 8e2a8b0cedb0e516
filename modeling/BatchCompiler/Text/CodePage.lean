import BatchCompiler.Text.CodePage.Hz
import BatchCompiler.Text.CodePage.Iso2022
import BatchCompiler.Text.CodePage.Tables
import BatchCompiler.Text.Utf16

/-!
# Code pages

The numbered code pages a source file may be written in.  How bytes are read as text is the work of a
decoder.  The bundled one turns what a page leaves undefined into U+FFFD; of the pages whose characters
take more than one byte each, eight-bit bytes at that, it has no tables, and reads ASCII only.

## Main definitions

* `Decoder` — what a decoder does
* `CodePage` — the pages that the bundled decoder reads
* `Encoding` — how a source file is written
-/

namespace BatchCompiler.Text

/-- **A decoder**: how bytes are read as text in UTF-8, and in each code page that is installed. -/
structure Decoder where
  utf8 : List UInt8 → Except String String
  codePage? : Nat → Option (List UInt8 → Except String String)

/-- **A way to read bytes as text.** -/
inductive CodePage where
  | utf8
  | utf16 (order : Utf16.ByteOrder)
  /-- Each byte is the code point of the same number. -/
  | direct
  /-- ASCII below 80, a table of 128 characters from there on. -/
  | singleByte (upper : String)
  /-- East Asian pages of which there is no table: ASCII is read, and nothing else. -/
  | multiByte
  /-- Chinese in seven-bit bytes. -/
  | hz
  /-- Japanese in seven-bit bytes. -/
  | iso2022

namespace CodePage

/-- **The installed pages** by number. -/
def ofId? : Nat → Option CodePage
  | 65001 => some .utf8
  | 1200 => some (.utf16 .littleEndian)
  | 1201 => some (.utf16 .bigEndian)
  | 866 => some (.singleByte ibm866)
  | 28591 => some .direct
  | 28592 => some (.singleByte latin2)
  | 28593 => some (.singleByte latin3)
  | 28594 => some (.singleByte latin4)
  | 28595 => some (.singleByte latinCyrillic)
  | 28596 => some (.singleByte latinArabic)
  | 28597 => some (.singleByte latinGreek)
  | 28598 => some (.singleByte latinHebrew)
  | 38598 => some (.singleByte latinHebrew)
  | 28603 => some (.singleByte latin7)
  | 28605 => some (.singleByte latin9)
  | 20866 => some (.singleByte koi8r)
  | 21866 => some (.singleByte koi8u)
  | 10000 => some (.singleByte macRoman)
  | 874 => some (.singleByte windows874)
  | 1250 => some (.singleByte windows1250)
  | 1251 => some (.singleByte windows1251)
  | 1252 => some (.singleByte windows1252)
  | 1253 => some (.singleByte windows1253)
  | 1254 => some (.singleByte windows1254)
  | 1255 => some (.singleByte windows1255)
  | 1256 => some (.singleByte windows1256)
  | 1257 => some (.singleByte windows1257)
  | 1258 => some (.singleByte windows1258)
  | 1259 => some (.singleByte macCyrillic)
  | 52936 => some .hz
  | 936 => some .multiByte
  | 54936 => some .multiByte
  | 950 => some .multiByte
  | 20932 => some .multiByte
  | 50220 => some .iso2022
  | 932 => some .multiByte
  | 949 => some .multiByte
  | _ => none

/-- One byte of a page whose upper half is `upper`. -/
def singleByteChar (upper : Array Char) (b : UInt8) : Char :=
  if b < 0x80 then Char.ofNat b.toNat
  else (upper[b.toNat - 0x80]?).getD Utf8.replacement

/-- **The text of bytes** in a page, or why it has none. -/
def decode (page : CodePage) (bytes : List UInt8) : Except String String :=
  match page with
  | .utf8 => .ok (Utf8.decode bytes)
  | .utf16 order => .ok (Utf16.decode order bytes)
  | .direct => .ok (String.ofList (bytes.map fun b => Char.ofNat b.toNat))
  | .singleByte upper =>
      let table := upper.toList.toArray
      .ok (String.ofList (bytes.map (singleByteChar table)))
  | .multiByte =>
      if bytes.all (· < 0x80) then .ok (String.ofList (bytes.map (singleByteChar #[])))
      else .error "no table of its characters is bundled"
  | .hz => .ok (Hz.decode bytes)
  | .iso2022 => .ok (Iso2022.decode bytes)

end CodePage

/-- **The bundled decoder.** -/
def Decoder.bundled : Decoder where
  utf8 bytes := .ok (Utf8.decode bytes)
  codePage? id := (CodePage.ofId? id).map CodePage.decode

/-- **The encoding of source files**: UTF-8 unless a code page was named. -/
inductive Encoding where
  | standard
  | utf8
  | codePage (id : Nat)
deriving DecidableEq, Repr

namespace Encoding

/-- The encoding of a numbered page, if it is installed. -/
def ofCodePage? (id : Nat) (decoder : Decoder := .bundled) : Option Encoding :=
  (decoder.codePage? id).map fun _ => .codePage id

/-- **The text of a source file**, or why it cannot be read. -/
def decode (encoding : Encoding) (bytes : List UInt8) (decoder : Decoder := .bundled) :
    Except String String :=
  match encoding with
  | .standard | .utf8 => decoder.utf8 bytes
  | .codePage id =>
      match decoder.codePage? id with
      | some read => read bytes
      | none => .error ("code page " ++ toString id ++ " is not installed")

/-- How log records name an encoding. -/
def logName : Encoding → String
  | .standard => "Default"
  | .utf8 => "Utf8"
  | .codePage id => "CodePage(" ++ toString id ++ ")"

end Encoding

end BatchCompiler.Text
