/-!
# Decimal numerals

Reading and writing whole numbers.  A numeral is one or more ASCII digits after an optional sign; a
number that does not fit the asked range is refused, leading zeros are not.
-/

namespace BatchCompiler.Text

/-- The value of ASCII digits read after a number `value`; `none` at any other character. -/
def digitsValue? (value : Nat) : List Char → Option Nat
  | [] => some value
  | c :: rest =>
      if c.isDigit then digitsValue? (value * 10 + (c.toNat - '0'.toNat)) rest else none

/-- One or more ASCII digits. -/
def digits? : List Char → Option Nat
  | [] => none
  | cs => digitsValue? 0 cs

/-- **A natural number** up to `max`, with an optional plus sign. -/
def natural? (max : Nat) (s : String) : Option Nat :=
  let read := match s.toList with
    | '+' :: rest => digits? rest
    | cs => digits? cs
  read.bind fun n => if n ≤ max then some n else none

/-- **An integer of 32 bits**, with an optional sign. -/
def integer32? (s : String) : Option Int :=
  match s.toList with
  | '-' :: rest => (digits? rest).bind fun n => if n ≤ 0x80000000 then some (-(n : Int)) else none
  | '+' :: rest => (digits? rest).bind fun n => if n < 0x80000000 then some (n : Int) else none
  | cs => (digits? cs).bind fun n => if n < 0x80000000 then some (n : Int) else none

/-- `cs` with `fill` in front, up to a length of `width`. -/
def padLeft (width : Nat) (fill : Char) (cs : String) : String :=
  String.ofList (List.replicate (width - cs.length) fill) ++ cs

/-- `cs` with blanks behind, up to a length of `width`. -/
def padRight (width : Nat) (cs : String) : String :=
  cs ++ String.ofList (List.replicate (width - cs.length) ' ')

/-- **A number in base 16**, small letters, no leading zeros. -/
def hexadecimal (n : Nat) : String := String.ofList (Nat.toDigits 16 n)

end BatchCompiler.Text
