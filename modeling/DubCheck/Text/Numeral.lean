import DubCheck.Text.Blank
/-!
# Decimal numerals

The decimal digits of Unicode and the numbers that runs of them denote.  A numeral may use the
digits of any script, and even mix them.  Numerals of more than `maxDigits` digits are refused,
which is the only way in which reading a run of digits can fail.

`integer?` reads a whole integer as a person would type it: blanks around it, a sign, and single
underscores between digits are allowed.
-/

namespace DubCheck.Text

/-- The code points of the digits zero of Unicode 14; the other nine digits of a script follow
its zero. -/
def zeroDigits : List Nat :=
  [0x30, 0x660, 0x6F0, 0x7C0, 0x966, 0x9E6, 0xA66, 0xAE6, 0xB66, 0xBE6, 0xC66, 0xCE6, 0xD66, 0xDE6,
   0xE50, 0xED0, 0xF20, 0x1040, 0x1090, 0x17E0, 0x1810, 0x1946, 0x19D0, 0x1A80, 0x1A90, 0x1B50,
   0x1BB0, 0x1C40, 0x1C50, 0xA620, 0xA8D0, 0xA900, 0xA9D0, 0xA9F0, 0xAA50, 0xABF0, 0xFF10, 0x104A0,
   0x10D30, 0x11066, 0x110F0, 0x11136, 0x111D0, 0x112F0, 0x11450, 0x114D0, 0x11650, 0x116C0,
   0x11730, 0x118E0, 0x11950, 0x11C50, 0x11D50, 0x11DA0, 0x16A60, 0x16AC0, 0x16B50, 0x1D7CE,
   0x1D7D8, 0x1D7E2, 0x1D7EC, 0x1D7F6, 0x1E140, 0x1E2F0, 0x1E950, 0x1FBF0]

/-- The value of a decimal digit of any script. -/
def digitValue? (c : Char) : Option Nat :=
  (zeroDigits.find? fun z => z ≤ c.toNat && c.toNat < z + 10).map (c.toNat - ·)

/-- A decimal digit of any script. -/
def isDigit (c : Char) : Bool :=
  (digitValue? c).isSome

/-- The number that a run of digits denotes. -/
def digitsValue (ds : List Char) : Nat :=
  ds.foldl (fun n c => 10 * n + (digitValue? c).getD 0) 0

/-- The most digits that a numeral may have. -/
def maxDigits : Nat := 4300

/-- A numeral has more than `maxDigits` digits. -/
structure NumeralTooLong where
  /-- How many digits it has. -/
  digits : Nat
deriving DecidableEq, Repr

/-- What is said about a numeral that is too long. -/
def NumeralTooLong.message (e : NumeralTooLong) : String :=
  s!"Exceeds the limit ({maxDigits} digits) for integer string conversion: value has {e.digits} " ++
    "digits; use sys.set_int_max_str_digits() to increase the limit"

/-- The number that a run of digits denotes, if it is not too long to be read. -/
def readNumeral (ds : List Char) : Except NumeralTooLong Nat :=
  if ds.length ≤ maxDigits then .ok (digitsValue ds) else .error ⟨ds.length⟩

/-- The digits of a numeral in which single underscores may stand between digits. -/
def ungroupedDigits? : List Char → Option (List Char)
  | [] => none
  | [d] => if isDigit d then some [d] else none
  | d :: '_' :: rest => if isDigit d then (ungroupedDigits? rest).map (d :: ·) else none
  | d :: rest => if isDigit d then (ungroupedDigits? rest).map (d :: ·) else none

/-- A blank that may stand around an integer: the four separator controls may not. -/
def isPadding (c : Char) : Bool :=
  isBlank c && !(0x1C ≤ c.toNat && c.toNat ≤ 0x1F)

/-- The integer that a text denotes: blanks, a sign, and digits with single underscores between
them.  A numeral that is too long denotes nothing. -/
def integer? (s : String) : Option Int :=
  let magnitude (cs : List Char) : Option Int :=
    (ungroupedDigits? cs).bind fun ds => (readNumeral ds).toOption.map Int.ofNat
  match dropEndWhile isPadding (s.toList.dropWhile isPadding) with
  | '-' :: rest => (magnitude rest).map (- ·)
  | '+' :: rest => magnitude rest
  | cs => magnitude cs

end DubCheck.Text
