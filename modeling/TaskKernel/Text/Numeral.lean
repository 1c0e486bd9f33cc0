/-!
Texts of numbers. White space is removed at both ends; what is left is a decimal numeral: an optional
sign, then one or more ASCII digits of any number, with a value inside a range. The unsigned forms take
only a plus sign.
-/
namespace TaskKernel.Text

/-- The white-space characters. -/
def isBlank (char : Char) : Bool :=
  let code := char.toNat
  (0x9 ≤ code && code ≤ 0xd) || code == 0x20 || code == 0x85 || code == 0xa0 || code == 0x1680 ||
    (0x2000 ≤ code && code ≤ 0x200a) || code == 0x2028 || code == 0x2029 || code == 0x202f ||
    code == 0x205f || code == 0x3000

/-- The characters without the blanks at both ends. -/
def trimmed (chars : List Char) : List Char :=
  ((chars.dropWhile isBlank).reverse.dropWhile isBlank).reverse

def trim (text : String) : String := String.ofList (trimmed text.toList)

namespace Numeral

def isDigit (char : Char) : Bool := '0' ≤ char && char ≤ '9'

/-- The value of digits, the first one weighing most. -/
def value (digits : List Char) : Nat :=
  digits.foldl (fun total digit => total * 10 + (digit.toNat - '0'.toNat)) 0

/-- The value of a non-empty row of digits. -/
def natural? (chars : List Char) : Option Nat :=
  if chars ≠ [] ∧ chars.all isDigit then some (value chars) else none

def unsigned? (limit : Nat) (chars : List Char) : Option Nat :=
  let digits := match chars with
    | '+' :: rest => rest
    | rest => rest
  (natural? digits).filter (· ≤ limit)

def signed? (low high : Int) (chars : List Char) : Option Int :=
  let exact : Option Int := match chars with
    | '+' :: rest => (natural? rest).map Int.ofNat
    | '-' :: rest => (natural? rest).map fun size => - Int.ofNat size
    | rest => (natural? rest).map Int.ofNat
  exact.filter fun number => low ≤ number ∧ number ≤ high

def word32? (text : String) : Option UInt32 :=
  (unsigned? (UInt32.size - 1) text.toList).map UInt32.ofNat

def word64? (text : String) : Option UInt64 :=
  (unsigned? (UInt64.size - 1) text.toList).map UInt64.ofNat

def signed64? (text : String) : Option Int64 :=
  (signed? Int64.minValue.toInt Int64.maxValue.toInt text.toList).map Int64.ofInt

end Numeral

end TaskKernel.Text
