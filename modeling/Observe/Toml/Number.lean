import Observe.Text.Digits

namespace Observe.Toml

open Observe.Text

/-- Drops the underscores of a literal. Each of them has to stand between two digits. -/
def ungroup? (digit : Char → Bool) : List Char → Option (List Char)
  | [] => none
  | [c] => if digit c then some [c] else none
  | c :: '_' :: rest => if digit c then (ungroup? digit rest).map (c :: ·) else none
  | c :: rest => if digit c then (ungroup? digit rest).map (c :: ·) else none

/-- The digits of a decimal integer. A zero comes first only if it stands alone. -/
def decimalDigits? (literal : List Char) : Option (List Char) :=
  match ungroup? Char.isDigit literal with
  | some ('0' :: _ :: _) => none
  | digits => digits

/-- Splits off a sign, and tells whether it is a minus. -/
def splitSign : List Char → Bool × List Char
  | '+' :: rest => (false, rest)
  | '-' :: rest => (true, rest)
  | cs => (false, cs)

def integerIn? (base : Nat) (literal : List Char) : Option Int :=
  (ungroup? (isDigitIn base) literal).map fun digits => Int.ofNat (valueIn base digits)

def decimal? (literal : List Char) : Option Int :=
  (decimalDigits? (splitSign literal).2).map fun digits =>
    if (splitSign literal).1 then -Int.ofNat (valueIn 10 digits) else Int.ofNat (valueIn 10 digits)

/-- Integers take 64 bits with the sign. -/
def inRange (value : Int) : Bool :=
  -9223372036854775808 ≤ value && value ≤ 9223372036854775807

def integer? (literal : List Char) : Option Int :=
  let value := match literal with
    | '0' :: 'x' :: digits => integerIn? 16 digits
    | '0' :: 'o' :: digits => integerIn? 8 digits
    | '0' :: 'b' :: digits => integerIn? 2 digits
    | _ => decimal? literal
  value.filter inRange

/-- The least number that is rounded to infinity. -/
def overflowBound : Nat := Nat.pow 2 1024 - Nat.pow 2 970

/-- Whether digits times a power of ten reach the bound. -/
def overflows (digits : List Char) (exponent : Int) : Bool :=
  let significant := digits.dropWhile (· = '0')
  let magnitude := Int.ofNat significant.length + exponent
  if significant = [] ∨ magnitude ≤ 308 then false
  else if 310 ≤ magnitude then true
  else
    overflowBound * Nat.pow 10 (-exponent).toNat ≤
      valueIn 10 significant * Nat.pow 10 exponent.toNat

/-- The power of ten at the end of a number, or nothing. -/
def exponent? : List Char → Option Int
  | [] => some 0
  | c :: rest =>
      if c = 'e' ∨ c = 'E' then
        (ungroup? Char.isDigit (splitSign rest).2).map fun digits =>
          if (splitSign rest).1 then -Int.ofNat (valueIn 10 digits)
          else Int.ofNat (valueIn 10 digits)
      else none

def isGroupedDigit (c : Char) : Bool := c.isDigit || c == '_'

/-- The digits after the point, and the power of ten. One of the two is written. -/
def fractionAndExponent? : List Char → Option (List Char × Int)
  | [] => none
  | '.' :: rest => do
      let fraction ← ungroup? Char.isDigit (rest.takeWhile isGroupedDigit)
      let exponent ← exponent? (rest.dropWhile isGroupedDigit)
      some (fraction, exponent)
  | rest => (exponent? rest).map fun exponent => ([], exponent)

/-- Accepts a number with a point or an exponent, an infinity or a NaN. A positive number that is
too large is refused. -/
def isFloat (literal : List Char) : Bool :=
  let (negative, rest) := splitSign literal
  if rest = ['i', 'n', 'f'] ∨ rest = ['n', 'a', 'n'] then true
  else
    match decimalDigits? (rest.takeWhile isGroupedDigit),
        fractionAndExponent? (rest.dropWhile isGroupedDigit) with
    | some whole, some (fraction, exponent) =>
        negative || !overflows (whole ++ fraction) (exponent - fraction.length)
    | _, _ => false

end Observe.Toml
