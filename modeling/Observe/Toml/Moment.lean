import Observe.Text.Digits

namespace Observe.Toml

open Observe.Text

/-- Reads two digits whose value lies between the bounds. -/
def twoDigits? (least greatest : Nat) : List Char → Option (Nat × List Char)
  | a :: b :: rest =>
      let value := valueIn 10 [a, b]
      if a.isDigit ∧ b.isDigit ∧ least ≤ value ∧ value ≤ greatest then some (value, rest)
      else none
  | _ => none

/-- Passes over one character, which has to be this. -/
def pass? (c : Char) : List Char → Option (List Char)
  | first :: rest => if first = c then some rest else none
  | [] => none

def isLeapYear (year : Nat) : Bool := year % 4 = 0 && (year % 100 ≠ 0 || year % 400 = 0)

def daysIn (year month : Nat) : Nat :=
  if month = 2 then if isLeapYear year then 29 else 28
  else if month = 4 ∨ month = 6 ∨ month = 9 ∨ month = 11 then 30
  else 31

def date? (cs : List Char) : Option (List Char) := do
  let (century, cs) ← twoDigits? 0 99 cs
  let (year, cs) ← twoDigits? 0 99 cs
  let cs ← pass? '-' cs
  let (month, cs) ← twoDigits? 1 12 cs
  let cs ← pass? '-' cs
  let (_, cs) ← twoDigits? 1 (daysIn (century * 100 + year) month) cs
  some cs

/-- Reads the digits after the point of a second, where there are any. -/
def secondFraction (cs : List Char) : List Char :=
  match cs with
  | '.' :: rest =>
      match digits? rest with
      | some (_, rest) => rest
      | none => cs
  | _ => cs

def time? (cs : List Char) : Option (List Char) := do
  let (_, cs) ← twoDigits? 0 23 cs
  let cs ← pass? ':' cs
  let (_, cs) ← twoDigits? 0 59 cs
  let cs ← pass? ':' cs
  let (_, cs) ← twoDigits? 0 60 cs
  some (secondFraction cs)

/-- The distance from universal time, which may be left out. -/
def isOffset : List Char → Bool
  | [] => true
  | ['Z'] | ['z'] => true
  | sign :: rest =>
      (sign = '+' || sign = '-') &&
        (do
          let (_, cs) ← twoDigits? 0 23 rest
          let cs ← pass? ':' cs
          let (_, cs) ← twoDigits? 0 59 cs
          some cs) = some []

def isDate (literal : List Char) : Bool := date? literal = some []

/-- What may follow a date and its separator. -/
def isTimeWithOffset (literal : List Char) : Bool := (time? literal).any isOffset

/-- A moment that is written without a space. -/
def isMoment (literal : List Char) : Bool :=
  match date? literal with
  | some [] => true
  | some (separator :: rest) => (separator = 'T' || separator = 't') && isTimeWithOffset rest
  | none => time? literal = some []

end Observe.Toml
