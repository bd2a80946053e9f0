import Observe.Toml.Moment
import Observe.Toml.Number
import Observe.Toml.Quoted
import Observe.Toml.Value

namespace Observe.Toml

def isLiteral (c : Char) : Bool :=
  c.isAlphanum || c = '_' || c = '+' || c = '-' || c = '.' || c = ':'

/-- The value of a literal that is read whole. -/
def ofLiteral? (literal : List Char) : Option Value :=
  if literal = ['t', 'r', 'u', 'e'] then some (.boolean true)
  else if literal = ['f', 'a', 'l', 's', 'e'] then some (.boolean false)
  else
    match integer? literal with
    | some value => some (.integer value)
    | none =>
        if isFloat literal then some (.float (String.ofList literal))
        else if isMoment literal then some (.moment (String.ofList literal))
        else none

/-- Reads a literal. A date and a time may have a space between them. -/
def literalValue? (cs : List Char) : Option (Value × List Char) :=
  let literal := cs.takeWhile isLiteral
  let rest := cs.dropWhile isLiteral
  let alone := (ofLiteral? literal).map (·, rest)
  match rest with
  | ' ' :: more =>
      let time := more.takeWhile isLiteral
      if isDate literal ∧ isTimeWithOffset time then
        some (.moment (String.ofList (literal ++ ' ' :: time)), more.dropWhile isLiteral)
      else alone
  | _ => alone

def scalar? (cs : List Char) : Option (Value × List Char) :=
  match cs with
  | '"' :: _ | '\x27' :: _ => (string? cs).map fun (text, rest) => (.string text, rest)
  | _ => literalValue? cs

end Observe.Toml
