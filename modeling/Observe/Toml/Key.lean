import Observe.Toml.Line
import Observe.Toml.Value

namespace Observe.Toml

def isBare (c : Char) : Bool := c.isAlphanum || c = '_' || c = '-'

def bare? (cs : List Char) : Option (String × List Char) :=
  match cs.takeWhile isBare with
  | [] => none
  | name => some (String.ofList name, cs.dropWhile isBare)

def keyPart? : List Char → Option (String × List Char)
  | '"' :: rest => (basic? rest).map fun (text, rest) => (String.ofList text, rest)
  | '\x27' :: rest => (literalString? rest).map fun (text, rest) => (String.ofList text, rest)
  | cs => bare? cs

/-- The parts of a key, with blanks around them and dots between them. -/
def keyParts? (cs : List Char) : Option (List String × List Char) :=
  match progress? cs (keyPart? (cs.dropWhile isBlank)) with
  | none => none
  | some (part, ⟨rest, _⟩) =>
      match _dot : rest.dropWhile isBlank with
      | '.' :: more => (keyParts? more).map fun (parts, rest) => (part :: parts, rest)
      | rest => some ([part], rest)
termination_by cs.length
decreasing_by
  have blanks := (List.dropWhile_suffix isBlank (l := rest)).length_le
  rw [‹rest.dropWhile isBlank = _›] at blanks
  simp only [List.length_cons] at blanks
  omega

/-- A key has fewer parts than this, and values are nested less deep. -/
def limit : Nat := 80

def key? (cs : List Char) : Option (Key × List Char) :=
  match keyParts? cs with
  | none => none
  | some (parts, rest) =>
      match parts.getLast? with
      | some name => if parts.length < limit then some (⟨parts.dropLast, name⟩, rest) else none
      | none => none

end Observe.Toml
