import Observe.Json.Literal

namespace Observe.Json

/-- A number keeps its digits. A string with an unpaired surrogate has no text. -/
inductive Token where
  | openArray
  | closeArray
  | openObject
  | closeObject
  | comma
  | colon
  | null
  | boolean (value : Bool)
  | number (literal : String)
  | string (text : Option String)
  deriving DecidableEq, Repr

namespace Token

def chars : Token → List Char
  | openArray => ['[']
  | closeArray => [']']
  | openObject => ['\x7b']
  | closeObject => ['\x7d']
  | comma => [',']
  | colon => [':']
  | null => ['n', 'u', 'l', 'l']
  | boolean true => ['t', 'r', 'u', 'e']
  | boolean false => ['f', 'a', 'l', 's', 'e']
  | number literal => literal.toList
  | string (some text) => quote text.toList
  | string none => ['"', '\\', 'u', 'd', '8', '0', '0', '"']

def isBlank (c : Char) : Bool := c == ' ' || c == '\t' || c == '\n' || c == '\r'

/-- Reads the token at the front of a text. -/
def read? : List Char → Option (Token × List Char)
  | '[' :: rest => some (openArray, rest)
  | ']' :: rest => some (closeArray, rest)
  | '\x7b' :: rest => some (openObject, rest)
  | '\x7d' :: rest => some (closeObject, rest)
  | ',' :: rest => some (comma, rest)
  | ':' :: rest => some (colon, rest)
  | 'n' :: 'u' :: 'l' :: 'l' :: rest => some (null, rest)
  | 't' :: 'r' :: 'u' :: 'e' :: rest => some (boolean true, rest)
  | 'f' :: 'a' :: 'l' :: 's' :: 'e' :: rest => some (boolean false, rest)
  | '"' :: rest =>
      (parts? rest).map fun (parts, rest) => (string ((textOf? parts).map String.ofList), rest)
  | cs => (number? cs).map fun (literal, rest) => (number (String.ofList literal), rest)

theorem read?_shorter {cs rest : List Char} {token : Token}
    (found : read? cs = some (token, rest)) : rest.length < cs.length := by
  unfold read? at found
  split at found
  case h_10 =>
    obtain ⟨⟨parts, after⟩, reading, same⟩ := Option.map_eq_some_iff.mp found
    cases same
    exact Nat.lt_succ_of_lt (parts?_shorter reading)
  case h_11 =>
    obtain ⟨⟨literal, after⟩, reading, same⟩ := Option.map_eq_some_iff.mp found
    cases same
    obtain ⟨rfl, nonempty⟩ := number?_append reading
    have := List.length_pos_iff.mpr nonempty
    simp only [List.length_append]
    omega
  all_goals
    cases found
    simp only [List.length_cons]
    omega

/-- The tokens of a whole text. -/
def readAll? (cs : List Char) : Option (List Token) :=
  match _front : cs.dropWhile isBlank with
  | [] => some []
  | c :: rest =>
      match _found : read? (c :: rest) with
      | none => none
      | some (token, after) => (readAll? after).map (token :: ·)
termination_by cs.length
decreasing_by
  have shorter := read?_shorter ‹_›
  have front : (cs.dropWhile isBlank).length ≤ cs.length := (List.dropWhile_suffix _).length_le
  rw [‹cs.dropWhile isBlank = _›] at front
  omega

end Token

end Observe.Json
