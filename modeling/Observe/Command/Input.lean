import Observe.Text.Blank

namespace Observe.Command

/-- The lines of a text. Each ends in a newline, which may follow a carriage return. -/
def splitLines : List Char → List (List Char)
  | [] => []
  | '\n' :: rest => [] :: splitLines rest
  | '\r' :: '\n' :: rest => [] :: splitLines rest
  | c :: rest =>
      match splitLines rest with
      | [] => [[c]]
      | first :: others => (c :: first) :: others

/-- One expression stands on each line that is not blank. -/
def expressionsOf (text : String) : List String :=
  ((splitLines text.toList).map String.ofList).filter (!Text.allBlank ·)

end Observe.Command
