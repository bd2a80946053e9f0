import Observe.Json.Token

namespace Observe

/-- The members of an object keep their order, and a name may come twice. -/
inductive Json where
  | null
  | boolean (value : Bool)
  | number (literal : String)
  | string (text : Option String)
  | array (items : List Json)
  | object (members : List (Option String × Json))

namespace Json

/-- A text is laid out as tokens and gaps. Each newline is followed by two spaces for a level. -/
inductive Piece where
  | token (lexeme : Token)
  | space
  | newline (level : Nat)
  deriving DecidableEq, Repr

namespace Piece

def chars : Piece → List Char
  | token lexeme => lexeme.chars
  | space => [' ']
  | newline level => '\n' :: List.replicate (2 * level) ' '

/-- The characters of a piece in a text without gaps. -/
def compactChars : Piece → List Char
  | token lexeme => lexeme.chars
  | _ => []

end Piece

mutual

def pieces (level : Nat) : Json → List Piece
  | null => [.token .null]
  | boolean value => [.token (.boolean value)]
  | number literal => [.token (.number literal)]
  | string text => [.token (.string text)]
  | array items => .token .openArray :: (itemPieces level items ++ [.token .closeArray])
  | object members => .token .openObject :: (memberPieces level members ++ [.token .closeObject])
termination_by structural json => json

/-- Each item of an array stands on a line of its own. -/
def itemPieces (level : Nat) : List Json → List Piece
  | [] => []
  | item :: rest =>
      .newline (level + 1) :: (pieces (level + 1) item ++
        if rest.isEmpty then [.newline level] else .token .comma :: itemPieces level rest)
termination_by structural items => items

def memberPieces (level : Nat) : List (Option String × Json) → List Piece
  | [] => []
  | (name, value) :: rest =>
      .newline (level + 1) :: .token (.string name) :: .token .colon :: .space ::
        (pieces (level + 1) value ++
          if rest.isEmpty then [.newline level] else .token .comma :: memberPieces level rest)
termination_by structural members => members

end

/-- The text on one line, without blanks. -/
def compact (json : Json) : String := String.ofList ((json.pieces 0).flatMap Piece.compactChars)

/-- The text with one item or member on a line. -/
def pretty (json : Json) : String := String.ofList ((json.pieces 0).flatMap Piece.chars)

end Json

end Observe
