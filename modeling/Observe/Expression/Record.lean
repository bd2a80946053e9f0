import Observe.Expression.Parser
import Observe.Log
import Observe.Text.Quoted

namespace Observe

open Log

/-- The name of a kind in the log. -/
def TokenKind.label : TokenKind → String
  | name text => "Name(" ++ Text.quoted text ++ ")"
  | items => "Items"
  | dot => "Dot"
  | colon => "Colon"
  | comma => "Comma"
  | plus => "Plus"
  | openBracket => "LBracket"
  | closeBracket => "RBracket"

def Token.record (token : Token) : Record where
  level := .trace
  target := "observe_expr::expression::lexer"
  text := "token " ++ token.kind.label ++ " at " ++ toString token.position

def parserRecord (text : String) : Record := ⟨.debug, "observe_expr::expression::parser", text⟩

/-- The records of a reading: its start, each token, and the end if it succeeds. -/
def Expression.records (text : String) : List Record :=
  let begun := parserRecord ("parsing observe expression " ++ Text.quoted text)
  let tokens := (Token.Cursor.start text).scan.1.map Token.record
  let ended :=
    match Expression.parse text with
    | .error _ => []
    | .ok expression =>
        [parserRecord ("parsed " ++ Text.quoted text ++ " into " ++ toString expression.length ++
          " branch(es), group depth " ++ toString expression.depth)]
  begun :: (tokens ++ ended)

end Observe
