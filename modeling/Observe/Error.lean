import Observe.Token

namespace Observe

/-- A character that begins no token. -/
structure LexicalError where
  character : Char
  position : Nat
  deriving DecidableEq, Repr

/-- Tokens that form no expression. -/
inductive SyntaxError where
  | unexpectedToken (position : Nat) (found : TokenKind) (expected : String)
  | unexpectedEnd (position : Nat) (expected : String)
  | nestingTooDeep (position limit : Nat)
  deriving DecidableEq, Repr

/-- Why a text is no expression. Positions count bytes. -/
inductive ExpressionError where
  | lexical (error : LexicalError)
  | syntactic (error : SyntaxError)
  deriving DecidableEq, Repr

def elementWanted : String := "an element"

def metadataNameWanted : String := "a metadata name"

def closeBracketWanted : String := "']'"

def commaOrEndWanted : String := "',' or end of input"

namespace LexicalError

def message (error : LexicalError) : String :=
  "Unexpected character '" ++ error.character.toString ++ "' at position " ++
    toString error.position

end LexicalError

namespace SyntaxError

def position : SyntaxError → Nat
  | unexpectedToken position _ _ => position
  | unexpectedEnd position _ => position
  | nestingTooDeep position _ => position

def message : SyntaxError → String
  | unexpectedToken position found expected =>
      "Unexpected token '" ++ found.text ++ "' at position " ++ toString position ++
        ", expected " ++ expected
  | unexpectedEnd position expected =>
      "Unexpected end of input at position " ++ toString position ++ ", expected " ++ expected
  | nestingTooDeep position limit =>
      "Groups nested deeper than " ++ toString limit ++ " levels at position " ++ toString position

end SyntaxError

namespace ExpressionError

def position : ExpressionError → Nat
  | lexical error => error.position
  | syntactic error => error.position

def message : ExpressionError → String
  | lexical error => error.message
  | syntactic error => error.message

end ExpressionError

end Observe
