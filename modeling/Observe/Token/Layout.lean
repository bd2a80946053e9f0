import Observe.Token.Lexer

namespace Observe.Token

open Observe.Text

/-- A token and the blanks behind it. -/
structure Spaced where
  kind : TokenKind
  gap : List Char
  deriving DecidableEq, Repr

/-- Words are the tokens that a character of a name would go on. -/
def isWord : TokenKind → Bool
  | .name _ => true
  | .items => true
  | _ => false

/-- A kind that some text is cut into. -/
def IsLexeme : TokenKind → Prop
  | .name text => IsName text
  | _ => True

/-- Only blanks stand in gaps, and two words have a gap between them. -/
def Separate : List Spaced → Prop
  | [] => True
  | [last] => IsLexeme last.kind ∧ ∀ c ∈ last.gap, isBlank c = true
  | first :: second :: rest =>
      IsLexeme first.kind ∧ (∀ c ∈ first.gap, isBlank c = true) ∧
        (isWord first.kind = true → isWord second.kind = true → first.gap ≠ []) ∧
        Separate (second :: rest)

def chars (spaced : List Spaced) : List Char :=
  spaced.flatMap fun token => token.kind.text.toList ++ token.gap

/-- The tokens, of which the first begins at the position. -/
def placed (position : Nat) : List Spaced → List Token
  | [] => []
  | first :: rest =>
      ⟨first.kind, position⟩ ::
        placed (position + byteLength first.kind.text.toList + byteLength first.gap) rest

/-- The text is the tokens laid out after leading blanks. -/
def LaidOut (text : String) (tokens : List Token) : Prop :=
  ∃ lead spaced, (∀ c ∈ lead, isBlank c = true) ∧ Separate spaced ∧
    text.toList = lead ++ chars spaced ∧ tokens = placed (byteLength lead) spaced

end Observe.Token
