namespace Observe

/-- The words and the punctuation of an observe expression. -/
inductive TokenKind where
  | name (text : String)
  | items
  | dot
  | colon
  | comma
  | plus
  | openBracket
  | closeBracket
  deriving DecidableEq, Repr

/-- The word that stands for the members of a container and is no name. -/
def itemsWord : String := "items"

namespace TokenKind

/-- The characters that a token is written with. -/
def text : TokenKind → String
  | name text => text
  | items => itemsWord
  | dot => "."
  | colon => ":"
  | comma => ","
  | plus => "+"
  | openBracket => "["
  | closeBracket => "]"

def ofPunctuation? : Char → Option TokenKind
  | '.' => some dot
  | ':' => some colon
  | ',' => some comma
  | '+' => some plus
  | '[' => some openBracket
  | ']' => some closeBracket
  | _ => none

def ofWord (word : String) : TokenKind :=
  if word = itemsWord then items else name word

end TokenKind

/-- A token and the byte position where it begins. -/
structure Token where
  kind : TokenKind
  position : Nat
  deriving DecidableEq, Repr

def isNameStart (c : Char) : Bool := c.isAlpha || c == '_'

def isNamePart (c : Char) : Bool := c.isAlphanum || c == '_'

/-- A word that can be a name. -/
def IsName (text : String) : Prop :=
  (∃ first rest, text.toList = first :: rest ∧ isNameStart first = true ∧
    ∀ c ∈ rest, isNamePart c = true) ∧ text ≠ itemsWord

theorem isNamePart_of_isNameStart {c : Char} (starts : isNameStart c = true) :
    isNamePart c = true := by
  simp only [isNameStart, isNamePart, Char.isAlphanum, Bool.or_eq_true] at starts ⊢
  rcases starts with letter | underscore
  · exact .inl (.inl letter)
  · exact .inr underscore

end Observe
