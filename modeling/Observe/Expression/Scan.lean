import Observe.Error

namespace Observe

/-- What the scan has just passed, and so what may come next. -/
inductive ScanMode where
  | elementNext
  | nameNext
  | elementPassed
  deriving DecidableEq, Repr

namespace ScanMode

/-- What is wanted in a mode while so many groups are open. -/
def wanted : ScanMode → Nat → String
  | elementNext, _ => elementWanted
  | nameNext, _ => metadataNameWanted
  | elementPassed, 0 => commaOrEndWanted
  | elementPassed, _ + 1 => closeBracketWanted

/-- The mode and the number of open groups after a token, which has to be one that may stand here.
A group is opened only while fewer than the limit are. -/
def step (limit : Nat) (mode : ScanMode) (opened : Nat) (token : Token) :
    Except SyntaxError (ScanMode × Nat) :=
  match mode, opened, token.kind with
  | elementNext, opened, .name _ => .ok (elementPassed, opened)
  | elementNext, opened, .items => .ok (elementPassed, opened)
  | elementNext, opened, .plus => .ok (nameNext, opened)
  | elementNext, opened, .openBracket =>
      if opened < limit then .ok (elementNext, opened + 1)
      else .error (.nestingTooDeep token.position limit)
  | nameNext, opened, .name _ => .ok (elementPassed, opened)
  | elementPassed, opened, .dot => .ok (elementNext, opened)
  | elementPassed, opened, .colon => .ok (elementNext, opened)
  | elementPassed, opened, .comma => .ok (elementNext, opened)
  | elementPassed, opened + 1, .closeBracket => .ok (elementPassed, opened)
  | mode, opened, found =>
      .error (.unexpectedToken token.position found (mode.wanted opened))

/-- The tokens may end only after an element outside of all groups. -/
def isFinal : ScanMode → Nat → Bool
  | elementPassed, 0 => true
  | _, _ => false

def scan (limit finish : Nat) : ScanMode → Nat → List Token → Except SyntaxError Unit
  | mode, opened, [] =>
      if mode.isFinal opened then .ok () else .error (.unexpectedEnd finish (mode.wanted opened))
  | mode, opened, token :: rest =>
      match mode.step limit opened token with
      | .error error => .error error
      | .ok (next, count) => scan limit finish next count rest

end ScanMode

end Observe
