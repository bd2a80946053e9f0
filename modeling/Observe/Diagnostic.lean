import Observe.Error
import Observe.Text.Blank
import Observe.Text.Padding
import Observe.Text.Utf8

namespace Observe.Diagnostic

open Observe.Text

/-- The input on one line: each blank becomes a space. -/
def shown (input : String) : String :=
  String.ofList (input.toList.map fun c => if isBlank c then ' ' else c)

/-- The number of characters before a byte position. One that no character ends or begins at
counts as the end of the input. -/
def column (input : String) (position : Nat) : Nat :=
  (charsBefore? position input.toList).getD input.toList.length

/-- Three lines: the message, the input and the caret, unless the caret stands too far right. -/
def render? (input : String) (error : ExpressionError) : Option String :=
  (pad? (column input error.position) "^").map fun caret =>
    "error: " ++ error.message ++ "\n  " ++ shown input ++ "\n  " ++ caret

end Observe.Diagnostic
