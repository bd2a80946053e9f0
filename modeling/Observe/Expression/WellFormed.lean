import Observe.Expression.Parser

namespace Observe

mutual

def Element.Proper : Element → Prop
  | .trait name => IsName name
  | .metadata name => IsName name
  | .items => True
  | .group branches => Expression.Proper branches
termination_by structural element => element

/-- A series has a step, and the last of them does not notify. -/
def Series.Proper : Series → Prop
  | [] => False
  | ⟨element, notify⟩ :: rest =>
      element.Proper ∧ if rest.isEmpty then notify = false else Series.Proper rest
termination_by structural series => series

def Expression.Proper : Expression → Prop
  | [] => False
  | series :: rest =>
      Series.Proper series ∧ if rest.isEmpty then True else Expression.Proper rest
termination_by structural branches => branches

end

/-- No group is empty, all names are words, and the groups nest no deeper than a text may. -/
def Expression.WellFormed (expression : Expression) : Prop :=
  expression.Proper ∧ expression.depth ≤ Parser.maximalDepth

end Observe
