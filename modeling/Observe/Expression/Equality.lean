import Observe.Expression

namespace Observe

mutual

def Element.decideEq : (left right : Element) → Decidable (left = right)
  | .trait left, .trait right | .metadata left, .metadata right =>
      decidable_of_iff (left = right) (by simp)
  | .items, .items => .isTrue rfl
  | .group left, .group right =>
      have := Expression.decideEq left right
      decidable_of_iff (left = right) (by simp)
  | .trait _, .metadata _ | .trait _, .items | .trait _, .group _
  | .metadata _, .trait _ | .metadata _, .items | .metadata _, .group _
  | .items, .trait _ | .items, .metadata _ | .items, .group _
  | .group _, .trait _ | .group _, .metadata _ | .group _, .items => .isFalse (by simp)

def Series.decideEq : (left right : Series) → Decidable (left = right)
  | [], [] => .isTrue rfl
  | ⟨left, notify⟩ :: lefts, ⟨right, notifies⟩ :: rights =>
      have := Element.decideEq left right
      have := Series.decideEq lefts rights
      decidable_of_iff ((left = right ∧ notify = notifies) ∧ lefts = rights) (by simp)
  | [], _ :: _ | _ :: _, [] => .isFalse (by simp)

def Expression.decideEq : (left right : Expression) → Decidable (left = right)
  | [], [] => .isTrue rfl
  | left :: lefts, right :: rights =>
      have := Series.decideEq left right
      have := Expression.decideEq lefts rights
      decidable_of_iff (left = right ∧ lefts = rights) (by simp)
  | [], _ :: _ | _ :: _, [] => .isFalse (by simp)

end

instance : DecidableEq Element := Element.decideEq

instance : DecidableEq Step
  | ⟨left, notify⟩, ⟨right, notifies⟩ =>
      decidable_of_iff (left = right ∧ notify = notifies) (by simp)

end Observe
