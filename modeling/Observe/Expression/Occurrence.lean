import Observe.Expression.Path

namespace Observe

mutual

def Element.Filled : Element → Prop
  | .group branches => Expression.Filled branches
  | _ => True
termination_by structural element => element

def Series.Filled : Series → Prop
  | [] => True
  | ⟨element, _⟩ :: rest => element.Filled ∧ Series.Filled rest
termination_by structural series => series

/-- No series is empty, at no level. -/
def Expression.Filled : Expression → Prop
  | [] => True
  | series :: rest => series ≠ [] ∧ Series.Filled series ∧ Expression.Filled rest
termination_by structural branches => branches

end

/-- The place of a step: which branch it stands in, and how many steps stand before it there. -/
structure Spot where
  branch : Nat
  index : Nat
  deriving DecidableEq, Repr

/-- The way down to a leaf: the spot of a step at the top, then of one in the group there, and so on
to the leaf. -/
abbrev Occurrence := List Spot

/-- A step that a leaf stands in: the leaf itself or one of the groups around it. -/
structure Link where
  notify : Bool
  isLast : Bool
  deriving DecidableEq, Repr

/-- The flag that is found on the way up from a leaf: the one of the first step that does not end
its series, or of the outermost step if they all do. -/
def Link.flag (chain : List Link) : Bool :=
  ((chain.find? fun link => ! link.isLast).or chain.getLast?).any Link.notify

/-- The leaf at an occurrence, and the chain of the steps that it stands in, itself first. -/
def Element.leafAt? : Occurrence → Element → Option (Element × List Link)
  | [], .group _ => none
  | [], leaf => some (leaf, [])
  | ⟨branch, index⟩ :: inner, .group branches => do
      let series ← branches[branch]?
      let step ← series[index]?
      let (leaf, chain) ← Element.leafAt? inner step.element
      some (leaf, chain ++ [⟨step.notify, series[index + 1]?.isNone⟩])
  | _ :: _, _ => none

def Expression.leafAt? (occurrence : Occurrence) (branches : Expression) :
    Option (Element × List Link) :=
  Element.leafAt? occurrence (.group branches)

mutual

/-- The same tree with other leaves: at each occurrence the one that is given for it. -/
def Element.withLeaves (leaves : Occurrence → Element) : Element → Element
  | .group branches => .group (Expression.withLeavesFrom leaves 0 branches)
  | _ => leaves []
termination_by structural element => element

def Series.withLeavesFrom (leaves : Occurrence → Element) (branch index : Nat) : Series → Series
  | [] => []
  | ⟨element, notify⟩ :: rest =>
      ⟨element.withLeaves fun inner => leaves (⟨branch, index⟩ :: inner), notify⟩ ::
        Series.withLeavesFrom leaves branch (index + 1) rest
termination_by structural series => series

def Expression.withLeavesFrom (leaves : Occurrence → Element) (branch : Nat) :
    Expression → Expression
  | [] => []
  | series :: rest =>
      Series.withLeavesFrom leaves branch 0 series ::
        Expression.withLeavesFrom leaves (branch + 1) rest
termination_by structural branches => branches

end

def Expression.withLeaves (leaves : Occurrence → Element) (branches : Expression) : Expression :=
  Expression.withLeavesFrom leaves 0 branches

end Observe
