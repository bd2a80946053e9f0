import Observe.Expression

namespace Observe

/-- What a series becomes when its groups are expanded: steps without a group. -/
abbrev Path := List Step

namespace Path

/-- Gives the last step of a path, if there is one, the flag. -/
def endWith (notify : Bool) : Path → Path
  | [] => []
  | [last] => [⟨last.element, notify⟩]
  | first :: rest => first :: endWith notify rest

/-- Every path of the first list before every path of the second, the second varying faster. -/
def product (starts continuations : List Path) : List Path :=
  starts.flatMap fun start => continuations.map (start ++ ·)

@[simp] theorem length_endWith (notify : Bool) (path : Path) :
    (endWith notify path).length = path.length := by
  fun_induction endWith notify path <;> simp_all

@[simp] theorem length_product (starts continuations : List Path) :
    (product starts continuations).length = starts.length * continuations.length := by
  induction starts with
  | nil => simp [product]
  | cons start rest ih =>
      simp only [product, List.flatMap_cons, List.length_append, List.length_map,
        List.length_cons, Nat.succ_mul] at ih ⊢
      omega

end Path

mutual

/-- The paths that a step of a series stands for. A path out of a group goes on with what follows
the group, so it ends with the flag of the group. -/
def Element.expansions : Element → Bool → List Path
  | .group branches, notify => (Expression.paths branches).map (Path.endWith notify)
  | leaf, notify => [[⟨leaf, notify⟩]]
termination_by structural element => element

def Series.paths : Series → List Path
  | [] => [[]]
  | ⟨element, notify⟩ :: rest => Path.product (element.expansions notify) (Series.paths rest)
termination_by structural series => series

def Expression.paths : Expression → List Path
  | [] => []
  | series :: rest => Series.paths series ++ Expression.paths rest
termination_by structural branches => branches

end

end Observe
