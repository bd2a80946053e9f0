import Observe.Expression
import Observe.Text.Padding

namespace Observe

/-- A node of a tree, which is drawn on a line of its own. -/
structure TreeLine where
  level : Nat
  label : String
  deriving DecidableEq, Repr

def flagLabel (notify : Bool) : String := if notify then "(notify)" else "(quiet)"

mutual

def Element.treeLines (level : Nat) (notify : Bool) : Element → List TreeLine
  | .trait name => [⟨level, "trait " ++ name ++ " " ++ flagLabel notify⟩]
  | .metadata name => [⟨level, "metadata " ++ name ++ " " ++ flagLabel notify⟩]
  | .items => [⟨level, "items " ++ flagLabel notify⟩]
  | .group branches =>
      ⟨level, "group " ++ flagLabel notify⟩ :: ⟨level + 1, "parallel"⟩ ::
        Expression.branchLines (level + 2) branches
termination_by structural element => element

def Series.treeLines (level : Nat) : Series → List TreeLine
  | [] => []
  | ⟨element, notify⟩ :: rest => element.treeLines level notify ++ Series.treeLines level rest
termination_by structural series => series

def Expression.branchLines (level : Nat) : Expression → List TreeLine
  | [] => []
  | series :: rest =>
      ⟨level, "series"⟩ ::
        (Series.treeLines (level + 1) series ++ Expression.branchLines level rest)
termination_by structural branches => branches

end

def Expression.treeLines (expression : Expression) : List TreeLine :=
  ⟨0, "parallel"⟩ :: expression.branchLines 1

/-- A line is indented by so many columns for each level. The product is taken in 64 bits. -/
def TreeLine.render? (indent : UInt64) (line : TreeLine) : Option String :=
  Text.pad? (UInt64.ofNat line.level * indent).toNat line.label

/-- The tree, unless one of its lines is indented too far. -/
def Expression.tree? (indent : UInt64) (expression : Expression) : Option String :=
  (expression.treeLines.mapM (TreeLine.render? indent)).map ("\n".intercalate ·)

end Observe
