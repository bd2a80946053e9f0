import Observe.Expression.Occurrence
import Observe.Proofs.Flattening

namespace Observe

/-- The leaf in the step at an index, as seen from around the series. -/
def Series.leafAt? (series : Series) (index : Nat) (inner : Occurrence) :
    Option (Element × List Link) := do
  let step ← series[index]?
  let (leaf, chain) ← step.element.leafAt? inner
  some (leaf, chain ++ [⟨step.notify, series[index + 1]?.isNone⟩])

theorem Element.leafAt?_group (branches : Expression) (spot : Spot) (inner : Occurrence) :
    (Element.group branches).leafAt? (spot :: inner) =
      branches[spot.branch]?.bind fun series => Series.leafAt? series spot.index inner :=
  rfl

theorem Series.leafAt?_zero {element leaf : Element} {chain : List Link} {inner : Occurrence}
    (below : element.leafAt? inner = some (leaf, chain)) (notify : Bool) (rest : Series) :
    Series.leafAt? (⟨element, notify⟩ :: rest) 0 inner =
      some (leaf, chain ++ [⟨notify, rest.isEmpty⟩]) := by
  have ends : rest[0]?.isNone = rest.isEmpty := by
    cases rest <;> rfl
  simp [Series.leafAt?, below, ends]

theorem Element.isLeaf_of_leafAt? {occurrence : Occurrence} {element leaf : Element}
    {chain : List Link} (found : element.leafAt? occurrence = some (leaf, chain)) :
    leaf.IsLeaf := by
  induction occurrence generalizing element chain with
  | nil =>
      cases element with
      | group branches => cases found
      | _ =>
          cases found
          trivial
  | cons spot inner ih =>
      cases element with
      | group branches =>
          rw [Element.leafAt?_group] at found
          obtain ⟨series, _, found⟩ := Option.bind_eq_some_iff.mp found
          obtain ⟨step, _, found⟩ := Option.bind_eq_some_iff.mp found
          obtain ⟨⟨below, inside⟩, deeper, found⟩ := Option.bind_eq_some_iff.mp found
          cases found
          exact ih deeper
      | _ => cases found

mutual

theorem Element.withLeaves_eq : (element : Element) → (leaves : Occurrence → Element) →
    (∀ occurrence leaf chain, element.leafAt? occurrence = some (leaf, chain) →
      leaves occurrence = leaf) →
    element.withLeaves leaves = element
  | .group branches, leaves, own => by
      rw [Element.withLeaves, Expression.withLeavesFrom_eq branches leaves 0]
      intro ahead index inner leaf chain found
      rw [Nat.zero_add]
      exact own _ leaf chain found
  | .trait _, _, own | .metadata _, _, own | .items, _, own => own [] _ [] rfl
termination_by structural element => element

theorem Series.withLeavesFrom_eq : (series : Series) → (leaves : Occurrence → Element) →
    (branch index : Nat) →
    (∀ ahead inner leaf chain, series.leafAt? ahead inner = some (leaf, chain) →
      leaves (⟨branch, index + ahead⟩ :: inner) = leaf) →
    Series.withLeavesFrom leaves branch index series = series
  | [], _, _, _, _ => rfl
  | ⟨element, notify⟩ :: rest, leaves, branch, index, own => by
      rw [Series.withLeavesFrom, Element.withLeaves_eq element,
        Series.withLeavesFrom_eq rest leaves branch (index + 1)]
      · intro ahead inner leaf chain found
        rw [Nat.add_assoc, Nat.add_comm 1]
        exact own (ahead + 1) inner leaf chain found
      · intro inner leaf chain below
        exact own 0 inner leaf _ (Series.leafAt?_zero below notify rest)
termination_by structural series => series

theorem Expression.withLeavesFrom_eq : (branches : Expression) → (leaves : Occurrence → Element) →
    (branch : Nat) →
    (∀ ahead index inner leaf chain,
      (branches[ahead]?.bind fun series => series.leafAt? index inner) = some (leaf, chain) →
      leaves (⟨branch + ahead, index⟩ :: inner) = leaf) →
    Expression.withLeavesFrom leaves branch branches = branches
  | [], _, _, _ => rfl
  | series :: rest, leaves, branch, own => by
      rw [Expression.withLeavesFrom, Series.withLeavesFrom_eq series leaves branch 0,
        Expression.withLeavesFrom_eq rest leaves (branch + 1)]
      · intro ahead index inner leaf chain found
        rw [Nat.add_assoc, Nat.add_comm 1]
        exact own (ahead + 1) index inner leaf chain found
      · intro ahead inner leaf chain found
        rw [Nat.zero_add]
        exact own 0 ahead inner leaf chain found
termination_by structural branches => branches

end

namespace Expression

/-- The leaves of a tree; where none stands, any will do. -/
def leaves (value : Expression) (occurrence : Occurrence) : Element :=
  ((value.leafAt? occurrence).map Prod.fst).getD .items

theorem isLeaf_leaves (value : Expression) (occurrence : Occurrence) :
    (value.leaves occurrence).IsLeaf := by
  unfold leaves
  cases found : value.leafAt? occurrence with
  | none => trivial
  | some below => exact Element.isLeaf_of_leafAt? found

theorem withLeaves_leaves (value : Expression) : value.withLeaves value.leaves = value := by
  apply withLeavesFrom_eq value value.leaves 0
  intro ahead index inner leaf chain found
  have whole : value.leafAt? (⟨ahead, index⟩ :: inner) = some (leaf, chain) := found
  rw [Nat.zero_add, leaves, whole]
  rfl

end Expression

end Observe
