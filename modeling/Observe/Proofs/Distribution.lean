import Observe.Expression.Occurrence
import Observe.Proofs.Numbering

namespace Observe

/-! The first group of a branch can be multiplied out. The branches that come of it have the same
paths, in the same order. -/

namespace Path

variable {front behind : Path} {starts continuations : List Path} {notify : Bool}

theorem endWith_endWith (notify first : Bool) (path : Path) :
    endWith notify (endWith first path) = endWith notify path := by
  rcases List.eq_nil_or_concat path with nothing | ⟨front, last, whole⟩
  · rw [nothing]
    rfl
  · rw [whole]
    simp [endWith_eq]

theorem endWith_append (nonempty : behind ≠ []) :
    endWith notify (front ++ behind) = front ++ endWith notify behind := by
  rw [endWith_eq, endWith_eq, List.dropLast_append_of_ne_nil nonempty,
    List.getLast?_append_of_ne_nil front nonempty, List.append_assoc]

theorem product_append (starts others continuations : List Path) :
    product (starts ++ others) continuations =
      product starts continuations ++ product others continuations :=
  List.flatMap_append

theorem product_singleton_append (start : Path) (continuations others : List Path) :
    product [start] (continuations ++ others) =
      product [start] continuations ++ product [start] others := by
  simp [product]

/-- A flag at the end of all the continuations is a flag at the end of the whole paths. -/
theorem product_map_endWith (nonempty : ∀ path ∈ continuations, path ≠ []) :
    product starts (continuations.map (endWith notify)) =
      (product starts continuations).map (endWith notify) := by
  rw [product, product, List.map_flatMap]
  apply List.flatMap_congr
  intro start _
  rw [List.map_map, List.map_map]
  apply List.map_congr_left
  intro path member
  exact (endWith_append (nonempty path member)).symm

end Path

mutual

theorem Element.ne_nil_of_mem_expansions : (element : Element) → element.Filled →
    ∀ notify, ∀ path ∈ element.expansions notify, path ≠ []
  | .group branches, filled => by
      intro notify path member
      obtain ⟨inner, memberInner, rfl⟩ := List.mem_map.mp member
      have nonempty := Expression.ne_nil_of_mem_paths branches filled inner memberInner
      rw [← List.length_pos_iff] at nonempty ⊢
      rwa [Path.length_endWith]
  | .trait _, _ | .metadata _, _ | .items, _ =>
      fun _ => List.forall_mem_singleton.mpr (List.cons_ne_nil _ _)
termination_by structural element => element

theorem Series.ne_nil_of_mem_paths : (series : Series) → series ≠ [] → Series.Filled series →
    ∀ path ∈ Series.paths series, path ≠ []
  | [], nonempty, _ => absurd rfl nonempty
  | ⟨element, notify⟩ :: rest, _, ⟨filled, _⟩ => by
      intro path member
      obtain ⟨start, memberStart, continuation, _, rfl⟩ := Path.mem_product.mp member
      have nonempty := Element.ne_nil_of_mem_expansions element filled notify start memberStart
      exact List.append_ne_nil_of_left_ne_nil nonempty continuation
termination_by structural series => series

theorem Expression.ne_nil_of_mem_paths : (branches : Expression) → branches.Filled →
    ∀ path ∈ Expression.paths branches, path ≠ []
  | [], _ => List.forall_mem_nil _
  | series :: rest, ⟨nonempty, filled, filledRest⟩ =>
      List.forall_mem_append.mpr ⟨Series.ne_nil_of_mem_paths series nonempty filled,
        Expression.ne_nil_of_mem_paths rest filledRest⟩
termination_by structural branches => branches

end

theorem Element.map_endWith_expansions (element : Element) (notify first : Bool) :
    (element.expansions first).map (Path.endWith notify) = element.expansions notify := by
  cases element with
  | group branches =>
      rw [Element.expansions, Element.expansions, List.map_map]
      exact List.map_congr_left fun path _ => Path.endWith_endWith notify first path
  | _ => rfl

theorem Series.paths_endWith (notify : Bool) {series : Series} (filled : Series.Filled series) :
    Series.paths (Path.endWith notify series) =
      (Series.paths series).map (Path.endWith notify) := by
  induction series with
  | nil => rfl
  | cons step rest ih =>
      obtain ⟨element, first⟩ := step
      obtain ⟨_, filledRest⟩ := filled
      cases rest with
      | nil =>
          have alone : ∀ flag, Series.paths [⟨element, flag⟩] = element.expansions flag :=
            fun flag => Path.product_singleton_nil (element.expansions flag)
          rw [Path.endWith, alone, alone, Element.map_endWith_expansions]
      | cons second others =>
          have nonempty := Series.ne_nil_of_mem_paths (second :: others) (List.cons_ne_nil _ _)
            filledRest
          -- The flag goes to the rest, which is not empty, and so has no empty path.
          have kept : Path.endWith notify (⟨element, first⟩ :: second :: others) =
              ⟨element, first⟩ :: Path.endWith notify (second :: others) := rfl
          rw [kept, Series.paths, ih filledRest, Path.product_map_endWith nonempty, Series.paths]

theorem Series.paths_append (front behind : Series) :
    Series.paths (front ++ behind) = Path.product (Series.paths front) (Series.paths behind) := by
  induction front with
  | nil => exact (Path.product_nil_singleton _).symm
  | cons step rest ih =>
      obtain ⟨element, notify⟩ := step
      rw [List.cons_append, Series.paths, ih, Series.paths, Path.product_assoc]

namespace Expression

theorem paths_append (before after : Expression) :
    Expression.paths (before ++ after) = before.paths ++ after.paths := by
  rw [paths_eq_flatMap, paths_eq_flatMap, paths_eq_flatMap, List.flatMap_append]

/-- One branch for each branch of a group, with what stands around the group. -/
def distributed (front : Series) (inner : Expression) (notify : Bool) (behind : Series) :
    Expression :=
  inner.map fun branch => front ++ Path.endWith notify branch ++ behind

/-- The first group of a branch is multiplied out, at the top or inside of a group. -/
inductive Distributes : Expression → Expression → Prop
  | here {before inner after : Expression} {front behind : Series} {notify : Bool}
      (flat : Path.IsFlat front) :
      Distributes (before ++ (front ++ ⟨.group inner, notify⟩ :: behind) :: after)
        (before ++ distributed front inner notify behind ++ after)
  | inside {before inner other after : Expression} {front behind : Series} {notify : Bool}
      (deeper : Distributes inner other) :
      Distributes (before ++ (front ++ ⟨.group inner, notify⟩ :: behind) :: after)
        (before ++ (front ++ ⟨.group other, notify⟩ :: behind) :: after)

variable {value other inner : Expression} {front behind : Series} {notify : Bool}

theorem paths_distributed (flat : Path.IsFlat front) (filled : inner.Filled) :
    (distributed front inner notify behind).paths =
      Series.paths (front ++ ⟨.group inner, notify⟩ :: behind) := by
  rw [Series.paths_append, Series.paths_of_isFlat flat, Series.paths, Element.expansions]
  induction inner with
  | nil => simp [distributed, Expression.paths, Path.product]
  | cons branch rest ih =>
      obtain ⟨_, filledBranch, filledRest⟩ := filled
      have first : Series.paths (front ++ Path.endWith notify branch ++ behind) =
          Path.product [front] (Path.product ((Series.paths branch).map (Path.endWith notify))
            (Series.paths behind)) := by
        rw [Series.paths_append, Series.paths_append, Series.paths_of_isFlat flat,
          Series.paths_endWith notify filledBranch, Path.product_assoc]
      rw [distributed, List.map_cons, Expression.paths, first, ← distributed, ih filledRest,
        Expression.paths, List.map_append, Path.product_append, Path.product_singleton_append]

theorem filled_around {before after : Expression} {branch : Series}
    (filled : Expression.Filled (before ++ branch :: after)) : Series.Filled branch := by
  induction before with
  | nil => exact filled.2.1
  | cons first rest ih => exact ih filled.2.2

theorem filled_group (filled : Series.Filled (front ++ ⟨.group inner, notify⟩ :: behind)) :
    inner.Filled := by
  induction front with
  | nil => exact filled.1
  | cons step rest ih =>
      obtain ⟨element, first⟩ := step
      exact ih filled.2

/-- Where no series is empty, multiplying out the first group of a branch leaves the paths as they
are. -/
theorem paths_distributes (filled : value.Filled) (distributes : Distributes value other) :
    other.paths = value.paths := by
  induction distributes with
  | here flat =>
      have filledInner := filled_group (filled_around filled)
      rw [List.append_assoc, paths_append, paths_append, paths_append, Expression.paths,
        paths_distributed flat filledInner]
  | inside deeper ih =>
      have same := ih (filled_group (filled_around filled))
      rw [paths_append, paths_append, Expression.paths, Expression.paths, Series.paths_append,
        Series.paths_append, Series.paths, Series.paths, Element.expansions, Element.expansions,
        same]

/-- The group in the first branch ends its last series, so the flag of the outer one goes to it. -/
theorem paths_distributes_nested :
    let last : Element := .group [[⟨.items, false⟩], [⟨.trait "c", false⟩]]
    let group : Element :=
      .group [[⟨.trait "b", true⟩, ⟨last, false⟩], [⟨.metadata "d", false⟩]]
    let value : Expression :=
      [[⟨.trait "a", false⟩, ⟨group, true⟩, ⟨.trait "e", false⟩], [⟨.items, false⟩]]
    let other : Expression :=
      [[⟨.trait "a", false⟩, ⟨.trait "b", true⟩, ⟨last, true⟩, ⟨.trait "e", false⟩],
        [⟨.trait "a", false⟩, ⟨.metadata "d", true⟩, ⟨.trait "e", false⟩], [⟨.items, false⟩]]
    value.Filled ∧ Distributes value other ∧ other.paths = value.paths := by
  intro last group value other
  have filled : value.Filled := by
    simp [value, group, last, Expression.Filled, Series.Filled, Element.Filled]
  have flat : Path.IsFlat [⟨.trait "a", false⟩] := List.forall_mem_singleton.mpr trivial
  have distributes : Distributes value other :=
    @Distributes.here [] _ [[⟨.items, false⟩]] _ [⟨.trait "e", false⟩] true flat
  exact ⟨filled, distributes, paths_distributes filled distributes⟩

end Expression

end Observe
