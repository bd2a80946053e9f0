import Observe.Proofs.Leaves
import Observe.Proofs.Numbering

namespace Observe

namespace Link

variable {chain : List Link} {link : Link}

/-- Below a step that ends its series, the flag of the outermost step is found. -/
theorem flag_of_last (last : ∀ inner ∈ chain, inner.isLast = true) :
    flag (chain ++ [link]) = link.notify := by
  have none : chain.find? (fun inner => ! inner.isLast) = none := by
    apply List.find?_eq_none.mpr
    intro inner member
    simp [last inner member]
  rw [flag, List.find?_append, none, Option.none_or, List.getLast?_concat]
  obtain ⟨notify, isLast⟩ := link
  cases isLast <;> rfl

theorem flag_of_inner (inner : ∃ inner ∈ chain, inner.isLast = false) :
    flag (chain ++ [link]) = flag chain := by
  obtain ⟨inner, member, more⟩ := inner
  have found : (chain.find? fun inner => ! inner.isLast).isSome := by
    apply List.find?_isSome.mpr
    exact ⟨inner, member, by simp [more]⟩
  obtain ⟨first, found⟩ := Option.isSome_iff_exists.mp found
  rw [flag, flag, List.find?_append, found]
  rfl

end Link

/-- Where a step of a path comes from. -/
structure Origin where
  occurrence : Occurrence
  chain : List Link
  deriving DecidableEq, Repr

namespace Origin

/-- The same origin, seen from around the step in whose group it lies. -/
def within (spot : Spot) (link : Link) (origin : Origin) : Origin :=
  ⟨spot :: origin.occurrence, origin.chain ++ [link]⟩

def step (leaves : Occurrence → Element) (origin : Origin) : Step :=
  ⟨leaves origin.occurrence, Link.flag origin.chain⟩

end Origin

mutual

/-- The origins of the steps of each path through an element. -/
def Element.routes : Element → List (List Origin)
  | .group branches => Expression.routesFrom 0 branches
  | _ => [[⟨[], []⟩]]
termination_by structural element => element

def Series.routesFrom (branch index : Nat) : Series → List (List Origin)
  | [] => [[]]
  | ⟨element, notify⟩ :: rest =>
      element.routes.flatMap fun start =>
        (Series.routesFrom branch (index + 1) rest).map fun continuation =>
          start.map (Origin.within ⟨branch, index⟩ ⟨notify, rest.isEmpty⟩) ++ continuation
termination_by structural series => series

def Expression.routesFrom (branch : Nat) : Expression → List (List Origin)
  | [] => []
  | series :: rest =>
      Series.routesFrom branch 0 series ++ Expression.routesFrom (branch + 1) rest
termination_by structural branches => branches

end

/-- The last step of a path ends all the series that its leaf stands in, and no other step does. -/
def Settled (route : List Origin) : Prop :=
  ∃ front last, route = front ++ [last] ∧ (∀ link ∈ last.chain, link.isLast = true) ∧
    ∀ origin ∈ front, ∃ link ∈ origin.chain, link.isLast = false

namespace Settled

variable {route start : List Origin} {spot : Spot} {notify : Bool}

theorem leaf : Settled [⟨[], []⟩] :=
  ⟨[], ⟨[], []⟩, rfl, List.forall_mem_nil _, List.forall_mem_nil _⟩

theorem within_last (settled : Settled route) :
    Settled (route.map (Origin.within spot ⟨notify, true⟩)) := by
  obtain ⟨front, last, rfl, allLast, inner⟩ := settled
  refine ⟨front.map (Origin.within spot ⟨notify, true⟩), last.within spot ⟨notify, true⟩,
    ?_, ?_, ?_⟩
  · rw [List.map_append, List.map_singleton]
  · exact List.forall_mem_append.mpr ⟨allLast, List.forall_mem_singleton.mpr rfl⟩
  · rw [List.forall_mem_map]
    intro origin member
    obtain ⟨link, memberLink, more⟩ := inner origin member
    exact ⟨link, List.mem_append_left _ memberLink, more⟩

theorem behind (settled : Settled route) :
    Settled (start.map (Origin.within spot ⟨notify, false⟩) ++ route) := by
  obtain ⟨front, last, rfl, allLast, inner⟩ := settled
  refine ⟨start.map (Origin.within spot ⟨notify, false⟩) ++ front, last, ?_, allLast, ?_⟩
  · rw [List.append_assoc]
  · refine List.forall_mem_append.mpr ⟨?_, inner⟩
    rw [List.forall_mem_map]
    intro origin _
    exact ⟨⟨notify, false⟩, List.mem_append_right _ (List.mem_singleton.mpr rfl), rfl⟩

/-- The flag that a group gives to the end of a path is the one that is found from the leaf at its
end, and from no other leaf. -/
theorem endWith_steps (settled : Settled route) (leaves : Occurrence → Element) (link : Link) :
    Path.endWith link.notify (route.map (Origin.step leaves)) =
      route.map fun origin => ⟨leaves origin.occurrence, Link.flag (origin.chain ++ [link])⟩ := by
  obtain ⟨front, last, rfl, allLast, inner⟩ := settled
  have kept : front.map (Origin.step leaves) = front.map fun origin =>
      ⟨leaves origin.occurrence, Link.flag (origin.chain ++ [link])⟩ := by
    apply List.map_congr_left
    intro origin member
    rw [Origin.step, Link.flag_of_inner (inner origin member)]
  rw [List.map_append, List.map_append, kept, Path.endWith_eq]
  simp [Link.flag_of_last allLast, Origin.step]

end Settled

mutual

theorem Element.settled_routes : (element : Element) → element.Filled →
    ∀ route ∈ element.routes, Settled route
  | .group branches, filled => Expression.settled_routes branches filled 0
  | .trait _, _ | .metadata _, _ | .items, _ => List.forall_mem_singleton.mpr .leaf
termination_by structural element => element

theorem Series.settled_routes : (series : Series) → series ≠ [] → Series.Filled series →
    ∀ branch index, ∀ route ∈ Series.routesFrom branch index series, Settled route
  | [], nonempty, _ => absurd rfl nonempty
  | [⟨element, notify⟩], _, ⟨filled, _⟩ => by
      intro branch index route member
      obtain ⟨start, memberStart, joined⟩ := List.mem_flatMap.mp member
      obtain rfl := List.mem_singleton.mp joined
      show Settled (start.map _ ++ [])
      rw [List.append_nil]
      exact (Element.settled_routes element filled start memberStart).within_last
  | ⟨element, notify⟩ :: second :: rest, _, ⟨_, filledRest⟩ => by
      intro branch index route member
      obtain ⟨start, _, joined⟩ := List.mem_flatMap.mp member
      obtain ⟨continuation, memberBehind, rfl⟩ := List.mem_map.mp joined
      exact (Series.settled_routes (second :: rest) (List.cons_ne_nil _ _) filledRest branch
        (index + 1) continuation memberBehind).behind
termination_by structural series => series

theorem Expression.settled_routes : (branches : Expression) → branches.Filled →
    ∀ branch, ∀ route ∈ Expression.routesFrom branch branches, Settled route
  | [], _, _ => List.forall_mem_nil _
  | series :: rest, ⟨nonempty, filled, filledRest⟩, branch =>
      List.forall_mem_append.mpr ⟨Series.settled_routes series nonempty filled branch 0,
        Expression.settled_routes rest filledRest (branch + 1)⟩
termination_by structural branches => branches

end

namespace Path

variable {α : Type}

theorem product_map (starts continuations : List (List α)) (moved : α → α) (step : α → Step) :
    product (starts.map (List.map (step ∘ moved))) (continuations.map (List.map step)) =
      (starts.flatMap fun start => continuations.map fun continuation =>
        start.map moved ++ continuation).map (List.map step) := by
  simp only [product, List.flatMap_map, List.map_flatMap, List.map_map, Function.comp_def,
    List.map_append]

end Path

theorem Element.expansions_of_isLeaf {element : Element} (leaf : element.IsLeaf) (notify : Bool) :
    element.expansions notify = [[⟨element, notify⟩]] := by
  cases element with
  | group branches => cases leaf
  | _ => rfl

mutual

theorem Element.expansions_withLeaves : (element : Element) → element.Filled →
    (leaves : Occurrence → Element) → (∀ occurrence, (leaves occurrence).IsLeaf) → (link : Link) →
    (element.withLeaves leaves).expansions link.notify =
      element.routes.map (List.map fun origin =>
        ⟨leaves origin.occurrence, Link.flag (origin.chain ++ [link])⟩)
  | .group branches, filled, leaves, isLeaf, link => by
      rw [Element.withLeaves, Element.expansions,
        Expression.paths_withLeavesFrom branches filled leaves isLeaf 0, List.map_map]
      -- The flag of the group is put on the last step of each path, and only the leaf of that step
      -- finds no flag below the group.
      apply List.map_congr_left
      intro route member
      exact (Expression.settled_routes branches filled 0 route member).endWith_steps leaves link
  | .trait _, _, leaves, isLeaf, link | .metadata _, _, leaves, isLeaf, link
  | .items, _, leaves, isLeaf, link => by
      show (leaves []).expansions link.notify = [[⟨leaves [], Link.flag ([] ++ [link])⟩]]
      rw [Element.expansions_of_isLeaf (isLeaf []), Link.flag_of_last (List.forall_mem_nil _)]
termination_by structural element => element

theorem Series.paths_withLeavesFrom : (series : Series) → Series.Filled series →
    (leaves : Occurrence → Element) → (∀ occurrence, (leaves occurrence).IsLeaf) →
    (branch index : Nat) →
    Series.paths (Series.withLeavesFrom leaves branch index series) =
      (Series.routesFrom branch index series).map (List.map (Origin.step leaves))
  | [], _, _, _, _, _ => rfl
  | ⟨element, notify⟩ :: rest, ⟨filled, filledRest⟩, leaves, isLeaf, branch, index => by
      have first := Element.expansions_withLeaves element filled
        (fun inner => leaves (⟨branch, index⟩ :: inner)) (fun _ => isLeaf _)
        ⟨notify, rest.isEmpty⟩
      rw [Series.withLeavesFrom, Series.paths, first,
        Series.paths_withLeavesFrom rest filledRest leaves isLeaf branch (index + 1)]
      exact Path.product_map _ _ (Origin.within ⟨branch, index⟩ ⟨notify, rest.isEmpty⟩)
        (Origin.step leaves)
termination_by structural series => series

theorem Expression.paths_withLeavesFrom : (branches : Expression) → branches.Filled →
    (leaves : Occurrence → Element) → (∀ occurrence, (leaves occurrence).IsLeaf) →
    (branch : Nat) →
    Expression.paths (Expression.withLeavesFrom leaves branch branches) =
      (Expression.routesFrom branch branches).map (List.map (Origin.step leaves))
  | [], _, _, _, _ => rfl
  | series :: rest, ⟨_, filled, filledRest⟩, leaves, isLeaf, branch => by
      rw [Expression.withLeavesFrom, Expression.paths,
        Series.paths_withLeavesFrom series filled leaves isLeaf branch 0,
        Expression.paths_withLeavesFrom rest filledRest leaves isLeaf (branch + 1),
        Expression.routesFrom, List.map_append]
termination_by structural branches => branches

end

mutual

theorem Element.leafAt?_routes : (element : Element) →
    ∀ route ∈ element.routes, ∀ origin ∈ route,
      ∃ leaf, element.leafAt? origin.occurrence = some (leaf, origin.chain)
  | .group branches => by
      intro route member origin memberOrigin
      obtain ⟨branch, index, inner, leaf, placed, found⟩ :=
        Expression.leafAt?_routes branches 0 route member origin memberOrigin
      rw [placed, Element.leafAt?_group, Nat.zero_add]
      exact ⟨leaf, found⟩
  | .trait _ | .metadata _ | .items =>
      List.forall_mem_singleton.mpr (List.forall_mem_singleton.mpr ⟨_, rfl⟩)
termination_by structural element => element

theorem Series.leafAt?_routes : (series : Series) → (branch index : Nat) →
    ∀ route ∈ Series.routesFrom branch index series, ∀ origin ∈ route,
      ∃ ahead inner leaf, origin.occurrence = ⟨branch, index + ahead⟩ :: inner ∧
        series.leafAt? ahead inner = some (leaf, origin.chain)
  | [], _, _ => List.forall_mem_singleton.mpr (List.forall_mem_nil _)
  | ⟨element, notify⟩ :: rest, branch, index => by
      intro route member origin memberOrigin
      obtain ⟨start, memberStart, joined⟩ := List.mem_flatMap.mp member
      obtain ⟨continuation, memberBehind, rfl⟩ := List.mem_map.mp joined
      rcases List.mem_append.mp memberOrigin with first | later
      · obtain ⟨inner, memberInner, rfl⟩ := List.mem_map.mp first
        obtain ⟨leaf, below⟩ :=
          Element.leafAt?_routes element start memberStart inner memberInner
        exact ⟨0, inner.occurrence, leaf, rfl, Series.leafAt?_zero below notify rest⟩
      · obtain ⟨ahead, inner, leaf, placed, found⟩ :=
          Series.leafAt?_routes rest branch (index + 1) continuation memberBehind origin later
        refine ⟨ahead + 1, inner, leaf, ?_, found⟩
        rw [placed, Nat.add_assoc, Nat.add_comm 1]
termination_by structural series => series

theorem Expression.leafAt?_routes : (branches : Expression) → (branch : Nat) →
    ∀ route ∈ Expression.routesFrom branch branches, ∀ origin ∈ route,
      ∃ ahead index inner leaf, origin.occurrence = ⟨branch + ahead, index⟩ :: inner ∧
        (branches[ahead]?.bind fun series => series.leafAt? index inner) =
          some (leaf, origin.chain)
  | [], _ => List.forall_mem_nil _
  | series :: rest, branch => by
      intro route member origin memberOrigin
      rcases List.mem_append.mp member with first | later
      · obtain ⟨index, inner, leaf, placed, found⟩ :=
          Series.leafAt?_routes series branch 0 route first origin memberOrigin
        rw [Nat.zero_add] at placed
        exact ⟨0, index, inner, leaf, placed, found⟩
      · obtain ⟨ahead, index, inner, leaf, placed, found⟩ :=
          Expression.leafAt?_routes rest (branch + 1) route later origin memberOrigin
        refine ⟨ahead + 1, index, inner, leaf, ?_, found⟩
        rw [placed, Nat.add_assoc, Nat.add_comm 1]
termination_by structural branches => branches

end

namespace Expression

variable {value : Expression} {number place : Nat} {path : Path} {step : Step}

/-- At a place of a path stands the leaf of one occurrence, whatever leaves the tree has. -/
def StemsFrom (value : Expression) (number place : Nat) (occurrence : Occurrence) : Prop :=
  ∀ leaves : Occurrence → Element, (∀ other, (leaves other).IsLeaf) →
    ∃ path step, (value.withLeaves leaves).paths[number]? = some path ∧
      path[place]? = some step ∧ step.element = leaves occurrence

theorem stemsFrom_of_route {route : List Origin} {origin : Origin} (filled : value.Filled)
    (atNumber : (routesFrom 0 value)[number]? = some route)
    (atPlace : route[place]? = some origin) : value.StemsFrom number place origin.occurrence := by
  intro leaves isLeaf
  refine ⟨route.map (Origin.step leaves), origin.step leaves, ?_, ?_, rfl⟩
  · rw [withLeaves, paths_withLeavesFrom value filled leaves isLeaf 0, List.getElem?_map, atNumber]
    rfl
  · rw [List.getElem?_map, atPlace]
    rfl

theorem exists_route (filled : value.Filled) (found : value.paths[number]? = some path)
    (stands : path[place]? = some step) :
    ∃ route origin, (routesFrom 0 value)[number]? = some route ∧
      route[place]? = some origin ∧ origin.step value.leaves = step := by
  rw [← withLeaves_leaves value, withLeaves,
    paths_withLeavesFrom value filled value.leaves value.isLeaf_leaves 0,
    List.getElem?_map] at found
  obtain ⟨route, atNumber, rfl⟩ := Option.map_eq_some_iff.mp found
  rw [List.getElem?_map] at stands
  obtain ⟨origin, atPlace, stepped⟩ := Option.map_eq_some_iff.mp stands
  exact ⟨route, origin, atNumber, atPlace, stepped⟩

/-- With a leaf at one occurrence that stands nowhere else, no other occurrence is possible. -/
theorem StemsFrom.unique {occurrence other : Occurrence}
    (stems : value.StemsFrom number place occurrence)
    (stemsOther : value.StemsFrom number place other) : other = occurrence := by
  let marked : Occurrence → Element := fun here => if here = occurrence then .items else .trait ""
  have isLeaf : ∀ here, (marked here).IsLeaf := by
    intro here
    simp only [marked]
    split <;> trivial
  obtain ⟨path, step, found, stands, marks⟩ := stems marked isLeaf
  obtain ⟨_, _, foundOther, standsOther, marksOther⟩ := stemsOther marked isLeaf
  obtain rfl := Option.some.inj (found.symm.trans foundOther)
  obtain rfl := Option.some.inj (stands.symm.trans standsOther)
  rw [marks] at marksOther
  by_contra apart
  simp [marked, apart] at marksOther

/-- Each step of each path stems from one leaf of the tree. Its flag is that of the leaf, or if this
ends its series of the group around it, and so on; at the top, it is the flag of the step there. -/
theorem paths_flagged (filled : value.Filled) (found : value.paths[number]? = some path)
    (stands : path[place]? = some step) :
    ∃ occurrence chain, (∀ other, value.StemsFrom number place other ↔ other = occurrence) ∧
      value.leafAt? occurrence = some (step.element, chain) ∧ step.notify = Link.flag chain := by
  obtain ⟨route, origin, atNumber, atPlace, rfl⟩ := exists_route filled found stands
  have stems := stemsFrom_of_route filled atNumber atPlace
  obtain ⟨leaf, leafFound⟩ := Element.leafAt?_routes (.group value) route
    (List.mem_of_getElem? atNumber) origin (List.mem_of_getElem? atPlace)
  have whole : value.leafAt? origin.occurrence = some (leaf, origin.chain) := leafFound
  have same : value.leaves origin.occurrence = leaf := by
    rw [leaves, whole]
    rfl
  refine ⟨origin.occurrence, origin.chain, fun other => ⟨stems.unique, ?_⟩, ?_, rfl⟩
  · rintro rfl
    exact stems
  · rw [whole, Origin.step, same]

/-- The flag of the outer group reaches the leaf, past that of the inner one. -/
theorem paths_flagged_nested :
    let value : Expression :=
      [[⟨.trait "a", false⟩, ⟨.group [[⟨.trait "b", false⟩,
        ⟨.group [[⟨.items, false⟩], [⟨.metadata "c", false⟩]], false⟩]], true⟩,
        ⟨.trait "d", false⟩]]
    value.Filled ∧
      value.paths[1]? = some [⟨.trait "a", false⟩, ⟨.trait "b", false⟩, ⟨.metadata "c", true⟩,
        ⟨.trait "d", false⟩] ∧
      ∃ occurrence chain, (∀ other, value.StemsFrom 1 2 other ↔ other = occurrence) ∧
        value.leafAt? occurrence = some (.metadata "c", chain) ∧ true = Link.flag chain := by
  intro value
  have filled : value.Filled := by
    simp [value, Expression.Filled, Series.Filled, Element.Filled]
  have found : value.paths[1]? = some [⟨.trait "a", false⟩, ⟨.trait "b", false⟩,
    ⟨.metadata "c", true⟩, ⟨.trait "d", false⟩] := rfl
  have flagged := paths_flagged filled found (List.getElem?_eq_getElem (by decide : 2 < 4))
  exact ⟨filled, found, flagged⟩

end Expression

end Observe
