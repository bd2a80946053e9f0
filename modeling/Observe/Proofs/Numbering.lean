import Mathlib.Algebra.BigOperators.Group.List.Basic
import Mathlib.Data.List.Forall2
import Observe.Proofs.Flattening

namespace Observe

/-! The paths of a series are counted and numbered. Each step gives a digit, which says the how
manieth of its expansions a path takes; the digit of the last step changes fastest. -/

namespace Radix

variable {bases digits : List Nat} {number : Nat}

/-- The number that digits write. The last digit counts ones, and any other as many as all the
digits behind it can write. -/
def value : List Nat → List Nat → Nat
  | _ :: bases, digit :: digits => digit * bases.prod + value bases digits
  | _, _ => 0

def digitsOf : List Nat → Nat → List Nat
  | [], _ => []
  | _ :: bases, number => number / bases.prod :: digitsOf bases (number % bases.prod)

structure Writes (bases digits : List Nat) (number : Nat) : Prop where
  bounded : List.Forall₂ (· < ·) digits bases
  reached : value bases digits = number

theorem value_lt (bounded : List.Forall₂ (· < ·) digits bases) :
    value bases digits < bases.prod := by
  induction bounded with
  | nil => simp [value]
  | @cons digit base digits bases small _ ih =>
      calc digit * bases.prod + value bases digits
        _ < digit * bases.prod + bases.prod := Nat.add_lt_add_left ih _
        _ = (digit + 1) * bases.prod := (Nat.succ_mul ..).symm
        _ ≤ base * bases.prod := Nat.mul_le_mul_right _ small
        _ = (base :: bases).prod := List.prod_cons.symm

theorem writes_digitsOf (below : number < bases.prod) :
    Writes bases (digitsOf bases number) number := by
  induction bases generalizing number with
  | nil =>
      obtain rfl : number = 0 := by simpa using below
      exact ⟨.nil, rfl⟩
  | cons base bases ih =>
      rw [List.prod_cons] at below
      have positive : 0 < bases.prod := Nat.pos_of_mul_pos_left (Nat.zero_lt_of_lt below)
      obtain ⟨bounded, reached⟩ := ih (Nat.mod_lt number positive)
      refine ⟨.cons (Nat.div_lt_of_lt_mul (Nat.mul_comm .. ▸ below)) bounded, ?_⟩
      rw [digitsOf, value, reached]
      exact Nat.div_add_mod' number bases.prod

/-- Only these digits write the number. -/
theorem Writes.eq_digitsOf (writes : Writes bases digits number) :
    digits = digitsOf bases number := by
  obtain ⟨bounded, rfl⟩ := writes
  induction bounded with
  | nil => rfl
  | @cons digit base digits bases small bounded ih =>
      have below := value_lt bounded
      have positive : 0 < bases.prod := Nat.zero_lt_of_lt below
      rw [value, digitsOf, Nat.add_comm, Nat.add_mul_div_right _ _ positive,
        Nat.div_eq_of_lt below, Nat.zero_add, Nat.add_mul_mod_self_right, Nat.mod_eq_of_lt below,
        ← ih]

end Radix

mutual

/-- The number of ways to pass an element, counted without making the paths. -/
def Element.width : Element → Nat
  | .group branches => Expression.width branches
  | _ => 1
termination_by structural element => element

def Series.width : Series → Nat
  | [] => 1
  | ⟨element, _⟩ :: rest => element.width * Series.width rest
termination_by structural series => series

def Expression.width : Expression → Nat
  | [] => 0
  | series :: rest => Series.width series + Expression.width rest
termination_by structural branches => branches

end

/-- The bases in which the paths of a series are numbered. -/
def Series.widths (series : Series) : List Nat := series.map fun step => step.element.width

mutual

theorem Element.length_expansions : (element : Element) → (notify : Bool) →
    (element.expansions notify).length = element.width
  | .group branches, notify => by
      rw [Element.expansions, List.length_map, Expression.length_paths branches, Element.width]
  | .trait _, _ | .metadata _, _ | .items, _ => rfl
termination_by structural element => element

theorem Series.length_paths : (series : Series) → (Series.paths series).length = series.width
  | [] => rfl
  | ⟨element, notify⟩ :: rest => by
      rw [Series.paths, Path.length_product, Element.length_expansions element notify,
        Series.length_paths rest, Series.width]
termination_by structural series => series

theorem Expression.length_paths : (branches : Expression) →
    (Expression.paths branches).length = branches.width
  | [] => rfl
  | series :: rest => by
      rw [Expression.paths, List.length_append, Series.length_paths series,
        Expression.length_paths rest, Expression.width]
termination_by structural branches => branches

end

theorem Series.width_eq_prod (series : Series) : series.width = series.widths.prod := by
  induction series with
  | nil => rfl
  | cons step rest ih =>
      obtain ⟨element, notify⟩ := step
      rw [Series.width, ih]
      exact List.prod_cons.symm

theorem Expression.width_eq_sum (branches : Expression) :
    branches.width = (branches.map fun series => (Series.paths series).length).sum := by
  induction branches with
  | nil => rfl
  | cons series rest ih =>
      rw [Expression.width, ih, List.map_cons, List.sum_cons, Series.length_paths]

theorem Expression.paths_eq_flatMap (branches : Expression) :
    branches.paths = branches.flatMap Series.paths := by
  induction branches with
  | nil => rfl
  | cons series rest ih => rw [Expression.paths, ih, List.flatMap_cons]

namespace Path

variable {start continuation : Path} {starts continuations : List Path} {first second : Nat}

theorem product_assoc (starts continuations endings : List Path) :
    product (product starts continuations) endings =
      product starts (product continuations endings) := by
  simp only [product, List.flatMap_assoc, List.map_flatMap, List.flatMap_map, List.map_map,
    Function.comp_def, List.append_assoc]

theorem product_nil_singleton (continuations : List Path) :
    product [[]] continuations = continuations := by
  simp [product]

theorem endWith_eq (notify : Bool) (path : Path) :
    endWith notify path =
      path.dropLast ++ path.getLast?.toList.map fun last => ⟨last.element, notify⟩ := by
  fun_induction endWith notify path with
  | case1 => rfl
  | case2 last => rfl
  | case3 first rest nonempty ih =>
      rw [List.dropLast_cons_of_ne_nil nonempty, List.getLast?_cons_of_ne_nil nonempty,
        List.cons_append, ih]

theorem getElem?_product (foundFirst : starts[first]? = some start)
    (foundSecond : continuations[second]? = some continuation) :
    (product starts continuations)[first * continuations.length + second]? =
      some (start ++ continuation) := by
  induction starts generalizing first with
  | nil => simp at foundFirst
  | cons other rest ih =>
      -- The first start takes up as many places as there are continuations.
      have within : second < continuations.length := (List.getElem?_eq_some_iff.mp foundSecond).1
      rw [product, List.flatMap_cons]
      cases first with
      | zero =>
          obtain rfl : other = start := by simpa using foundFirst
          rw [Nat.zero_mul, Nat.zero_add, List.getElem?_append_left (by simpa using within),
            List.getElem?_map, foundSecond, Option.map_some]
      | succ first =>
          have behind : (first + 1) * continuations.length + second -
              (continuations.map (other ++ ·)).length =
              first * continuations.length + second := by
            rw [List.length_map, Nat.succ_mul]
            omega
          rw [List.getElem?_append_right (by rw [List.length_map, Nat.succ_mul]; omega), behind]
          exact ih foundFirst

end Path

/-- What is made of the paths so far, step after step from the left. -/
theorem Series.foldl_product (series : Series) (current : List Path) :
    series.foldl (fun current step =>
        Path.product current (step.element.expansions step.notify)) current =
      Path.product current (Series.paths series) := by
  induction series generalizing current with
  | nil => exact (Path.product_singleton_nil current).symm
  | cons step rest ih =>
      obtain ⟨element, notify⟩ := step
      rw [List.foldl_cons, ih, Series.paths, Path.product_assoc]

/-- The path that takes from every step the expansion with the number given for it. -/
def Series.pathAt? : Series → List Nat → Option Path
  | [], [] => some []
  | ⟨element, notify⟩ :: rest, digit :: digits => do
      let front ← (element.expansions notify)[digit]?
      let behind ← Series.pathAt? rest digits
      some (front ++ behind)
  | _, _ => none

theorem Series.getElem?_paths {series : Series} {digits : List Nat}
    (bounded : List.Forall₂ (· < ·) digits series.widths) :
    ∃ path, series.pathAt? digits = some path ∧
      (Series.paths series)[Radix.value series.widths digits]? = some path := by
  induction series generalizing digits with
  | nil =>
      cases bounded
      exact ⟨[], rfl, rfl⟩
  | cons step rest ih =>
      obtain ⟨element, notify⟩ := step
      cases bounded with
      | @cons digit _ digits _ small bounded =>
          obtain ⟨behind, chosen, found⟩ := ih bounded
          have within : digit < (element.expansions notify).length := by
            rw [Element.length_expansions]
            exact small
          have front := List.getElem?_eq_getElem within
          refine ⟨(element.expansions notify)[digit] ++ behind, ?_, ?_⟩
          · simp [Series.pathAt?, front, chosen]
          · have below := Path.getElem?_product front found
            rwa [Series.length_paths, Series.width_eq_prod] at below

/-- The paths of a series are as many as the product of the counts of expansions. The one at an
index takes the expansions that the digits of the index number, and this is the order in which they
are made step after step from the left. A leaf has itself as its only expansion. A group has the
paths of its branches in order, ended with the flag of the group. No group is left in any path. -/
theorem Series.paths_numbered (series : Series) :
    (Series.paths series).length = series.widths.prod ∧
    (series.foldl (fun current step =>
      Path.product current (step.element.expansions step.notify)) [[]] = Series.paths series) ∧
    (∀ index < series.widths.prod, ∃ digits path,
      (∀ others, Radix.Writes series.widths others index ↔ others = digits) ∧
      series.pathAt? digits = some path ∧ (Series.paths series)[index]? = some path) ∧
    (∀ (element : Element) (notify : Bool), element.IsLeaf →
      element.width = 1 ∧ element.expansions notify = [[⟨element, notify⟩]]) ∧
    (∀ (branches : Expression) (notify : Bool),
      (Element.group branches).width =
        (branches.map fun branch => (Series.paths branch).length).sum ∧
      (Element.group branches).expansions notify =
        (branches.flatMap Series.paths).map fun path =>
          path.dropLast ++ path.getLast?.toList.map fun last => ⟨last.element, notify⟩) ∧
    (∀ branches : Expression, branches.paths = branches.flatMap Series.paths) ∧
    (∀ path ∈ Series.paths series, Path.IsFlat path) ∧
    ∀ branches : Expression, ∀ path ∈ branches.paths, Path.IsFlat path := by
  refine ⟨?_, ?_, ?_, ?_, ?_, Expression.paths_eq_flatMap, Series.isFlat_paths series,
    Expression.isFlat_paths⟩
  · rw [Series.length_paths, Series.width_eq_prod]
  · rw [Series.foldl_product, Path.product_nil_singleton]
  · intro index below
    have writes := Radix.writes_digitsOf below
    obtain ⟨path, chosen, found⟩ := Series.getElem?_paths writes.bounded
    rw [writes.reached] at found
    refine ⟨Radix.digitsOf series.widths index, path, fun others => ⟨?_, ?_⟩, chosen, found⟩
    · exact Radix.Writes.eq_digitsOf
    · rintro rfl
      exact writes
  · intro element notify leaf
    cases element with
    | group branches => cases leaf
    | _ => exact ⟨rfl, rfl⟩
  · intro branches notify
    refine ⟨Expression.width_eq_sum branches, ?_⟩
    rw [Element.expansions, Expression.paths_eq_flatMap]
    exact List.map_congr_left fun path _ => Path.endWith_eq notify path

/-- An empty group leaves no path, an empty series one, and the last digit changes fastest. -/
theorem Series.paths_numbered_mixed :
    let series : Series :=
      [⟨.group [[⟨.trait "a", true⟩, ⟨.trait "b", false⟩], []], true⟩, ⟨.items, false⟩,
        ⟨.group [[⟨.trait "c", true⟩], [⟨.group [], true⟩], [⟨.metadata "d", true⟩]], false⟩]
    series.widths = [2, 1, 2] ∧ 3 < series.widths.prod ∧
      (Series.paths series)[3]? = some [⟨.items, false⟩, ⟨.metadata "d", false⟩] ∧
      (Series.paths series).length = 4 := by
  intro series
  have below : 3 < series.widths.prod := by decide
  obtain ⟨count, _, numbered, _⟩ := Series.paths_numbered series
  obtain ⟨digits, path, only, chosen, found⟩ := numbered 3 below
  obtain rfl : [1, 0, 1] = digits := (only [1, 0, 1]).mp ⟨by decide, rfl⟩
  refine ⟨rfl, below, ?_, count⟩
  rw [found, ← chosen]
  rfl

end Observe
