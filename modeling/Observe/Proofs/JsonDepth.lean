import Observe.Expression.Json
import Observe.Expression.WellFormed

namespace Observe

namespace Json

mutual

/-- How deep arrays and objects stand inside each other. -/
def nesting : Json → Nat
  | array items => 1 + nestingOfItems items
  | object members => 1 + nestingOfMembers members
  | _ => 0
termination_by structural json => json

def nestingOfItems : List Json → Nat
  | [] => 0
  | item :: rest => max item.nesting (nestingOfItems rest)
termination_by structural items => items

def nestingOfMembers : List (Option String × Json) → Nat
  | [] => 0
  | (_, value) :: rest => max value.nesting (nestingOfMembers rest)
termination_by structural members => members

end

@[simp] theorem nesting_text (text : String) : (Json.text text).nesting = 0 := rfl

@[simp] theorem nesting_boolean (value : Bool) : (boolean value).nesting = 0 := rfl

@[simp] theorem nesting_array (items : List Json) :
    (array items).nesting = 1 + nestingOfItems items := rfl

@[simp] theorem nesting_member (name : String) (value : Json) :
    (member name value).nesting = 1 + value.nesting := by
  simp [member, nesting, nestingOfMembers]

@[simp] theorem nestingOfItems_nil : nestingOfItems [] = 0 := rfl

@[simp] theorem nestingOfItems_cons (item : Json) (rest : List Json) :
    nestingOfItems (item :: rest) = max item.nesting (nestingOfItems rest) := rfl

/-- A value, if as many levels as it needs are left. -/
def within {α : Type} (levels needed : Nat) (value : α) : Option α :=
  if needed ≤ levels then some value else none

section Within

variable {α β : Type} {levels needed : Nat}

theorem within_of_le {value : α} (enough : needed ≤ levels) :
    within levels needed value = some value :=
  if_pos enough

theorem within_of_lt {value : α} (short : levels < needed) : within levels needed value = none :=
  if_neg (Nat.not_le.mpr short)

@[simp] theorem within_zero (value : α) : within levels 0 value = some value :=
  within_of_le (Nat.zero_le _)

@[simp] theorem within_zero_succ (value : α) : within 0 (1 + needed) value = none :=
  within_of_lt (by omega)

@[simp] theorem within_succ (value : α) :
    within (levels + 1) (1 + needed) value = within levels needed value := by
  unfold within
  congr 1
  rw [Nat.add_comm 1, Nat.add_le_add_iff_right]

@[simp] theorem map_within (f : α → β) (value : α) :
    (within levels needed value).map f = within levels needed (f value) := by
  unfold within
  split <;> rfl

theorem mapM_cons_within {read : α → Option β} {item : α} {items : List α} {value : β}
    {values : List β} {neededOthers : Nat} (first : read item = within levels needed value)
    (others : items.mapM read = within levels neededOthers values) :
    (item :: items).mapM read = within levels (max needed neededOthers) (value :: values) := by
  have both : max needed neededOthers ≤ levels ↔ needed ≤ levels ∧ neededOthers ≤ levels :=
    Nat.max_le
  rw [List.mapM_cons, first, others]
  simp only [within, both]
  by_cases enough : needed ≤ levels
  · by_cases enoughOthers : neededOthers ≤ levels <;> simp [enough, enoughOthers]
  · simp [enough]

end Within

@[simp] theorem onlyField?_member (name : String) (value : Json) :
    onlyField? name (member name value) = some value := by
  simp [onlyField?, member]

mutual

theorem element?_toJson (element : Element) (levels : Nat) :
    element? levels element.toJson = within levels element.toJson.nesting element :=
  match element with
  | .trait name => by
      cases levels with
      | zero => rfl
      | succ levels =>
          rw [Element.toJson, nesting_member, within_succ, nesting_text, within_zero]
          rfl
  | .metadata name => by
      cases levels with
      | zero => rfl
      | succ levels =>
          rw [Element.toJson, nesting_member, within_succ, nesting_text, within_zero]
          rfl
  | .items => by cases levels <;> rfl
  | .group branches => by
      rw [Element.toJson, nesting_member, nesting_array]
      cases levels with
      | zero => rw [within_zero_succ]; rfl
      | succ levels =>
          rw [within_succ]
          cases levels with
          | zero => rw [within_zero_succ]; rfl
          | succ levels =>
              rw [within_succ, ← map_within Element.group,
                ← branches?_branchesToJson branches levels]
              rfl
termination_by structural element

theorem steps?_stepsToJson (series : Series) (levels : Nat) :
    (Series.stepsToJson series).mapM (step? levels) =
      within levels (nestingOfItems (Series.stepsToJson series)) series :=
  match series with
  | [] => rfl
  | ⟨element, notify⟩ :: rest => by
      refine mapM_cons_within ?_ (steps?_stepsToJson rest levels)
      cases levels with
      | zero => simp [step?]
      | succ levels => simp [step?, element?_toJson element levels]
termination_by structural series

theorem branches?_branchesToJson (branches : Expression) (levels : Nat) :
    (Expression.branchesToJson branches).mapM (series? levels) =
      within levels (nestingOfItems (Expression.branchesToJson branches)) branches :=
  match branches with
  | [] => rfl
  | series :: rest => by
      refine mapM_cons_within ?_ (branches?_branchesToJson rest levels)
      cases levels with
      | zero => simp [series?]
      | succ levels =>
          cases levels with
          | zero => simp [series?, steps?]
          | succ levels => simp [series?, steps?, steps?_stepsToJson series levels]
termination_by structural branches

end

def ofStep (step : Step) : Json := .array [step.element.toJson, .boolean step.notify]

def ofSeries (series : Series) : Json := .member "elements" (.array (Series.stepsToJson series))

theorem stepsToJson_eq_map (series : Series) : Series.stepsToJson series = series.map ofStep := by
  induction series with
  | nil => rfl
  | cons step rest ih =>
      obtain ⟨element, notify⟩ := step
      rw [List.map_cons, ← ih]
      rfl

theorem branchesToJson_eq_map (branches : Expression) :
    branches.branchesToJson = branches.map ofSeries := by
  induction branches with
  | nil => rfl
  | cons series rest ih =>
      rw [List.map_cons, ← ih]
      rfl

section Read

variable {levels : Nat} {json : Json}

theorem nestingOfItems_le_of_mapM {α : Type} {read : Json → Option α} {write : α → Json}
    (each : ∀ json value, read json = some value → (write value).nesting ≤ levels)
    {items : List Json} {values : List α} (found : items.mapM read = some values) :
    nestingOfItems (values.map write) ≤ levels := by
  induction items generalizing values with
  | nil =>
      cases found
      exact Nat.zero_le _
  | cons item items ih =>
      simp only [List.mapM_cons, Option.bind_eq_bind, Option.bind_eq_some_iff] at found
      obtain ⟨value, first, others, rest, same⟩ := found
      cases same
      exact Nat.max_le.mpr ⟨each item value first, ih rest⟩

/-- The branches that are read with so many levels need no more to be read again. -/
def Rereads (levels : Nat) : Prop :=
  ∀ json branches, branches? levels json = some branches →
    (array branches.branchesToJson).nesting ≤ levels

/-- Another spelling of an element needs no fewer levels than the one that is written. -/
theorem nesting_le_of_element? (below : ∀ less < levels, Rereads less) {element : Element}
    (read : element? levels json = some element) : element.toJson.nesting ≤ levels := by
  unfold element? at read
  split at read
  · cases read
    exact Nat.zero_le _
  · cases read
    exact Nat.zero_le _
  · cases read
    rw [Element.toJson, nesting_member, nesting_text]
    omega
  · cases read
    rw [Element.toJson, nesting_member, nesting_text]
    omega
  · obtain ⟨branches, found, same⟩ := Option.map_eq_some_iff.mp read
    cases same
    have inner := below _ (Nat.lt_succ_self _) _ branches found
    rw [Element.toJson, nesting_member]
    omega
  · cases read

theorem nesting_le_of_step? (below : ∀ less < levels, Rereads less) {step : Step}
    (read : step? levels json = some step) : (ofStep step).nesting ≤ levels := by
  unfold step? at read
  split at read
  · obtain ⟨element, found, same⟩ := Option.map_eq_some_iff.mp read
    cases same
    have inner := nesting_le_of_element? (fun fewer lt => below fewer (by omega)) found
    simp only [ofStep, nesting_array, nestingOfItems_cons, nestingOfItems_nil, nesting_boolean]
    omega
  · cases read

theorem nesting_le_of_steps? (below : ∀ less < levels, Rereads less) {series : Series}
    (read : steps? levels json = some series) :
    (array (Series.stepsToJson series)).nesting ≤ levels := by
  unfold steps? at read
  split at read
  · have inner := nestingOfItems_le_of_mapM (fun _ _ => nesting_le_of_step?
      fun fewer lt => below fewer (by omega)) read
    rw [nesting_array, stepsToJson_eq_map]
    omega
  · cases read

theorem nesting_le_of_series? (below : ∀ less < levels, Rereads less) {series : Series}
    (read : series? levels json = some series) : (ofSeries series).nesting ≤ levels := by
  unfold series? at read
  split at read
  · split at read
    · have inner := nesting_le_of_steps? (fun fewer lt => below fewer (by omega)) read
      rw [ofSeries, nesting_member]
      omega
    · cases read
  · cases read

theorem rereads (levels : Nat) : Rereads levels := by
  -- Branches inside a group are read with fewer levels than those around it.
  induction levels using Nat.strongRecOn with
  | ind levels below =>
      intro json branches read
      unfold branches? at read
      split at read
      · have inner := nestingOfItems_le_of_mapM (fun _ _ => nesting_le_of_series?
          fun fewer lt => below fewer (by omega)) read
        rw [nesting_array, branchesToJson_eq_map]
        omega
      · cases read

end Read

end Json

open Json

namespace Expression

theorem nesting_toJson (expression : Expression) :
    expression.toJson.nesting = 1 + (1 + nestingOfItems expression.branchesToJson) := by
  rw [toJson, nesting_member, nesting_array]

theorem ofJson?_toJson (expression : Expression) :
    ofJson? expression.toJson = within maximalDepth expression.toJson.nesting expression := by
  rw [nesting_toJson]
  -- The object and the array around the branches take two of the levels.
  change _ = within (125 + 1 + 1) _ expression
  rw [within_succ, within_succ, ← branches?_branchesToJson, ofJson?, toJson, onlyField?_member]
  rfl

theorem nesting_le_of_ofJson? {json : Json} {expression : Expression}
    (read : ofJson? json = some expression) : expression.toJson.nesting ≤ maximalDepth := by
  obtain ⟨branches, _, found⟩ := Option.bind_eq_some_iff.mp read
  have inner : 1 + nestingOfItems expression.branchesToJson ≤ maximalDepth - 1 :=
    rereads _ branches expression found
  rw [nesting_toJson]
  have positive : 0 < maximalDepth := by decide
  omega

end Expression

mutual

/-- A group adds five levels: its object and array, and for what is in it the object and the array
of a series and the array of a step. -/
theorem Element.nesting_le (element : Element) :
    element.toJson.nesting ≤ 5 * element.depth + 1 :=
  match element with
  | .trait name => by simp [Element.toJson]
  | .metadata name => by simp [Element.toJson]
  | .items => by simp [Element.toJson]
  | .group branches => by
      have inner := Expression.nestingOfItems_le branches
      simp only [Element.toJson, nesting_member, nesting_array, Element.depth]
      omega
termination_by structural element

theorem Series.nestingOfItems_le (series : Series) :
    nestingOfItems (Series.stepsToJson series) ≤ 5 * Series.depth series + 2 :=
  match series with
  | [] => Nat.zero_le _
  | ⟨element, notify⟩ :: rest => by
      have first := Element.nesting_le element
      have others := Series.nestingOfItems_le rest
      simp only [Series.stepsToJson, nestingOfItems_cons, nestingOfItems_nil, nesting_array,
        nesting_boolean, Series.depth]
      omega
termination_by structural series

theorem Expression.nestingOfItems_le (branches : Expression) :
    nestingOfItems branches.branchesToJson ≤ 5 * branches.depth + 4 :=
  match branches with
  | [] => Nat.zero_le _
  | series :: rest => by
      have first := Series.nestingOfItems_le series
      have others := Expression.nestingOfItems_le rest
      simp only [Expression.branchesToJson, nestingOfItems_cons, nesting_member, nesting_array,
        Expression.depth]
      omega
termination_by structural branches

end

mutual

theorem Element.Proper.le_nesting (element : Element) (proper : element.Proper) :
    5 * element.depth ≤ element.toJson.nesting :=
  match element with
  | .trait name => Nat.zero_le _
  | .metadata name => Nat.zero_le _
  | .items => Nat.zero_le _
  | .group branches => by
      have inner := Expression.Proper.le_nestingOfItems branches proper
      simp only [Element.toJson, nesting_member, nesting_array, Element.depth]
      omega
termination_by structural element

theorem Series.Proper.le_nestingOfItems (series : Series) (proper : Series.Proper series) :
    5 * Series.depth series + 1 ≤ nestingOfItems (Series.stepsToJson series) :=
  match series with
  | [] => proper.elim
  | ⟨element, notify⟩ :: rest => by
      have first := Element.Proper.le_nesting element proper.1
      simp only [Series.stepsToJson, nestingOfItems_cons, nestingOfItems_nil, nesting_array,
        nesting_boolean, Series.depth]
      cases rest with
      | nil => simp only [Series.depth]; omega
      | cons next more =>
          have others := Series.Proper.le_nestingOfItems (next :: more) proper.2
          omega
termination_by structural series

theorem Expression.Proper.le_nestingOfItems (branches : Expression) (proper : branches.Proper) :
    5 * branches.depth + 3 ≤ nestingOfItems branches.branchesToJson :=
  match branches with
  | [] => proper.elim
  | series :: rest => by
      have first := Series.Proper.le_nestingOfItems series proper.1
      simp only [Expression.branchesToJson, nestingOfItems_cons, nesting_member, nesting_array,
        Expression.depth]
      cases rest with
      | nil => simp only [Expression.depth]; omega
      | cons next more =>
          have others := Expression.Proper.le_nestingOfItems (next :: more) proper.2
          omega
termination_by structural branches

end

end Observe
