import Observe.Expression.Contents
import Observe.Proofs.Flattening
import Observe.Proofs.Indentation

namespace Observe

open Text

/-! A tree can be told from its drawing. A line shows its level by its indent and its node by its
label, and what is drawn below a node ends before the next line that is no deeper. -/

variable {level columns : Nat} {notify flag : Bool} {behind other : List TreeLine}

theorem flagLabel_inj {left right : String}
    (same : left ++ flagLabel notify = right ++ flagLabel flag) : left = right ∧ notify = flag := by
  have reversed := congrArg (fun text => text.toList.reverse) same
  cases notify <;> cases flag <;> simp [flagLabel] at reversed
  all_goals exact ⟨String.toList_injective reversed, rfl⟩

/-- What a label says before the flag. -/
def Element.stem : Element → String
  | .trait name => "trait " ++ name ++ " "
  | .metadata name => "metadata " ++ name ++ " "
  | .items => "items "
  | .group _ => "group "

theorem Element.stem_cases {left right : Element} (same : left.stem = right.stem) :
    left = right ∨ ∃ inner others, left = .group inner ∧ right = .group others := by
  have spelled := congrArg String.toList same
  cases left <;> cases right <;> simp [Element.stem] at spelled ⊢
  all_goals exact String.toList_injective spelled

/-- The lines of a group after its own. -/
def Element.innerLines (level : Nat) : Element → List TreeLine
  | .group branches => ⟨level + 1, "parallel"⟩ :: Expression.branchLines (level + 2) branches
  | _ => []

theorem Element.treeLines_eq (element : Element) (level : Nat) (notify : Bool) :
    element.treeLines level notify =
      ⟨level, element.stem ++ flagLabel notify⟩ :: element.innerLines level := by
  cases element <;> rfl

theorem Series.treeLines_cons (step : Step) (rest : Series) (level : Nat) :
    Series.treeLines level (step :: rest) =
      ⟨level, step.element.stem ++ flagLabel step.notify⟩ ::
        (step.element.innerLines level ++ Series.treeLines level rest) := by
  obtain ⟨element, notify⟩ := step
  rw [← List.cons_append, ← Element.treeLines_eq, Series.treeLines]

/-- The first line tells the element, unless it is a group. -/
theorem Element.treeLines_cases {left right : Element}
    (same : left.treeLines level notify ++ behind = right.treeLines level flag ++ other) :
    notify = flag ∧ (left = right ∧ behind = other ∨
      ∃ inner others, left = .group inner ∧ right = .group others ∧
        Expression.branchLines (level + 2) inner ++ behind =
          Expression.branchLines (level + 2) others ++ other) := by
  rw [Element.treeLines_eq, Element.treeLines_eq] at same
  obtain ⟨first, rest⟩ := List.cons.inj same
  obtain ⟨stems, flags⟩ := flagLabel_inj (congrArg TreeLine.label first)
  refine ⟨flags, ?_⟩
  rcases Element.stem_cases stems with rfl | ⟨inner, others, rfl, rfl⟩
  · exact .inl ⟨rfl, List.append_cancel_left rest⟩
  · exact .inr ⟨inner, others, rfl, rfl, (List.cons.inj rest).2⟩

/-- The next line, if there is one, is less deep. -/
def Outside (level : Nat) (behind : List TreeLine) : Prop :=
  ∀ line ∈ behind.head?, line.level < level

theorem Outside.nil : Outside level [] := by
  simp [Outside]

theorem Outside.mono {deeper : Nat} (outside : Outside level behind) (within : level ≤ deeper) :
    Outside deeper behind :=
  fun line next => Nat.lt_of_lt_of_le (outside line next) within

theorem Outside.line (label : String) (rest : List TreeLine) :
    Outside (level + 1) (⟨level, label⟩ :: rest) := by
  simp [Outside]

theorem Outside.ne_line (outside : Outside level behind) (label : String) (rest : List TreeLine) :
    behind ≠ ⟨level, label⟩ :: rest := by
  rintro rfl
  exact Nat.lt_irrefl level (outside _ rfl)

theorem Outside.series (outside : Outside level behind) (series : Series) :
    Outside (level + 1) (series.treeLines level ++ behind) := by
  cases series with
  | nil => exact outside.mono (Nat.le_succ level)
  | cons step rest =>
      rw [Series.treeLines_cons]
      exact .line _ _

theorem Outside.branches (outside : Outside level behind) (branches : Expression) :
    Outside (level + 1) (branches.branchLines level ++ behind) := by
  cases branches with
  | nil => exact outside.mono (Nat.le_succ level)
  | cons series rest => exact .line _ _

mutual

/-- What is drawn can be taken off the front of some lines in one way only. -/
theorem Element.treeLines_cancel : (left right : Element) → (level : Nat) → (notify flag : Bool) →
    (behind other : List TreeLine) → Outside (level + 1) behind → Outside (level + 1) other →
    left.treeLines level notify ++ behind = right.treeLines level flag ++ other →
    left = right ∧ notify = flag ∧ behind = other
  | .group inner, right, level, _, _, behind, other, outside, outsideOther, same => by
      obtain ⟨flags, ⟨alike, rest⟩ | ⟨_, others, ⟨⟩, rfl, below⟩⟩ := Element.treeLines_cases same
      · exact ⟨alike, flags, rest⟩
      · obtain ⟨rfl, rest⟩ := Expression.branchLines_cancel inner others (level + 2) behind other
          (outside.mono (Nat.le_succ _)) (outsideOther.mono (Nat.le_succ _)) below
        exact ⟨rfl, flags, rest⟩
  | .trait _, _, _, _, _, _, _, _, _, same | .metadata _, _, _, _, _, _, _, _, _, same
  | .items, _, _, _, _, _, _, _, _, same => by
      obtain ⟨flags, ⟨alike, rest⟩ | ⟨_, _, grouped, _⟩⟩ := Element.treeLines_cases same
      · exact ⟨alike, flags, rest⟩
      · cases grouped
termination_by structural left => left

theorem Series.treeLines_cancel : (left right : Series) → (level : Nat) →
    (behind other : List TreeLine) → Outside level behind → Outside level other →
    left.treeLines level ++ behind = right.treeLines level ++ other →
    left = right ∧ behind = other
  | [], [], _, _, _, _, _, same => ⟨rfl, same⟩
  | [], step :: rest, level, behind, other, outside, _, same => by
      rw [Series.treeLines_cons] at same
      exact absurd same (outside.ne_line _ _)
  | step :: rest, [], level, behind, other, _, outsideOther, same => by
      rw [Series.treeLines_cons] at same
      exact absurd same.symm (outsideOther.ne_line _ _)
  | ⟨element, notify⟩ :: rest, ⟨second, flag⟩ :: others, level, behind, other, outside,
      outsideOther, same => by
      rw [Series.treeLines, Series.treeLines, List.append_assoc, List.append_assoc] at same
      obtain ⟨rfl, rfl, sameRest⟩ := Element.treeLines_cancel element second level notify flag _ _
        (outside.series rest) (outsideOther.series others) same
      obtain ⟨rfl, sameBehind⟩ := Series.treeLines_cancel rest others level behind other outside
        outsideOther sameRest
      exact ⟨rfl, sameBehind⟩
termination_by structural left => left

theorem Expression.branchLines_cancel : (left right : Expression) → (level : Nat) →
    (behind other : List TreeLine) → Outside level behind → Outside level other →
    left.branchLines level ++ behind = right.branchLines level ++ other →
    left = right ∧ behind = other
  | [], [], _, _, _, _, _, same => ⟨rfl, same⟩
  | [], series :: rest, level, behind, other, outside, _, same =>
      absurd same (outside.ne_line _ _)
  | series :: rest, [], level, behind, other, _, outsideOther, same =>
      absurd same.symm (outsideOther.ne_line _ _)
  | series :: rest, second :: others, level, behind, other, outside, outsideOther, same => by
      rw [Expression.branchLines, Expression.branchLines, List.cons_append, List.cons_append,
        List.append_assoc, List.append_assoc] at same
      obtain ⟨rfl, sameRest⟩ := Series.treeLines_cancel series second (level + 1) _ _
        (outside.branches rest) (outsideOther.branches others) (List.cons.inj same).2
      obtain ⟨rfl, sameBehind⟩ := Expression.branchLines_cancel rest others level behind other
        outside outsideOther sameRest
      exact ⟨rfl, sameBehind⟩
termination_by structural left => left

end

theorem Expression.treeLines_injective : Function.Injective Expression.treeLines := by
  intro left right same
  have below : left.branchLines 1 ++ [] = right.branchLines 1 ++ [] :=
    congrArg (· ++ []) (List.cons.inj same).2
  exact (Expression.branchLines_cancel left right 1 [] [] .nil .nil below).1

/-- The label begins where the indent ends, and the line stays one when it is drawn. -/
structure Legible (label : String) : Prop where
  begins : Token.Breaks (· == ' ') label.toList
  unbroken : '\n' ∉ label.toList

theorem legible_parallel : Legible "parallel" := ⟨by simp [Token.Breaks], by decide⟩

theorem legible_series : Legible "series" := ⟨by simp [Token.Breaks], by decide⟩

theorem Element.legible_stem (element : Element)
    (unbroken : ∀ name ∈ element.names, '\n' ∉ name.toList) (notify : Bool) :
    Legible (element.stem ++ flagLabel notify) := by
  cases element <;> cases notify <;> constructor <;>
    simp_all [Element.stem, flagLabel, Element.names, Token.Breaks]

namespace TreeLine

variable {line : TreeLine}

/-- The line that a text is the drawing of. -/
def ofDrawn (columns : Nat) (text : String) : TreeLine where
  level := (text.toList.takeWhile (· == ' ')).length / columns
  label := String.ofList (text.toList.dropWhile (· == ' '))

theorem ofDrawn_drawn (positive : 0 < columns) (legible : Legible line.label) :
    ofDrawn columns (line.drawn columns) = line := by
  have spaces : ∀ c ∈ List.replicate (line.level * columns) ' ', (c == ' ') = true := by
    intro c member
    exact beq_iff_eq.mpr (List.eq_of_mem_replicate member)
  rw [ofDrawn, drawn, String.toList_append, String.toList_ofList,
    Token.Cursor.takeWhile_of_breaks spaces legible.begins,
    Token.Cursor.dropWhile_of_breaks spaces legible.begins, List.length_replicate,
    Nat.mul_div_cancel _ positive, String.ofList_toList]

theorem unbroken_drawn (legible : Legible line.label) : '\n' ∉ (line.drawn columns).toList := by
  rw [drawn, String.toList_append, String.toList_ofList, List.mem_append]
  rintro (space | broken)
  · cases List.eq_of_mem_replicate space
  · exact legible.unbroken broken

end TreeLine

mutual

theorem Element.legible_treeLines : (element : Element) →
    (∀ name ∈ element.names, '\n' ∉ name.toList) → (level : Nat) → (notify : Bool) →
    ∀ line ∈ element.treeLines level notify, Legible line.label
  | .group branches, unbroken, level, notify => by
      have below := Expression.legible_branchLines branches unbroken (level + 2)
      rw [Element.treeLines_eq]
      exact List.forall_mem_cons.mpr ⟨Element.legible_stem _ unbroken notify,
        List.forall_mem_cons.mpr ⟨legible_parallel, below⟩⟩
  | .trait _, unbroken, _, notify | .metadata _, unbroken, _, notify
  | .items, unbroken, _, notify =>
      List.forall_mem_singleton.mpr (Element.legible_stem _ unbroken notify)
termination_by structural element => element

theorem Series.legible_treeLines : (series : Series) →
    (∀ name ∈ series.names, '\n' ∉ name.toList) → (level : Nat) →
    ∀ line ∈ series.treeLines level, Legible line.label
  | [], _, _ => List.forall_mem_nil _
  | ⟨element, notify⟩ :: rest, unbroken, level => by
      obtain ⟨unbrokenFirst, unbrokenRest⟩ := List.forall_mem_append.mp unbroken
      exact List.forall_mem_append.mpr
        ⟨Element.legible_treeLines element unbrokenFirst level notify,
          Series.legible_treeLines rest unbrokenRest level⟩
termination_by structural series => series

theorem Expression.legible_branchLines : (branches : Expression) →
    (∀ name ∈ branches.names, '\n' ∉ name.toList) → (level : Nat) →
    ∀ line ∈ branches.branchLines level, Legible line.label
  | [], _, _ => List.forall_mem_nil _
  | series :: rest, unbroken, level => by
      obtain ⟨unbrokenFirst, unbrokenRest⟩ := List.forall_mem_append.mp unbroken
      exact List.forall_mem_cons.mpr ⟨legible_series, List.forall_mem_append.mpr
        ⟨Series.legible_treeLines series unbrokenFirst (level + 1),
          Expression.legible_branchLines rest unbrokenRest level⟩⟩
termination_by structural branches => branches

end

namespace Expression

variable {value other : Expression} {indent : UInt64} {drawing : String}

theorem legible_treeLines (unbroken : ∀ name ∈ value.names, '\n' ∉ name.toList) :
    ∀ line ∈ value.treeLines, Legible line.label :=
  List.forall_mem_cons.mpr ⟨legible_parallel, legible_branchLines value unbroken 1⟩

/-- The lines are read back from the drawing. -/
theorem treeLines_eq_of_tree? (indented : 1 ≤ indent)
    (unbroken : ∀ name ∈ value.names, '\n' ∉ name.toList)
    (drawn : value.tree? indent = some drawing) :
    value.treeLines = (linesOf drawing).map (TreeLine.ofDrawn indent.toNat) := by
  have legible := legible_treeLines unbroken
  have positive : 0 < indent.toNat := UInt64.le_iff_toNat_le.mp indented
  rw [tree?_eq] at drawn
  split at drawn
  · cases drawn
    have lines : linesOf ("\n".intercalate (value.treeLines.map (TreeLine.drawn indent.toNat))) =
        value.treeLines.map (TreeLine.drawn indent.toNat) := by
      refine linesOf_intercalate (List.cons_ne_nil _ _) (List.forall_mem_map.mpr ?_)
      intro line member
      exact TreeLine.unbroken_drawn (legible line member)
    have read : value.treeLines.map
        (TreeLine.ofDrawn indent.toNat ∘ TreeLine.drawn indent.toNat) = value.treeLines.map id :=
      List.map_congr_left fun line member =>
        TreeLine.ofDrawn_drawn positive (legible line member)
    rw [lines, List.map_map, read, List.map_id]
  · cases drawn

/-- With any indent at all, two trees are drawn alike only if they are the same, also where names
hold blanks or what looks like a flag. A name must not break the line. -/
theorem tree?_inj (indented : 1 ≤ indent)
    (unbroken : ∀ name ∈ value.names, '\n' ∉ name.toList)
    (unbrokenOther : ∀ name ∈ other.names, '\n' ∉ name.toList)
    (drawn : value.tree? indent = some drawing) (drawnOther : other.tree? indent = some drawing) :
    value = other := by
  apply treeLines_injective
  rw [treeLines_eq_of_tree? indented unbroken drawn,
    treeLines_eq_of_tree? indented unbrokenOther drawnOther]

/-- What follows the name `x) (quiet` is its flag, and the group above it is empty. -/
theorem tree?_inj_odd : ∃! expression : Expression,
    (∀ name ∈ expression.names, '\n' ∉ name.toList) ∧
      expression.tree? 1 =
        some "parallel\n series\n  group (notify)\n   parallel\n  trait x) (quiet (notify)" := by
  refine ⟨[[⟨.group [], true⟩, ⟨.trait "x) (quiet", true⟩]], ⟨by decide, by cbv⟩, ?_⟩
  rintro other ⟨unbroken, drawn⟩
  exact tree?_inj (by decide) unbroken (by decide) drawn (by cbv)

end Expression

end Observe
