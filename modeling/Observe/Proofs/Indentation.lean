import Mathlib
import Observe.Format
import Observe.Proofs.Text

namespace Observe

open Text

/-! How far the lines of a tree are indented. No level is left out on the way to the deepest one, so
a product that wraps around does not hide that the tree is too wide: an earlier line is. -/

variable {indent : UInt64} {first last level depth deeper : Nat} {lines others : List TreeLine}

namespace TreeLine

/-- The line as it is drawn with so many columns for each level. -/
def drawn (columns : Nat) (line : TreeLine) : String :=
  String.ofList (List.replicate (line.level * columns) ' ') ++ line.label

def levels (lines : List TreeLine) : Set Nat := {level | ∃ line ∈ lines, line.level = level}

theorem levels_nil : levels [] = ∅ := by
  simp [levels]

theorem levels_cons (line : TreeLine) (rest : List TreeLine) :
    levels (line :: rest) = insert line.level (levels rest) := by
  ext level
  simp [levels, eq_comm]

theorem levels_append (lines others : List TreeLine) :
    levels (lines ++ others) = levels lines ∪ levels others := by
  ext level
  simp [levels, or_and_right, exists_or]

def Gapless (first : Nat) (lines : List TreeLine) : Prop :=
  ∀ deep ∈ levels lines, ∀ level, first ≤ level → level ≤ deep → level ∈ levels lines

theorem Gapless.nil : Gapless first [] := by
  simp [Gapless, levels_nil]

theorem Gapless.append (front : Gapless first lines) (behind : Gapless first others) :
    Gapless first (lines ++ others) := by
  intro deep member level above below
  rw [levels_append] at member ⊢
  rcases member with inFront | inBehind
  · exact .inl (front deep inFront level above below)
  · exact .inr (behind deep inBehind level above below)

/-- Lines may be one level deeper than the one before them. -/
theorem Gapless.cons (label : String) (deeper : Gapless (first + 1) lines) :
    Gapless first (⟨first, label⟩ :: lines) := by
  intro deep member level above below
  rw [levels_cons] at member ⊢
  rcases Nat.eq_or_lt_of_le above with rfl | beyond
  · exact .inl rfl
  · rcases member with rfl | behind
    · exact absurd below (Nat.not_le.mpr beyond)
    · exact .inr (deeper deep behind level beyond below)

theorem isGreatest_cons (label : String) (deepest : IsGreatest (levels lines) last)
    (above : level ≤ last) : IsGreatest (levels (⟨level, label⟩ :: lines)) last := by
  rw [levels_cons, ← Nat.max_eq_right above]
  exact deepest.insert level

/-- A group takes up three levels: its own, that of its branches and that of their steps. -/
theorem isGreatest_append (front : IsGreatest (levels lines) (level + 3 * depth))
    (behind : IsGreatest (levels others) (level + 3 * deeper)) :
    IsGreatest (levels (lines ++ others)) (level + 3 * max depth deeper) := by
  have deepest : max (level + 3 * depth) (level + 3 * deeper) = level + 3 * max depth deeper := by
    omega
  rw [levels_append, ← deepest]
  exact front.union behind

theorem toNat_width (indent : UInt64) (level : Nat) :
    (UInt64.ofNat level * indent).toNat = level * indent.toNat % 2 ^ 64 := by
  rw [UInt64.toNat_mul, UInt64.toNat_ofNat', Nat.mod_mul_mod]

theorem render?_of_fits {line : TreeLine} (fits : line.level * indent.toNat ≤ widestPadding) :
    line.render? indent = some (line.drawn indent.toNat) := by
  have unwrapped : line.level * indent.toNat < 2 ^ 64 := Nat.lt_of_le_of_lt fits (by decide)
  rw [render?, toNat_width, Nat.mod_eq_of_lt unwrapped, pad?, if_pos fits, drawn]

theorem mapM_render?_of_fits
    (fits : ∀ line ∈ lines, line.level * indent.toNat ≤ widestPadding) :
    lines.mapM (render? indent) = some (lines.map (drawn indent.toNat)) := by
  induction lines with
  | nil => rfl
  | cons line rest ih =>
      obtain ⟨fitsFirst, fitsRest⟩ := List.forall_mem_cons.mp fits
      rw [List.mapM_cons, render?_of_fits fitsFirst, ih fitsRest]
      rfl

theorem wraps_of_mapM {texts : List String} (drawn : lines.mapM (render? indent) = some texts) :
    ∀ line ∈ lines, line.level * indent.toNat % 2 ^ 64 ≤ widestPadding := by
  induction lines generalizing texts with
  | nil => exact List.forall_mem_nil _
  | cons line rest ih =>
      rw [List.mapM_cons] at drawn
      obtain ⟨first, drawnFirst, drawn⟩ := Option.bind_eq_some_iff.mp drawn
      obtain ⟨others, drawnOthers, _⟩ := Option.bind_eq_some_iff.mp drawn
      refine List.forall_mem_cons.mpr ⟨?_, ih drawnOthers⟩
      rw [← toNat_width]
      exact pad?_isSome.mp (Option.isSome_of_eq_some drawnFirst)

/-- If no level is left out, a line cannot be so wide that its width wraps around unless a line
before it is too wide already. -/
theorem fits_of_wraps (gapless : Gapless 0 lines)
    (wraps : ∀ line ∈ lines, line.level * indent.toNat % 2 ^ 64 ≤ widestPadding) :
    ∀ line ∈ lines, line.level * indent.toNat ≤ widestPadding := by
  have fits : ∀ level ∈ levels lines, level * indent.toNat ≤ widestPadding := by
    intro level
    induction level with
    | zero => simp
    | succ level ih =>
        intro member
        have narrower := ih (gapless _ member level (Nat.zero_le _) (Nat.le_succ _))
        obtain ⟨second, found, atOne⟩ := gapless _ member 1 (Nat.zero_le _) (by omega)
        obtain ⟨line, here, atLevel⟩ := member
        have single := wraps second found
        have whole := wraps line here
        have small := indent.toNat_lt
        rw [atOne, Nat.one_mul, Nat.mod_eq_of_lt small] at single
        rw [atLevel, Nat.succ_mul] at whole
        rw [Nat.succ_mul]
        unfold widestPadding at *
        rwa [Nat.mod_eq_of_lt (by omega)] at whole
  intro line member
  exact fits line.level ⟨line, member, rfl⟩

end TreeLine

open TreeLine (Gapless levels)

mutual

theorem Element.gapless_treeLines : (element : Element) → (level : Nat) → (notify : Bool) →
    Gapless level (element.treeLines level notify)
  | .group branches, level, _ =>
      ((Expression.gapless_branchLines branches (level + 2)).cons _).cons _
  | .trait _, _, _ | .metadata _, _, _ | .items, _, _ => Gapless.nil.cons _
termination_by structural element => element

theorem Series.gapless_treeLines : (series : Series) → (level : Nat) →
    Gapless level (Series.treeLines level series)
  | [], _ => .nil
  | ⟨element, notify⟩ :: rest, level =>
      (Element.gapless_treeLines element level notify).append (Series.gapless_treeLines rest level)
termination_by structural series => series

theorem Expression.gapless_branchLines : (branches : Expression) → (level : Nat) →
    Gapless level (Expression.branchLines level branches)
  | [], _ => .nil
  | series :: rest, level =>
      ((Series.gapless_treeLines series (level + 1)).cons _).append
        (Expression.gapless_branchLines rest level)
termination_by structural branches => branches

end

mutual

theorem Element.Proper.isGreatest_levels : (element : Element) → element.Proper → (level : Nat) →
    (notify : Bool) →
      IsGreatest (levels (element.treeLines level notify)) (level + 3 * element.depth)
  | .group branches, proper, level, notify => by
      have inner := Expression.Proper.isGreatest_levels branches proper (level + 2)
      have deepest : level + 2 + 1 + 3 * Expression.depth branches =
          level + 3 * (1 + Expression.depth branches) := by
        omega
      rw [Element.depth, ← deepest]
      exact TreeLine.isGreatest_cons _ (TreeLine.isGreatest_cons _ inner (by omega)) (by omega)
  | .trait _, _, level, _ | .metadata _, _, level, _ | .items, _, level, _ => by
      simp [Element.treeLines, Element.depth, TreeLine.levels_cons, TreeLine.levels_nil]
termination_by structural element => element

theorem Series.Proper.isGreatest_levels : (series : Series) → series.Proper → (level : Nat) →
    IsGreatest (levels (Series.treeLines level series)) (level + 3 * series.depth)
  | [], proper, _ => proper.elim
  | [⟨element, notify⟩], ⟨proper, _⟩, level => by
      have only := Element.Proper.isGreatest_levels element proper level notify
      simpa [Series.treeLines, Series.depth] using only
  | ⟨element, notify⟩ :: second :: rest, ⟨proper, properRest⟩, level =>
      TreeLine.isGreatest_append (Element.Proper.isGreatest_levels element proper level notify)
        (Series.Proper.isGreatest_levels (second :: rest) properRest level)
termination_by structural series => series

theorem Expression.Proper.isGreatest_levels : (branches : Expression) → branches.Proper →
    (level : Nat) →
    IsGreatest (levels (Expression.branchLines level branches)) (level + 1 + 3 * branches.depth)
  | [], proper, _ => proper.elim
  | [series], ⟨proper, _⟩, level => by
      have only := Series.Proper.isGreatest_levels series proper (level + 1)
      have headed := TreeLine.isGreatest_cons "series" only
        (Nat.le_add_right_of_le (Nat.le_succ level))
      simpa [Expression.branchLines, Expression.depth] using headed
  | series :: second :: rest, ⟨proper, properRest⟩, level =>
      TreeLine.isGreatest_append
        (TreeLine.isGreatest_cons "series"
          (Series.Proper.isGreatest_levels series proper (level + 1))
          (Nat.le_add_right_of_le (Nat.le_succ level)))
        (Expression.Proper.isGreatest_levels (second :: rest) properRest level)
termination_by structural branches => branches

end

namespace Expression

variable {value : Expression} {text : String}

theorem gapless_treeLines (expression : Expression) : Gapless 0 expression.treeLines :=
  (gapless_branchLines expression 1).cons "parallel"

theorem Proper.isGreatest_treeLines (proper : value.Proper) :
    IsGreatest (levels value.treeLines) (3 * value.depth + 2) := by
  have deepest := Expression.Proper.isGreatest_levels value proper 1
  rw [Nat.add_comm]
  exact TreeLine.isGreatest_cons "parallel" deepest (Nat.zero_le _)

/-- A tree is drawn line by line if no line is too wide. The widths are products without bound. -/
theorem tree?_eq (indent : UInt64) (expression : Expression) :
    expression.tree? indent =
      if ∀ line ∈ expression.treeLines, line.level * indent.toNat ≤ widestPadding then
        some ("\n".intercalate (expression.treeLines.map (TreeLine.drawn indent.toNat)))
      else none := by
  unfold tree?
  split
  · rename_i fits
    rw [TreeLine.mapM_render?_of_fits fits]
    rfl
  · rename_i wide
    cases drawn : expression.treeLines.mapM (TreeLine.render? indent) with
    | none => rfl
    | some texts =>
        have wraps := TreeLine.wraps_of_mapM drawn
        exact absurd (TreeLine.fits_of_wraps (gapless_treeLines expression) wraps) wide

theorem tree?_eq_none_iff (proper : value.Proper) :
    value.tree? indent = none ↔ widestPadding < (3 * value.depth + 2) * indent.toNat := by
  obtain ⟨⟨line, member, atDepth⟩, deepest⟩ := Proper.isGreatest_treeLines proper
  rw [tree?_eq]
  split
  · rename_i fits
    have narrow := fits line member
    rw [atDepth] at narrow
    simpa using narrow
  · rename_i wide
    simp only [true_iff]
    apply Nat.lt_of_not_le
    intro narrow
    apply wide
    intro other found
    have shallower : other.level ≤ 3 * value.depth + 2 := deepest ⟨other, found, rfl⟩
    exact Nat.le_trans (Nat.mul_le_mul_right _ shallower) narrow

/-- The tree of an expression that was read is too wide just if its deepest lines are, and those
stand three levels further in for each group around them. So no indent up to 85 is too wide for
any. -/
theorem render?_tree_eq_none_iff (read : parse text = .ok value) (indent : UInt64) :
    (Format.tree.render? indent value = none ↔ 65535 < (3 * value.depth + 2) * indent.toNat) ∧
      (indent ≤ 85 → ∃ drawn, Format.tree.render? indent value = some drawn) := by
  obtain ⟨proper, shallow⟩ := wellFormed_of_parse read
  refine ⟨tree?_eq_none_iff proper, ?_⟩
  intro small
  have narrow : indent.toNat ≤ 85 := UInt64.le_iff_toNat_le.mp small
  have levels : 3 * value.depth + 2 ≤ 770 := by
    unfold Parser.maximalDepth at shallow
    omega
  have fits : ¬ widestPadding < (3 * value.depth + 2) * indent.toNat :=
    Nat.not_lt.mpr (Nat.le_trans (Nat.mul_le_mul levels narrow) (by decide))
  exact Option.ne_none_iff_exists'.mp (mt (tree?_eq_none_iff proper).mp fits)

/-- The width of the deepest line wraps around to nothing here, but a line above it is too wide. -/
theorem render?_tree_eq_none_iff_wraps :
    parse "a" = .ok [[⟨.trait "a", false⟩]] ∧
      UInt64.ofNat 2 * 0x8000000000000000 = 0 ∧
      Format.tree.render? 0x8000000000000000 [[⟨.trait "a", false⟩]] = none := by
  have read : parse "a" = .ok [[⟨.trait "a", false⟩]] := by cbv
  exact ⟨read, by decide, (render?_tree_eq_none_iff read _).1.mpr (by decide)⟩

end Expression

end Observe
