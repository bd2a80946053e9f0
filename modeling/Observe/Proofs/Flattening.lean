import Observe.Format
import Observe.Proofs.Text

namespace Observe

/-! The paths of an expression make up an expression without groups. If the one was read from a
text, the other can be read too, as a whole and line by line, and has the same paths again. -/

def Element.IsLeaf : Element → Prop
  | .group _ => False
  | _ => True

namespace Path

variable {path front behind : Path} {starts continuations others : List Path} {notify flag : Bool}

def IsFlat (path : Path) : Prop := ∀ step ∈ path, step.element.IsLeaf

theorem mem_product : path ∈ product starts continuations ↔
    ∃ start ∈ starts, ∃ continuation ∈ continuations, start ++ continuation = path := by
  simp [product]

theorem map_element_endWith (notify : Bool) (path : Path) :
    (endWith notify path).map Step.element = path.map Step.element := by
  fun_induction endWith notify path <;> simp_all

/-- A flag at the end of a path does not change what elements stand in it. -/
theorem forall_element_endWith {holds : Element → Prop} :
    (∀ step ∈ endWith notify path, holds step.element) ↔ ∀ step ∈ path, holds step.element := by
  rw [← List.forall_mem_map, map_element_endWith, List.forall_mem_map]

theorem getLast?_endWith (notify : Bool) (path : Path) :
    (endWith notify path).getLast?.map Step.notify = path.getLast?.map fun _ => notify := by
  fun_induction endWith notify path with
  | case1 => rfl
  | case2 last => rfl
  | case3 first rest nonempty ih =>
      have more : endWith notify rest ≠ [] := by
        rw [← List.length_pos_iff, length_endWith]
        exact List.length_pos_iff.mpr nonempty
      rw [List.getLast?_cons_of_ne_nil more, List.getLast?_cons_of_ne_nil nonempty, ih]

/-- A path that is a proper series but for the flag that it ends with. -/
structure Runs (notify : Bool) (path : Path) : Prop where
  proper : ∀ step ∈ path, step.element.Proper
  ends : path.getLast?.map Step.notify = some notify

theorem Runs.endWith (runs : Runs flag path) (notify : Bool) :
    Runs notify (endWith notify path) where
  proper := forall_element_endWith.mpr runs.proper
  ends := by
    obtain ⟨last, found, _⟩ := Option.map_eq_some_iff.mp runs.ends
    rw [getLast?_endWith, found]
    rfl

theorem Runs.append (first : Runs flag front) (second : Runs notify behind) :
    Runs notify (front ++ behind) where
  proper := List.forall_mem_append.mpr ⟨first.proper, second.proper⟩
  ends := by
    obtain ⟨last, found, ended⟩ := Option.map_eq_some_iff.mp second.ends
    rw [List.getLast?_append, found, ← ended]
    rfl

theorem Runs.series_proper (runs : Runs false path) : Series.Proper path := by
  obtain ⟨proper, ends⟩ := runs
  induction path with
  | nil => cases ends
  | cons step rest ih =>
      obtain ⟨element, flag⟩ := step
      obtain ⟨properFirst, properRest⟩ := List.forall_mem_cons.mp proper
      cases rest with
      | nil => exact ⟨properFirst, Option.some.inj ends⟩
      | cons second others => exact ⟨properFirst, ih properRest ends⟩

/-- There is a path, and all the paths are proper but for the flag that they end with. -/
structure AllRun (notify : Bool) (paths : List Path) : Prop where
  nonempty : paths ≠ []
  runs : ∀ path ∈ paths, Runs notify path

theorem AllRun.leaf {element : Element} (proper : element.Proper) :
    AllRun notify [[⟨element, notify⟩]] where
  nonempty := List.cons_ne_nil _ _
  runs := List.forall_mem_singleton.mpr ⟨List.forall_mem_singleton.mpr proper, rfl⟩

theorem AllRun.map_endWith (all : AllRun flag starts) (notify : Bool) :
    AllRun notify (starts.map (Path.endWith notify)) where
  nonempty := mt List.map_eq_nil_iff.mp all.nonempty
  runs := List.forall_mem_map.mpr fun path member => (all.runs path member).endWith notify

theorem AllRun.product (first : AllRun flag starts) (second : AllRun notify continuations) :
    AllRun notify (product starts continuations) where
  nonempty := by
    have some := List.length_pos_iff.mpr first.nonempty
    have more := List.length_pos_iff.mpr second.nonempty
    rw [← List.length_pos_iff, length_product]
    exact Nat.mul_pos some more
  runs := by
    intro path member
    obtain ⟨start, memberStart, continuation, memberBehind, rfl⟩ := mem_product.mp member
    exact (first.runs start memberStart).append (second.runs continuation memberBehind)

theorem AllRun.append (first : AllRun notify starts) (second : AllRun notify others) :
    AllRun notify (starts ++ others) where
  nonempty := List.append_ne_nil_of_left_ne_nil first.nonempty _
  runs := List.forall_mem_append.mpr ⟨first.runs, second.runs⟩

theorem product_singleton_nil (starts : List Path) : Path.product starts [[]] = starts := by
  simp [Path.product, List.flatMap_singleton']

end Path

mutual

theorem Element.isFlat_expansions : (element : Element) → (notify : Bool) →
    ∀ path ∈ element.expansions notify, Path.IsFlat path
  | .group branches, notify => by
      intro path member
      obtain ⟨inner, memberInner, rfl⟩ := List.mem_map.mp member
      exact Path.forall_element_endWith.mpr (Expression.isFlat_paths branches inner memberInner)
  | .trait _, _ | .metadata _, _ | .items, _ =>
      List.forall_mem_singleton.mpr (List.forall_mem_singleton.mpr trivial)
termination_by structural element => element

theorem Series.isFlat_paths : (series : Series) → ∀ path ∈ Series.paths series, Path.IsFlat path
  | [] => List.forall_mem_singleton.mpr (List.forall_mem_nil _)
  | ⟨element, notify⟩ :: rest => by
      intro path member
      obtain ⟨start, memberStart, continuation, memberBehind, rfl⟩ := Path.mem_product.mp member
      have front := Element.isFlat_expansions element notify start memberStart
      have behind := Series.isFlat_paths rest continuation memberBehind
      exact List.forall_mem_append.mpr ⟨front, behind⟩
termination_by structural series => series

theorem Expression.isFlat_paths : (branches : Expression) →
    ∀ path ∈ Expression.paths branches, Path.IsFlat path
  | [] => List.forall_mem_nil _
  | series :: rest =>
      List.forall_mem_append.mpr ⟨Series.isFlat_paths series, Expression.isFlat_paths rest⟩
termination_by structural branches => branches

end

mutual

theorem Element.Proper.allRun : (element : Element) → element.Proper → (notify : Bool) →
    Path.AllRun notify (element.expansions notify)
  | .group branches, proper, notify => (Expression.Proper.allRun branches proper).map_endWith notify
  | .trait _, proper, _ | .metadata _, proper, _ | .items, proper, _ => .leaf proper
termination_by structural element => element

theorem Series.Proper.allRun : (series : Series) → series.Proper →
    Path.AllRun false (Series.paths series)
  | [], proper => proper.elim
  | [⟨element, notify⟩], ⟨proper, quiet⟩ => by
      obtain rfl : notify = false := quiet
      rw [Series.paths, Series.paths, Path.product_singleton_nil]
      exact Element.Proper.allRun element proper false
  | ⟨element, notify⟩ :: second :: rest, ⟨proper, properRest⟩ =>
      (Element.Proper.allRun element proper notify).product
        (Series.Proper.allRun (second :: rest) properRest)
termination_by structural series => series

theorem Expression.Proper.allRun : (branches : Expression) → branches.Proper →
    Path.AllRun false (Expression.paths branches)
  | [], proper => proper.elim
  | [series], ⟨proper, _⟩ => by
      rw [Expression.paths, Expression.paths, List.append_nil]
      exact Series.Proper.allRun series proper
  | series :: second :: rest, ⟨proper, properRest⟩ =>
      (Series.Proper.allRun series proper).append
        (Expression.Proper.allRun (second :: rest) properRest)
termination_by structural branches => branches

end

theorem Series.depth_of_isFlat {series : Series} (flat : Path.IsFlat series) : series.depth = 0 := by
  induction series with
  | nil => rfl
  | cons step rest ih =>
      obtain ⟨leaf, flatRest⟩ := List.forall_mem_cons.mp flat
      obtain ⟨element, notify⟩ := step
      rw [Series.depth, ih flatRest]
      cases element with
      | group branches => cases leaf
      | _ => rfl

theorem Series.paths_of_isFlat {series : Series} (flat : Path.IsFlat series) :
    Series.paths series = [series] := by
  induction series with
  | nil => rfl
  | cons step rest ih =>
      obtain ⟨leaf, flatRest⟩ := List.forall_mem_cons.mp flat
      obtain ⟨element, notify⟩ := step
      rw [Series.paths, ih flatRest]
      cases element with
      | group branches => cases leaf
      | _ => rfl

namespace Expression

variable {branches value : Expression} {series : Series} {text : String}

theorem depth_of_isFlat (flat : ∀ series ∈ branches, Path.IsFlat series) : branches.depth = 0 := by
  induction branches with
  | nil => rfl
  | cons series rest ih =>
      obtain ⟨flatFirst, flatRest⟩ := List.forall_mem_cons.mp flat
      rw [Expression.depth, Series.depth_of_isFlat flatFirst, ih flatRest, Nat.max_self]

theorem paths_of_isFlat (flat : ∀ series ∈ branches, Path.IsFlat series) :
    branches.paths = branches := by
  induction branches with
  | nil => rfl
  | cons series rest ih =>
      obtain ⟨flatFirst, flatRest⟩ := List.forall_mem_cons.mp flat
      rw [Expression.paths, Series.paths_of_isFlat flatFirst, ih flatRest]
      rfl

theorem proper_of_forall (nonempty : branches ≠ [])
    (proper : ∀ series ∈ branches, Series.Proper series) : branches.Proper := by
  induction branches with
  | nil => exact absurd rfl nonempty
  | cons series rest ih =>
      obtain ⟨properFirst, properRest⟩ := List.forall_mem_cons.mp proper
      refine ⟨properFirst, ?_⟩
      cases rest with
      | nil => trivial
      | cons second others => exact ih (List.cons_ne_nil _ _) properRest

theorem wellFormed_paths (proper : value.Proper) : Expression.WellFormed value.paths := by
  have all := Expression.Proper.allRun value proper
  have flat := depth_of_isFlat (Expression.isFlat_paths value)
  refine ⟨proper_of_forall all.nonempty ?_, Nat.le_trans (Nat.le_of_eq flat) (Nat.zero_le _)⟩
  intro path member
  exact (all.runs path member).series_proper

end Expression

open Text

def Text.linesOf (text : String) : List String :=
  (text.toList.splitOn '\n').map String.ofList

theorem Text.linesOf_intercalate {lines : List String} (nonempty : lines ≠ [])
    (unbroken : ∀ line ∈ lines, '\n' ∉ line.toList) :
    linesOf ("\n".intercalate lines) = lines := by
  have split := List.splitOn_intercalate '\n' (List.forall_mem_map.mpr unbroken)
    (mt List.map_eq_nil_iff.mp nonempty)
  rw [linesOf, String.toList_intercalate]
  refine (congrArg (List.map String.ofList) split).trans ?_
  rw [List.map_map]
  exact List.map_id'' (fun _ => String.ofList_toList) lines

namespace Expression

variable {value : Expression} {series : Series} {text : String}

theorem noBlank_of_parse (read : parse text = .ok value) :
    ∀ c ∈ value.text.toList, isBlank c = false := by
  intro c member
  rw [text_of_parse read, withoutBlanks, String.toList_ofList] at member
  simpa using (List.mem_filter.mp member).2

theorem text_singleton (series : Series) : Expression.text [series] = series.text := by
  simp [Expression.text, Series.text, Expression.kinds]

theorem parse_series (proper : series.Proper) (shallow : series.depth ≤ Parser.maximalDepth) :
    parse series.text = .ok [series] := by
  rw [← text_singleton]
  refine parse_text ⟨⟨proper, trivial⟩, ?_⟩
  rw [Expression.depth, Expression.depth, Nat.max_zero]
  exact shallow

theorem parse_path (proper : value.Proper) {path : Path} (member : path ∈ value.paths) :
    parse (Series.text path) = .ok [path] := by
  have all := Expression.Proper.allRun value proper
  have shallow := Series.depth_of_isFlat (Expression.isFlat_paths value path member)
  exact parse_series (all.runs path member).series_proper
    (Nat.le_trans (Nat.le_of_eq shallow) (Nat.zero_le _))

theorem linesOf_paths (proper : value.Proper) :
    linesOf ("\n".intercalate (value.paths.map Series.text)) = value.paths.map Series.text := by
  have all := Expression.Proper.allRun value proper
  refine linesOf_intercalate (mt List.map_eq_nil_iff.mp all.nonempty) ?_
  refine List.forall_mem_map.mpr ?_
  intro path member broken
  have noBlank := noBlank_of_parse (parse_path proper member)
  rw [text_singleton] at noBlank
  cases noBlank '\n' broken

/-- The paths of what was read are an expression without groups that has itself as its paths. They
are read back from their text, and each from its line where they are printed one on a line. -/
theorem paths_read_back (read : parse text = .ok value) :
    value.paths ≠ [] ∧ Expression.depth value.paths = 0 ∧
    Expression.paths value.paths = value.paths ∧
    parse (Expression.text value.paths) = .ok value.paths ∧
    ∀ indent, ∃ shown, Format.paths.render? indent value = some shown ∧
      (linesOf shown).length = value.paths.length ∧
      ∀ (index : Nat) (path : Path), value.paths[index]? = some path →
        ∃ line, (linesOf shown)[index]? = some line ∧ parse line = .ok [path] := by
  obtain ⟨proper, _⟩ := wellFormed_of_parse read
  have all := Expression.Proper.allRun value proper
  have flat := Expression.isFlat_paths value
  refine ⟨all.nonempty, depth_of_isFlat flat, paths_of_isFlat flat,
    parse_text (wellFormed_paths proper), ?_⟩
  intro indent
  refine ⟨_, rfl, ?_, ?_⟩
  · rw [linesOf_paths proper, List.length_map]
  · intro index path found
    refine ⟨Series.text path, ?_, parse_path proper (List.mem_of_getElem? found)⟩
    rw [linesOf_paths proper, List.getElem?_map, found]
    rfl

theorem paths_read_back_product :
    parse "[a,+m].[items,b:c]" =
        .ok [[⟨.group [[⟨.trait "a", false⟩], [⟨.metadata "m", false⟩]], true⟩,
          ⟨.group [[⟨.items, false⟩], [⟨.trait "b", false⟩, ⟨.trait "c", false⟩]], false⟩]] ∧
      parse "a.items,a.b:c,+m.items,+m.b:c" =
        .ok [[⟨.trait "a", true⟩, ⟨.items, false⟩],
          [⟨.trait "a", true⟩, ⟨.trait "b", false⟩, ⟨.trait "c", false⟩],
          [⟨.metadata "m", true⟩, ⟨.items, false⟩],
          [⟨.metadata "m", true⟩, ⟨.trait "b", false⟩, ⟨.trait "c", false⟩]] := by
  have read : parse "[a,+m].[items,b:c]" =
      .ok [[⟨.group [[⟨.trait "a", false⟩], [⟨.metadata "m", false⟩]], true⟩,
        ⟨.group [[⟨.items, false⟩], [⟨.trait "b", false⟩, ⟨.trait "c", false⟩]], false⟩]] := by cbv
  exact ⟨read, (paths_read_back read).2.2.2.1⟩

end Expression

end Observe
