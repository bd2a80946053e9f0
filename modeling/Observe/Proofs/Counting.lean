import Observe.Expression.Contents
import Observe.Proofs.Text

namespace Observe

/-! What is counted in a tree is counted in its tokens too. Groups nest as deep as brackets are open
at most, and the commas outside of all brackets part the branches. -/

namespace Token

variable {front behind kinds : List TokenKind}
  {depth leaves groups commas deeper otherLeaves otherGroups otherCommas : Nat}

/-- How many more brackets open than close. -/
def opened (kinds : List TokenKind) : Int :=
  (kinds.count .openBracket : Int) - kinds.count .closeBracket

/-- How many brackets are open in front of, between and behind the tokens. -/
def heights (kinds : List TokenKind) : Set Int :=
  {height | ∃ used, used <+: kinds ∧ opened used = height}

/-- The commas before which so many brackets are open. -/
def commasAt (height : Int) (kinds : List TokenKind) : Nat :=
  (List.range kinds.length).countP fun index =>
    kinds[index]? = some .comma ∧ opened (kinds.take index) = height

theorem opened_append (front behind : List TokenKind) :
    opened (front ++ behind) = opened front + opened behind := by
  simp only [opened, List.count_append, Nat.cast_add]
  ring

theorem heights_singleton (kind : TokenKind) : heights [kind] = {0, opened [kind]} := by
  ext height
  simp [heights, List.prefix_cons_iff, opened, eq_comm]

theorem heights_append (front behind : List TokenKind) :
    heights (front ++ behind) = heights front ∪ (opened front + ·) '' heights behind := by
  ext height
  constructor
  · rintro ⟨used, begins, rfl⟩
    rcases List.prefix_or_prefix_of_prefix begins (List.prefix_append front behind) with
      within | ⟨later, rfl⟩
    · exact .inl ⟨used, within, rfl⟩
    · have beginsLater := (List.prefix_append_right_inj front).mp begins
      exact .inr ⟨opened later, ⟨later, beginsLater, rfl⟩, (opened_append front later).symm⟩
  · rintro (⟨used, within, rfl⟩ | ⟨_, ⟨later, begins, rfl⟩, rfl⟩)
    · exact ⟨used, within.trans (List.prefix_append front behind), rfl⟩
    · exact ⟨front ++ later, (List.prefix_append_right_inj front).mpr begins,
        opened_append front later⟩

theorem commasAt_singleton (height : Int) (kind : TokenKind) :
    commasAt height [kind] = if kind = .comma ∧ height = 0 then 1 else 0 := by
  have outside : opened ([kind].take 0) = 0 := rfl
  rw [commasAt, List.length_singleton, List.range_one, List.countP_singleton, outside]
  simp [@eq_comm _ 0 height]

theorem commasAt_append (height : Int) (front behind : List TokenKind) :
    commasAt height (front ++ behind) =
      commasAt height front + commasAt (height - opened front) behind := by
  rw [commasAt, List.length_append, List.range_add, List.countP_append, List.countP_map]
  congr 1
  · apply List.countP_congr
    intro index member
    have inFront : index < front.length := List.mem_range.mp member
    rw [List.getElem?_append_left inFront, List.take_append_of_le_length (Nat.le_of_lt inFront)]
  · apply List.countP_congr
    intro index _
    have moved : (front ++ behind)[front.length + index]? = behind[index]? := by
      rw [List.getElem?_append_right (Nat.le_add_right _ _), Nat.add_sub_cancel_left]
    simp only [Function.comp, moved, List.take_length_add_append, opened_append,
      decide_eq_true_eq]
    exact and_congr_right fun _ => (eq_sub_iff_add_eq').symm

theorem commasAt_of_grounded (grounded : ∀ height ∈ heights kinds, 0 ≤ height) {height : Int}
    (below : height < 0) : commasAt height kinds = 0 := by
  apply List.countP_eq_zero.mpr
  intro index _ counted
  obtain ⟨_, reached⟩ := of_decide_eq_true counted
  have above := grounded _ ⟨kinds.take index, List.take_prefix index kinds, reached⟩
  omega

/-- Tokens with matching brackets, and what is counted in them. -/
structure Tallied (kinds : List TokenKind) (depth leaves groups commas : Nat) : Prop where
  opening : kinds.count .openBracket = groups
  closing : kinds.count .closeBracket = groups
  words : kinds.countP isWord = leaves
  grounded : ∀ height ∈ heights kinds, 0 ≤ height
  highest : IsGreatest (heights kinds) (depth : Int)
  separators : commasAt 0 kinds = commas

theorem Tallied.balanced (tallied : Tallied kinds depth leaves groups commas) :
    opened kinds = 0 := by
  rw [opened, tallied.opening, tallied.closing, sub_self]

theorem tallied_singleton (kind : TokenKind) (noOpening : kind ≠ .openBracket)
    (noClosing : kind ≠ .closeBracket) :
    Tallied [kind] 0 ([kind].countP isWord) 0 ([kind].count .comma) where
  opening := by simp [noOpening]
  closing := by simp [noClosing]
  words := rfl
  grounded := by simp [heights_singleton, opened, noOpening, noClosing]
  highest := by simp [heights_singleton, opened, noOpening, noClosing]
  separators := by simp [commasAt_singleton, List.count_singleton]

theorem Tallied.append (first : Tallied front depth leaves groups commas)
    (second : Tallied behind deeper otherLeaves otherGroups otherCommas) :
    Tallied (front ++ behind) (max depth deeper) (leaves + otherLeaves) (groups + otherGroups)
      (commas + otherCommas) := by
  have reached : heights (front ++ behind) = heights front ∪ heights behind := by
    rw [heights_append, first.balanced]
    simp
  constructor
  case opening => rw [List.count_append, first.opening, second.opening]
  case closing => rw [List.count_append, first.closing, second.closing]
  case words => rw [List.countP_append, first.words, second.words]
  case grounded =>
    rw [reached]
    rintro height (inFront | inBehind)
    · exact first.grounded height inFront
    · exact second.grounded height inBehind
  case highest =>
    rw [reached, Nat.cast_max]
    exact first.highest.union second.highest
  case separators =>
    rw [commasAt_append, first.balanced, sub_zero, first.separators, second.separators]

/-- Parts on both sides of a separator count as much as they do alone. -/
theorem Tallied.separated {separator : TokenKind}
    (first : Tallied front depth leaves groups commas)
    (second : Tallied behind deeper otherLeaves otherGroups otherCommas)
    (between : Tallied [separator] 0 0 0 ([separator].count .comma)) :
    Tallied (front ++ separator :: behind) (max depth deeper) (leaves + otherLeaves)
      (groups + otherGroups) (commas + [separator].count .comma + otherCommas) := by
  simpa [Nat.add_assoc] using first.append (between.append second)

/-- Inside of brackets every height is one more, and no comma is outside. -/
theorem Tallied.enclosed (inner : Tallied kinds depth leaves groups commas) :
    Tallied (.openBracket :: (kinds ++ [.closeBracket])) (1 + depth) leaves (1 + groups) 0 := by
  have opening : opened [.openBracket] = 1 := rfl
  have closing : opened [.closeBracket] = -1 := rfl
  have reached : heights (.openBracket :: (kinds ++ [.closeBracket])) =
      {0, 1} ∪ (1 + ·) '' (heights kinds ∪ {0, -1}) := by
    rw [← List.singleton_append, heights_append, heights_append, heights_singleton,
      heights_singleton, inner.balanced, opening, closing]
    simp
  constructor
  case opening => simp [inner.opening, Nat.add_comm]
  case closing => simp [inner.closing, Nat.add_comm]
  case words => simp [inner.words, isWord]
  case grounded =>
    rw [reached]
    rintro height (outer | ⟨below, within | outer, rfl⟩)
    · rcases outer with rfl | rfl <;> decide
    · have above := inner.grounded below within
      exact add_nonneg zero_le_one above
    · rcases outer with rfl | rfl <;> decide
  case highest =>
    rw [reached, Nat.cast_add, Nat.cast_one]
    refine ⟨.inr ⟨depth, .inl inner.highest.1, rfl⟩, ?_⟩
    rintro height (outer | ⟨below, within | outer, rfl⟩)
    · rcases outer with rfl | rfl <;> omega
    · exact add_le_add_right (inner.highest.2 within) 1
    · rcases outer with rfl | rfl <;> simp only <;> omega
  case separators =>
    have inside := commasAt_of_grounded inner.grounded (show (0 : Int) - 1 < 0 by decide)
    rw [← List.singleton_append, commasAt_append, commasAt_append, opening, inside,
      commasAt_singleton, commasAt_singleton]
    simp

end Token

open Token (Tallied)

theorem Expression.Derives.length_pos {kinds : List TokenKind} {branches : Expression}
    (derived : Expression.Derives kinds branches) : 0 < branches.length := by
  cases derived <;> exact Nat.succ_pos _

mutual

theorem Element.Derives.tallied {kinds : List TokenKind} {element : Element}
    (derived : Element.Derives kinds element) :
    Tallied kinds element.depth element.leafCount element.groupCount 0 := by
  cases derived with
  | trait name => exact Token.tallied_singleton _ nofun nofun
  | metadata name =>
      have plus := Token.tallied_singleton .plus nofun nofun
      have named := Token.tallied_singleton (.name name) nofun nofun
      exact plus.append named
  | items => exact Token.tallied_singleton _ nofun nofun
  | group branches => exact branches.tallied.enclosed

theorem Series.Derives.tallied {kinds : List TokenKind} {series : Series}
    (derived : Series.Derives kinds series) :
    Tallied kinds series.depth series.leafCount series.groupCount 0 := by
  cases derived with
  | last element => simpa [Series.depth, Series.leafCount, Series.groupCount] using element.tallied
  | dot element rest
  | colon element rest =>
      exact element.tallied.separated rest.tallied (Token.tallied_singleton _ nofun nofun)

theorem Expression.Derives.tallied {kinds : List TokenKind} {branches : Expression}
    (derived : Expression.Derives kinds branches) :
    Tallied kinds branches.depth branches.leafCount branches.groupCount
      (branches.length - 1) := by
  cases derived with
  | one series =>
      simpa [Expression.depth, Expression.leafCount, Expression.groupCount] using series.tallied
  | @more _ _ _ others series rest =>
      have positive := rest.length_pos
      have commas : 0 + 1 + (others.length - 1) = others.length := by omega
      have counted := series.tallied.separated rest.tallied
        (Token.tallied_singleton .comma nofun nofun)
      rw [List.count_singleton_self, commas] at counted
      exact counted

end

namespace Expression

/-- A tree has the measures of its tokens: its depth is the greatest number of brackets that are
open at once, the commas outside of all brackets part its branches, each word is one of its leaves,
and each pair of brackets one of its groups. -/
theorem parse_counts {text : String} {value : Expression} (read : parse text = .ok value) :
    ∃ tokens, Token.tokenize text = .ok tokens ∧
      let kinds := tokens.map Token.kind
      IsGreatest (Token.heights kinds) value.depth ∧
        value.length = 1 + Token.commasAt 0 kinds ∧
        value.leafCount = kinds.countP Token.isWord ∧
        value.groupCount = kinds.count .openBracket ∧
        kinds.count .openBracket = kinds.count .closeBracket := by
  obtain ⟨tokens, laidOut, derived, _⟩ := parse_eq_ok_iff.mp read
  have tallied := derived.tallied
  have positive := derived.length_pos
  refine ⟨tokens, Token.tokenize_eq_ok.mpr laidOut, tallied.highest, ?_, tallied.words.symm,
    tallied.opening.symm, tallied.opening.trans tallied.closing.symm⟩
  rw [tallied.separators]
  omega

theorem parse_counts_grouped :
    parse "[a, [+m]].items, b" =
        .ok [[⟨.group [[⟨.trait "a", false⟩], [⟨.group [[⟨.metadata "m", false⟩]], false⟩]], true⟩,
          ⟨.items, false⟩], [⟨.trait "b", false⟩]] ∧
      ∃ tokens, Token.tokenize "[a, [+m]].items, b" = .ok tokens ∧
        IsGreatest (Token.heights (tokens.map Token.kind)) 2 ∧
        2 = 1 + Token.commasAt 0 (tokens.map Token.kind) ∧
        4 = (tokens.map Token.kind).countP Token.isWord ∧
        2 = (tokens.map Token.kind).count .openBracket ∧
        (tokens.map Token.kind).count .openBracket =
          (tokens.map Token.kind).count .closeBracket := by
  have read : parse "[a, [+m]].items, b" =
      .ok [[⟨.group [[⟨.trait "a", false⟩], [⟨.group [[⟨.metadata "m", false⟩]], false⟩]], true⟩,
        ⟨.items, false⟩], [⟨.trait "b", false⟩]] := by cbv
  exact ⟨read, parse_counts read⟩

end Expression

end Observe
