import Observe.Expression.Grammar
import Observe.Expression.Parser
import Observe.Proofs.Scan

namespace Observe

open ScanMode (Passes)

/-! What a reading by recursive descent comes to: a tree of the grammar, or the error of the scan.
While a phrase is read, the groups that the parser counts are those that the scan counts as open. -/

/-- A category of the grammar. What extends a phrase is a token that can go on with it. -/
structure Phrase (α : Type) where
  derives : List TokenKind → α → Prop
  depth : α → Nat
  Extends : TokenKind → Prop

namespace Phrase

abbrev element : Phrase Element := ⟨Element.Derives, Element.depth, fun _ => False⟩

abbrev series : Phrase Series := ⟨Series.Derives, Series.depth, fun kind => kind.notify? ≠ none⟩

abbrev branches : Phrase Expression :=
  ⟨Expression.Derives, Expression.depth, fun kind => kind.notify? ≠ none ∨ kind = .comma⟩

def EndsAt {α : Type} (phrase : Phrase α) (rest : List Token) : Prop :=
  ∀ token ∈ rest.head?, ¬ phrase.Extends token.kind

/-- The tokens are a phrase that may stand where so many groups are open. -/
structure Stands {α : Type} (phrase : Phrase α) (limit depth : Nat) (used : List Token)
    (value : α) : Prop where
  derived : phrase.derives (used.map Token.kind) value
  passed : Passes limit .elementNext depth used .elementPassed depth
  shallow : depth + phrase.depth value ≤ max depth limit

variable {limit depth : Nat} {used later : List Token} {token : Token}

theorem Stands.leaf {value : Element} (derived : Element.Derives (used.map Token.kind) value)
    (passed : Passes limit .elementNext depth used .elementPassed depth) (flat : value.depth = 0) :
    element.Stands limit depth used value where
  derived := derived
  passed := passed
  shallow := by
    show depth + value.depth ≤ _
    rw [flat]
    exact Nat.le_max_left depth limit

theorem Stands.group {inner : Expression} (openedAt closedAt : Nat) (room : depth < limit)
    (stands : branches.Stands limit (depth + 1) used inner) :
    element.Stands limit depth (⟨.openBracket, openedAt⟩ :: (used ++ [⟨.closeBracket, closedAt⟩]))
      (.group inner) where
  derived := by
    simpa using Element.Derives.group stands.derived
  passed := .token (ScanMode.step_openBracket rfl room)
    (stands.passed.append (.token (ScanMode.step_closeBracket rfl) .nothing))
  shallow := by
    have bound : depth + 1 + inner.depth ≤ max (depth + 1) limit := stands.shallow
    show depth + (1 + inner.depth) ≤ max depth limit
    omega

theorem Stands.last {first : Element} (stands : element.Stands limit depth used first) :
    series.Stands limit depth used [⟨first, false⟩] where
  derived := .last stands.derived
  passed := stands.passed
  shallow := by
    simpa [Series.depth] using stands.shallow

theorem Stands.step {first : Element} {others : Series} {notify : Bool}
    (flagged : token.kind = .ofNotify notify) (head : element.Stands limit depth used first)
    (tail : series.Stands limit depth later others) :
    series.Stands limit depth (used ++ token :: later) (⟨first, notify⟩ :: others) where
  derived := by
    rw [List.map_append, List.map_cons, flagged]
    cases notify with
    | true => exact .dot head.derived tail.derived
    | false => exact .colon head.derived tail.derived
  passed := head.passed.append (.token (ScanMode.step_ofNotify flagged) tail.passed)
  shallow := by
    have bound := Nat.max_le.mpr ⟨head.shallow, tail.shallow⟩
    rwa [Nat.add_max_add_left] at bound

theorem Stands.one {first : Series} (stands : series.Stands limit depth used first) :
    branches.Stands limit depth used [first] where
  derived := .one stands.derived
  passed := stands.passed
  shallow := by
    simpa [Expression.depth] using stands.shallow

theorem Stands.more {first : Series} {others : Expression} (comma : token.kind = .comma)
    (head : series.Stands limit depth used first)
    (tail : branches.Stands limit depth later others) :
    branches.Stands limit depth (used ++ token :: later) (first :: others) where
  derived := by
    rw [List.map_append, List.map_cons, comma]
    exact .more head.derived tail.derived
  passed := head.passed.append (.token (ScanMode.step_comma comma) tail.passed)
  shallow := by
    have bound := Nat.max_le.mpr ⟨head.shallow, tail.shallow⟩
    rwa [Nat.add_max_add_left] at bound

end Phrase

namespace Parser

/-- The groups that a reading has counted as left when it stops in a mode: one that only lacks its
closing bracket is. -/
def leftIn : ScanMode → Nat
  | .elementPassed => 1
  | _ => 0

/-- A reading stops where the scan stops, inside the groups that were open when it began. -/
inductive Stops (limit finish : Nat) (before : Parser) : SyntaxError → Parser → Prop
  | atEnd {opened : Nat} (mode : ScanMode)
      (passed : Passes limit .elementNext before.depth before.remaining mode opened)
      (inside : before.depth + leftIn mode ≤ opened) :
      Stops limit finish before (.unexpectedEnd finish (mode.wanted opened))
        ⟨[], opened - leftIn mode⟩
  | atToken {opened : Nat} {rest : List Token} {token : Token} {error : SyntaxError}
      (mode : ScanMode) (used : List Token) (split : before.remaining = used ++ token :: rest)
      (passed : Passes limit .elementNext before.depth used mode opened)
      (refused : mode.step limit opened token = .error error)
      (inside : before.depth + leftIn mode ≤ opened) :
      Stops limit finish before error ⟨rest, opened - leftIn mode⟩

variable {limit finish depth inner : Nat} {used rest : List Token} {token : Token}
  {before after : Parser} {error : SyntaxError}

theorem Stops.later (split : before.remaining = used ++ rest)
    (passed : Passes limit .elementNext before.depth used .elementNext inner)
    (deeper : before.depth ≤ inner) (stops : Stops limit finish ⟨rest, inner⟩ error after) :
    Stops limit finish before error after := by
  cases stops with
  | atEnd mode others inside =>
      refine .atEnd mode ?_ (by simp only at inside; omega)
      rw [split]
      exact passed.append others
  | atToken mode others splitRest between refused inside =>
      refine .atToken mode (used ++ others) ?_ (passed.append between) refused
        (by simp only at inside; omega)
      rw [split, List.append_assoc]
      exact congrArg (used ++ ·) splitRest

theorem Stops.separated (split : before.remaining = used ++ token :: rest)
    (passed : Passes limit .elementNext before.depth used .elementPassed before.depth)
    (stepped : ScanMode.elementPassed.step limit before.depth token =
      .ok (.elementNext, before.depth))
    (stops : Stops limit finish ⟨rest, before.depth⟩ error after) :
    Stops limit finish before error after := by
  refine .later ?_ (passed.append (.token stepped .nothing)) (Nat.le_refl _) stops
  rw [split, List.append_assoc, List.singleton_append]

/-- What a reading of a phrase comes to. -/
def Outcome.Meets {α : Type} {given : Nat} (limit finish : Nat) (phrase : Phrase α)
    (before : Parser) : Outcome α given → Prop
  | .read value after _ => ∃ used, before.remaining = used ++ after.remaining ∧
      after.depth = before.depth ∧ phrase.Stands limit before.depth used value ∧
      phrase.EndsAt after.remaining
  | .failed error after => Stops limit finish before error after

/-- A group is read as its branches are, with one more group open. -/
theorem group_meets (position : Nat) (room : depth < limit)
    (entered : (branches limit finish ⟨rest, depth + 1⟩).Meets limit finish .branches
      ⟨rest, depth + 1⟩) :
    (element limit finish ⟨⟨.openBracket, position⟩ :: rest, depth⟩).Meets limit finish .element
      ⟨⟨.openBracket, position⟩ :: rest, depth⟩ := by
  have opening : Passes limit .elementNext depth [⟨.openBracket, position⟩] .elementNext
      (depth + 1) := .token (ScanMode.step_openBracket rfl room) .nothing
  simp only [element, Nat.not_le.mpr room, if_false]
  split
  · rename_i error after failed
    rw [failed] at entered
    exact .later rfl opening (Nat.le_succ depth) entered
  · rename_i inner count shorter read
    rw [read] at entered
    obtain ⟨used, split, kept, stands, _⟩ := entered
    simp only [List.append_nil] at split kept
    subst split kept
    exact .atEnd .elementPassed (opening.append stands.passed) (Nat.le_refl _)
  · rename_i inner found closedAt others count shorter read
    rw [read] at entered
    obtain ⟨used, split, kept, stands, ends⟩ := entered
    simp only at split kept
    subst split kept
    split
    · rename_i closing
      subst closing
      refine ⟨_, ?_, rfl, .group position closedAt room stands, fun _ _ => id⟩
      simp
    · rename_i unclosed
      obtain ⟨unflagged, noComma⟩ := not_or.mp (ends _ rfl)
      refine .atToken .elementPassed (⟨.openBracket, position⟩ :: used) rfl
        (opening.append stands.passed) ?_ (Nat.le_refl _)
      exact ScanMode.step_refused_inside (Classical.not_not.mp unflagged) noComma unclosed

mutual

theorem element_meets (limit finish : Nat) (parser : Parser) :
    (element limit finish parser).Meets limit finish .element parser := by
  rw [element.eq_def]
  split
  · exact .atEnd .elementNext .nothing (Nat.le_refl _)
  · exact ⟨[_], rfl, rfl, .leaf (.trait _) (.token rfl .nothing) rfl, fun _ _ => id⟩
  · exact ⟨[_], rfl, rfl, .leaf .items (.token rfl .nothing) rfl, fun _ _ => id⟩
  · split
    · exact .atEnd .nameNext (.token rfl .nothing) (Nat.le_refl _)
    · exact ⟨[_, _], rfl, rfl, .leaf (.metadata _) (.token rfl (.token rfl .nothing)) rfl,
        fun _ _ => id⟩
    · rename_i noName
      exact .atToken .nameNext [_] rfl (.token rfl .nothing)
        (ScanMode.step_nameNext_refused noName) (Nat.le_refl _)
  · rename_i position rest depth
    split
    · rename_i full
      exact .atToken .elementNext [] rfl .nothing (ScanMode.step_openBracket_full rfl full)
        (Nat.le_refl _)
    · rename_i room
      have grouped := group_meets position (Nat.not_le.mp room)
        (branches_meets limit finish ⟨rest, depth + 1⟩)
      simpa only [element, if_neg room] using grouped
  · rename_i found position rest depth noName noItems noPlus noBracket
    exact .atToken .elementNext [] rfl .nothing
      (ScanMode.step_elementNext_refused noName noItems noPlus noBracket) (Nat.le_refl _)
termination_by (parser.remaining.length, 0)

theorem series_meets (limit finish : Nat) (parser : Parser) :
    (series limit finish parser).Meets limit finish .series parser := by
  have head := element_meets limit finish parser
  rw [series]
  split
  · rename_i error after failed
    rw [failed] at head
    exact head
  · rename_i first count shorter read
    rw [read] at head
    obtain ⟨used, split, kept, stands, _⟩ := head
    exact ⟨used, split, kept, stands.last, by simp [Phrase.EndsAt]⟩
  · rename_i first token rest count shorter read
    rw [read] at head
    obtain ⟨used, split, kept, stands, _⟩ := head
    simp only at split kept
    subst kept
    split
    · rename_i unflagged
      refine ⟨used, split, rfl, stands.last, ?_⟩
      simp [Phrase.EndsAt, unflagged]
    · rename_i notify flagged
      have separator := TokenKind.notify?_eq_some_iff.mp flagged
      have tail := series_meets limit finish ⟨rest, parser.depth⟩
      split
      · rename_i error after failed
        rw [failed] at tail
        exact .separated split stands.passed (ScanMode.step_ofNotify separator) tail
      · rename_i others after shorter read
        rw [read] at tail
        obtain ⟨later, splitTail, kept, standsTail, ends⟩ := tail
        simp only at splitTail kept
        refine ⟨_, ?_, kept, .step separator stands standsTail, ends⟩
        simp [split, splitTail]
termination_by (parser.remaining.length, 1)
decreasing_by
  · exact Prod.Lex.right _ (by decide)
  · apply Prod.Lex.left
    simp only [List.length_cons] at shorter ⊢
    omega

theorem branches_meets (limit finish : Nat) (parser : Parser) :
    (branches limit finish parser).Meets limit finish .branches parser := by
  have head := series_meets limit finish parser
  rw [branches]
  split
  · rename_i error after failed
    rw [failed] at head
    exact head
  · rename_i first count shorter read
    rw [read] at head
    obtain ⟨used, split, kept, stands, _⟩ := head
    exact ⟨used, split, kept, stands.one, by simp [Phrase.EndsAt]⟩
  · rename_i first token rest count shorter read
    rw [read] at head
    obtain ⟨used, split, kept, stands, endsHead⟩ := head
    simp only at split kept
    subst kept
    split
    · rename_i comma
      have tail := branches_meets limit finish ⟨rest, parser.depth⟩
      split
      · rename_i error after failed
        rw [failed] at tail
        exact .separated split stands.passed (ScanMode.step_comma comma) tail
      · rename_i others after shorter read
        rw [read] at tail
        obtain ⟨later, splitTail, kept, standsTail, ends⟩ := tail
        simp only at splitTail kept
        refine ⟨_, ?_, kept, .more comma stands standsTail, ends⟩
        simp [split, splitTail]
    · rename_i noComma
      refine ⟨used, split, rfl, stands.one, ?_⟩
      simp_all [Phrase.EndsAt]
termination_by (parser.remaining.length, 2)
decreasing_by
  · exact Prod.Lex.right _ (by decide)
  · apply Prod.Lex.left
    simp only [List.length_cons] at shorter ⊢
    omega

end

/-- An expression takes all the tokens. -/
theorem expression_read {value : Expression}
    (read : expression limit finish before = (.ok value, after)) :
    Phrase.branches.Stands limit before.depth before.remaining value ∧
      after = ⟨[], before.depth⟩ := by
  have whole := branches_meets limit finish before
  unfold expression at read
  split at read
  · cases read
  · rename_i found depth shorter taken
    rw [taken] at whole
    obtain ⟨used, split, kept, stands, _⟩ := whole
    simp only [List.append_nil] at split kept
    subst split kept
    cases read
    exact ⟨stands, rfl⟩
  · cases read

/-- An expression is refused where its branches are, or at the first token behind them, which then
is not used up. -/
theorem expression_refused (refused : expression limit finish before = (.error error, after)) :
    Stops limit finish before error after ∨
      ∃ used token rest, before.remaining = used ++ token :: rest ∧
        Passes limit .elementNext before.depth used .elementPassed before.depth ∧
        token.kind.notify? = none ∧ token.kind ≠ .comma ∧
        error = .unexpectedToken token.position token.kind commaOrEndWanted ∧
        after = ⟨token :: rest, before.depth⟩ := by
  have whole := branches_meets limit finish before
  unfold expression at refused
  split at refused
  · rename_i stopped stop failed
    rw [failed] at whole
    cases refused
    exact .inl whole
  · cases refused
  · rename_i value found position rest depth shorter taken
    rw [taken] at whole
    obtain ⟨used, split, kept, stands, ends⟩ := whole
    simp only at split kept
    subst kept
    obtain ⟨unflagged, noComma⟩ := not_or.mp (ends _ rfl)
    cases refused
    exact .inr ⟨used, ⟨found, position⟩, rest, split, stands.passed,
      Classical.not_not.mp unflagged, noComma, rfl, rfl⟩

theorem Stops.scan (stops : Stops limit finish before error after) :
    ScanMode.elementNext.scan limit finish before.depth before.remaining = .error error := by
  cases stops with
  | @atEnd opened mode passed inside =>
      have scanned := passed.scan finish []
      rw [List.append_nil] at scanned
      rw [scanned]
      cases mode <;> cases opened <;> simp_all [ScanMode.scan, ScanMode.isFinal, leftIn]
  | atToken mode used split passed refused inside =>
      rw [split, passed.scan finish]
      simp only [ScanMode.scan, refused]

/-- A reading and the scan accept the same tokens, and refuse others with the same error. -/
theorem expression_map_eq_scan (finish : Nat) (tokens : List Token) :
    (expression maximalDepth finish (.start tokens)).1.map (fun _ => ()) =
      ScanMode.scan maximalDepth finish .elementNext 0 tokens := by
  rcases result : expression maximalDepth finish (.start tokens) with ⟨error | value, after⟩
  · rcases expression_refused result with stops | ⟨used, token, rest, split, passed, outside⟩
    · exact stops.scan.symm
    · obtain ⟨unflagged, noComma, rfl, _⟩ := outside
      have scanned := passed.scan finish (token :: rest)
      rw [← split] at scanned
      refine Eq.trans ?_ scanned.symm
      simp only [ScanMode.scan, start, ScanMode.step_refused_outside unflagged noComma]
      rfl
  · have scanned := (expression_read result).1.passed.scan finish []
    rw [List.append_nil] at scanned
    exact scanned.symm

end Parser

end Observe
