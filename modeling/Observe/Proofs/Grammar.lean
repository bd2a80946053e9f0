import Observe.Proofs.Reading

namespace Observe.Parser

variable {limit finish depth : Nat} {before : Parser} {used later rest : List Token}
  {kinds otherKinds : List TokenKind}

/-- The outcome is this tree, after which the parser is left as it is here. -/
def Outcome.Reads {α : Type} {given : Nat} (outcome : Outcome α given) (value : α)
    (after : Parser) : Prop :=
  ∃ shorter, outcome = .read value after shorter

theorem spelled_around {separator : TokenKind}
    (spelled : used.map Token.kind = kinds ++ separator :: otherKinds) :
    ∃ front token later, used = front ++ token :: later ∧ front.map Token.kind = kinds ∧
      token.kind = separator ∧ later.map Token.kind = otherKinds := by
  obtain ⟨front, behind, rfl, spelledFront, spelledBehind⟩ := List.map_eq_append_iff.mp spelled
  obtain ⟨token, later, rfl, separates, spelledLater⟩ := List.map_eq_cons_iff.mp spelledBehind
  exact ⟨front, token, later, rfl, spelledFront, separates, spelledLater⟩

theorem element_reads_group {inner : Expression} {openBracket closeBracket : Token}
    (opening : openBracket.kind = .openBracket) (closing : closeBracket.kind = .closeBracket)
    (room : depth < limit)
    (entered : (branches limit finish ⟨later, depth + 1⟩).Reads inner
      ⟨closeBracket :: rest, depth + 1⟩) :
    (element limit finish ⟨openBracket :: later, depth⟩).Reads (.group inner) ⟨rest, depth⟩ := by
  obtain ⟨shorter, read⟩ := entered
  obtain ⟨kind, position⟩ := openBracket
  subst opening
  simp only [element, Nat.not_le.mpr room, if_false, read, closing, if_true]
  exact ⟨_, rfl⟩

theorem series_reads_last {first : Element}
    (head : (element limit finish before).Reads first ⟨rest, depth⟩)
    (ends : Phrase.series.EndsAt rest) :
    (series limit finish before).Reads [⟨first, false⟩] ⟨rest, depth⟩ := by
  obtain ⟨shorter, read⟩ := head
  rw [series, read]
  cases rest with
  | nil => exact ⟨shorter, rfl⟩
  | cons token rest =>
      have unflagged : token.kind.notify? = none := Classical.not_not.mp (ends token rfl)
      simp only [unflagged]
      exact ⟨shorter, rfl⟩

/-- A series is read if its first element is, whatever follows it, and the rest of its steps are. -/
theorem series_reads_step {first : Element} {others : Series} (notify : Bool)
    (spelled : used.map Token.kind = kinds ++ .ofNotify notify :: otherKinds)
    (head : ∀ front behind, front.map Token.kind = kinds →
      (element limit finish ⟨front ++ behind, depth⟩).Reads first ⟨behind, depth⟩)
    (tail : ∀ later, later.map Token.kind = otherKinds →
      (series limit finish ⟨later ++ rest, depth⟩).Reads others ⟨rest, depth⟩) :
    (series limit finish ⟨used ++ rest, depth⟩).Reads (⟨first, notify⟩ :: others)
      ⟨rest, depth⟩ := by
  obtain ⟨front, token, later, rfl, spelledFirst, flagged, spelledOthers⟩ := spelled_around spelled
  obtain ⟨shorter, read⟩ := head front (token :: (later ++ rest)) spelledFirst
  obtain ⟨less, readTail⟩ := tail later spelledOthers
  rw [List.append_assoc, List.cons_append, series, read]
  simp only [flagged, TokenKind.notify?_ofNotify, readTail]
  exact ⟨_, rfl⟩

theorem branches_reads_one {first : Series}
    (head : (series limit finish before).Reads first ⟨rest, depth⟩)
    (ends : Phrase.branches.EndsAt rest) :
    (branches limit finish before).Reads [first] ⟨rest, depth⟩ := by
  obtain ⟨shorter, read⟩ := head
  rw [branches, read]
  cases rest with
  | nil => exact ⟨shorter, rfl⟩
  | cons token rest =>
      have noComma : token.kind ≠ .comma := (not_or.mp (ends token rfl)).2
      simp only [noComma, if_false]
      exact ⟨shorter, rfl⟩

theorem branches_reads_more {first : Series} {others : Expression}
    (spelled : used.map Token.kind = kinds ++ .comma :: otherKinds)
    (head : ∀ front behind, front.map Token.kind = kinds → Phrase.series.EndsAt behind →
      (series limit finish ⟨front ++ behind, depth⟩).Reads first ⟨behind, depth⟩)
    (tail : ∀ later, later.map Token.kind = otherKinds →
      (branches limit finish ⟨later ++ rest, depth⟩).Reads others ⟨rest, depth⟩) :
    (branches limit finish ⟨used ++ rest, depth⟩).Reads (first :: others) ⟨rest, depth⟩ := by
  obtain ⟨front, token, later, rfl, spelledFirst, comma, spelledOthers⟩ := spelled_around spelled
  have ends : Phrase.series.EndsAt (token :: (later ++ rest)) := by
    simp [Phrase.EndsAt, comma, TokenKind.notify?]
  obtain ⟨shorter, read⟩ := head front (token :: (later ++ rest)) spelledFirst ends
  obtain ⟨less, readTail⟩ := tail later spelledOthers
  rw [List.append_assoc, List.cons_append, branches, read]
  simp only [comma, if_true, readTail]
  exact ⟨_, rfl⟩

mutual

/-- Tokens that are written for an element are read as that element, whatever follows them. -/
theorem element_reads {kinds : List TokenKind} {value : Element}
    (derived : Element.Derives kinds value) (depth : Nat) (used rest : List Token)
    (spelled : used.map Token.kind = kinds) (shallow : depth + value.depth ≤ max depth limit) :
    (element limit finish ⟨used ++ rest, depth⟩).Reads value ⟨rest, depth⟩ := by
  cases derived with
  | trait name =>
      obtain ⟨⟨_, position⟩, rfl, rfl⟩ := List.map_eq_singleton_iff.mp spelled
      simp only [List.singleton_append, element]
      exact ⟨_, rfl⟩
  | metadata name =>
      obtain ⟨⟨_, position⟩, others, rfl, rfl, spelledName⟩ := List.map_eq_cons_iff.mp spelled
      obtain ⟨⟨_, namePosition⟩, rfl, rfl⟩ := List.map_eq_singleton_iff.mp spelledName
      simp only [List.cons_append, List.nil_append, element]
      exact ⟨_, rfl⟩
  | items =>
      obtain ⟨⟨_, position⟩, rfl, rfl⟩ := List.map_eq_singleton_iff.mp spelled
      simp only [List.singleton_append, element]
      exact ⟨_, rfl⟩
  | @group inner value derived =>
      obtain ⟨openBracket, others, rfl, opening, spelledOthers⟩ := List.map_eq_cons_iff.mp spelled
      obtain ⟨used, closeBracket, _, rfl, spelledInner, closes, nothing⟩ :=
        spelled_around spelledOthers
      obtain rfl := List.map_eq_nil_iff.mp nothing
      have bound : depth + (1 + value.depth) ≤ max depth limit := shallow
      have entered := branches_reads derived (depth + 1) used (closeBracket :: rest) spelledInner
        (by omega) (by simp [Phrase.EndsAt, closes, TokenKind.notify?])
      rw [List.cons_append, List.append_assoc]
      exact element_reads_group opening closes (by omega) entered

theorem series_reads {kinds : List TokenKind} {value : Series}
    (derived : Series.Derives kinds value) (depth : Nat) (used rest : List Token)
    (spelled : used.map Token.kind = kinds) (shallow : depth + value.depth ≤ max depth limit)
    (ends : Phrase.series.EndsAt rest) :
    (series limit finish ⟨used ++ rest, depth⟩).Reads value ⟨rest, depth⟩ := by
  cases derived with
  | last derived =>
      have bound : depth + max _ 0 ≤ max depth limit := shallow
      exact series_reads_last (element_reads derived depth used rest spelled (by omega)) ends
  | @dot firstKinds otherKinds first others head tail
  | @colon firstKinds otherKinds first others head tail =>
      have bound : depth + max first.depth others.depth ≤ max depth limit := shallow
      refine series_reads_step _ spelled ?_ ?_
      · intro front behind spelledFront
        exact element_reads head depth front behind spelledFront (by omega)
      · intro later spelledOthers
        exact series_reads tail depth later rest spelledOthers (by omega) ends

theorem branches_reads {kinds : List TokenKind} {value : Expression}
    (derived : Expression.Derives kinds value) (depth : Nat) (used rest : List Token)
    (spelled : used.map Token.kind = kinds) (shallow : depth + value.depth ≤ max depth limit)
    (ends : Phrase.branches.EndsAt rest) :
    (branches limit finish ⟨used ++ rest, depth⟩).Reads value ⟨rest, depth⟩ := by
  cases derived with
  | one derived =>
      have bound : depth + max _ 0 ≤ max depth limit := shallow
      have endsSeries : Phrase.series.EndsAt rest :=
        fun token next => (not_or.mp (ends token next)).1
      exact branches_reads_one (series_reads derived depth used rest spelled (by omega) endsSeries)
        ends
  | @more firstKinds otherKinds first others head tail =>
      have bound : depth + max first.depth others.depth ≤ max depth limit := shallow
      refine branches_reads_more spelled ?_ ?_
      · intro front behind spelledFront endsFront
        exact series_reads head depth front behind spelledFront (by omega) endsFront
      · intro later spelledOthers
        exact branches_reads tail depth later rest spelledOthers (by omega) ends

end

/-- All the tokens of an expression are read as its tree if the groups nest no deeper than the
limit allows. -/
theorem expression_reads (finish : Nat) {value : Expression} {tokens : List Token}
    (derived : Expression.Derives (tokens.map Token.kind) value) (shallow : value.depth ≤ limit) :
    expression limit finish (.start tokens) = (.ok value, ⟨[], 0⟩) := by
  have read : (branches limit finish ⟨tokens ++ [], 0⟩).Reads value ⟨[], 0⟩ :=
    branches_reads derived 0 tokens [] rfl (by omega) (by simp [Phrase.EndsAt])
  rw [List.append_nil] at read
  obtain ⟨shorter, read⟩ := read
  simp only [expression, start, read]

/-- Tokens derive at most one tree: with room enough for two, the parser would have to read both. -/
theorem derives_unique {kinds : List TokenKind} {left right : Expression}
    (leftDerived : Expression.Derives kinds left) (rightDerived : Expression.Derives kinds right) :
    left = right := by
  let tokens := kinds.map fun kind => Token.mk kind 0
  have spelled : tokens.map Token.kind = kinds := by
    simp [tokens, Function.comp_def]
  rw [← spelled] at leftDerived rightDerived
  have readLeft := expression_reads 0 leftDerived (Nat.le_max_left _ right.depth)
  have readRight := expression_reads 0 rightDerived (Nat.le_max_right left.depth _)
  rw [readLeft] at readRight
  simpa using readRight

theorem reads_iff {value : Expression} {tokens : List Token} :
    (expression limit finish (.start tokens)).1 = .ok value ↔
      Expression.Derives (tokens.map Token.kind) value ∧ value.depth ≤ limit := by
  constructor
  · intro accepted
    have read : expression limit finish (.start tokens) =
        (.ok value, (expression limit finish (.start tokens)).2) := Prod.ext accepted rfl
    have stands := (expression_read read).1
    have shallow : 0 + value.depth ≤ max 0 limit := stands.shallow
    exact ⟨stands.derived, by omega⟩
  · rintro ⟨derived, shallow⟩
    rw [expression_reads finish derived shallow]

/-- The parser reads just the trees of the grammar whose groups nest within the limit, and no tokens
have two trees. -/
theorem expression_eq_ok_iff (finish : Nat) (tokens : List Token) :
    (∀ value, (expression maximalDepth finish (.start tokens)).1 = .ok value ↔
      Expression.Derives (tokens.map Token.kind) value ∧ value.depth ≤ maximalDepth) ∧
    ∀ left right, Expression.Derives (tokens.map Token.kind) left →
      Expression.Derives (tokens.map Token.kind) right → left = right :=
  ⟨fun _ => reads_iff, fun _ _ => derives_unique⟩

end Observe.Parser
