import Observe.Expression.Grammar
import Observe.Expression.WellFormed
import Observe.Token.Layout

namespace Observe

open Token (IsLexeme)

theorem Series.Derives.isEmpty {kinds : List TokenKind} {series : Series}
    (derived : Series.Derives kinds series) : series.isEmpty = false := by
  cases derived <;> rfl

theorem Expression.Derives.isEmpty {kinds : List TokenKind} {branches : Expression}
    (derived : Expression.Derives kinds branches) : branches.isEmpty = false := by
  cases derived <;> rfl

mutual

theorem Element.Derives.kinds_eq {kinds : List TokenKind} {element : Element}
    (derived : Element.Derives kinds element) : element.kinds = kinds := by
  cases derived with
  | trait name => rfl
  | metadata name => rfl
  | items => rfl
  | group inner => rw [Element.kinds, inner.kinds_eq]

theorem Series.Derives.kinds_eq {kinds : List TokenKind} {series : Series}
    (derived : Series.Derives kinds series) : series.kinds = kinds := by
  cases derived with
  | last first => simp [Series.kinds, first.kinds_eq]
  | dot first others | colon first others =>
      simp [Series.kinds, first.kinds_eq, others.kinds_eq, others.isEmpty, TokenKind.ofNotify]

theorem Expression.Derives.kinds_eq {kinds : List TokenKind} {branches : Expression}
    (derived : Expression.Derives kinds branches) : branches.kinds = kinds := by
  cases derived with
  | one first => simp [Expression.kinds, first.kinds_eq]
  | more first others =>
      simp [Expression.kinds, first.kinds_eq, others.kinds_eq, others.isEmpty]

end

theorem lexemes_around {front behind : List TokenKind} {separator : TokenKind} :
    (∀ kind ∈ front ++ separator :: behind, IsLexeme kind) ↔
      (∀ kind ∈ front, IsLexeme kind) ∧ IsLexeme separator ∧ ∀ kind ∈ behind, IsLexeme kind := by
  rw [List.forall_mem_append, List.forall_mem_cons]

mutual

theorem Element.Derives.proper {kinds : List TokenKind} {element : Element}
    (derived : Element.Derives kinds element) (lexemes : ∀ kind ∈ kinds, IsLexeme kind) :
    element.Proper := by
  cases derived with
  | trait name => exact lexemes _ List.mem_cons_self
  | metadata name => exact lexemes _ (List.mem_cons_of_mem _ List.mem_cons_self)
  | items => trivial
  | group inner =>
      have others := (List.forall_mem_cons.mp lexemes).2
      exact inner.proper (lexemes_around.mp others).1

theorem Series.Derives.proper {kinds : List TokenKind} {series : Series}
    (derived : Series.Derives kinds series) (lexemes : ∀ kind ∈ kinds, IsLexeme kind) :
    series.Proper := by
  cases derived with
  | last first => exact ⟨first.proper lexemes, rfl⟩
  | dot first others | colon first others =>
      obtain ⟨front, _, behind⟩ := lexemes_around.mp lexemes
      refine ⟨first.proper front, ?_⟩
      rw [others.isEmpty]
      exact others.proper behind

theorem Expression.Derives.proper {kinds : List TokenKind} {branches : Expression}
    (derived : Expression.Derives kinds branches) (lexemes : ∀ kind ∈ kinds, IsLexeme kind) :
    branches.Proper := by
  cases derived with
  | one first => exact ⟨first.proper lexemes, trivial⟩
  | more first others =>
      obtain ⟨front, _, behind⟩ := lexemes_around.mp lexemes
      refine ⟨first.proper front, ?_⟩
      rw [others.isEmpty]
      exact others.proper behind

end

mutual

/-- Proper trees derive from the tokens that they are written with, and a text can hold these. -/
theorem Element.Proper.derives : (element : Element) → element.Proper →
    Element.Derives element.kinds element ∧ ∀ kind ∈ element.kinds, IsLexeme kind
  | .trait name, proper => ⟨.trait name, List.forall_mem_singleton.mpr proper⟩
  | .metadata name, proper =>
      ⟨.metadata name, List.forall_mem_cons.mpr ⟨trivial, List.forall_mem_singleton.mpr proper⟩⟩
  | .items, _ => ⟨.items, List.forall_mem_singleton.mpr trivial⟩
  | .group branches, proper => by
      obtain ⟨derived, lexemes⟩ := Expression.Proper.derives branches proper
      refine ⟨.group derived, List.forall_mem_cons.mpr ⟨trivial, lexemes_around.mpr ?_⟩⟩
      exact ⟨lexemes, trivial, List.forall_mem_nil _⟩
termination_by structural element => element

theorem Series.Proper.derives : (series : Series) → series.Proper →
    Series.Derives series.kinds series ∧ ∀ kind ∈ series.kinds, IsLexeme kind
  | [], proper => proper.elim
  | [⟨element, notify⟩], ⟨proper, quiet⟩ => by
      obtain ⟨derived, lexemes⟩ := Element.Proper.derives element proper
      obtain rfl : notify = false := quiet
      have alone : Series.kinds [⟨element, false⟩] = element.kinds := List.append_nil _
      rw [alone]
      exact ⟨.last derived, lexemes⟩
  | ⟨element, notify⟩ :: second :: rest, ⟨proper, properRest⟩ => by
      obtain ⟨derived, front⟩ := Element.Proper.derives element proper
      obtain ⟨others, behind⟩ := Series.Proper.derives (second :: rest) properRest
      cases notify with
      | true => exact ⟨.dot derived others, lexemes_around.mpr ⟨front, trivial, behind⟩⟩
      | false => exact ⟨.colon derived others, lexemes_around.mpr ⟨front, trivial, behind⟩⟩
termination_by structural series => series

theorem Expression.Proper.derives : (branches : Expression) → branches.Proper →
    Expression.Derives branches.kinds branches ∧ ∀ kind ∈ branches.kinds, IsLexeme kind
  | [], proper => proper.elim
  | [series], ⟨proper, _⟩ => by
      obtain ⟨derived, lexemes⟩ := Series.Proper.derives series proper
      have alone : Expression.kinds [series] = series.kinds := List.append_nil _
      rw [alone]
      exact ⟨.one derived, lexemes⟩
  | series :: second :: rest, ⟨proper, properRest⟩ => by
      obtain ⟨derived, front⟩ := Series.Proper.derives series proper
      obtain ⟨others, behind⟩ := Expression.Proper.derives (second :: rest) properRest
      exact ⟨.more derived others, lexemes_around.mpr ⟨front, trivial, behind⟩⟩
termination_by structural branches => branches

end

end Observe
