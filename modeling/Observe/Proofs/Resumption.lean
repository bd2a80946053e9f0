import Observe.Proofs.Deepening

namespace Observe

open ScanMode (Passes)

theorem ScanMode.Passes.ne_nil {limit opened final : Nat} {used : List Token}
    (passed : Passes limit .elementNext opened used .elementPassed final) : used ≠ [] := by
  intro nothing
  subst nothing
  cases passed

/-- The groups that the tokens open and do not close. -/
def unclosed (tokens : List Token) : Nat :=
  (tokens.map Token.kind).count .openBracket - (tokens.map Token.kind).count .closeBracket

theorem ScanMode.Passes.unclosed {limit opened final : Nat} {mode last : ScanMode}
    {used : List Token} (passed : Passes limit mode opened used last final)
    (deeper : opened ≤ final) : opened + unclosed used = final := by
  have counted := passed.brackets
  simp only [Observe.unclosed]
  omega

theorem place_of_split {tokens used rest : List Token} {token : Token} {index : Nat}
    (split : tokens.drop index = used ++ token :: rest) :
    tokens[index + used.length]? = some token ∧
      tokens.drop (index + used.length) = token :: rest ∧
      tokens.drop (index + used.length + 1) = rest ∧
      (tokens.take (index + used.length)).drop index = used := by
  have here : tokens.drop (index + used.length) = token :: rest := by
    rw [← List.drop_drop, split, List.drop_left]
  refine ⟨?_, here, ?_, ?_⟩
  · rw [← Nat.add_zero (index + used.length), ← List.getElem?_drop, here, List.getElem?_cons_zero]
  · rw [← List.drop_drop, here, List.drop_succ_cons, List.drop_zero]
  · rw [List.drop_take, Nat.add_sub_cancel_left, split, List.take_left]

namespace Parser

variable {limit finish index depth opened : Nat} {mode : ScanMode} {tokens : List Token}
  {after : Parser} {error : SyntaxError}

/-- The groups that are counted as left although their closing bracket has not been read. -/
def leftAt (expected : String) : Nat := if expected = closeBracketWanted then 1 else 0

theorem leftAt_wanted (inside : leftIn mode ≤ opened) :
    leftAt (mode.wanted opened) = leftIn mode := by
  cases mode with
  | elementNext => rfl
  | nameNext => rfl
  | elementPassed =>
      cases opened with
      | zero => cases inside
      | succ opened => rfl

theorem wanted_ne_commaOrEnd (inside : leftIn mode ≤ opened) :
    mode.wanted opened ≠ commaOrEndWanted := by
  cases mode with
  | elementNext => exact show elementWanted ≠ commaOrEndWanted by decide
  | nameNext => exact show metadataNameWanted ≠ commaOrEndWanted by decide
  | elementPassed =>
      cases opened with
      | zero => cases inside
      | succ opened => exact show closeBracketWanted ≠ commaOrEndWanted by decide

/-- Where a reading from one place among the tokens stops, and how many groups it then counts as
open. The refused token is used up, unless the expression was complete before it. It opens and closes
nothing. -/
def Leaves (finish : Nat) (tokens : List Token) (index depth nextIndex nextDepth : Nat) :
    Except SyntaxError Expression → Prop
  | .ok _ => nextIndex = tokens.length ∧ nextDepth = depth
  | .error (.unexpectedEnd position expected) =>
      position = finish ∧ nextIndex = tokens.length ∧
        nextDepth + leftAt expected = depth + unclosed (tokens.drop index)
  | .error (.unexpectedToken position found expected) =>
      ∃ place, index ≤ place ∧ tokens[place]? = some ⟨found, position⟩ ∧
        if expected = commaOrEndWanted then nextIndex = place ∧ nextDepth = depth
        else
          nextIndex = place + 1 ∧
            nextDepth + leftAt expected = depth + unclosed ((tokens.take place).drop index)
  | .error (.nestingTooDeep position _) =>
      ∃ place, index ≤ place ∧ tokens[place]? = some ⟨.openBracket, position⟩ ∧
        nextIndex = place + 1 ∧ nextDepth = depth + unclosed ((tokens.take place).drop index)

structure Reads (finish : Nat) (tokens : List Token) (index depth nextIndex nextDepth : Nat)
    (result : Except SyntaxError Expression) : Prop where
  runs : expression maximalDepth finish ⟨tokens.drop index, depth⟩ =
    (result, ⟨tokens.drop nextIndex, nextDepth⟩)
  inside : nextIndex ≤ tokens.length
  shallow : nextDepth ≤ maximalDepth
  leaves : Leaves finish tokens index depth nextIndex nextDepth result
  advances : min (index + 1) tokens.length ≤ nextIndex

theorem Stops.leaves (stops : Stops limit finish ⟨tokens.drop index, depth⟩ error after)
    (within : depth ≤ limit) :
    ∃ nextIndex, after.remaining = tokens.drop nextIndex ∧ nextIndex ≤ tokens.length ∧
      after.depth ≤ limit ∧ min (index + 1) tokens.length ≤ nextIndex ∧
      Leaves finish tokens index depth nextIndex after.depth (.error error) := by
  cases stops with
  | @atEnd opened mode passed inside =>
      simp only at passed inside
      have counted := passed.unclosed (by omega)
      have bound := passed.within within
      have left := leftAt_wanted (Nat.le_trans (Nat.le_add_left _ _) inside)
      refine ⟨tokens.length, List.drop_length.symm, Nat.le_refl _, ?_, Nat.min_le_right _ _, rfl,
        rfl, ?_⟩
      · simp only
        omega
      · simp only
        omega
  | @atToken opened rest token _ mode used split passed refused inside =>
      simp only at split passed inside
      -- The scan ends no shallower than it began, so the brackets before the token count the groups.
      have counted := passed.unclosed (by omega)
      have bound := passed.within within
      have modeInside : leftIn mode ≤ opened := Nat.le_trans (Nat.le_add_left _ _) inside
      have left := leftAt_wanted modeInside
      have goesOn := wanted_ne_commaOrEnd modeInside
      obtain ⟨found, _, behind, front⟩ := place_of_split split
      have place : index + used.length < tokens.length := (List.getElem?_eq_some_iff.mp found).1
      refine ⟨index + used.length + 1, behind.symm, place, ?_, ?_, ?_⟩
      · simp only
        omega
      · omega
      · rcases ScanMode.step_error_cases refused with rfl | ⟨rfl, opening, rfl⟩
        · refine ⟨index + used.length, Nat.le_add_right _ _, found, ?_⟩
          rw [if_neg goesOn, front]
          exact ⟨rfl, by simp only; omega⟩
        · refine ⟨index + used.length, Nat.le_add_right _ _, ?_, rfl, ?_⟩
          · rw [found, ← opening]
          · rw [front]
            simp only [leftIn]
            omega

/-- One reading, from wherever the parser is. -/
theorem reads_on (finish : Nat) (inside : index ≤ tokens.length) (within : depth ≤ maximalDepth) :
    ∃ nextIndex nextDepth result,
      Reads finish tokens index depth nextIndex nextDepth result := by
  rcases run : expression maximalDepth finish ⟨tokens.drop index, depth⟩ with
    ⟨error | value, after⟩
  · rcases expression_refused run with
      stops | ⟨used, token, rest, split, passed, _, _, rfl, rfl⟩
    · obtain ⟨nextIndex, remaining, insideNext, shallow, advances, leaves⟩ := stops.leaves within
      refine ⟨nextIndex, after.depth, .error error, ?_, insideNext, shallow, leaves, advances⟩
      rw [run, ← remaining]
    · obtain ⟨found, here, _, _⟩ := place_of_split split
      have place : index + used.length < tokens.length := (List.getElem?_eq_some_iff.mp found).1
      have progress := List.length_pos_iff.mpr passed.ne_nil
      have leaves : Leaves finish tokens index depth (index + used.length) depth
          (.error (.unexpectedToken token.position token.kind commaOrEndWanted)) := by
        refine ⟨index + used.length, Nat.le_add_right _ _, found, ?_⟩
        rw [if_pos rfl]
        exact ⟨rfl, rfl⟩
      refine ⟨index + used.length, depth, _, ?_, Nat.le_of_lt place, within, leaves, by omega⟩
      rw [run, here]
  · obtain ⟨_, rfl⟩ := expression_read run
    refine ⟨tokens.length, depth, .ok value, ?_, Nat.le_refl _, within, ⟨rfl, rfl⟩,
      Nat.min_le_right _ _⟩
    rw [run, List.drop_length]

theorem expression_nil (limit finish depth : Nat) :
    expression limit finish ⟨[], depth⟩ =
      (.error (.unexpectedEnd finish elementWanted), ⟨[], depth⟩) := by
  simp only [expression, branches, series, element]

/-- The parser after a number of readings. -/
def resumed (limit finish : Nat) (parser : Parser) : Nat → Parser
  | 0 => parser
  | count + 1 => (expression limit finish (resumed limit finish parser count)).2

theorem resumed_succ (limit finish : Nat) (parser : Parser) (count : Nat) :
    resumed limit finish parser (count + 1) =
      resumed limit finish (expression limit finish parser).2 count := by
  induction count with
  | zero => rfl
  | succ count ih => rw [resumed, ih, resumed]

theorem expressions_succ (limit finish : Nat) (parser : Parser) (count : Nat) :
    expressions limit finish (count + 1) parser = expressions limit finish count parser ++
      [(expression limit finish (resumed limit finish parser count)).1] := by
  induction count generalizing parser with
  | zero => rfl
  | succ count ih =>
      change (expression limit finish parser).1 ::
        expressions limit finish (count + 1) (expression limit finish parser).2 = _
      rw [ih, resumed_succ]
      rfl

theorem resumed_place (finish : Nat) (tokens : List Token) (calls : Nat) :
    ∃ index depth, index ≤ tokens.length ∧ depth ≤ maximalDepth ∧
      resumed maximalDepth finish (.start tokens) calls = ⟨tokens.drop index, depth⟩ ∧
      min calls tokens.length ≤ index := by
  induction calls with
  | zero =>
      refine ⟨0, 0, Nat.zero_le _, Nat.zero_le _, ?_, Nat.min_le_left _ _⟩
      rw [resumed, start, List.drop_zero]
  | succ calls ih =>
      obtain ⟨index, depth, inside, within, state, reached⟩ := ih
      obtain ⟨nextIndex, nextDepth, result, reads⟩ := reads_on finish inside within
      refine ⟨nextIndex, nextDepth, reads.inside, reads.shallow, ?_, ?_⟩
      · rw [resumed, state, reads.runs]
      · have advanced := reads.advances
        omega

/-- However often a parser has been used, it stands among the tokens with no more groups counted as
open than may be. It reads on as a fresh parser with the fewer groups left to enter, moves on while
there are tokens, and has no tokens left after as many readings as there were. -/
theorem resumed_reads (finish : Nat) (tokens : List Token) (calls : Nat) :
    ∃ index depth nextIndex nextDepth result,
      index ≤ tokens.length ∧ depth ≤ maximalDepth ∧
      resumed maximalDepth finish (.start tokens) calls = ⟨tokens.drop index, depth⟩ ∧
      expression maximalDepth finish ⟨tokens.drop index, depth⟩ =
        (result, ⟨tokens.drop nextIndex, nextDepth⟩) ∧
      (expressions maximalDepth finish (calls + 1) (.start tokens)).getLast? = some result ∧
      result = (expression (maximalDepth - depth) finish (.start (tokens.drop index))).1.mapError
        (SyntaxError.withLimit maximalDepth) ∧
      Leaves finish tokens index depth nextIndex nextDepth result ∧
      (index < tokens.length → index < nextIndex) ∧
      (tokens.length ≤ calls → result = .error (.unexpectedEnd finish elementWanted) ∧
        nextIndex = index ∧ nextDepth = depth) := by
  obtain ⟨index, depth, inside, within, state, reached⟩ := resumed_place finish tokens calls
  obtain ⟨nextIndex, nextDepth, result, reads⟩ := reads_on finish inside within
  have fresh := expression_eq_fresh finish (tokens.drop index) within
  rw [reads.runs] at fresh
  have listed := expressions_succ maximalDepth finish (.start tokens) calls
  rw [state, reads.runs] at listed
  have last : (expressions maximalDepth finish (calls + 1) (.start tokens)).getLast? =
      some result := by
    rw [listed, List.getLast?_concat]
  have advances := reads.advances
  refine ⟨index, depth, nextIndex, nextDepth, result, inside, within, state, reads.runs, last, fresh,
    reads.leaves, by omega, fun enough => ?_⟩
  have atEnd : index = tokens.length := by omega
  have runs := reads.runs
  rw [List.drop_of_length_le (Nat.le_of_eq atEnd.symm), expression_nil] at runs
  obtain ⟨ended, rests⟩ := Prod.mk.inj runs
  have insideNext := reads.inside
  exact ⟨ended.symm, by omega, (Parser.mk.inj rests).2.symm⟩

end Parser

end Observe
