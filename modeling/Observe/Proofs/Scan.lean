import Observe.Expression
import Observe.Expression.Scan

namespace Observe.ScanMode

variable {limit opened count final : Nat} {mode next last : ScanMode} {used rest : List Token}
  {token : Token}

/-- Each of the tokens may stand where it does. They lead from one mode and number of open groups
to another. -/
inductive Passes (limit : Nat) : ScanMode → Nat → List Token → ScanMode → Nat → Prop
  | nothing {mode : ScanMode} {opened : Nat} : Passes limit mode opened [] mode opened
  | token {mode next last : ScanMode} {opened count final : Nat} {token : Token} {rest : List Token}
      (stepped : mode.step limit opened token = .ok (next, count))
      (others : Passes limit next count rest last final) :
      Passes limit mode opened (token :: rest) last final

theorem Passes.append (front : Passes limit mode opened used next count)
    (back : Passes limit next count rest last final) :
    Passes limit mode opened (used ++ rest) last final := by
  induction front with
  | nothing => exact back
  | token stepped _ ih => exact .token stepped (ih back)

theorem Passes.scan (finish : Nat) (passed : Passes limit mode opened used next count)
    (rest : List Token) :
    mode.scan limit finish opened (used ++ rest) = next.scan limit finish count rest := by
  induction passed with
  | nothing => rfl
  | token stepped _ ih => simp only [List.cons_append, ScanMode.scan, stepped, ih]

theorem step_ofNotify {notify : Bool} (flagged : token.kind = .ofNotify notify) :
    elementPassed.step limit opened token = .ok (elementNext, opened) := by
  cases notify <;> simp only [step, flagged, TokenKind.ofNotify]

theorem step_comma (comma : token.kind = .comma) :
    elementPassed.step limit opened token = .ok (elementNext, opened) := by
  simp only [step, comma]

theorem step_closeBracket (closing : token.kind = .closeBracket) :
    elementPassed.step limit (opened + 1) token = .ok (elementPassed, opened) := by
  simp only [step, closing]

theorem step_openBracket (opening : token.kind = .openBracket) (shallow : opened < limit) :
    elementNext.step limit opened token = .ok (elementNext, opened + 1) := by
  simp only [step, opening, shallow, if_pos]

theorem step_openBracket_full (opening : token.kind = .openBracket) (full : limit ≤ opened) :
    elementNext.step limit opened token = .error (.nestingTooDeep token.position limit) := by
  simp only [step, opening, Nat.not_lt.mpr full, if_neg, not_false_eq_true]

theorem step_nameNext_refused (noName : ∀ text, token.kind ≠ .name text) :
    nameNext.step limit opened token =
      .error (.unexpectedToken token.position token.kind metadataNameWanted) := by
  obtain ⟨kind, position⟩ := token
  cases kind <;> first | rfl | simp at noName

theorem step_elementNext_refused (noName : ∀ text, token.kind ≠ .name text)
    (noItems : token.kind ≠ .items) (noPlus : token.kind ≠ .plus)
    (noBracket : token.kind ≠ .openBracket) :
    elementNext.step limit opened token =
      .error (.unexpectedToken token.position token.kind elementWanted) := by
  obtain ⟨kind, position⟩ := token
  cases kind <;> first | rfl | simp at noName noItems noPlus noBracket

/-- After an element nothing but a separator goes on at the outermost level. -/
theorem step_refused_outside (unflagged : token.kind.notify? = none)
    (noComma : token.kind ≠ .comma) :
    elementPassed.step limit 0 token =
      .error (.unexpectedToken token.position token.kind commaOrEndWanted) := by
  obtain ⟨kind, position⟩ := token
  cases kind <;> simp_all [step, TokenKind.notify?, wanted]

/-- In a group, a closing bracket can follow an element too. -/
theorem step_refused_inside (unflagged : token.kind.notify? = none) (noComma : token.kind ≠ .comma)
    (unclosed : token.kind ≠ .closeBracket) :
    elementPassed.step limit (opened + 1) token =
      .error (.unexpectedToken token.position token.kind closeBracketWanted) := by
  obtain ⟨kind, position⟩ := token
  cases kind <;> simp_all [step, TokenKind.notify?, wanted]

theorem full_of_refused {error : SyntaxError} (opening : token.kind = .openBracket)
    (refused : elementNext.step limit opened token = .error error) : limit ≤ opened := by
  refine Nat.not_lt.mp fun room => ?_
  rw [step_openBracket opening room] at refused
  cases refused

/-- A token that may not stand where it does is refused as such, or opens one group too many. -/
theorem step_error_cases {error : SyntaxError}
    (refused : mode.step limit opened token = .error error) :
    error = .unexpectedToken token.position token.kind (mode.wanted opened) ∨
      mode = elementNext ∧ token.kind = .openBracket ∧
        error = .nestingTooDeep token.position limit := by
  unfold step at refused
  split at refused
  case h_4 opening =>
    split at refused
    · cases refused
    · cases refused
      exact .inr ⟨rfl, opening, rfl⟩
  case h_10 =>
    cases refused
    exact .inl rfl
  all_goals cases refused

/-- The groups open after a token: an opening bracket adds one, a closing one takes one away. -/
theorem step_brackets (stepped : mode.step limit opened token = .ok (next, count)) :
    opened + [token.kind].count .openBracket = count + [token.kind].count .closeBracket := by
  unfold step at stepped
  split at stepped
  case h_4 =>
    split at stepped
    · cases stepped
      simp_all
    · cases stepped
  case h_10 => cases stepped
  all_goals
    cases stepped
    simp_all

theorem step_within (stepped : mode.step limit opened token = .ok (next, count))
    (within : opened ≤ limit) : count ≤ limit := by
  unfold step at stepped
  split at stepped
  case h_4 room =>
    split at stepped
    · cases stepped
      assumption
    · cases stepped
  case h_10 => cases stepped
  all_goals
    cases stepped
    omega

theorem Passes.within (passed : Passes limit mode opened used last final)
    (within : opened ≤ limit) : final ≤ limit := by
  induction passed with
  | nothing => exact within
  | token stepped _ ih => exact ih (step_within stepped within)

theorem Passes.brackets (passed : Passes limit mode opened used last final) :
    opened + (used.map Token.kind).count .openBracket =
      final + (used.map Token.kind).count .closeBracket := by
  induction passed with
  | nothing => rfl
  | @token _ _ _ _ _ _ token rest stepped _ ih =>
      have counted := step_brackets stepped
      rw [List.map_cons, ← List.singleton_append, List.count_append, List.count_append]
      omega

end Observe.ScanMode
