import Observe.Proofs.Grammar
import Observe.Proofs.Prefix

namespace Observe

/-- The error with another limit on how deep groups nest. -/
def SyntaxError.withLimit (limit : Nat) : SyntaxError → SyntaxError
  | .nestingTooDeep position _ => .nestingTooDeep position limit
  | error => error

namespace Parser

variable {limit finish depth extra : Nat} {rest : List Token}

/-- The outcome that comes of more groups being open from the start. -/
def Outcome.deeper {α : Type} {given : Nat} (limit extra : Nat) :
    Outcome α given → Outcome α given
  | .read value after shorter => .read value ⟨after.remaining, after.depth + extra⟩ shorter
  | .failed error after => .failed (error.withLimit limit) ⟨after.remaining, after.depth + extra⟩

theorem element_deeper_group (position : Nat) (room : depth < limit)
    (entered : branches (limit + extra) finish ⟨rest, depth + 1 + extra⟩ =
      (branches limit finish ⟨rest, depth + 1⟩).deeper (limit + extra) extra) :
    element (limit + extra) finish ⟨⟨.openBracket, position⟩ :: rest, depth + extra⟩ =
      (element limit finish ⟨⟨.openBracket, position⟩ :: rest, depth⟩).deeper
        (limit + extra) extra := by
  have roomThere : ¬ limit + extra ≤ depth + extra := by omega
  have counted := branches_meets limit finish ⟨rest, depth + 1⟩
  rw [Nat.add_right_comm] at entered
  simp only [element, Nat.not_le.mpr room, roomThere, if_false, entered]
  cases inner : branches limit finish ⟨rest, depth + 1⟩ with
  | failed error after => rfl
  | read value after shorter =>
      rw [inner] at counted
      obtain ⟨_, _, kept, _⟩ := counted
      obtain ⟨remaining, count⟩ := after
      simp only at kept
      subst kept
      -- The group is still counted here, so leaving it takes one away on either side.
      have left : depth + 1 + extra - 1 = depth + 1 - 1 + extra := by omega
      cases remaining with
      | nil => simp only [Outcome.deeper, left]; rfl
      | cons token others =>
          simp only [Outcome.deeper, left]
          split <;> rfl

mutual

theorem element_deeper (limit finish extra : Nat) (parser : Parser) :
    element (limit + extra) finish ⟨parser.remaining, parser.depth + extra⟩ =
      (element limit finish parser).deeper (limit + extra) extra := by
  obtain ⟨remaining, depth⟩ := parser
  cases remaining with
  | nil =>
      simp only [element]
      rfl
  | cons token rest =>
      obtain ⟨kind, position⟩ := token
      cases kind with
      | plus =>
          cases rest with
          | nil =>
              simp only [element]
              rfl
          | cons next others =>
              obtain ⟨found, place⟩ := next
              cases found <;> simp only [element] <;> rfl
      | openBracket =>
          by_cases room : depth < limit
          · exact element_deeper_group position room
              (branches_deeper limit finish extra ⟨rest, depth + 1⟩)
          · have full := Nat.not_lt.mp room
            have fullThere := Nat.add_le_add_right full extra
            simp only [element, full, fullThere, if_true]
            rfl
      | _ =>
          simp only [element]
          rfl
termination_by (parser.remaining.length, 0)

theorem series_deeper (limit finish extra : Nat) (parser : Parser) :
    series (limit + extra) finish ⟨parser.remaining, parser.depth + extra⟩ =
      (series limit finish parser).deeper (limit + extra) extra := by
  have head := element_deeper limit finish extra parser
  rw [series, series, head]
  cases element limit finish parser with
  | failed error after => rfl
  | read first after shorter =>
      obtain ⟨remaining, count⟩ := after
      cases remaining with
      | nil => rfl
      | cons token rest =>
          have tail := series_deeper limit finish extra ⟨rest, count⟩
          simp only [Outcome.deeper]
          cases token.kind.notify? with
          | none => rfl
          | some notify =>
              simp only [tail]
              cases series limit finish ⟨rest, count⟩ <;> rfl
termination_by (parser.remaining.length, 1)
decreasing_by
  · exact Prod.Lex.right _ (by decide)
  · apply Prod.Lex.left
    simp only [List.length_cons] at shorter ⊢
    omega

theorem branches_deeper (limit finish extra : Nat) (parser : Parser) :
    branches (limit + extra) finish ⟨parser.remaining, parser.depth + extra⟩ =
      (branches limit finish parser).deeper (limit + extra) extra := by
  have head := series_deeper limit finish extra parser
  rw [branches, branches, head]
  cases series limit finish parser with
  | failed error after => rfl
  | read first after shorter =>
      obtain ⟨remaining, count⟩ := after
      cases remaining with
      | nil => rfl
      | cons token rest =>
          have tail := branches_deeper limit finish extra ⟨rest, count⟩
          by_cases comma : token.kind = .comma
          · simp only [Outcome.deeper, comma, if_true, tail]
            cases branches limit finish ⟨rest, count⟩ <;> rfl
          · simp only [Outcome.deeper, comma, if_false]
termination_by (parser.remaining.length, 2)
decreasing_by
  · exact Prod.Lex.right _ (by decide)
  · apply Prod.Lex.left
    simp only [List.length_cons] at shorter ⊢
    omega

end

theorem expression_deeper (limit finish extra : Nat) (parser : Parser) :
    expression (limit + extra) finish ⟨parser.remaining, parser.depth + extra⟩ =
      ((expression limit finish parser).1.mapError (SyntaxError.withLimit (limit + extra)),
        ⟨(expression limit finish parser).2.remaining,
          (expression limit finish parser).2.depth + extra⟩) := by
  have whole := branches_deeper limit finish extra parser
  rw [expression, expression, whole]
  cases branches limit finish parser with
  | failed error after => rfl
  | read value after shorter =>
      obtain ⟨remaining, count⟩ := after
      cases remaining <;> rfl

theorem expression_eq_deeper (finish : Nat) {depth : Nat} (tokens : List Token)
    (within : depth ≤ maximalDepth) :
    let fresh := expression (maximalDepth - depth) finish (.start tokens)
    expression maximalDepth finish ⟨tokens, depth⟩ =
      (fresh.1.mapError (SyntaxError.withLimit maximalDepth),
        ⟨fresh.2.remaining, fresh.2.depth + depth⟩) := by
  have deeper := expression_deeper (maximalDepth - depth) finish depth (.start tokens)
  have room : maximalDepth - depth + depth = maximalDepth := Nat.sub_add_cancel within
  have opened : (start tokens).depth + depth = depth := Nat.zero_add depth
  rw [room, opened] at deeper
  exact deeper

/-- What a parser reads while groups are open is what a fresh one reads that may enter the fewer
groups left. Both name the same limit. -/
theorem expression_eq_fresh (finish : Nat) {depth : Nat} (tokens : List Token)
    (within : depth ≤ maximalDepth) :
    (expression maximalDepth finish ⟨tokens, depth⟩).1 =
      (expression (maximalDepth - depth) finish (.start tokens)).1.mapError
        (SyntaxError.withLimit maximalDepth) :=
  congrArg Prod.fst (expression_eq_deeper finish tokens within)

end Parser

namespace ScanMode

variable {limit wider opened : Nat} {mode : ScanMode} {token : Token}

theorem step_wider (larger : limit ≤ wider)
    (room : mode = elementNext → token.kind = .openBracket → opened < limit) :
    mode.step wider opened token = mode.step limit opened token := by
  by_cases group : mode = elementNext ∧ token.kind = .openBracket
  · obtain ⟨rfl, opening⟩ := group
    have roomHere := room rfl opening
    rw [step_openBracket opening roomHere,
      step_openBracket opening (Nat.lt_of_lt_of_le roomHere larger)]
  · obtain ⟨kind, position⟩ := token
    cases mode <;> cases kind <;> cases opened <;> first | rfl | simp at group

theorem scan_wider (larger : limit ≤ wider) (finish : Nat) (mode : ScanMode) (opened : Nat)
    (tokens : List Token) :
    mode.scan wider finish opened tokens = mode.scan limit finish opened tokens ∨
      ∃ position, mode.scan limit finish opened tokens =
        .error (.nestingTooDeep position limit) := by
  induction tokens generalizing mode opened with
  | nil => exact .inl rfl
  | cons token rest ih =>
      by_cases full : mode = elementNext ∧ token.kind = .openBracket ∧ limit ≤ opened
      · obtain ⟨rfl, opening, reached⟩ := full
        refine .inr ⟨token.position, ?_⟩
        simp only [scan, step_openBracket_full opening reached]
      · have room : mode = elementNext → token.kind = .openBracket → opened < limit := by
          intro next opening
          exact Nat.not_le.mp fun reached => full ⟨next, opening, reached⟩
        simp only [scan, step_wider larger room]
        cases mode.step limit opened token with
        | error error => exact .inl rfl
        | ok state => exact ih state.1 state.2

end ScanMode

/-- What is read with a wider limit is read with the smaller one too, unless a bracket is one too
many there. -/
theorem Parser.expression_wider {limit wider : Nat} (larger : limit ≤ wider) (finish : Nat)
    (tokens : List Token) :
    (expression wider finish (.start tokens)).1 = (expression limit finish (.start tokens)).1 ∨
      ∃ position, (expression limit finish (.start tokens)).1 =
        .error (.nestingTooDeep position limit) := by
  cases result : (expression limit finish (.start tokens)).1 with
  | ok value =>
      obtain ⟨derived, shallow⟩ := reads_iff.mp result
      exact .inl (reads_iff.mpr ⟨derived, Nat.le_trans shallow larger⟩)
  | error error =>
      have scanned := scan_of_refused result
      rcases ScanMode.scan_wider larger finish .elementNext 0 tokens with
        same | ⟨position, tooDeep⟩
      · exact .inl (refused_iff_scan.mpr (same.trans scanned))
      · rw [scanned] at tooDeep
        cases tooDeep
        exact .inr ⟨position, rfl⟩

end Observe
