import Observe.Proofs.Resumption

namespace Observe

open ScanMode (Passes)

namespace ScanMode

variable {limit larger finish opened count position named : Nat} {mode next : ScanMode}
  {used rest tokens : List Token} {token bracket other : Token} {error : SyntaxError}

/-- The mode and the number of open groups at the end of the tokens, or before the first of them
that may not stand where it does. -/
def halt (limit : Nat) : ScanMode → Nat → List Token → ScanMode × Nat
  | mode, opened, [] => (mode, opened)
  | mode, opened, token :: rest =>
      match mode.step limit opened token with
      | .error _ => (mode, opened)
      | .ok (next, count) => halt limit next count rest

theorem halt_passed (passed : Passes limit mode opened used next count) (rest : List Token) :
    mode.halt limit opened (used ++ rest) = next.halt limit count rest := by
  induction passed with
  | nothing => rfl
  | token stepped _ ih => simp only [List.cons_append, halt, stepped, ih]

theorem halt_at_end (passed : Passes limit mode opened used next count) :
    mode.halt limit opened used = (next, count) := by
  have halted := halt_passed passed []
  rwa [List.append_nil] at halted

theorem halt_at_token (split : tokens = used ++ token :: rest)
    (passed : Passes limit mode opened used next count)
    (refused : next.step limit count token = .error error) :
    mode.halt limit opened tokens = (next, count) := by
  rw [split, halt_passed passed, halt, refused]

/-- The bracket would open a group while as many are open as may be. -/
structure Overfills (limit : Nat) (tokens : List Token) (bracket : Token) : Prop where
  opening : bracket.kind = .openBracket
  reached : ∃ used rest, tokens = used ++ bracket :: rest ∧
    Passes limit elementNext 0 used elementNext limit

theorem Overfills.scan (overfills : Overfills limit tokens bracket) (finish : Nat) :
    elementNext.scan limit finish 0 tokens = .error (.nestingTooDeep bracket.position limit) := by
  obtain ⟨opening, used, rest, rfl, passed⟩ := overfills
  exact passed.scan_refused (step_openBracket_full opening (Nat.le_refl limit)) finish rest

theorem overfills_of_tooDeep
    (stopped : elementNext.scan limit finish 0 tokens = .error (.nestingTooDeep position named)) :
    ∃ bracket, Overfills limit tokens bracket ∧ bracket.position = position := by
  rcases scan_error_cases stopped with
    ⟨_, _, _, ended⟩ | ⟨used, token, rest, last, final, split, passed, refused⟩
  · cases ended
  · rcases step_error_cases refused with unexpected | ⟨rfl, opening, tooDeep⟩
    · cases unexpected
    · have within : final ≤ limit := passed.within (Nat.zero_le _)
      obtain rfl : final = limit := Nat.le_antisymm within (full_of_refused opening refused)
      cases tooDeep
      exact ⟨token, ⟨opening, used, rest, split, passed⟩, rfl⟩

/-- As many groups are open before a bracket as the brackets before it tell. -/
theorem Overfills.limit_unique (first : Overfills limit tokens bracket)
    (second : Overfills larger tokens other) (same : bracket.position = other.position)
    (distinct : (tokens.map Token.position).Nodup) : limit = larger := by
  obtain ⟨_, used, rest, split, passed⟩ := first
  obtain ⟨_, usedThere, restThere, splitThere, passedThere⟩ := second
  have positions : (tokens.map Token.position)[used.length]? = some bracket.position := by
    simp [split]
  have positionsThere : (tokens.map Token.position)[usedThere.length]? = some bracket.position := by
    simp [splitThere, same]
  have inside : used.length < (tokens.map Token.position).length :=
    (List.getElem?_eq_some_iff.mp positions).1
  have place : used.length = usedThere.length :=
    (List.getElem?_inj inside distinct).mp (positions.trans positionsThere.symm)
  obtain ⟨rfl, _⟩ := List.append_inj (split.symm.trans splitThere) place
  have counted := passed.brackets
  have countedThere := passedThere.brackets
  omega

end ScanMode

namespace Parser

variable {limit finish depth : Nat} {tokens : List Token}

/-- The groups that a reading stops in and does not count as left. -/
def abandoned (limit : Nat) (tokens : List Token) : Nat :=
  let (mode, opened) := ScanMode.elementNext.halt limit 0 tokens
  opened - leftIn mode

theorem abandoned_eq {mode : ScanMode} {opened : Nat}
    (halted : ScanMode.elementNext.halt limit 0 tokens = (mode, opened)) :
    abandoned limit tokens = opened - leftIn mode := by
  simp only [abandoned, halted]

/-- A reading counts the groups that it abandons as open still. -/
theorem depth_expression (limit finish : Nat) (tokens : List Token) :
    (expression limit finish (.start tokens)).2.depth = abandoned limit tokens := by
  rcases run : expression limit finish (.start tokens) with ⟨error | value, after⟩
  · rcases expression_refused run with
      stops | ⟨used, token, rest, split, passed, unflagged, noComma, _, rfl⟩
    · cases stops with
      | atEnd mode passed => exact (abandoned_eq (ScanMode.halt_at_end passed)).symm
      | atToken mode used split passed refused =>
          exact (abandoned_eq (ScanMode.halt_at_token split passed refused)).symm
    -- The expression was complete before the token, so no group is open there.
    · exact (abandoned_eq (ScanMode.halt_at_token split passed
        (ScanMode.step_refused_outside unflagged noComma))).symm
  · obtain ⟨stands, rfl⟩ := expression_read run
    exact (abandoned_eq (ScanMode.halt_at_end stands.passed)).symm

theorem depth_expression_from (finish : Nat) (tokens : List Token)
    (within : depth ≤ maximalDepth) :
    (expression maximalDepth finish ⟨tokens, depth⟩).2.depth =
      abandoned (maximalDepth - depth) tokens + depth := by
  rw [expression_eq_deeper finish tokens within, depth_expression]

/-- The count is at nothing as long as no reading has abandoned a group. -/
theorem depth_resumed_eq_zero_iff (finish : Nat) (tokens : List Token) (calls : Nat) :
    (resumed maximalDepth finish (.start tokens) calls).depth = 0 ↔
      ∀ earlier < calls,
        abandoned maximalDepth (resumed maximalDepth finish (.start tokens) earlier).remaining =
          0 := by
  induction calls with
  | zero => simp [resumed, start]
  | succ calls ih =>
      obtain ⟨index, depth, _, within, state, _⟩ := resumed_place finish tokens calls
      have counted := depth_expression_from finish (tokens.drop index) within
      rw [state] at ih
      rw [Nat.forall_lt_succ_right, ← ih, resumed, state, counted]
      constructor
      · intro nothing
        obtain rfl : depth = 0 := by omega
        exact ⟨rfl, nothing⟩
      · intro nothing
        obtain ⟨rfl, closed⟩ := nothing
        exact closed

/-- A refusal inside of groups leaves them all open. -/
theorem branches_unanswered {brackets : List Token}
    (opening : ∀ bracket ∈ brackets, bracket.kind = .openBracket)
    (room : depth + brackets.length ≤ limit) (finish position : Nat) (rest : List Token) :
    branches limit finish ⟨brackets ++ ⟨.dot, position⟩ :: rest, depth⟩ =
      .failed (.unexpectedToken position .dot elementWanted)
        ⟨rest, depth + brackets.length⟩ := by
  induction brackets generalizing depth with
  | nil => simp only [List.nil_append, List.length_nil, Nat.add_zero, branches, series, element]
  | cons bracket others ih =>
      obtain ⟨kind, place⟩ := bracket
      obtain ⟨rfl, openingRest⟩ := List.forall_mem_cons.mp opening
      rw [List.length_cons] at room
      have roomInside : depth + 1 + others.length ≤ limit := by omega
      have shallow : ¬ limit ≤ depth := by omega
      simp only [List.cons_append, List.length_cons, branches, series, element, shallow, if_false,
        ih openingRest roomInside, Nat.add_assoc, Nat.add_comm 1]

/-- Without room for a group more, the bracket that opens it is refused. -/
theorem expression_overfilled (finish : Nat) (within : depth ≤ maximalDepth) {bracket : Token}
    (overfills : ScanMode.Overfills (maximalDepth - depth) tokens bracket) :
    (expression maximalDepth finish ⟨tokens, depth⟩).1 =
      .error (.nestingTooDeep bracket.position maximalDepth) := by
  rw [expression_eq_fresh finish tokens within, refused_iff_scan.mpr (overfills.scan finish)]
  rfl

theorem expression_roomy (finish : Nat) (within : depth ≤ maximalDepth)
    (roomy : ∀ bracket, ¬ ScanMode.Overfills (maximalDepth - depth) tokens bracket) :
    (expression maximalDepth finish ⟨tokens, depth⟩).1 =
      (expression maximalDepth finish (.start tokens)).1 := by
  have smaller : maximalDepth - depth ≤ maximalDepth := Nat.sub_le _ _
  have shallow : ∀ position named, (expression (maximalDepth - depth) finish (.start tokens)).1 ≠
      .error (.nestingTooDeep position named) := by
    intro position named tooDeep
    obtain ⟨bracket, overfills, _⟩ := ScanMode.overfills_of_tooDeep (scan_of_refused tooDeep)
    exact roomy bracket overfills
  rw [expression_eq_fresh finish tokens within]
  rcases expression_wider smaller finish tokens with same | ⟨position, tooDeep⟩
  · rw [same]
    cases result : (expression (maximalDepth - depth) finish (.start tokens)).1 with
    | ok value => rfl
    | error error =>
        cases error with
        | nestingTooDeep position named => exact absurd result (shallow position named)
        | unexpectedToken => rfl
        | unexpectedEnd => rfl
  · exact absurd tooDeep (shallow position _)

/-- Where positions tell the tokens apart, a fresh parser does not refuse the same bracket. -/
theorem depth_eq_zero_of_overfills {finish : Nat} {bracket : Token} (within : depth ≤ maximalDepth)
    (overfills : ScanMode.Overfills (maximalDepth - depth) tokens bracket)
    (distinct : (tokens.map Token.position).Nodup)
    (refused : (expression maximalDepth finish (.start tokens)).1 =
      .error (.nestingTooDeep bracket.position maximalDepth)) : depth = 0 := by
  obtain ⟨other, overfillsThere, same⟩ :=
    ScanMode.overfills_of_tooDeep (scan_of_refused refused)
  have room := overfills.limit_unique overfillsThere same.symm distinct
  omega

/-- A parser that has been used reads as a fresh one on the tokens that are left, unless they have
a bracket that would open one group more than it has room for. It refuses such a bracket, and a
fresh parser does not, unless nothing is counted as open. The groups that a reading abandons are
counted from then on, so nothing is counted just if no earlier reading has abandoned any. -/
theorem resumed_as_fresh (finish : Nat) (tokens : List Token) (calls : Nat) :
    let parser := resumed maximalDepth finish (.start tokens) calls
    let room := maximalDepth - parser.depth
    let again := expression maximalDepth finish parser
    let fresh := expression maximalDepth finish (.start parser.remaining)
    parser.remaining <:+ tokens ∧ parser.depth ≤ maximalDepth ∧
    (expressions maximalDepth finish (calls + 1) (.start tokens)).getLast? = some again.1 ∧
    again.2.depth = abandoned room parser.remaining + parser.depth ∧
    (parser.depth = 0 ↔ ∀ earlier < calls,
      abandoned maximalDepth (resumed maximalDepth finish (.start tokens) earlier).remaining = 0) ∧
    ((∀ bracket, ¬ ScanMode.Overfills room parser.remaining bracket) → again.1 = fresh.1) ∧
    ∀ bracket, ScanMode.Overfills room parser.remaining bracket →
      again.1 = .error (.nestingTooDeep bracket.position maximalDepth) ∧
      ((parser.remaining.map Token.position).Nodup → (again.1 = fresh.1 ↔ parser.depth = 0)) := by
  intro parser room again fresh
  obtain ⟨index, depth, _, within, state, _⟩ := resumed_place finish tokens calls
  have here : parser = ⟨tokens.drop index, depth⟩ := state
  have shallow : parser.depth ≤ maximalDepth := by rwa [here]
  have listed : (expressions maximalDepth finish (calls + 1) (.start tokens)).getLast? =
      some again.1 := by
    rw [expressions_succ, List.getLast?_concat]
  refine ⟨?_, shallow, listed, depth_expression_from finish parser.remaining shallow,
    depth_resumed_eq_zero_iff finish tokens calls, expression_roomy finish shallow,
    fun bracket overfills => ?_⟩
  · rw [here]
    exact List.drop_suffix index tokens
  · have refused : again.1 = .error (.nestingTooDeep bracket.position maximalDepth) :=
      expression_overfilled finish shallow overfills
    refine ⟨refused, fun distinct => ⟨fun same => ?_, fun nothing => ?_⟩⟩
    · exact depth_eq_zero_of_overfills shallow overfills distinct (same.symm.trans refused)
    · have whole : parser = .start parser.remaining := by
        rw [start, ← nothing]
      exact congrArg (fun parser => (expression maximalDepth finish parser).1) whole

/-- Behind as many brackets as may be open and a token that no element begins with, a group is
refused that a fresh parser reads. -/
theorem resumed_refuses_group :
    let brackets := (List.range 256).map fun position => (⟨.openBracket, position⟩ : Token)
    let group : List Token := [⟨.openBracket, 257⟩, ⟨.name "a", 258⟩, ⟨.closeBracket, 259⟩]
    let parser := start (brackets ++ ⟨.dot, 256⟩ :: group)
    expressions maximalDepth 260 2 parser =
        [.error (.unexpectedToken 256 .dot elementWanted), .error (.nestingTooDeep 257 256)] ∧
      (resumed maximalDepth 260 parser 1).remaining = group ∧
      (expression maximalDepth 260 (.start group)).1 =
        .ok [[⟨.group [[⟨.trait "a", false⟩]], false⟩]] := by
  intro brackets group parser
  have opening : ∀ bracket ∈ brackets, bracket.kind = .openBracket :=
    List.forall_mem_map.mpr fun _ _ => rfl
  have many : brackets.length = maximalDepth := by
    rw [List.length_map, List.length_range, maximalDepth]
  have room : 0 + brackets.length ≤ maximalDepth := by omega
  have first : expression maximalDepth 260 parser =
      (.error (.unexpectedToken 256 .dot elementWanted), ⟨group, maximalDepth⟩) := by
    simp only [expression, parser, start, branches_unanswered opening room, many, Nat.zero_add]
  have overfills : ScanMode.Overfills (maximalDepth - maximalDepth) group ⟨.openBracket, 257⟩ :=
    ⟨rfl, [], _, rfl, .nothing⟩
  have second := expression_overfilled 260 (Nat.le_refl maximalDepth) overfills
  have derived : Expression.Derives (group.map Token.kind)
      [[⟨.group [[⟨.trait "a", false⟩]], false⟩]] :=
    .one (.last (.group (.one (.last (.trait "a")))))
  refine ⟨?_, ?_, reads_iff.mpr ⟨derived, by decide⟩⟩
  · simp only [expressions, first, second]
    rfl
  · simp only [resumed, first]

end Parser

end Observe
