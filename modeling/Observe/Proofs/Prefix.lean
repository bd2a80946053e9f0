import Observe.Proofs.Reading

namespace Observe

/-! A reading blames the first token with which no expression can begin any more: up to there, what
the scan has passed can be completed. -/

namespace ScanMode

variable {limit finish opened count final : Nat} {mode next last : ScanMode}
  {used tokens : List Token} {token : Token} {error : SyntaxError}

theorem scan_error_cases (stopped : mode.scan limit finish opened tokens = .error error) :
    (∃ last final, Passes limit mode opened tokens last final ∧
      error = .unexpectedEnd finish (last.wanted final)) ∨
    ∃ used token rest last final, tokens = used ++ token :: rest ∧
      Passes limit mode opened used last final ∧ last.step limit final token = .error error := by
  induction tokens generalizing mode opened with
  | nil =>
      simp only [scan] at stopped
      split at stopped
      · cases stopped
      · cases stopped
        exact .inl ⟨mode, opened, .nothing, rfl⟩
  | cons token rest ih =>
      cases stepped : mode.step limit opened token with
      | error reason =>
          simp only [scan, stepped] at stopped
          cases stopped
          exact .inr ⟨[], token, rest, mode, opened, rfl, .nothing, stepped⟩
      | ok state =>
          obtain ⟨next, count⟩ := state
          simp only [scan, stepped] at stopped
          rcases ih stopped with ⟨last, final, passed, ended⟩ |
            ⟨used, spoiler, behind, last, final, split, passed, refused⟩
          · exact .inl ⟨last, final, .token stepped passed, ended⟩
          · subst split
            exact .inr ⟨token :: used, spoiler, behind, last, final, rfl, .token stepped passed,
              refused⟩

theorem Passes.scan_refused (passed : Passes limit mode opened used last final)
    (refused : last.step limit final token = .error error) (finish : Nat) (rest : List Token) :
    mode.scan limit finish opened (used ++ token :: rest) = .error error := by
  rw [passed.scan finish]
  simp only [ScanMode.scan, refused]

def closing (opened : Nat) : List Token := List.replicate opened ⟨.closeBracket, 0⟩

/-- Whatever mode the scan is in, an element and the closing brackets end an expression. -/
def completion : ScanMode → Nat → List Token
  | elementPassed, opened => closing opened
  | _, opened => ⟨.name "a", 0⟩ :: closing opened

theorem passes_closing (limit opened : Nat) :
    Passes limit elementPassed opened (closing opened) elementPassed 0 := by
  induction opened with
  | zero => exact .nothing
  | succ opened ih => exact .token (step_closeBracket rfl) ih

theorem passes_completion (limit : Nat) (mode : ScanMode) (opened : Nat) :
    Passes limit mode opened (mode.completion opened) elementPassed 0 := by
  cases mode with
  | elementNext => exact .token rfl (passes_closing limit opened)
  | nameNext => exact .token rfl (passes_closing limit opened)
  | elementPassed => exact passes_closing limit opened

theorem Passes.scan_completion (passed : Passes limit mode opened used last final) (finish : Nat) :
    mode.scan limit finish opened (used ++ last.completion final) = .ok () := by
  have completed := (passed.append (passes_completion limit last final)).scan finish []
  rw [List.append_nil] at completed
  exact completed

end ScanMode

namespace Parser

variable {limit finish : Nat} {tokens : List Token} {error : SyntaxError}

theorem scan_of_read {value : Expression}
    (read : (expression limit finish (.start tokens)).1 = .ok value) :
    ScanMode.scan limit finish .elementNext 0 tokens = .ok () := by
  have whole := (expression_read (Prod.ext read rfl)).1
  have scanned := whole.passed.scan finish []
  rw [List.append_nil] at scanned
  exact scanned

theorem scan_of_refused (refused : (expression limit finish (.start tokens)).1 = .error error) :
    ScanMode.scan limit finish .elementNext 0 tokens = .error error := by
  rcases expression_refused (Prod.ext refused rfl) with
    stops | ⟨used, token, rest, split, passed, unflagged, noComma, rfl, _⟩
  · exact stops.scan
  · have whole : tokens = used ++ token :: rest := split
    rw [whole]
    exact passed.scan_refused (ScanMode.step_refused_outside unflagged noComma) finish rest

theorem refused_iff_scan :
    (expression limit finish (.start tokens)).1 = .error error ↔
      ScanMode.scan limit finish .elementNext 0 tokens = .error error := by
  refine ⟨scan_of_refused, fun scanned => ?_⟩
  cases result : (expression limit finish (.start tokens)).1 with
  | ok value =>
      rw [scan_of_read result] at scanned
      cases scanned
  | error other =>
      rw [scan_of_refused result] at scanned
      cases scanned
      rfl

/-- A fresh parser reads the tokens as an expression. -/
def Accepts (finish : Nat) (tokens : List Token) : Prop :=
  ∃ value, (expression maximalDepth finish (.start tokens)).1 = .ok value

theorem accepts_iff_scan :
    Accepts finish tokens ↔ ScanMode.scan maximalDepth finish .elementNext 0 tokens = .ok () := by
  refine ⟨fun ⟨_, read⟩ => scan_of_read read, fun scanned => ?_⟩
  cases result : (expression maximalDepth finish (.start tokens)).1 with
  | ok value => exact ⟨value, result⟩
  | error error =>
      rw [scan_of_refused result] at scanned
      cases scanned

/-- Tokens before the index begin some expression. With the one at the index they begin none, and
whatever follows it, the error is the same. -/
structure Spoils (tokens : List Token) (index : Nat) (error : SyntaxError) : Prop where
  placed : ∃ token, tokens[index]? = some token ∧ token.position = error.position
  viable : ∃ longer, tokens.take index <+: longer ∧ ∀ finish, Accepts finish longer
  spoiled : ∀ longer, tokens.take (index + 1) <+: longer → ∀ finish, ¬ Accepts finish longer
  settled : ∀ longer, tokens.take (index + 1) <+: longer →
    ∀ finish, (expression maximalDepth finish (.start longer)).1 = .error error

theorem Spoils.of_step {used : List Token} {token : Token} {mode : ScanMode} {opened : Nat}
    (rest : List Token)
    (passed : ScanMode.Passes maximalDepth .elementNext 0 used mode opened)
    (refused : mode.step maximalDepth opened token = .error error) :
    Spoils (used ++ token :: rest) used.length error := by
  have front : (used ++ token :: rest).take used.length = used := List.take_left
  have spoiled : (used ++ token :: rest).take (used.length + 1) = used ++ [token] := by
    rw [List.take_length_add_append, List.take_succ_cons, List.take_zero]
  have settled : ∀ longer, (used ++ token :: rest).take (used.length + 1) <+: longer →
      ∀ finish, (expression maximalDepth finish (.start longer)).1 = .error error := by
    intro longer begins finish
    rw [spoiled] at begins
    obtain ⟨others, rfl⟩ := begins
    rw [refused_iff_scan, List.append_assoc]
    exact passed.scan_refused refused finish others
  refine ⟨⟨token, ?_, ?_⟩, ?_, ?_, settled⟩
  · simp
  · rcases ScanMode.step_error_cases refused with rfl | ⟨_, _, rfl⟩ <;> rfl
  -- The scan ended well up to here, and what it still wants can be supplied.
  · rw [front]
    refine ⟨used ++ mode.completion opened, List.prefix_append _ _, fun finish => ?_⟩
    exact accepts_iff_scan.mpr (passed.scan_completion finish)
  · intro longer begins finish accepted
    obtain ⟨value, read⟩ := accepted
    rw [settled longer begins finish] at read
    cases read

/-- An error at a token is due to the first token that spoils what stands before it. Where the tokens
end too early, they begin an expression. -/
theorem refused_earliest
    (refused : (expression maximalDepth finish (.start tokens)).1 = .error error) :
    match error with
    | .unexpectedEnd position _ =>
        position = finish ∧ ¬ Accepts finish tokens ∧
          ∃ longer, tokens <+: longer ∧ ∀ finish, Accepts finish longer
    | error => ∃ index, Spoils tokens index error := by
  rcases ScanMode.scan_error_cases (scan_of_refused refused) with
    ⟨mode, opened, passed, rfl⟩ | ⟨used, token, rest, mode, opened, rfl, passed, stopped⟩
  · refine ⟨rfl, ?_, tokens ++ mode.completion opened, List.prefix_append _ _, fun finish => ?_⟩
    · intro accepted
      obtain ⟨value, read⟩ := accepted
      rw [refused] at read
      cases read
    · exact accepts_iff_scan.mpr (passed.scan_completion finish)
  · have spoils := Spoils.of_step rest passed stopped
    rcases ScanMode.step_error_cases stopped with rfl | ⟨_, _, rfl⟩
    · exact ⟨used.length, spoils⟩
    · exact ⟨used.length, spoils⟩

theorem refused_earliest_nameless :
    (expression maximalDepth 6 (.start [⟨.openBracket, 0⟩, ⟨.plus, 1⟩, ⟨.closeBracket, 2⟩,
        ⟨.dot, 3⟩])).1 =
      .error (.unexpectedToken 2 .closeBracket metadataNameWanted) ∧
    ∃ index, Spoils [⟨.openBracket, 0⟩, ⟨.plus, 1⟩, ⟨.closeBracket, 2⟩, ⟨.dot, 3⟩] index
      (.unexpectedToken 2 .closeBracket metadataNameWanted) := by
  have refused : (expression maximalDepth 6 (.start [⟨.openBracket, 0⟩, ⟨.plus, 1⟩,
      ⟨.closeBracket, 2⟩, ⟨.dot, 3⟩])).1 =
      .error (.unexpectedToken 2 .closeBracket metadataNameWanted) := refused_iff_scan.mpr rfl
  exact ⟨refused, refused_earliest refused⟩

end Parser

end Observe
