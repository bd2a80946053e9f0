import Observe.Proofs.Sources

namespace Observe.Command

open Log

variable {manner : Manner} {text refused : String} {expressions before after : List String}

def Valid (text : String) : Prop := ∃ value, Expression.parse text = .ok value

/-- The outcome of a run that tells nothing but what the handling of expressions tells. -/
def Progress.outcome (progress : Progress) : Outcome where
  stdout := joinLines progress.printed
  stderr := joinLines progress.told
  status :=
    if progress.aborted then .aborted else if progress.invalid = 0 then .success else .failure

theorem conclude_eq_outcome (brief : Brief manner.level) (expressions : List String) :
    conclude manner [] expressions = (handleAll manner expressions).outcome := by
  rw [conclude, Progress.outcome, tell_countRecord brief]
  cases aborted : (handleAll manner expressions).aborted <;> simp

theorem handle_valid (manner : Manner) (valid : Valid text) : (handle manner text).invalid = 0 := by
  obtain ⟨value, read⟩ := valid
  rw [handle, read]
  dsimp only
  split <;> rfl

theorem handle_invalid (steady : (handle manner text).aborted = false) (invalid : ¬ Valid text) :
    (handle manner text).invalid = 1 := by
  cases read : Expression.parse text with
  | ok value => exact absurd ⟨value, read⟩ invalid
  | error error =>
      rw [handle, read] at steady ⊢
      dsimp only at steady ⊢
      split
      · rfl
      · rename_i tooWide
        rw [tooWide] at steady
        cases steady

theorem handle_invalid_eq_zero_iff (steady : (handle manner text).aborted = false) :
    (handle manner text).invalid = 0 ↔ Valid text := by
  refine ⟨fun none => ?_, handle_valid manner⟩
  by_contra invalid
  rw [handle_invalid steady invalid] at none
  cases none

theorem handleAll_singleton (manner : Manner) (text : String) :
    handleAll manner [text] = handle manner text := by
  rw [handleAll]
  dsimp only
  split
  · rfl
  · rename_i going
    have steady : (handle manner text).aborted = false := by simp_all
    rw [handleAll, List.append_nil, List.append_nil, Nat.add_zero, ← steady]

theorem handleAll_cons {rest : List String} (manner : Manner)
    (steady : (handle manner text).aborted = false)
    (going : manner.failFast = false ∨ Valid text) :
    handleAll manner (text :: rest) =
      ⟨(handle manner text).printed ++ (handleAll manner rest).printed,
        (handle manner text).told ++ (handleAll manner rest).told,
        (handle manner text).invalid + (handleAll manner rest).invalid,
        (handleAll manner rest).aborted⟩ := by
  rw [handleAll]
  apply if_neg
  rcases going with patient | valid
  · simp [steady, patient]
  · simp [steady, handle_valid manner valid]

/-- An expression breaks the run off. -/
theorem handleAll_break {rest : List String} (broken : (handle manner text).aborted = true) :
    handleAll manner (text :: rest) = handle manner text := by
  rw [handleAll]
  exact if_pos (.inl broken)

/-- An invalid expression ends a run that stops early. -/
theorem handleAll_stop {rest : List String} (hasty : manner.failFast = true)
    (steady : (handle manner text).aborted = false) (invalid : ¬ Valid text) :
    handleAll manner (text :: rest) = handle manner text := by
  have counted := handle_invalid steady invalid
  have stopped : manner.failFast = true ∧ (handle manner text).invalid ≠ 0 :=
    ⟨hasty, by rw [counted]; exact Nat.one_ne_zero⟩
  rw [handleAll]
  exact if_pos (.inr stopped)

/-- No expression takes note of the others. -/
theorem handleAll_patient (patient : manner.failFast = false)
    (steady : ∀ text ∈ expressions, (handle manner text).aborted = false) :
    handleAll manner expressions =
      ⟨expressions.flatMap fun text => (handle manner text).printed,
        expressions.flatMap fun text => (handle manner text).told,
        (expressions.map fun text => (handle manner text).invalid).sum, false⟩ := by
  induction expressions with
  | nil => rfl
  | cons text rest ih =>
      obtain ⟨first, others⟩ := List.forall_mem_cons.mp steady
      rw [handleAll_cons manner first (.inl patient), ih others]
      rfl

/-- Whether all are valid can be told from the count, also of a run that stops early. -/
theorem handleAll_unbroken (unbroken : (handleAll manner expressions).aborted = false) :
    (handleAll manner expressions).invalid = 0 ↔ ∀ text ∈ expressions, Valid text := by
  induction expressions with
  | nil => exact iff_of_true rfl (List.forall_mem_nil _)
  | cons text rest ih =>
      cases steady : (handle manner text).aborted with
      | true =>
          rw [handleAll_break steady, steady] at unbroken
          cases unbroken
      | false =>
          have counted := handle_invalid_eq_zero_iff steady
          by_cases going : manner.failFast = false ∨ Valid text
          · rw [handleAll_cons manner steady going] at unbroken ⊢
            rw [List.forall_mem_cons, ← counted, ← ih unbroken]
            exact Nat.add_eq_zero_iff
          · obtain ⟨hasty, invalid⟩ := not_or.mp going
            rw [handleAll_stop (by simpa using hasty) steady invalid]
            exact iff_of_false (mt counted.mp invalid)
              fun all => invalid (all text List.mem_cons_self)

theorem handleAll_steady (steady : ∀ text ∈ expressions, (handle manner text).aborted = false) :
    (handleAll manner expressions).aborted = false := by
  induction expressions with
  | nil => rfl
  | cons text rest ih =>
      obtain ⟨first, others⟩ := List.forall_mem_cons.mp steady
      by_cases going : manner.failFast = false ∨ Valid text
      · rw [handleAll_cons manner first going]
        exact ih others
      · obtain ⟨hasty, invalid⟩ := not_or.mp going
        rw [handleAll_stop (by simpa using hasty) first invalid]
        exact first

def Manner.patient (manner : Manner) : Manner := { manner with failFast := false }

theorem handle_patient (manner : Manner) (text : String) :
    handle manner.patient text = handle manner text := rfl

theorem handleAll_of_valid (steady : ∀ text ∈ expressions, (handle manner text).aborted = false)
    (valid : ∀ text ∈ expressions, Valid text) :
    handleAll manner expressions = handleAll manner.patient expressions := by
  induction expressions with
  | nil => rfl
  | cons text rest ih =>
      obtain ⟨steadyFirst, steadyRest⟩ := List.forall_mem_cons.mp steady
      obtain ⟨validFirst, validRest⟩ := List.forall_mem_cons.mp valid
      rw [handleAll_cons manner steadyFirst (.inr validFirst), ih steadyRest validRest,
        handleAll_cons manner.patient steadyFirst (.inl rfl)]
      rfl

theorem handleAll_of_invalid (hasty : manner.failFast = true)
    (steady : ∀ text ∈ before ++ refused :: after, (handle manner text).aborted = false)
    (valid : ∀ text ∈ before, Valid text) (invalid : ¬ Valid refused) :
    handleAll manner (before ++ refused :: after) =
      handleAll manner.patient (before ++ [refused]) := by
  induction before with
  | nil =>
      -- Here the run stops, so that the texts behind are not looked at.
      rw [List.nil_append, List.nil_append, handleAll_singleton, handle_patient]
      exact handleAll_stop hasty (steady refused List.mem_cons_self) invalid
  | cons text rest ih =>
      obtain ⟨steadyFirst, steadyRest⟩ := List.forall_mem_cons.mp steady
      obtain ⟨validFirst, validRest⟩ := List.forall_mem_cons.mp valid
      rw [List.cons_append, List.cons_append, handleAll_cons manner steadyFirst (.inr validFirst),
        ih steadyRest validRest,
        handleAll_cons manner.patient steadyFirst (.inl rfl)]
      rfl

theorem joinLines_flatMap (lines : String → List String) (texts : List String) :
    joinLines (texts.flatMap lines) =
      String.join (texts.map fun text => joinLines (lines text)) := by
  induction texts with
  | nil => rfl
  | cons text rest ih =>
      rw [List.flatMap_cons, joinLines_append, ih, List.map_cons, String.join_cons]

theorem outcome_handle_eq_failure (steady : (handle manner text).aborted = false) :
    (handle manner text).outcome.status = .failure ↔ ¬ Valid text := by
  rw [← handle_invalid_eq_zero_iff steady]
  simp [Progress.outcome, steady]

open scoped Classical in
theorem outcome_status (steady : ∀ text ∈ expressions, (handle manner text).aborted = false) :
    (handleAll manner expressions).outcome.status =
      if ∀ text ∈ expressions, Valid text then .success else .failure := by
  have unbroken := handleAll_steady steady
  simp only [Progress.outcome, unbroken, handleAll_unbroken unbroken, Bool.false_eq_true, if_false]

theorem outcome_patient (patient : manner.failFast = false)
    (steady : ∀ text ∈ expressions, (handle manner text).aborted = false) :
    (handleAll manner expressions).outcome =
      { stdout := String.join (expressions.map fun text => (handle manner text).outcome.stdout)
        stderr := String.join (expressions.map fun text => (handle manner text).outcome.stderr)
        status :=
          if ∃ text ∈ expressions, (handle manner text).outcome.status = .failure then .failure
          else .success } := by
  have failing : (∃ text ∈ expressions, (handle manner text).outcome.status = .failure) ↔
      ¬ ∀ text ∈ expressions, Valid text := by
    simp only [not_forall, exists_prop]
    refine exists_congr fun text => and_congr_right fun member => ?_
    exact outcome_handle_eq_failure (steady text member)
  have status := outcome_status steady
  rw [handleAll_patient patient steady] at status ⊢
  rw [Progress.outcome, Outcome.mk.injEq]
  refine ⟨joinLines_flatMap _ _, joinLines_flatMap _ _, status.trans ?_⟩
  by_cases valid : ∀ text ∈ expressions, Valid text
  · rw [if_pos valid, if_neg fun failed => failing.mp failed valid]
  · rw [if_neg valid, if_pos (failing.mpr valid)]

/-- A run with expressions behind two dashes. -/
def runOn (options : List String) (surroundings : Surroundings) (expressions : List String) :
    Outcome :=
  run (options ++ "--" :: expressions) surroundings

/-- Options without expressions that ask for no more records, and settings that are there without a
warning. -/
structure Prepared (options : List String) (surroundings : Surroundings) (request : Request)
    (settings : Settings) : Prop where
  separate : "--" ∉ options
  asked : Request.ofArguments options = .ok request
  unnamed : request.expressions = []
  unraised : request.verbosity = 0
  configured : ∃ records,
    settingsFor request (surroundings.findings request) = .ok (settings, records) ∧
      ∀ record ∈ records, record.level ≠ .warn

variable {options : List String} {surroundings : Surroundings} {request : Request}
  {settings : Settings}

theorem Prepared.runOn_eq (prepared : Prepared options surroundings request settings)
    (nonempty : expressions ≠ []) :
    runOn options surroundings expressions =
      (handleAll (Manner.of request settings) expressions).outcome := by
  obtain ⟨separate, asked, unnamed, unraised, records, configured, unwarned⟩ := prepared
  have brief : Brief request.level := Request.level_brief unraised
  have untold : tell request.level records = [] := by
    refine tell_eq_nil fun record member => brief.hides ?_
    have levels := (settingsFor_records configured record member).2
    rw [levels.resolve_left (unwarned record member)]
    decide
  have named : Request.ofArguments (options ++ "--" :: expressions) =
      .ok (request.withExpressions expressions) := by
    rw [Request.ofArguments_dashes separate, asked]
    · rfl
    · intro other same
      rw [asked] at same
      cases same
      exact unnamed
  have given := expressionsFor?_withExpressions nonempty request surroundings.input
  have unprompted : promptsFor (request.withExpressions expressions) surroundings.terminal = [] :=
    promptsFor_given nonempty _
  rw [runOn, run_eq_conclude named configured given, unprompted, List.append_nil]
  change conclude (Manner.of request settings) (tell request.level records) expressions = _
  rw [untold]
  exact conclude_eq_outcome brief expressions

theorem Prepared.runOn_singleton (prepared : Prepared options surroundings request settings)
    (text : String) :
    runOn options surroundings [text] = (handle (Manner.of request settings) text).outcome := by
  rw [prepared.runOn_eq (List.cons_ne_nil _ _), handleAll_singleton]

/-- The runs are taken with options and files for which the settings are there without a warning,
and with expressions that no run on one of them breaks off at. A run that does not stop early prints
and tells on several expressions what the runs on each of them do, in order, and fails if one of
them fails. A run that stops early does what a run that does not stop early, and is otherwise of the
same manner, does on the expressions up to the first invalid one, or on all of them if they are
valid; and that fails exactly if it fails on all of them. -/
theorem run_batch (prepared : Prepared options surroundings request settings)
    (nonempty : expressions ≠ [])
    (steady : ∀ text ∈ expressions, (runOn options surroundings [text]).status ≠ .aborted) :
    ((Manner.of request settings).failFast = false →
      runOn options surroundings expressions =
        { stdout :=
            String.join (expressions.map fun text => (runOn options surroundings [text]).stdout)
          stderr :=
            String.join (expressions.map fun text => (runOn options surroundings [text]).stderr)
          status :=
            if ∃ text ∈ expressions, (runOn options surroundings [text]).status = .failure
            then .failure else .success }) ∧
    ((Manner.of request settings).failFast = true →
      ∀ patientOptions patientSurroundings patientRequest patientSettings,
        Prepared patientOptions patientSurroundings patientRequest patientSettings →
        Manner.of patientRequest patientSettings = (Manner.of request settings).patient →
        (runOn options surroundings expressions).status =
            (runOn patientOptions patientSurroundings expressions).status ∧
          ((∀ text ∈ expressions, Valid text) →
            runOn options surroundings expressions =
              runOn patientOptions patientSurroundings expressions) ∧
          ∀ before refused after, expressions = before ++ refused :: after →
            (∀ text ∈ before, Valid text) → ¬ Valid refused →
            runOn options surroundings expressions =
              runOn patientOptions patientSurroundings (before ++ [refused])) := by
  have unbroken : ∀ text ∈ expressions,
      (handle (Manner.of request settings) text).aborted = false := by
    intro text member
    have going := steady text member
    rw [prepared.runOn_singleton, Progress.outcome] at going
    cases aborted : (handle (Manner.of request settings) text).aborted with
    | false => rfl
    | true => simp [aborted] at going
  refine ⟨?_, ?_⟩
  · intro patient
    rw [prepared.runOn_eq nonempty, outcome_patient patient unbroken]
    simp only [prepared.runOn_singleton]
  · intro hasty patientOptions patientSurroundings patientRequest patientSettings preparedPatient
      same
    have unbrokenPatient : ∀ text ∈ expressions,
        (handle (Manner.of request settings).patient text).aborted = false := unbroken
    rw [prepared.runOn_eq nonempty, preparedPatient.runOn_eq nonempty, same]
    refine ⟨?_, ?_, ?_⟩
    · rw [outcome_status unbroken, outcome_status unbrokenPatient]
    · intro valid
      rw [handleAll_of_valid unbroken valid]
    · rintro before refused after rfl valid invalid
      rw [preparedPatient.runOn_eq (by simp), same,
        handleAll_of_invalid hasty unbroken valid invalid]

theorem Prepared.bare (separate : "--" ∉ options)
    (asked : Request.ofArguments options = .ok request) (unnamed : request.expressions = [])
    (unraised : request.verbosity = 0) (usual : request.config = none) :
    Prepared options .bare request {} :=
  ⟨separate, asked, unnamed, unraised, [], settingsFor_bare usual, List.forall_mem_nil _⟩

theorem handle_told {error : ExpressionError} {shown : String} (brief : Brief manner.level)
    (read : Expression.parse text = .error error)
    (rendered : Diagnostic.render? text error = some shown) :
    handle manner text = ⟨[], [shown], 1, false⟩ := by
  simp only [handle, read, rendered, tell_records brief, List.nil_append]

theorem run_batch_early :
    runOn ["--fail-fast"] .bare ["a", "x..y", "b"] = runOn [] .bare ["a", "x..y"] ∧
      runOn [] .bare ["a", "x..y"] =
        ⟨"a\n", "error: Unexpected token '.' at position 2, expected an element\n  x..y\n    ^\n",
          .failure⟩ := by
  have hasty : Prepared ["--fail-fast"] .bare { failFast := true } {} :=
    .bare (by decide) (by cbv) rfl rfl rfl
  have patient : Prepared [] .bare {} {} := .bare (by decide) (by cbv) rfl rfl rfl
  have manner : Manner.of {} {} = ⟨.text, 2, false, .warn⟩ := rfl
  have hastyManner : Manner.of { failFast := true } {} = ⟨.text, 2, true, .warn⟩ := rfl
  have brief : ∀ flag, Brief (Manner.mk .text 2 flag .warn).level := fun _ => Nat.le_refl _
  have refused : Expression.parse "x..y" =
      .error (.syntactic (.unexpectedToken 2 .dot "an element")) := by cbv
  have rendered : Diagnostic.render? "x..y" (.syntactic (.unexpectedToken 2 .dot "an element")) =
      some "error: Unexpected token '.' at position 2, expected an element\n  x..y\n    ^" := by
    decide +kernel
  have first : ∀ flag, handle ⟨.text, 2, flag, .warn⟩ "a" = ⟨["a"], [], 0, false⟩ :=
    fun flag => handle_shown (brief flag) (by cbv) (by cbv)
  have second : ∀ flag, handle ⟨.text, 2, flag, .warn⟩ "x..y" = ⟨[], _, 1, false⟩ :=
    fun flag => handle_told (brief flag) refused rendered
  have third : handle ⟨.text, 2, true, .warn⟩ "b" = ⟨["b"], [], 0, false⟩ :=
    handle_shown (brief true) (by cbv) (by cbv)
  have valid : Valid "a" := ⟨[[⟨.trait "a", false⟩]], by cbv⟩
  have invalid : ¬ Valid "x..y" := by
    rintro ⟨value, read⟩
    rw [refused] at read
    cases read
  have steadyHasty : ∀ text ∈ ["a", "x..y", "b"],
      (runOn ["--fail-fast"] .bare [text]).status ≠ .aborted := by
    simp [hasty.runOn_singleton, hastyManner, first, second, third, Progress.outcome]
  have steady : ∀ text ∈ ["a", "x..y"], (runOn [] .bare [text]).status ≠ .aborted := by
    simp [patient.runOn_singleton, manner, first, second, Progress.outcome]
  have early := (run_batch hasty (by decide) steadyHasty).2 rfl [] .bare {} {} patient rfl
  have whole := (run_batch patient (by decide) steady).1 rfl
  refine ⟨early.2.2 ["a"] "x..y" ["b"] rfl (List.forall_mem_singleton.mpr valid) invalid, ?_⟩
  rw [whole]
  simp [patient.runOn_singleton, manner, first, second, Progress.outcome, joinLines, String.join]

end Observe.Command
