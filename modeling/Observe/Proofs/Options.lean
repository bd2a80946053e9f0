import Mathlib.Data.List.TakeWhile
import Observe.Command.Arguments

namespace Observe.Command.Request

variable {request final next : Request} {argument : String} {pending : Option Setting}

/-- The request for other expressions with the same options. -/
def withExpressions (expressions : List String) (request : Request) : Request :=
  { request with expressions := expressions }

theorem raise_withExpressions (expressions : List String) (request : Request) (flag : Flag) :
    (request.withExpressions expressions).raise flag =
      (request.raise flag).map (withExpressions expressions) := by
  obtain ⟨given, format, config, failFast, verbosity, quiet⟩ := request
  cases flag with
  | failFast => cases failFast <;> rfl
  | quiet => cases quiet <;> rfl
  | _ => rfl

theorem assign_withExpressions (expressions : List String) (request : Request) (setting : Setting)
    (value : String) :
    (request.withExpressions expressions).assign setting value =
      (request.assign setting value).map (withExpressions expressions) := by
  obtain ⟨given, format, config, failFast, verbosity, quiet⟩ := request
  cases setting with
  | format =>
      simp only [assign, withExpressions]
      split <;> rfl
  | config =>
      change (if config.isSome ∨ value = "" then _ else _) =
        Except.map _ (if config.isSome ∨ value = "" then _ else _)
      split <;> rfl

theorem readLetters_withExpressions (expressions : List String) (request : Request)
    (letters : List Char) :
    (request.withExpressions expressions).readLetters letters =
      (request.readLetters letters).map (Prod.map (withExpressions expressions) id) := by
  induction letters generalizing request with
  | nil => rfl
  | cons letter rest ih =>
      simp only [readLetters]
      cases Named.ofLetter? letter with
      | none => rfl
      | some named =>
          cases named with
          | flag flag =>
              simp only [raise_withExpressions]
              cases request.raise flag with
              | error interruption => rfl
              | ok raised => exact ih raised
          | setting setting =>
              simp only [assign_withExpressions]
              split
              · rfl
              · cases request.assign setting _ <;> rfl
              · cases request.assign setting _ <;> rfl

theorem readWord_withExpressions (expressions : List String) (request : Request)
    (word : List Char) :
    (request.withExpressions expressions).readWord word =
      (request.readWord word).map (Prod.map (withExpressions expressions) id) := by
  simp only [readWord, raise_withExpressions, assign_withExpressions]
  split
  · cases request.raise _ <;> rfl
  · rfl
  · cases request.assign _ _ <;> rfl
  · rfl

theorem readArgument_withExpressions (expressions : List String) (request : Request)
    (option : isPlain argument = false) :
    (request.withExpressions expressions).readArgument argument =
      (request.readArgument argument).map (Prod.map (withExpressions expressions) id) := by
  unfold isPlain at option
  unfold readArgument
  split
  · exact readWord_withExpressions expressions request _
  · exact readLetters_withExpressions expressions request _
  · rename_i noWord noLetters
    split at option
    · rename_i second rest split
      exact absurd split (noLetters second rest)
    · cases option

theorem readArgument_plain (request : Request) (plain : isPlain argument = true) :
    request.readArgument argument =
      .ok (request.withExpressions (request.expressions ++ [argument]), none) := by
  unfold isPlain at plain
  unfold readArgument
  split
  · simp_all
  · simp_all
  · rfl

theorem readAll_option (rest : List String) (ordinary : argument ≠ "--")
    (read : request.readArgument argument = .ok (next, none)) :
    request.readAll (argument :: rest) = next.readAll rest := by
  rw [readAll, if_neg ordinary, read]

theorem readAll_value {valued : Request} {setting : Setting} {value : String} (rest : List String)
    (ordinary : argument ≠ "--") (read : request.readArgument argument = .ok (next, some setting))
    (plain : isPlain value = true) (assigned : next.assign setting value = .ok valued) :
    request.readAll (argument :: value :: rest) = valued.readAll rest := by
  rw [readAll, if_neg ordinary, read]
  simp only [plain, assigned, if_true]

/-- Some of the arguments ask for the same options, and for no expressions. -/
theorem exists_options {arguments : List String} (expressions : List String)
    (read : readAll request arguments = .ok final) :
    ∃ options, options.Sublist arguments ∧
      readAll (request.withExpressions expressions) options =
        .ok (final.withExpressions expressions) := by
  induction request, arguments using readAll.induct with
  | case1 request =>
      cases read
      exact ⟨[], List.nil_sublist _, rfl⟩
  | case2 request rest =>
      simp only [readAll, if_true] at read
      cases read
      exact ⟨[], List.nil_sublist _, rfl⟩
  | case3 request argument rest ordinary interruption interrupted =>
      simp [readAll, ordinary, interrupted] at read
  | case4 request argument rest ordinary next found ih =>
      rw [readAll_option rest ordinary found] at read
      obtain ⟨options, among, asked⟩ := ih read
      cases plain : isPlain argument with
      | true =>
          rw [readArgument_plain request plain] at found
          cases found
          exact ⟨options, among.cons _, asked⟩
      | false =>
          have foundThere := readArgument_withExpressions expressions request plain
          rw [found] at foundThere
          refine ⟨argument :: options, among.cons_cons _, ?_⟩
          rw [readAll_option options ordinary foundThere]
          exact asked
  | case5 request argument ordinary next setting found =>
      simp [readAll, ordinary, found] at read
  | case6 request argument ordinary next setting found value rest plain interruption interrupted =>
      simp [readAll, ordinary, found, plain, interrupted] at read
  | case7 request argument ordinary next setting found value rest plainValue valued assigned ih =>
      rw [readAll_value rest ordinary found plainValue assigned] at read
      obtain ⟨options, among, asked⟩ := ih read
      cases plain : isPlain argument with
      | true =>
          rw [readArgument_plain request plain] at found
          cases found
      | false =>
          have foundThere := readArgument_withExpressions expressions request plain
          have assignedThere := assign_withExpressions expressions next setting value
          rw [found] at foundThere
          rw [assigned] at assignedThere
          refine ⟨argument :: value :: options, (among.cons_cons _).cons_cons _, ?_⟩
          rw [readAll_value options ordinary foundThere plainValue assignedThere]
          exact asked
  | case8 request argument ordinary next setting found value rest hidden =>
      simp [readAll, ordinary, found, hidden] at read

theorem optionsAmong_append_dashes {options : List String} (separate : "--" ∉ options)
    (expressions : List String) :
    optionsAmong (options ++ "--" :: expressions) = optionsAmong options := by
  have all : ∀ argument ∈ options, decide (argument ≠ "--") = true := by
    intro argument member
    exact decide_eq_true fun same => separate (same ▸ member)
  rw [optionsAmong, optionsAmong, List.takeWhile_append_of_pos all,
    List.takeWhile_cons_of_neg (by simp), List.append_nil, List.takeWhile_eq_self_iff.mpr all]

/-- Options are read as they are alone when two dashes and expressions follow them. -/
theorem readAll_append_dashes {options : List String} (separate : "--" ∉ options)
    (expressions : List String) :
    request.readAll (options ++ "--" :: expressions) =
      (request.readAll options).map fun final =>
        final.withExpressions (final.expressions ++ expressions) := by
  induction request, options using readAll.induct with
  | case1 request => simp [readAll, withExpressions, Except.map]
  | case2 request rest => exact absurd List.mem_cons_self separate
  | case3 request argument rest ordinary interruption interrupted =>
      simp [readAll, ordinary, interrupted, Except.map]
  | case4 request argument rest ordinary next found ih =>
      rw [List.cons_append, readAll_option _ ordinary found, readAll_option _ ordinary found]
      exact ih (List.not_mem_of_not_mem_cons separate)
  | case5 request argument ordinary next setting found =>
      have refused : isPlain "--" = false := by decide
      simp [readAll, ordinary, found, refused, Except.map]
  | case6 request argument ordinary next setting found value rest plain interruption interrupted =>
      simp [readAll, ordinary, found, plain, interrupted, Except.map]
  | case7 request argument ordinary next setting found value rest plain valued assigned ih =>
      rw [List.cons_append, List.cons_append, readAll_value _ ordinary found plain assigned,
        readAll_value _ ordinary found plain assigned]
      exact ih (List.not_mem_of_not_mem_cons (List.not_mem_of_not_mem_cons separate))
  | case8 request argument ordinary next setting found value rest hidden =>
      simp [readAll, ordinary, found, hidden, Except.map]

end Observe.Command.Request
