import Observe.Proofs.Flattening
import Observe.Proofs.Lines
import Observe.Proofs.Options

namespace Observe.Command

open Log Text

variable {manner : Manner} {level : Level} {records : List Record} {text line : String}
  {texts lines : List String}

theorem tell_eq_nil (hidden : ∀ record ∈ records, record.shownAt level = false) :
    tell level records = [] := by
  rw [tell, List.filter_eq_nil_iff.mpr fun record member => by simp [hidden record member],
    List.map_nil]

/-- Runs of these levels tell nothing about an expression that they can read. -/
def Brief (level : Level) : Prop := level.rank ≤ Level.rank .warn

theorem Brief.hides {record : Record} (brief : Brief level)
    (fine : Level.rank .warn < record.level.rank) : record.shownAt level = false :=
  decide_eq_false (Nat.not_le.mpr (Nat.lt_of_le_of_lt brief fine))

theorem tell_records (brief : Brief level) (text : String) :
    tell level (Expression.records text) = [] := by
  have debug : ∀ text, (parserRecord text).shownAt level = false :=
    fun _ => brief.hides (show 1 < 3 by decide)
  have trace : ∀ token : Token, token.record.shownAt level = false :=
    fun _ => brief.hides (show 1 < 4 by decide)
  apply tell_eq_nil
  refine List.forall_mem_cons.mpr ⟨debug _, List.forall_mem_append.mpr ⟨?_, ?_⟩⟩
  · exact List.forall_mem_map.mpr fun token _ => trace token
  · split
    · exact List.forall_mem_nil _
    · exact List.forall_mem_singleton.mpr (debug _)

theorem tell_countRecord (brief : Brief level) (count invalid : Nat) :
    tell level [countRecord count invalid] = [] :=
  tell_eq_nil (List.forall_mem_singleton.mpr (brief.hides (show 1 < 2 by decide)))

/-- A line that is read as one expression and printed as it is. -/
structure Settles (manner : Manner) (line : String) : Prop where
  whole : IsLine line.toList
  filled : allBlank line = false
  again : ∃ value, Expression.parse line = .ok value ∧
    manner.format.render? manner.indent value = some line

theorem Settles.of_read {value : Expression} (read : Expression.parse line = .ok value)
    (same : value.text = line)
    (shown : manner.format.render? manner.indent value = some line) : Settles manner line := by
  have noBlank := Expression.noBlank_of_parse read
  rw [same] at noBlank
  refine ⟨⟨?_, ?_⟩, ?_, value, read, shown⟩
  · intro newline
    cases noBlank '\n' newline
  · intro ended
    cases noBlank '\r' (List.mem_of_getLast? ended)
  · cases chars : line.toList with
    | nil =>
        obtain rfl : line = "" := String.toList_eq_nil_iff.mp chars
        have refused : Expression.parse "" =
            .error (.syntactic (.unexpectedEnd 0 elementWanted)) := by cbv
        rw [refused] at read
        cases read
    | cons c rest =>
        rw [chars] at noBlank
        simp [allBlank, chars, noBlank c List.mem_cons_self]

/-- Whatever an expression is printed on settles. -/
theorem handle_printed (lined : manner.format = .text ∨ manner.format = .paths) (text : String) :
    ∃ lines, joinLines (handle manner text).printed = joinLines lines ∧
      ∀ line ∈ lines, Settles manner line := by
  unfold handle
  cases read : Expression.parse text with
  | error error =>
      refine ⟨[], ?_, List.forall_mem_nil _⟩
      dsimp only
      split <;> rfl
  | ok value =>
      have wellFormed := Expression.wellFormed_of_parse read
      rcases lined with format | format
      · refine ⟨[value.text], ?_, List.forall_mem_singleton.mpr ?_⟩
        · simp only [format, Format.render?]
        · refine .of_read (Expression.parse_text wellFormed) rfl ?_
          rw [format]
          rfl
      · have all := Expression.Proper.allRun value wellFormed.1
        refine ⟨value.paths.map Series.text, ?_, List.forall_mem_map.mpr ?_⟩
        · simp only [format, Format.render?]
          exact joinLines_intercalate (mt List.map_eq_nil_iff.mp all.nonempty)
        · intro path member
          have flat := Expression.isFlat_paths value path member
          refine .of_read (Expression.parse_path wellFormed.1 member)
            (Expression.text_singleton path) ?_
          rw [format, Format.render?,
            Expression.paths_of_isFlat (List.forall_mem_singleton.mpr flat), List.map_singleton,
            String.intercalate_singleton]

theorem handleAll_printed (lined : manner.format = .text ∨ manner.format = .paths)
    (texts : List String) :
    ∃ lines, joinLines (handleAll manner texts).printed = joinLines lines ∧
      ∀ line ∈ lines, Settles manner line := by
  induction texts with
  | nil => exact ⟨[], rfl, List.forall_mem_nil _⟩
  | cons text rest ih =>
      obtain ⟨front, printed, settled⟩ := handle_printed lined text
      rw [handleAll]
      split
      · exact ⟨front, printed, settled⟩
      · obtain ⟨behind, printedRest, settledRest⟩ := ih
        refine ⟨front ++ behind, ?_, List.forall_mem_append.mpr ⟨settled, settledRest⟩⟩
        rw [joinLines_append, joinLines_append, printed, printedRest]

theorem handle_shown {value : Expression} (brief : Brief manner.level)
    (read : Expression.parse text = .ok value)
    (shown : manner.format.render? manner.indent value = some line) :
    handle manner text = ⟨[line], [], 0, false⟩ := by
  simp only [handle, read, shown, tell_records brief]

theorem handle_refused {error : ExpressionError} (read : Expression.parse text = .error error) :
    (handle manner text).printed = [] := by
  simp only [handle, read]
  split <;> rfl

theorem handle_settled (brief : Brief manner.level) (settled : Settles manner line) :
    handle manner line = ⟨[line], [], 0, false⟩ := by
  obtain ⟨value, read, shown⟩ := settled.again
  exact handle_shown brief read shown

theorem handleAll_settled (brief : Brief manner.level)
    (settled : ∀ line ∈ lines, Settles manner line) :
    handleAll manner lines = ⟨lines, [], 0, false⟩ := by
  induction lines with
  | nil => rfl
  | cons line rest ih =>
      obtain ⟨first, others⟩ := List.forall_mem_cons.mp settled
      simp [handleAll, handle_settled brief first, ih others]

theorem conclude_settled (brief : Brief manner.level)
    (settled : ∀ line ∈ lines, Settles manner line) (told : List String) :
    conclude manner told lines = ⟨joinLines lines, joinLines told, .success⟩ := by
  simp [conclude, handleAll_settled brief settled, tell_countRecord brief]

theorem conclude_stdout (manner : Manner) (told expressions : List String) :
    (conclude manner told expressions).stdout =
      joinLines (handleAll manner expressions).printed := by
  unfold conclude
  dsimp only
  split <;> rfl

variable {arguments : List String} {surroundings : Surroundings} {request : Request}
  {settings : Settings} {expressions : List String} {home : String}

theorem Request.level_brief (unraised : request.verbosity = 0) : Brief request.level := by
  cases quiet : request.quiet <;> simp [Brief, Request.level, unraised, quiet, Level.rank]

theorem settingsFor_records {findings : Findings}
    (configured : settingsFor request findings = .ok (settings, records)) :
    ∀ record ∈ records, record.target = "observe_expr::config" ∧
      (record.level = .warn ∨ record.level = .debug) := by
  unfold settingsFor at configured
  split at configured
  · split at configured <;> cases configured
    exact List.forall_mem_singleton.mpr ⟨rfl, .inr rfl⟩
  · split at configured
    · unfold Settings.ofUsualFile at configured
      split at configured
      · cases configured
        exact List.forall_mem_nil _
      · split at configured <;> cases configured
        · exact List.forall_mem_singleton.mpr ⟨rfl, .inr rfl⟩
        · exact List.forall_mem_singleton.mpr ⟨rfl, .inl rfl⟩
    · cases configured
      exact List.forall_mem_nil _

theorem run_eq_conclude (asked : Request.ofArguments arguments = .ok request)
    (configured : settingsFor request (surroundings.findings request) = .ok (settings, records))
    (given : expressionsFor? request surroundings.input = some expressions) :
    run arguments surroundings =
      conclude (.of request settings)
        (tell request.level (records ++ promptsFor request surroundings.terminal))
        expressions := by
  have givenThere : expressionsFor? request (surroundings.findings request).input =
      some expressions := given
  simp only [run, asked, perform, configured, givenThere]
  rfl

/-- Without an option for the settings, the file at the usual place is read. -/
theorem settingsFor_usual (sheltered : surroundings.home = some home)
    (usual : request.config = none) :
    settingsFor request (surroundings.findings request) =
      .ok (Settings.ofUsualFile surroundings.tomlError (Settings.usualPlace home)
        (surroundings.read (Settings.usualPlace home))) := by
  have path : surroundings.usualPlace = some (Settings.usualPlace home) := by
    rw [Surroundings.usualPlace, sheltered, Option.map_some]
  have file : surroundings.fileFor request = surroundings.read (Settings.usualPlace home) := by
    rw [Surroundings.fileFor, Surroundings.place?, usual, path]
    rfl
  simp only [settingsFor, Surroundings.findings, usual, path, file]

theorem settingsFor_absent (sheltered : surroundings.home = some home)
    (absent : Settings.isAbsent (surroundings.read (Settings.usualPlace home)) = true)
    (usual : request.config = none) :
    settingsFor request (surroundings.findings request) = .ok ({}, []) := by
  rw [settingsFor_usual sheltered usual]
  simp [Settings.ofUsualFile, absent]

theorem promptsFor_given (given : request.expressions ≠ []) (terminal : Bool) :
    promptsFor request terminal = [] := by
  simp [promptsFor, given]

theorem promptsFor_piped (request : Request) : promptsFor request false = [] := by
  rw [promptsFor, Bool.and_false, if_neg Bool.false_ne_true]

/-- The lines that a run prints as texts or as paths are valid expressions. A run that takes them as
its input, with the same options and files, prints the same lines, finds no error and tells no more
than what concerns its settings. The options can be had from the arguments by leaving some out. -/
theorem run_again (asked : Request.ofArguments arguments = .ok request)
    (unraised : request.verbosity = 0)
    (configured : settingsFor request (surroundings.findings request) = .ok (settings, records))
    (given : expressionsFor? request surroundings.input = some expressions)
    (lined : (Manner.of request settings).format = .text ∨
      (Manner.of request settings).format = .paths) :
    (∀ options, Request.ofArguments options = .ok (request.withExpressions []) →
      run options { surroundings with
          input := (run arguments surroundings).stdout.toUTF8, terminal := false } =
        ⟨(run arguments surroundings).stdout, joinLines (tell request.level records), .success⟩) ∧
    (∀ record ∈ records, record.target = "observe_expr::config") ∧
    ∃ options, options.Sublist arguments ∧
      Request.ofArguments options = .ok (request.withExpressions []) := by
  refine ⟨?_, fun record member => (settingsFor_records configured record member).1,
    Request.exists_options [] asked⟩
  intro options askedAgain
  obtain ⟨lines, printed, settled⟩ := handleAll_printed lined expressions
  have stdout : (run arguments surroundings).stdout = joinLines lines := by
    rw [run_eq_conclude asked configured given, conclude_stdout, printed]
  rw [stdout]
  let again : Surroundings :=
    { surroundings with input := (joinLines lines).toUTF8, terminal := false }
  have configuredAgain : settingsFor (request.withExpressions [])
      (again.findings (request.withExpressions [])) = .ok (settings, records) := configured
  have givenAgain : expressionsFor? (request.withExpressions []) again.input = some lines := by
    have split := expressionsOf_joinLines (fun line member => (settled line member).whole)
      fun line member => (settled line member).filled
    change (String.fromUTF8? (joinLines lines).toUTF8).map expressionsOf = some lines
    rw [text_of_bytes, Option.map_some, split]
  have ran := run_eq_conclude askedAgain configuredAgain givenAgain
  have brief : Brief request.level := Request.level_brief unraised
  rw [ran, promptsFor_piped, List.append_nil]
  exact conclude_settled brief settled _

/-- No files, and nothing to read. -/
def Surroundings.bare : Surroundings where
  home := some "/"
  directory := []
  store := .empty
  input := .empty
  tomlError := fun _ => ""
  usageError := fun _ => ""

theorem isAbsent_bare :
    Settings.isAbsent (Surroundings.bare.read (Settings.usualPlace "/")) = true := by
  decide +kernel

theorem settingsFor_bare (usual : request.config = none) :
    settingsFor request (Surroundings.bare.findings request) = .ok ({}, []) :=
  settingsFor_absent rfl isAbsent_bare usual

theorem run_again_paths :
    Request.ofArguments ["a.[b,c]", "-fpaths", "--", "+m", "x..y"] =
        .ok { expressions := ["a.[b,c]", "+m", "x..y"], format := some .paths } ∧
      (run ["a.[b,c]", "-fpaths", "--", "+m", "x..y"] .bare).stdout = "a.b\na.c\n+m\n" ∧
      run ["-fpaths"] { Surroundings.bare with input := "a.b\na.c\n+m\n".toUTF8 } =
        ⟨"a.b\na.c\n+m\n", "", .success⟩ := by
  let arguments := ["a.[b,c]", "-fpaths", "--", "+m", "x..y"]
  let request : Request := { expressions := ["a.[b,c]", "+m", "x..y"], format := some .paths }
  have asked : Request.ofArguments arguments = .ok request := by cbv
  have configured : settingsFor request (Surroundings.bare.findings request) = .ok ({}, []) :=
    settingsFor_bare rfl
  have given : expressionsFor? request Surroundings.bare.input = some request.expressions := rfl
  let manner := Manner.of request {}
  have brief : Brief request.level := Request.level_brief rfl
  have stdout : (run arguments .bare).stdout = "a.b\na.c\n+m\n" := by
    have group : handle manner "a.[b,c]" = ⟨["a.b\na.c"], [], 0, false⟩ :=
      handle_shown brief (by cbv) (by cbv)
    have metadata : handle manner "+m" = ⟨["+m"], [], 0, false⟩ :=
      handle_shown brief (by cbv) (by cbv)
    have refused : (handle manner "x..y").printed = [] := handle_refused (by cbv)
    have last : (handleAll manner ["x..y"]).printed = [] := by
      rw [handleAll]
      split <;> simp [refused, handleAll]
    rw [run_eq_conclude asked configured given, conclude_stdout]
    change joinLines (handleAll manner ("a.[b,c]" :: "+m" :: ["x..y"])).printed = _
    rw [handleAll, group, handleAll, metadata]
    simp [last, joinLines]
  have again := (run_again asked rfl configured given (.inr rfl)).1 ["-fpaths"] (by cbv)
  rw [stdout] at again
  exact ⟨asked, stdout, again⟩

end Observe.Command
