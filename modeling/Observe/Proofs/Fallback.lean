import Observe.Proofs.Batch

namespace Observe.Command

open Log Text

variable {arguments : List String} {surroundings : Surroundings} {request : Request}
  {settings : Settings} {records : List Record} {error : Settings.LoadError} {other : Store}
  {home : String}

/-- An outcome that tells some lines before all others. -/
def Outcome.after (told : List String) (outcome : Outcome) : Outcome :=
  { outcome with stderr := joinLines told ++ outcome.stderr }

theorem conclude_append (manner : Manner) (first told expressions : List String) :
    conclude manner (first ++ told) expressions =
      (conclude manner told expressions).after first := by
  simp only [conclude, Outcome.after]
  split <;> simp [joinLines_append]

theorem giveUp_append (first told : List String) (message cause : String) :
    giveUp (first ++ told) message cause = (giveUp told message cause).after first := by
  simp only [giveUp, Outcome.after, joinLines_append, String.append_assoc]

/-- What a run does when it has its settings. -/
def carryOut (request : Request) (settings : Settings) (input : ByteArray) (terminal : Bool) :
    Outcome :=
  let told := tell request.level (promptsFor request terminal)
  match expressionsFor? request input with
  | none =>
      giveUp told "Failed to read expressions from stdin" "stream did not contain valid UTF-8"
  | some expressions => conclude (.of request settings) told expressions

theorem tell_append (level : Level) (records others : List Record) :
    tell level (records ++ others) = tell level records ++ tell level others := by
  rw [tell, List.filter_append, List.map_append]
  rfl

/-- The records about the settings come first, and nothing else depends on them. -/
theorem perform_eq_carryOut {findings : Findings}
    (configured : settingsFor request findings = .ok (settings, records)) :
    perform request findings =
      (carryOut request settings findings.input findings.terminal).after
        (tell request.level records) := by
  simp only [perform, configured, carryOut, tell_append]
  cases expressionsFor? request findings.input with
  | none => exact giveUp_append _ _ _ _
  | some expressions => exact conclude_append _ _ _ _

theorem run_eq_carryOut (asked : Request.ofArguments arguments = .ok request)
    (configured : settingsFor request (surroundings.findings request) = .ok (settings, records)) :
    run arguments surroundings =
      (carryOut request settings surroundings.input surroundings.terminal).after
        (tell request.level records) := by
  rw [run, asked]
  exact perform_eq_carryOut configured

/-- A warning is told by every run that is not quiet. -/
theorem tell_warning {record : Record} (warning : record.level = .warn) (request : Request) :
    tell request.level [record] = if request.quiet then [] else [record.render] := by
  have shown : record.shownAt request.level = ! request.quiet := by
    rw [Record.shownAt, warning, Request.level]
    cases request.quiet with
    | true => rfl
    | false => rcases request.verbosity with _ | _ | _ <;> rfl
  rw [tell, List.filter_singleton, shown]
  cases request.quiet <;> rfl

theorem render_ignoredRecord (shown : String) (error : Settings.LoadError) :
    (Settings.ignoredRecord shown error).render =
      "[WARN observe_expr::config] ignoring config file: " ++
        (error.message shown ++ (": " ++ error.cause)) := by
  simp [Settings.ignoredRecord, Settings.record, Record.render, Level.name, ← String.append_assoc]

/-- There is a home directory, and the file at the usual place is there, but it cannot be loaded. -/
structure Surroundings.Spoiled (surroundings : Surroundings) (home : String)
    (error : Settings.LoadError) : Prop where
  sheltered : surroundings.home = some home
  present : Settings.isAbsent (surroundings.read (Settings.usualPlace home)) = false
  broken : Settings.ofFile surroundings.tomlError (surroundings.read (Settings.usualPlace home)) =
    .error error

theorem Surroundings.Spoiled.settingsFor (spoiled : surroundings.Spoiled home error)
    (usual : request.config = none) :
    settingsFor request (surroundings.findings request) =
      .ok ({}, [Settings.ignoredRecord (Settings.usualPlace home) error]) := by
  rw [settingsFor_usual spoiled.sheltered usual]
  simp [Settings.ofUsualFile, spoiled.present, spoiled.broken]

/-- A run without an option for the settings, which finds a file at the usual place that it cannot
load, prints the same and ends in the same way as without a file there. Unless it is quiet, it tells
one warning before everything else, and it tells nothing else that is different. If the arguments
are not understood or ask for help or the version, nothing at all is different. -/
theorem run_spoiled
    (absent : Settings.isAbsent (surroundings.read (Settings.usualPlace home)) = true)
    (spoiled : Surroundings.Spoiled { surroundings with store := other } home error)
    (usual : ∀ request, Request.ofArguments arguments = .ok request → request.config = none) :
    let clean := run arguments surroundings
    let warned := run arguments { surroundings with store := other }
    warned.stdout = clean.stdout ∧ warned.status = clean.status ∧
      (∀ request, Request.ofArguments arguments = .ok request →
        warned.stderr =
          (if request.quiet then "" else
            (Settings.ignoredRecord (Settings.usualPlace home) error).render ++ "\n") ++
          clean.stderr) ∧
      (∀ interruption, Request.ofArguments arguments = .error interruption → warned = clean) := by
  cases asked : Request.ofArguments arguments with
  | error interruption =>
      have same : run arguments { surroundings with store := other } =
          run arguments surroundings := by
        rw [run, run, asked]
      refine ⟨congrArg Outcome.stdout same, congrArg Outcome.status same, ?_, fun _ _ => same⟩
      intro request impossible
      cases impossible
  | ok request =>
      have unnamed := usual request asked
      have sheltered : surroundings.home = some home := spoiled.sheltered
      have clean := run_eq_carryOut asked (settingsFor_absent sheltered absent unnamed)
      have warned := run_eq_carryOut asked (spoiled.settingsFor unnamed)
      rw [tell_warning rfl] at warned
      dsimp only
      rw [clean, warned]
      refine ⟨rfl, rfl, ?_, ?_⟩
      · intro other same
        cases same
        cases request.quiet <;> simp [Outcome.after, joinLines, tell, String.join]
      · intro interruption impossible
        cases impossible

theorem run_spoiled_format :
    let reason := "TOML parse error at line 1, column 10\n  |\n1 | format = 3\n  |          ^\n" ++
      "wanted string or table\n"
    let surroundings : Surroundings := { Surroundings.bare with tomlError := fun _ => reason }
    let spoiled : Store := ⟨.directory [(".config", .directory [("observe-expr",
      .directory [("config.toml", .file "format = 3".toUTF8)])])]⟩
    run ["a"] surroundings = ⟨"a\n", "", .success⟩ ∧
      run ["a"] { surroundings with store := spoiled } =
        ⟨"a\n", "[WARN observe_expr::config] ignoring config file: Invalid config file " ++
          "/.config/observe-expr/config.toml: " ++ reason ++ "\n", .success⟩ := by
  intro reason surroundings spoiled
  let request : Request := { expressions := ["a"] }
  have asked : Request.ofArguments ["a"] = .ok request := by cbv
  have absent : Settings.isAbsent (surroundings.read (Settings.usualPlace "/")) = true :=
    isAbsent_bare
  have found : Surroundings.read { surroundings with store := spoiled }
      (Settings.usualPlace "/") = .ok "format = 3".toUTF8 := by
    decide +kernel
  have refused : Settings.parse? "format = 3" = none := by cbv
  have broken : Surroundings.Spoiled { surroundings with store := spoiled } "/"
      (.invalid reason) := by
    refine ⟨rfl, ?_, ?_⟩
    · rw [found]
      rfl
    · rw [found, Settings.ofFile_toUTF8, refused]
  have usual : ∀ request, Request.ofArguments ["a"] = .ok request → request.config = none := by
    intro other same
    cases asked.symm.trans same
    rfl
  have clean : run ["a"] surroundings = ⟨"a\n", "", .success⟩ := by
    have brief : Brief request.level := Request.level_brief rfl
    have shown : handle (.of request {}) "a" = ⟨["a"], [], 0, false⟩ :=
      handle_shown brief (by cbv) (by cbv)
    rw [run_eq_conclude asked (settingsFor_absent rfl absent rfl) rfl, conclude,
      handleAll_singleton, shown]
    rfl
  obtain ⟨stdout, status, tells, _⟩ := run_spoiled absent broken usual
  have told := tells _ asked
  rw [clean] at stdout status told
  have front : "[WARN observe_expr::config] ignoring config file: " ++
      ("Invalid config file " ++ Settings.usualPlace "/" ++ ": ") =
      "[WARN observe_expr::config] ignoring config file: Invalid config file " ++
        "/.config/observe-expr/config.toml: " := by
    decide +kernel
  have line := calc
    (Settings.ignoredRecord (Settings.usualPlace "/") (.invalid reason)).render
    _ = "[WARN observe_expr::config] ignoring config file: " ++
          ("Invalid config file " ++ Settings.usualPlace "/" ++ (": " ++ reason)) :=
        render_ignoredRecord _ _
    _ = "[WARN observe_expr::config] ignoring config file: " ++
          ("Invalid config file " ++ Settings.usualPlace "/" ++ ": ") ++ reason := by
        simp only [String.append_assoc]
    _ = _ := congrArg (· ++ reason) front
  have stderr := told.trans (String.append_empty.trans (congrArg (· ++ "\n") line))
  refine ⟨clean, ?_⟩
  rw [Outcome.mk.injEq]
  exact ⟨stdout, stderr, status⟩

end Observe.Command
