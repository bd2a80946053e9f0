import Observe.Proofs.Rerun

namespace Observe.Command

open Text

/-- A text that has expressions on lines of their own, and other lines that are blank. A carriage
return may stand before the newline of a line, and the last line may have no newline. -/
inductive Lists : List Char → List String → Prop
  | nothing : Lists [] []
  | blankLine (blank : List Char) {rest : List Char} {texts : List String}
      (blanks : ∀ c ∈ blank, isBlank c = true) (unbroken : '\n' ∉ blank)
      (others : Lists rest texts) : Lists (blank ++ '\n' :: rest) texts
  | line {rest : List Char} {texts : List String} (text : String) (others : Lists rest texts) :
      Lists (text.toList ++ '\n' :: rest) (text :: texts)
  | carriageLine {rest : List Char} {texts : List String} (text : String)
      (others : Lists rest texts) : Lists (text.toList ++ '\r' :: '\n' :: rest) (text :: texts)
  | lastBlank {blank : List Char} (blanks : ∀ c ∈ blank, isBlank c = true)
      (unbroken : '\n' ∉ blank) : Lists blank []
  | last (text : String) : Lists text.toList [text]

variable {chars line : List Char} {text : String} {texts expressions : List String}

/-- A newline ends a line, and at most a carriage return before it is not kept. -/
theorem splitLines_newline (unbroken : '\n' ∉ line) (rest : List Char) :
    ∃ kept, kept <+: line ∧ splitLines (line ++ '\n' :: rest) = kept :: splitLines rest := by
  by_cases carried : line.getLast? = some '\r'
  · obtain ⟨kept, rfl⟩ := List.getLast?_eq_some_iff.mp carried
    have unbrokenKept : '\n' ∉ kept := fun member => unbroken (List.mem_append_left _ member)
    refine ⟨kept, List.prefix_append _ _, ?_⟩
    rw [List.append_assoc]
    exact splitLines_carriage unbrokenKept rest
  · exact ⟨line, List.prefix_refl _, splitLines_line ⟨unbroken, carried⟩ rest⟩

theorem lists_joinLines (texts : List String) : Lists (joinLines texts).toList texts := by
  induction texts with
  | nil => exact .nothing
  | cons text rest ih =>
      rw [toList_joinLines_cons]
      exact .line text ih

def filledLines (chars : List Char) : List String :=
  ((splitLines chars).map String.ofList).filter (!allBlank ·)

theorem filledLines_blank {lines : List (List Char)} (blanks : ∀ c ∈ line, isBlank c = true)
    (split : splitLines chars = line :: lines) :
    filledLines chars = (lines.map String.ofList).filter (!allBlank ·) := by
  have blankLine : allBlank (String.ofList line) = true := by
    rw [allBlank, String.toList_ofList]
    exact List.all_eq_true.mpr blanks
  rw [filledLines, split, List.map_cons, List.filter_cons_of_neg (by simp [blankLine])]

theorem filledLines_filled {lines : List (List Char)} (filled : allBlank text = false)
    (split : splitLines chars = text.toList :: lines) :
    filledLines chars = text :: (lines.map String.ofList).filter (!allBlank ·) := by
  rw [filledLines, split, List.map_cons, String.ofList_toList,
    List.filter_cons_of_pos (by simp [filled])]

theorem Lists.filledLines (lists : Lists chars texts)
    (whole : ∀ text ∈ texts, IsLine text.toList) (filled : ∀ text ∈ texts, allBlank text = false) :
    filledLines chars = texts := by
  induction lists with
  | nothing => rfl
  | @blankLine blank rest texts blanks unbroken _ ih =>
      obtain ⟨kept, front, split⟩ := splitLines_newline unbroken rest
      rw [filledLines_blank (fun c member => blanks c (front.subset member)) split]
      exact ih whole filled
  | @line rest texts text _ ih =>
      obtain ⟨wholeFirst, wholeRest⟩ := List.forall_mem_cons.mp whole
      obtain ⟨filledFirst, filledRest⟩ := List.forall_mem_cons.mp filled
      rw [filledLines_filled filledFirst (splitLines_line wholeFirst rest)]
      exact congrArg (text :: ·) (ih wholeRest filledRest)
  | @carriageLine rest texts text _ ih =>
      obtain ⟨wholeFirst, wholeRest⟩ := List.forall_mem_cons.mp whole
      obtain ⟨filledFirst, filledRest⟩ := List.forall_mem_cons.mp filled
      rw [filledLines_filled filledFirst (splitLines_carriage wholeFirst.1 rest)]
      exact congrArg (text :: ·) (ih wholeRest filledRest)
  | @lastBlank blank blanks unbroken =>
      cases blank with
      | nil => rfl
      | cons c more =>
          exact filledLines_blank blanks (splitLines_unended unbroken (List.cons_ne_nil _ _))
  | last text =>
      have unbroken := (List.forall_mem_singleton.mp whole).1
      have filledText := List.forall_mem_singleton.mp filled
      have nonempty : text.toList ≠ [] := by
        intro nothing
        simp [allBlank, nothing] at filledText
      exact filledLines_filled filledText (splitLines_unended unbroken nonempty)

variable {request : Request} {options : List String} {surroundings : Surroundings}

theorem expressionsFor?_withExpressions (nonempty : expressions ≠ []) (request : Request)
    (input : ByteArray) :
    expressionsFor? (request.withExpressions expressions) input = some expressions := by
  cases expressions with
  | nil => exact absurd rfl nonempty
  | cons first rest => rfl

/-- Only the expressions matter, and not where they come from, unless they are typed. -/
theorem perform_withExpressions {findings : Findings}
    (given : expressionsFor? request findings.input = some expressions)
    (nonempty : expressions ≠ []) (piped : findings.terminal = false) (input : ByteArray)
    (terminal : Bool) :
    perform (request.withExpressions expressions)
        { findings with input := input, terminal := terminal } =
      perform request findings := by
  have unprompted : promptsFor (request.withExpressions expressions) terminal = [] :=
    promptsFor_given nonempty terminal
  simp only [perform, given, expressionsFor?_withExpressions nonempty, unprompted, piped,
    promptsFor_piped]
  rfl

theorem Request.ofArguments_dashes {options : List String} (separate : "--" ∉ options)
    (unnamed : ∀ request, ofArguments options = .ok request → request.expressions = [])
    (expressions : List String) :
    ofArguments (options ++ "--" :: expressions) =
      (ofArguments options).map (withExpressions expressions) := by
  rw [ofArguments, readAll_append_dashes separate expressions]
  change (ofArguments options).map _ = _
  cases asked : ofArguments options with
  | error interruption => rfl
  | ok request =>
      rw [Except.map, Except.map, unnamed request asked, List.nil_append]

/-- A run with expressions behind two dashes prints and tells the same, and ends in the same way, as
a run with the same options and files that finds the expressions on the lines of an input that is
not typed at a terminal. There a carriage return may stand before any newline, blank lines may stand
anywhere, and the last newline may be left out. -/
theorem run_from_input (separate : "--" ∉ options)
    (unnamed : ∀ request, Request.ofArguments options = .ok request → request.expressions = [])
    (nonempty : expressions ≠ []) (whole : ∀ text ∈ expressions, IsLine text.toList)
    (filled : ∀ text ∈ expressions, allBlank text = false) :
    run options { surroundings with input := (joinLines expressions).toUTF8, terminal := false } =
        run (options ++ "--" :: expressions) surroundings ∧
      ∀ input : String, Lists input.toList expressions →
        run options { surroundings with input := input.toUTF8, terminal := false } =
          run (options ++ "--" :: expressions) surroundings := by
  have listed : ∀ input : String, Lists input.toList expressions →
      run options { surroundings with input := input.toUTF8, terminal := false } =
        run (options ++ "--" :: expressions) surroundings := by
    intro input lists
    rw [run, run, Request.ofArguments_dashes separate unnamed,
      Request.optionsAmong_append_dashes separate]
    cases asked : Request.ofArguments options with
    | error interruption => rfl
    | ok request =>
        have given : expressionsFor? request input.toUTF8 = some expressions := by
          rw [expressionsFor?, unnamed request asked, List.isEmpty_nil, if_pos rfl, text_of_bytes]
          exact congrArg some (lists.filledLines whole filled)
        let findings : Findings :=
          { surroundings.findings request with input := input.toUTF8, terminal := false }
        have same : perform (request.withExpressions expressions)
            { findings with input := surroundings.input, terminal := surroundings.terminal } =
            perform request findings := perform_withExpressions given nonempty rfl _ _
        exact same.symm
  exact ⟨listed _ (lists_joinLines expressions), listed⟩

theorem run_from_input_blankLines :
    Lists "\u3000\r\n a.[b,c]\r\n\nx..y".toList [" a.[b,c]", "x..y"] ∧
      run ["-fpaths"] { Surroundings.bare with
        input := "\u3000\r\n a.[b,c]\r\n\nx..y".toUTF8 } =
        run ["-fpaths", "--", " a.[b,c]", "x..y"] .bare := by
  have lists : Lists "\u3000\r\n a.[b,c]\r\n\nx..y".toList [" a.[b,c]", "x..y"] :=
    .blankLine ['\u3000', '\r'] (by simp [isBlank, within, blankRanges]) (by simp)
      (.carriageLine " a.[b,c]" (.blankLine [] (by simp) (by simp) (.last "x..y")))
  have asked : Request.ofArguments ["-fpaths"] = .ok { format := some .paths } := by cbv
  have whole : ∀ text ∈ [" a.[b,c]", "x..y"], IsLine text.toList := by
    simp [IsLine]
  refine ⟨lists, (run_from_input (by decide) ?_ (by decide) whole (by decide)).2 _ lists⟩
  intro request read
  rw [asked] at read
  cases read
  rfl

end Observe.Command
