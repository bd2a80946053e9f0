import Observe.Proofs.TomlLines
import Observe.Proofs.Untouched
import Observe.Settings.Session
import Observe.Text.Utf8

namespace Observe.Settings

open Log Toml

variable {settings : Settings} {text : String}

/-- The lines of a file with these settings. -/
def plain (settings : Settings) : List (String × Plain) :=
  [("format", .string settings.format.name), ("indent_size", .integer settings.indent.toNat),
    ("fail_fast", .boolean settings.failFast)]

theorem toList_text? (written : settings.text? = some text) :
    settings.indent.toNat ≤ widestIndent ∧ text.toList = textChars settings.plain := by
  obtain ⟨format, indent, failFast⟩ := settings
  rw [text?] at written
  split at written
  · rename_i narrow
    cases written
    refine ⟨narrow, ?_⟩
    cases failFast <;>
      simp [plain, textChars, lineChars, Plain.chars, Plain.decimal, Plain.word]
  · cases written

theorem allPlain_plain (narrow : settings.indent.toNat ≤ widestIndent) :
    AllPlain settings.plain := by
  have named : (Plain.string settings.format.name).Fits := by
    cases settings.format <;> decide
  have room : (Plain.integer settings.indent.toNat).Fits := by
    simp [Plain.Fits, inRange, widestIndent] at narrow ⊢
    omega
  simp only [AllPlain, plain, List.forall_mem_cons]
  exact ⟨⟨by decide, named⟩, ⟨by decide, room⟩, ⟨by decide, trivial⟩, List.forall_mem_nil _⟩

theorem ofTable?_plain (settings : Settings) :
    ofTable? ⟨.header, entriesOf settings.plain⟩ = some settings := by
  simp [ofTable?, entryOr?, Table.find?, List.lookup_cons, entriesOf, plain, Plain.value,
    formatOf?, indentOf?, failFastOf?, Format.ofName?_name]

/-- The text of a file with some settings is read as these settings. -/
theorem parse?_text (written : settings.text? = some text) : parse? text = some settings := by
  obtain ⟨narrow, chars⟩ := toList_text? written
  have distinct : (settings.plain.map Prod.fst).Nodup := by simp [plain]
  have lists : Lists settings.plain text.toList := chars ▸ lists_textChars settings.plain
  rw [parse?, parse?_lists lists (allPlain_plain narrow) distinct, Option.bind_some,
    ofTable?_plain]

theorem ofFile_text (tomlError : String → String) (written : settings.text? = some text) :
    ofFile tomlError (.ok text.toUTF8) = .ok settings := by
  rw [ofFile_toUTF8, parse?_text written]

variable {session : Session} {file loaded : File} {location : Location} {store made : Store}
  {content : ByteArray} {step saving loading : Step} {steps : List Step} {i j : Nat}

theorem save_eq_ok (dotless : location.Dotless)
    (saved : settings.save location store = (made, .ok ())) :
    ∃ text, settings.text? = some text ∧ made.read location = .ok text.toUTF8 := by
  rw [save] at saved
  split at saved
  · cases saved
  · split at saved
    · cases saved
    · rename_i text written
      split at saved
      · rename_i other did
        cases saved
        exact ⟨text, written, Store.read_write dotless did⟩
      · cases saved

/-- Only an indent that is too wide cannot be written. -/
theorem widestIndent_lt_of_save
    (refused : settings.save location store = (made, .error .unwritableIndent)) :
    widestIndent < settings.indent.toNat := by
  rw [save] at refused
  split at refused
  · cases refused
  · split at refused
    · rename_i unwritten
      rw [text?] at unwritten
      split at unwritten
      · cases unwritten
      · rename_i wide
        exact Nat.lt_of_not_le wide
    · split at refused <;> cases refused

theorem answerSave_fst (settings : Settings) (file : File) (store : Store) :
    (answerSave settings file store).1 = (settings.save file.location store).1 := by
  rw [answerSave]
  split <;> simp [*]

theorem answerSave_eq_saved (dotless : file.location.Dotless)
    (saved : (answerSave settings file store).2 = .saved) :
    ∃ text, settings.text? = some text ∧
      (answerSave settings file store).1.read file.location = .ok text.toUTF8 := by
  rw [answerSave] at saved ⊢
  split at saved
  · rename_i made did
    exact save_eq_ok dotless did
  · cases saved

theorem answerSave_ne_unwritableIndent (narrow : settings.indent.toNat ≤ widestIndent) :
    (answerSave settings file store).2 ≠ .unsaved .unwritableIndent := by
  intro refused
  rw [answerSave] at refused
  split at refused
  · cases refused
  · rename_i made error did
    cases refused
    exact absurd (widestIndent_lt_of_save did) (Nat.not_lt.mpr narrow)

namespace Step

/-- What a step changes is neither at the path nor above nor below it. -/
def Spares (session : Session) (location : Location) (step : Step) : Prop :=
  ∀ file ∈ step.changes? session, file.location.Dotless ∧ Apart location.full file.location.full

instance (session : Session) (location : Location) (step : Step) :
    Decidable (step.Spares session location) :=
  inferInstanceAs (Decidable (∀ file ∈ step.changes? session,
    file.location.Dotless ∧ Apart location.full file.location.full))

theorem perform_of_saves? (saves : saving.saves? session = some (file, settings)) :
    saving.perform session store = answerSave settings file store := by
  cases saving with
  | save others =>
      obtain ⟨usual, there, same⟩ := Option.map_eq_some_iff.mp saves
      cases same
      simp only [perform, Session.save, there]
  | saveTo other others =>
      cases saves
      rfl
  | _ => cases saves

theorem perform_of_loads? (loads : loading.loads? session = some file)
    (got : store.read file.location = .ok content)
    (good : ofFile session.tomlError (.ok content) = .ok settings) :
    (loading.perform session store).2 = .loaded settings [loadedRecord file.shown] := by
  cases loading with
  | load =>
      have usual : session.usual = some file := loads
      simp [perform, Session.load, usual, ofUsualFile, isAbsent, got, good]
  | loadFrom other =>
      cases loads
      simp only [perform, answerLoadFrom, got, good]
  | _ => cases loads

/-- A step leaves a file as it is that it spares. -/
theorem read_perform (dotless : location.Dotless) (spares : step.Spares session location)
    (got : store.read location = .ok content) :
    (step.perform session store).1.read location = .ok content := by
  obtain ⟨_, _, found⟩ := (Store.read_eq_ok_iff dotless).mp got
  -- What the store holds under the names tells what is read, and that is easier to follow.
  suffices kept : (step.perform session store).1.find? location.full = some (.file content) from
    Store.read_of_find? dotless (kept.trans found.symm) got
  cases step with
  | write file written =>
      obtain ⟨down, apart⟩ := spares file rfl
      exact Store.find?_place down apart found
  | remove file =>
      obtain ⟨down, apart⟩ := spares file rfl
      rw [perform]
      cases removed : store.remove file.location with
      | error error => exact found
      | ok made => exact (Store.find?_remove down apart removed).trans found
  | save others =>
      rw [perform, Session.save]
      cases usual : session.usual with
      | none => exact found
      | some file =>
          obtain ⟨down, apart⟩ := spares file usual
          rw [answerSave_fst]
          exact Store.find?_save others down apart found
  | saveTo file others =>
      obtain ⟨down, apart⟩ := spares file rfl
      rw [perform, answerSave_fst]
      exact Store.find?_save others down apart found
  | load => exact found
  | loadFrom file => exact found

end Step

theorem answers_getElem? (session : Session) (store : Store) (steps : List Step) (i : Nat) :
    (answers session store steps)[i]? = steps[i]?.map fun step =>
      (step.perform session (storeAfter session store (steps.take i))).2 := by
  induction steps generalizing store i with
  | nil => rfl
  | cons first rest ih =>
      cases i with
      | zero => rfl
      | succ i => exact ih _ i

theorem storeAfter_take_succ (there : steps[i]? = some step) :
    storeAfter session store (steps.take (i + 1)) =
      (step.perform session (storeAfter session store (steps.take i))).1 := by
  rw [List.take_add_one, there, storeAfter, List.foldl_append]
  rfl

/-- Steps leave a file as it is that all of them spare. -/
theorem read_storeAfter (dotless : location.Dotless)
    (got : (storeAfter session store (steps.take i)).read location = .ok content) (upTo : i ≤ j)
    (spared : ∀ k < j, i ≤ k → ∀ step ∈ steps[k]?, step.Spares session location) :
    (storeAfter session store (steps.take j)).read location = .ok content := by
  induction j, upTo using Nat.le_induction with
  | base => exact got
  | succ j upTo ih =>
      have before := ih fun k lower => spared k (Nat.lt_succ_of_lt lower)
      cases there : steps[j]? with
      | none =>
          rw [List.take_add_one, there, Option.toList_none, List.append_nil]
          exact before
      | some step =>
          rw [storeAfter_take_succ there]
          exact Step.read_perform dotless (spared j (Nat.lt_succ_self j) upTo step there) before

/-- In a run of steps on any files, settings that were saved are loaded, without a warning, as long
as no step in between changes something at their path or above or below it. An indent that is not
too wide is never a reason that settings are not saved. -/
theorem loaded_as_saved (session : Session) (store : Store) (steps : List Step)
    (here : steps[i]? = some saving) (saves : saving.saves? session = some (file, settings))
    (there : steps[j]? = some loading) (loads : loading.loads? session = some loaded)
    (same : loaded.location = file.location) (dotless : file.location.Dotless) (later : i < j)
    (spared : ∀ k < j, i < k → ∀ step ∈ steps[k]?, step.Spares session file.location) :
    (settings.indent.toNat ≤ widestIndent →
        (answers session store steps)[i]? ≠ some (.unsaved .unwritableIndent)) ∧
      ((answers session store steps)[i]? = some .saved →
        (answers session store steps)[j]? =
          some (.loaded settings [loadedRecord loaded.shown])) := by
  rw [answers_getElem?, answers_getElem?, here, there, Option.map_some, Option.map_some,
    Step.perform_of_saves? saves]
  constructor
  · intro narrow
    exact mt Option.some.inj (answerSave_ne_unwritableIndent narrow)
  · intro saved
    obtain ⟨text, written, got⟩ := answerSave_eq_saved dotless (Option.some.inj saved)
    rw [← Step.perform_of_saves? saves, ← storeAfter_take_succ here] at got
    have kept := read_storeAfter dotless got later spared
    rw [Step.perform_of_loads? loads (same ▸ kept) (ofFile_text session.tomlError written)]

theorem loaded_as_saved_beside :
    let session : Session := ⟨some ⟨"/usual", .ofText [] "/usual"⟩, fun _ => ""⟩
    let kept : File := ⟨"/a/kept", .ofText [] "/a/kept"⟩
    let widest : Settings := ⟨.tree, 9223372036854775807, true⟩
    let steps : List Step :=
      [.saveTo kept widest, .write ⟨"/a/b/c", .ofText [] "/a/b/c"⟩ .empty, .save {},
        .remove ⟨"/a/b", .ofText [] "/a/b"⟩, .loadFrom kept]
    (answers session .empty steps)[0]? = some .saved ∧
      (answers session .empty steps)[4]? = some (.loaded widest [loadedRecord "/a/kept"]) := by
  intro session kept widest steps
  have saved : (answers session .empty steps)[0]? = some .saved := by decide +kernel
  have spared : ∀ k < 4, 0 < k → ∀ step ∈ steps[k]?, step.Spares session kept.location := by
    decide +kernel
  have dotless : kept.location.Dotless := by decide +kernel
  have loaded := loaded_as_saved session .empty steps rfl rfl rfl rfl rfl dotless (by decide) spared
  exact ⟨saved, loaded.2 saved⟩

end Observe.Settings
