import Mathlib.Data.List.Nodup
import Observe.Proofs.SavedSettings

namespace Observe.Settings

open Toml

variable {α : Type} {pairs others : List (String × Plain)} {name : String} {plain : Plain}
  {value default : α} {write : α → Plain} {read? : Value → Option α} {settings : Settings}

/-- A value is the one that a line gives it, or its default where no line names it. -/
def Gives (pairs : List (String × Plain)) (name : String) (write : α → Plain)
    (default value : α) : Prop :=
  (name, write value) ∈ pairs ∨ (∀ plain, (name, plain) ∉ pairs) ∧ value = default

/-- Settings are those that lines give. -/
structure Follows (settings : Settings) (pairs : List (String × Plain)) : Prop where
  format : Gives pairs "format" (.string ·.name) .text settings.format
  indent : Gives pairs "indent_size" (.integer ·.toNat) 2 settings.indent
  failFast : Gives pairs "fail_fast" .boolean false settings.failFast

/-- A value has the form that the setting of this name needs. Under another name any value will
do. -/
structure Suits (name : String) (plain : Plain) : Prop where
  format : name = "format" → ∃ format : Format, plain = .string format.name
  indent : name = "indent_size" → ∃ columns ≤ widestIndent, plain = .integer columns
  failFast : name = "fail_fast" → ∃ flag, plain = .boolean flag

theorem eq_of_mem (distinct : (pairs.map Prod.fst).Nodup) {first second : Plain}
    (here : (name, first) ∈ pairs) (there : (name, second) ∈ pairs) : first = second :=
  congrArg Prod.snd (List.inj_on_of_nodup_map distinct here there rfl)

theorem find?_entriesOf (pairs : List (String × Plain)) (name : String) :
    Table.find? ⟨.header, entriesOf pairs⟩ name = (pairs.lookup name).map Plain.value := by
  rw [Table.find?, entriesOf]
  induction pairs with
  | nil => rfl
  | cons pair rest ih =>
      rw [List.map_cons, List.lookup_cons, List.lookup_cons]
      cases name == pair.1 <;> simp [ih]

theorem mem_of_lookup (found : pairs.lookup name = some plain) : (name, plain) ∈ pairs := by
  obtain ⟨before, after, split, _⟩ := List.lookup_eq_some_iff.mp found
  simp [split]

theorem not_mem_of_lookup (absent : pairs.lookup name = none) : (name, plain) ∉ pairs := by
  intro member
  have other := List.lookup_eq_none_iff.mp absent _ member
  simp at other

/-- An entry is read as the value that a line gives, where values are read as they are written. -/
theorem entryOr?_eq_some_iff (distinct : (pairs.map Prod.fst).Nodup)
    (reads : ∀ plain, (name, plain) ∈ pairs →
      ∀ value, read? plain.value = some value ↔ plain = write value) :
    entryOr? ⟨.header, entriesOf pairs⟩ name read? default = some value ↔
      Gives pairs name write default value := by
  rw [entryOr?, find?_entriesOf, Gives]
  cases found : pairs.lookup name with
  | none =>
      have absent : ∀ plain, (name, plain) ∉ pairs := fun _ => not_mem_of_lookup found
      simp [absent, eq_comm]
  | some plain =>
      have member := mem_of_lookup found
      refine (reads plain member value).trans ⟨?_, ?_⟩
      · rintro rfl
        exact .inl member
      · rintro (there | ⟨absent, _⟩)
        · exact eq_of_mem distinct member there
        · exact absurd member (absent plain)

theorem exists_gives (suited : ∀ plain, (name, plain) ∈ pairs → ∃ value, plain = write value)
    (default : α) : ∃ value, Gives pairs name write default value := by
  by_cases named : ∃ plain, (name, plain) ∈ pairs
  · obtain ⟨plain, member⟩ := named
    obtain ⟨value, rfl⟩ := suited plain member
    exact ⟨value, .inl member⟩
  · exact ⟨default, .inr ⟨not_exists.mp named, rfl⟩⟩

theorem Gives.suited (gives : Gives pairs name write default value)
    (distinct : (pairs.map Prod.fst).Nodup) (member : (name, plain) ∈ pairs) :
    plain = write value := by
  rcases gives with there | ⟨absent, _⟩
  · exact eq_of_mem distinct member there
  · exact absurd member (absent plain)

theorem gives_congr (same : ∀ plain, (name, plain) ∈ others ↔ (name, plain) ∈ pairs) :
    Gives others name write default value ↔ Gives pairs name write default value := by
  simp only [Gives, same]

theorem formatOf?_value (plain : Plain) (format : Format) :
    formatOf? plain.value = some format ↔ plain = .string format.name := by
  cases plain with
  | string text =>
      rw [Plain.value, formatOf?, Plain.string.injEq]
      constructor
      · intro found
        have named := List.find?_some found
        exact (of_decide_eq_true named).symm
      · rintro rfl
        exact Format.ofName?_name format
  | integer value => simp [Plain.value, formatOf?]
  | boolean value => simp [Plain.value, formatOf?]

theorem indentOf?_value (fits : plain.Fits) (indent : UInt64) :
    indentOf? plain.value = some indent ↔ plain = .integer indent.toNat := by
  cases plain with
  | string text => simp [Plain.value, indentOf?]
  | boolean value => simp [Plain.value, indentOf?]
  | integer value =>
      cases value with
      | negSucc value =>
          have negative : Int.negSucc value ≠ indent.toNat := by omega
          simp [Plain.value, indentOf?, negative]
      | ofNat columns =>
          simp only [Plain.Fits, inRange, Int.ofNat_eq_natCast, Bool.and_eq_true,
            decide_eq_true_eq] at fits
          have room : columns < UInt64.size := by
            simp only [UInt64.size]
            omega
          rw [Plain.value, indentOf?, Option.some.injEq, Plain.integer.injEq]
          constructor
          · rintro rfl
            rw [UInt64.toNat_ofNat_of_lt' room]
            rfl
          · intro same
            rw [Int.ofNat.inj same, UInt64.ofNat_toNat]

theorem failFastOf?_value (plain : Plain) (flag : Bool) :
    failFastOf? plain.value = some flag ↔ plain = .boolean flag := by
  cases plain <;> simp [Plain.value, failFastOf?]

/-- A table of the keys and values on some lines is read as the settings that the lines give. -/
theorem ofTable?_eq_some_iff (all : AllPlain pairs) (distinct : (pairs.map Prod.fst).Nodup) :
    ofTable? ⟨.header, entriesOf pairs⟩ = some settings ↔ Follows settings pairs := by
  have format (value : Format) : entryOr? ⟨.header, entriesOf pairs⟩ "format" formatOf? .text =
      some value ↔ Gives pairs "format" (.string ·.name) .text value :=
    entryOr?_eq_some_iff distinct fun plain _ value => formatOf?_value plain value
  have indent (value : UInt64) :
      entryOr? ⟨.header, entriesOf pairs⟩ "indent_size" indentOf? 2 = some value ↔
        Gives pairs "indent_size" (.integer ·.toNat) 2 value :=
    entryOr?_eq_some_iff distinct fun plain member value => indentOf?_value (all _ member).2 value
  have failFast (value : Bool) :
      entryOr? ⟨.header, entriesOf pairs⟩ "fail_fast" failFastOf? false = some value ↔
        Gives pairs "fail_fast" .boolean false value :=
    entryOr?_eq_some_iff distinct fun plain _ value => failFastOf?_value plain value
  constructor
  · intro read
    rw [ofTable?] at read
    dsimp only at read
    split at read
    · rename_i readFormat readIndent readFailFast
      cases read
      exact ⟨(format _).mp readFormat, (indent _).mp readIndent, (failFast _).mp readFailFast⟩
    · cases read
  · intro follows
    simp only [ofTable?, (format _).mpr follows.format, (indent _).mpr follows.indent,
      (failFast _).mpr follows.failFast]

theorem exists_follows (suited : ∀ pair ∈ pairs, Suits pair.1 pair.2) :
    ∃ settings, Follows settings pairs := by
  have indentSuited : ∀ plain, ("indent_size", plain) ∈ pairs →
      ∃ value : UInt64, plain = .integer value.toNat := by
    intro plain member
    obtain ⟨columns, narrow, rfl⟩ := (suited _ member).indent rfl
    have room : columns < UInt64.size := by
      simp only [widestIndent, UInt64.size] at narrow ⊢
      omega
    exact ⟨.ofNat columns, by rw [UInt64.toNat_ofNat_of_lt' room]⟩
  obtain ⟨format, formatGiven⟩ :=
    exists_gives (fun plain member => (suited (_, plain) member).format rfl) Format.text
  obtain ⟨indent, indentGiven⟩ := exists_gives indentSuited 2
  obtain ⟨failFast, failFastGiven⟩ :=
    exists_gives (fun plain member => (suited (_, plain) member).failFast rfl) false
  exact ⟨⟨format, indent, failFast⟩, formatGiven, indentGiven, failFastGiven⟩

theorem Follows.suits (follows : Follows settings pairs) (all : AllPlain pairs)
    (distinct : (pairs.map Prod.fst).Nodup) : ∀ pair ∈ pairs, Suits pair.1 pair.2 := by
  rintro ⟨name, plain⟩ member
  refine ⟨?_, ?_, ?_⟩
  · rintro rfl
    exact ⟨settings.format, follows.format.suited distinct member⟩
  · rintro rfl
    have written := follows.indent.suited distinct member
    have fits := (all _ member).2
    rw [written, Plain.Fits] at fits
    refine ⟨settings.indent.toNat, ?_, written⟩
    simp only [inRange, Bool.and_eq_true, decide_eq_true_eq, widestIndent] at fits ⊢
    omega
  · rintro rfl
    exact ⟨settings.failFast, follows.failFast.suited distinct member⟩

theorem follows_congr (same : ∀ name ∈ ["format", "indent_size", "fail_fast"], ∀ plain,
      (name, plain) ∈ others ↔ (name, plain) ∈ pairs) :
    Follows settings others ↔ Follows settings pairs := by
  have format := same "format" (by simp)
  have indent := same "indent_size" (by simp)
  have failFast := same "fail_fast" (by simp)
  constructor
  · intro follows
    exact ⟨(gives_congr format).mp follows.format, (gives_congr indent).mp follows.indent,
      (gives_congr failFast).mp follows.failFast⟩
  · intro follows
    exact ⟨(gives_congr format).mpr follows.format, (gives_congr indent).mpr follows.indent,
      (gives_congr failFast).mpr follows.failFast⟩

/-- A file of lines with distinct keys and plain values. -/
structure PlainFile (text : String) (pairs : List (String × Plain)) : Prop where
  lists : Lists pairs text.toList
  all : AllPlain pairs
  distinct : (pairs.map Prod.fst).Nodup

variable {text other : String} {tomlError : String → String}

theorem PlainFile.ofFile_eq_ok_iff (file : PlainFile text pairs) :
    ofFile tomlError (.ok text.toUTF8) = .ok settings ↔ Follows settings pairs := by
  rw [← ofTable?_eq_some_iff file.all file.distinct]
  simp only [ofFile_toUTF8, parse?, parse?_lists file.lists file.all file.distinct,
    Option.bind_some]
  cases ofTable? ⟨.header, entriesOf pairs⟩ <;> simp

theorem ofFile_text_cases (tomlError : String → String) (text : String) :
    (∃ settings, ofFile tomlError (.ok text.toUTF8) = .ok settings) ∨
      ofFile tomlError (.ok text.toUTF8) = .error (.invalid (tomlError text)) := by
  rw [ofFile_toUTF8]
  cases parse? text with
  | none => exact .inr rfl
  | some settings => exact .inl ⟨settings, rfl⟩

/-- If every setting that is named has a value of the form it needs, a file of lines with distinct
bare keys and plain values is read as the settings that its lines give, with the defaults of the
others; and if one has not, the file is invalid. Neither the order of the lines nor a line with
another key plays a part in that, but for the reason that the reader of TOML gives. -/
theorem ofFile_plain (tomlError : String → String) (file : PlainFile text pairs) :
    ((∀ pair ∈ pairs, Suits pair.1 pair.2) →
      ∃ settings, ofFile tomlError (.ok text.toUTF8) = .ok settings ∧ Follows settings pairs) ∧
    ((∃ pair ∈ pairs, ¬ Suits pair.1 pair.2) →
      ofFile tomlError (.ok text.toUTF8) = .error (.invalid (tomlError text))) ∧
    ∀ other others, PlainFile other others →
      (∀ name ∈ ["format", "indent_size", "fail_fast"], ∀ plain,
        (name, plain) ∈ others ↔ (name, plain) ∈ pairs) →
      ofFile tomlError (.ok other.toUTF8) =
        (ofFile tomlError (.ok text.toUTF8)).mapError fun _ => .invalid (tomlError other) := by
  refine ⟨?_, ?_, ?_⟩
  · intro suited
    obtain ⟨settings, follows⟩ := exists_follows suited
    exact ⟨settings, file.ofFile_eq_ok_iff.mpr follows, follows⟩
  · rintro ⟨pair, member, unsuited⟩
    rcases ofFile_text_cases tomlError text with ⟨settings, read⟩ | invalid
    · have follows := file.ofFile_eq_ok_iff.mp read
      exact absurd (follows.suits file.all file.distinct pair member) unsuited
    · exact invalid
  · intro other others otherFile same
    have agree (settings : Settings) : ofFile tomlError (.ok other.toUTF8) = .ok settings ↔
        ofFile tomlError (.ok text.toUTF8) = .ok settings := by
      rw [otherFile.ofFile_eq_ok_iff, file.ofFile_eq_ok_iff, follows_congr same]
    rcases ofFile_text_cases tomlError text with ⟨settings, read⟩ | invalid
    · rw [read, (agree settings).mpr read]
      rfl
    · rcases ofFile_text_cases tomlError other with ⟨settings, read⟩ | invalidOther
      · rw [read, (agree settings).mp read]
        rfl
      · rw [invalid, invalidOther]
        rfl

theorem ofFile_plain_mixed :
    let reason := "TOML parse error at line 1, column 15\n  |\n1 | indent_size = -1\n" ++
      "  |               ^^\ninvalid value: integer `-1`, expected usize\n"
    ofFile (fun _ => reason) (.ok "-9 = true\r\nindent_size = 70\nformat = \"paths\"".toUTF8) =
        .ok ⟨.paths, 70, false⟩ ∧
      ofFile (fun _ => reason) (.ok "indent_size = -1\n-9 = \"\"\n".toUTF8) =
        .error (.invalid reason) := by
  intro reason
  let pairs : List (String × Plain) :=
    [("-9", .boolean true), ("indent_size", .integer 70), ("format", .string "paths")]
  let wrong : List (String × Plain) := [("indent_size", .integer (-1)), ("-9", .string "")]
  have file : PlainFile "-9 = true\r\nindent_size = 70\nformat = \"paths\"" pairs :=
    ⟨.carriageLine "-9" (.boolean true) (.line "indent_size" (.integer 70)
      (.last "format" (.string "paths"))), by decide, by decide⟩
  have wrongFile : PlainFile "indent_size = -1\n-9 = \"\"\n" wrong :=
    ⟨.line "indent_size" (.integer (-1)) (.line "-9" (.string "") .nothing),
      by decide, by decide⟩
  constructor
  · have suited : ∀ pair ∈ pairs, Suits pair.1 pair.2 := by
      simp only [pairs, List.forall_mem_cons]
      exact ⟨⟨by simp, by simp, by simp⟩, ⟨by simp, fun _ => ⟨70, by decide, rfl⟩, by simp⟩,
        ⟨fun _ => ⟨.paths, rfl⟩, by simp, by simp⟩, List.forall_mem_nil _⟩
    obtain ⟨settings, read, follows⟩ := (ofFile_plain (fun _ => reason) file).1 suited
    have formatLine : ("format", Plain.string "paths") ∈ pairs := by simp [pairs]
    have indentLine : ("indent_size", Plain.integer 70) ∈ pairs := by simp [pairs]
    have format := follows.format.suited file.distinct formatLine
    have indent := follows.indent.suited file.distinct indentLine
    obtain ⟨shape, columns, flag⟩ := settings
    obtain rfl : shape = .paths := by cases shape <;> simp_all [Format.name]
    obtain rfl : columns = 70 := by
      rw [← UInt64.toNat_inj]
      exact (Int.ofNat.inj (Plain.integer.inj indent)).symm
    obtain rfl : flag = false := by simpa [Gives, pairs] using follows.failFast
    exact read
  · refine (ofFile_plain (fun _ => reason) wrongFile).2.1 ⟨_, List.mem_cons_self, fun suits => ?_⟩
    obtain ⟨columns, _, same⟩ := suits.indent rfl
    simp at same

end Observe.Settings
