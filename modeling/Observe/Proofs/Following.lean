import Mathlib.Data.List.Basic
import Observe.Store

namespace Observe

namespace Location

variable {location : Location}

/-- The names that lead from the top to where a path without dots ends. -/
def full (location : Location) : List String := location.start ++ location.names

/-- A name of something in a directory. -/
def LeadsDown (name : String) : Prop := name ≠ "." ∧ name ≠ ".."

/-- A path whose names all lead down. -/
def Dotless (location : Location) : Prop := ∀ name ∈ location.names, LeadsDown name

instance (location : Location) : Decidable location.Dotless :=
  inferInstanceAs (Decidable (∀ name ∈ location.names, name ≠ "." ∧ name ≠ ".."))

/-- A path that is not refused, neither as a whole nor for one of its names. -/
structure Passable (location : Location) : Prop where
  accepted : location.refusal? = none
  short : ∀ name ∈ location.names, name.utf8ByteSize ≤ longestName

@[simp] theorem names_along (location : Location) (parts : List Part) :
    (location.along parts).names = parts.map (·.name) := rfl

end Location

namespace Entry

variable {names others : List String} {entry below : Entry}

theorem find?_cons (entry : Entry) (name : String) (rest : List String) :
    entry.find? (name :: rest) = (entry.find? [name]).bind fun below => below.find? rest :=
  find?_append [name] rest entry

theorem find?_of_prefix (front : names <+: others) (found : entry.find? others = some below) :
    ∃ above, entry.find? names = some above := by
  obtain ⟨rest, rfl⟩ := front
  rw [find?_append] at found
  obtain ⟨above, reached, _⟩ := Option.bind_eq_some_iff.mp found
  exact ⟨above, reached⟩

end Entry

namespace Store

open Location

variable {store : Store} {place reached : Place} {name : String} {names : List String}
  {entries : List (String × Entry)} {location : Location} {content : ByteArray} {made : Store}

theorem step_directory (down : LeadsDown name) (trail : List String) :
    store.step ⟨trail, .directory entries⟩ name =
      if longestName < name.utf8ByteSize then .error .tooLong
      else
        match entries.lookup name with
        | some entry => .ok ⟨name :: trail, entry⟩
        | none => .error .missing := by
  rw [step]
  exact (if_neg down.1).trans (if_neg down.2)

theorem step_eq_ok_iff (down : LeadsDown name) :
    store.step place name = .ok reached ↔
      reached.trail = name :: place.trail ∧ place.entry.find? [name] = some reached.entry ∧
        name.utf8ByteSize ≤ longestName := by
  obtain ⟨trail, entry⟩ := place
  obtain ⟨trailThere, entryThere⟩ := reached
  cases entry with
  | file content => simp [step, Entry.find?]
  | directory entries =>
      rw [step_directory down]
      by_cases long : longestName < name.utf8ByteSize
      · rw [if_pos long]
        simp [Nat.not_le.mpr long]
      · rw [if_neg long]
        cases found : entries.lookup name with
        | none => simp [Entry.find?, found]
        | some entry => simp [Entry.find?, found, Nat.le_of_not_lt long, eq_comm]

theorem step_eq_missing (down : LeadsDown name)
    (absent : store.step place name = .error .missing) :
    name.utf8ByteSize ≤ longestName ∧
      ∃ entries, place.entry = .directory entries ∧ entries.lookup name = none := by
  obtain ⟨trail, entry⟩ := place
  cases entry with
  | file content => simp [step] at absent
  | directory entries =>
      rw [step_directory down] at absent
      split at absent
      · cases absent
      · rename_i short
        refine ⟨Nat.le_of_not_lt short, entries, rfl, ?_⟩
        cases found : entries.lookup name with
        | none => rfl
        | some entry => simp [found] at absent

theorem walk_eq_ok_iff (down : ∀ name ∈ names, LeadsDown name) :
    store.walk place names = .ok reached ↔
      reached.trail = names.reverse ++ place.trail ∧ place.entry.find? names = some reached.entry ∧
        ∀ name ∈ names, name.utf8ByteSize ≤ longestName := by
  induction names generalizing place with
  | nil =>
      obtain ⟨trail, entry⟩ := place
      obtain ⟨trailThere, entryThere⟩ := reached
      simp [walk, eq_comm]
  | cons name rest ih =>
      obtain ⟨downFirst, downRest⟩ := List.forall_mem_cons.mp down
      have first (reached : Place) :
          store.step place name = .ok reached ↔
            reached.trail = name :: place.trail ∧
              place.entry.find? [name] = some reached.entry ∧ name.utf8ByteSize ≤ longestName :=
        step_eq_ok_iff downFirst
      rw [walk, Entry.find?_cons, List.reverse_cons, List.append_assoc, List.forall_mem_cons]
      cases stepped : store.step place name with
      | error error =>
          refine iff_of_false (fun never => nomatch never) ?_
          rintro ⟨_, found, short, _⟩
          obtain ⟨below, foundFirst, _⟩ := Option.bind_eq_some_iff.mp found
          have there := (first ⟨name :: place.trail, below⟩).mpr ⟨rfl, foundFirst, short⟩
          rw [stepped] at there
          cases there
      | ok next =>
          obtain ⟨trail, found, short⟩ := (first next).mp stepped
          simp only [ih downRest, trail, found, Option.bind_some, short, true_and,
            List.singleton_append]

theorem follow_eq_ok_iff (down : ∀ name ∈ names, LeadsDown name) :
    store.follow location names = .ok reached ↔
      location.refusal? = none ∧ reached.names = location.start ++ names ∧
        store.find? (location.start ++ names) = some reached.entry ∧
          ∀ name ∈ names, name.utf8ByteSize ≤ longestName := by
  rw [follow, find?, Entry.find?_append]
  cases location.refusal? with
  | some error => simp
  | none =>
      rw [placeOf, find?]
      cases store.root.find? location.start with
      | none => simp
      | some entry =>
          simp only [walk_eq_ok_iff down, true_and, Option.bind_some, Place.names]
          refine and_congr_left fun _ => ?_
          rw [← List.reverse_inj, List.reverse_append, List.reverse_reverse, List.reverse_reverse]

theorem locate_eq_ok_iff (dotless : location.Dotless) :
    store.locate location = .ok reached ↔
      location.Passable ∧ reached.names = location.full ∧
        store.find? location.full = some reached.entry := by
  rw [locate, follow_eq_ok_iff dotless]
  constructor
  · rintro ⟨accepted, names, found, short⟩
    exact ⟨⟨accepted, short⟩, names, found⟩
  · rintro ⟨⟨accepted, short⟩, names, found⟩
    exact ⟨accepted, names, found, short⟩

theorem read_eq_ok_iff (dotless : location.Dotless) :
    store.read location = .ok content ↔
      location.Passable ∧ location.endsInSlash = false ∧
        store.find? location.full = some (.file content) := by
  rw [read]
  constructor
  · intro got
    split at got
    · cases got
    · cases got
    · rename_i trail there located
      obtain ⟨passable, _, found⟩ := (locate_eq_ok_iff dotless).mp located
      split at got
      · cases got
      · rename_i unended
        cases got
        exact ⟨passable, Bool.eq_false_iff.mpr unended, found⟩
  · rintro ⟨passable, unended, found⟩
    have located : store.locate location = .ok ⟨location.full.reverse, .file content⟩ :=
      (locate_eq_ok_iff dotless).mpr ⟨passable, List.reverse_reverse _, found⟩
    simp only [located, unended, Bool.false_eq_true, if_false]

/-- What is read depends on nothing but what is found. -/
theorem read_of_find? {other : Store} (dotless : location.Dotless)
    (found : other.find? location.full = store.find? location.full)
    (got : store.read location = .ok content) : other.read location = .ok content := by
  obtain ⟨passable, unended, there⟩ := (read_eq_ok_iff dotless).mp got
  exact (read_eq_ok_iff dotless).mpr ⟨passable, unended, found.trans there⟩

/-- A path without dots that is taken apart before its last name, and may be passed up to there. -/
structure Approached (store : Store) (location : Location) (place : Place) (name : String) :
    Prop where
  names : location.full = place.names ++ [name]
  down : LeadsDown name
  passable : name.utf8ByteSize ≤ longestName → location.Passable
  reached : store.find? place.names = some place.entry

theorem approached (dotless : location.Dotless)
    (last : location.names.getLast? = some name) (found : store.approach location = .ok place) :
    store.Approached location place name := by
  obtain ⟨above, names⟩ := List.getLast?_eq_some_iff.mp last
  rw [Dotless, names, List.forall_mem_append] at dotless
  rw [approach, names, List.dropLast_concat] at found
  obtain ⟨accepted, trail, reached, short⟩ := (follow_eq_ok_iff dotless.1).mp found
  refine ⟨?_, dotless.2 name List.mem_cons_self, fun shortLast => ⟨accepted, ?_⟩, trail ▸ reached⟩
  · rw [full, names, trail, List.append_assoc]
  · rw [names, List.forall_mem_append, List.forall_mem_singleton]
    exact ⟨short, shortLast⟩

/-- The path leads to where the name of a directory can stand. -/
structure Reaches (store : Store) (location : Location) : Prop where
  passable : location.Passable
  within : ∃ above name entries, location.full = above ++ [name] ∧
    store.find? above = some (.directory entries)

theorem Approached.step_ok (approached : store.Approached location place name)
    (stepped : store.step place name = .ok reached) :
    reached.names = location.full ∧ store.Reaches location := by
  obtain ⟨trail, found, short⟩ := (step_eq_ok_iff approached.down).mp stepped
  refine ⟨?_, approached.passable short, place.names, name, ?_⟩
  · rw [approached.names, Place.names, trail, List.reverse_cons]
    rfl
  · cases entry : place.entry with
    | file content => simp [entry, Entry.find?] at found
    | directory entries => exact ⟨entries, approached.names, entry ▸ approached.reached⟩

theorem Approached.step_missing (approached : store.Approached location place name)
    (stepped : store.step place name = .error .missing) :
    store.find? location.full = none ∧ store.Reaches location := by
  obtain ⟨short, entries, directory, absent⟩ := step_eq_missing approached.down stepped
  have reached := approached.reached
  rw [directory] at reached
  refine ⟨?_, approached.passable short, place.names, name, entries, approached.names, reached⟩
  rw [find?] at reached
  rw [approached.names, find?, Entry.find?_append, reached]
  simp [Entry.find?, absent]

/-- A file is written by putting it where the path leads. -/
theorem write_eq_ok (dotless : location.Dotless)
    (written : store.write location content = .ok made) :
    made = store.put location.full (.file content) ∧ location.endsInSlash = false ∧
      store.Reaches location := by
  rw [write] at written
  split at written
  · cases written
  · cases written
  · rename_i place name found last
    have approached := approached dotless last found
    split at written
    · cases written
    · rename_i ended
      have unended := Bool.eq_false_iff.mpr ended
      split at written
      · cases written
      · rename_i trail old stepped
        cases written
        obtain ⟨names, reaches⟩ := approached.step_ok stepped
        exact ⟨names ▸ rfl, unended, reaches⟩
      · rename_i stepped
        cases written
        obtain ⟨_, reaches⟩ := approached.step_missing stepped
        exact ⟨approached.names ▸ rfl, unended, reaches⟩
      · cases written

/-- A directory is made by putting an empty one where there is nothing. -/
theorem makeDirectory_eq_ok (dotless : location.Dotless)
    (did : store.makeDirectory location = .ok made) :
    made = store.put location.full (.directory []) ∧ store.find? location.full = none := by
  rw [makeDirectory] at did
  split at did
  · cases did
  · cases did
  · rename_i place name found last
    have approached := approached dotless last found
    split at did
    · cases did
    · rename_i stepped
      cases did
      exact ⟨approached.names ▸ rfl, (approached.step_missing stepped).1⟩
    · cases did

/-- A file that was written is read. -/
theorem read_write (dotless : location.Dotless)
    (written : store.write location content = .ok made) : made.read location = .ok content := by
  obtain ⟨rfl, unended, passable, above, name, entries, names, reached⟩ :=
    write_eq_ok dotless written
  refine (read_eq_ok_iff dotless).mpr ⟨passable, unended, ?_⟩
  rw [names]
  exact Entry.find?_put_self name _ reached

end Store

end Observe
