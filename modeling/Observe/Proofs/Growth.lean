import Observe.Proofs.Untouched

namespace Observe

/-! A store grows when directories come to it and everything else stays as it is. To make directories
lets it grow, and what a path has led to it still leads to. -/

namespace Entry

variable {names : List String} {root entry : Entry}

/-- An entry is put below one that is found on the way. -/
theorem find?_put_above (rest : List String) (new : Entry) (found : root.find? names = some entry) :
    (root.put (names ++ rest) new).find? names = some (entry.put rest new) := by
  induction names generalizing root with
  | nil =>
      simp only [find?_nil, Option.some.injEq] at found
      subst root
      exact find?_nil _
  | cons name above ih =>
      cases root with
      | file content => simp [find?] at found
      | directory entries =>
          cases there : entries.lookup name with
          | none => simp [find?, there] at found
          | some below =>
              have foundBelow : below.find? above = some entry := by
                simpa [find?, there] using found
              simpa [put, find?, there, lookup_replaced] using ih foundBelow

end Entry

/-- A path that goes along some parts, perhaps not to their end. -/
def Location.GoesAlong (location : Location) (parts : List Part) (path : Location) : Prop :=
  ∃ front, front <+: parts ∧ path = location.along front

namespace Store

open Location

variable {store next made : Store} {place reached there : Place} {name : String}
  {names : List String} {entry : Entry} {entries : List (String × Entry)} {location : Location}
  {content : ByteArray} {parts : List Part} {paths others : Location → Prop}

/-- The entry of a place is what the store has there. -/
def Holds (store : Store) (place : Place) : Prop := store.find? place.names = some place.entry

theorem step_dot (directory : place.entry = .directory entries) :
    store.step place "." = .ok place := by
  simp [step, directory]

theorem step_up (directory : place.entry = .directory entries) :
    store.step place ".." = store.placeOf place.trail.tail.reverse := by
  simp [step, directory]

theorem isDirectory_of_step (stepped : store.step place name = .ok reached) :
    ∃ entries, place.entry = .directory entries := by
  cases entry : place.entry with
  | file content => simp [step, entry] at stepped
  | directory entries => exact ⟨entries, rfl⟩

theorem placeOf_eq_ok_iff :
    store.placeOf names = .ok place ↔ place.names = names ∧ store.Holds place := by
  obtain ⟨trail, entry⟩ := place
  rw [placeOf, Holds, Place.names]
  cases found : store.find? names with
  | none =>
      constructor
      · intro never
        cases never
      · rintro ⟨rfl, holds⟩
        rw [found] at holds
        cases holds
  | some other =>
      simp only [Except.ok.injEq, Place.mk.injEq]
      constructor
      · rintro ⟨rfl, rfl⟩
        exact ⟨List.reverse_reverse _, by rw [List.reverse_reverse, found]⟩
      · rintro ⟨rfl, holds⟩
        rw [found] at holds
        cases holds
        exact ⟨List.reverse_reverse _, rfl⟩

theorem Holds.find?_below (holds : store.Holds place) (rest : List String) :
    store.find? (place.names ++ rest) = place.entry.find? rest := by
  rw [find?, Entry.find?_append, ← find?, holds, Option.bind_some]

theorem Holds.step (holds : store.Holds place) (stepped : store.step place name = .ok reached) :
    store.Holds reached := by
  obtain ⟨entries, directory⟩ := isDirectory_of_step stepped
  by_cases dot : name = "."
  · subst dot
    rw [step_dot directory] at stepped
    cases stepped
    exact holds
  by_cases up : name = ".."
  · subst up
    rw [step_up directory] at stepped
    exact (placeOf_eq_ok_iff.mp stepped).2
  · obtain ⟨trail, found, _⟩ := (step_eq_ok_iff ⟨dot, up⟩).mp stepped
    rw [Holds, Place.names, trail, List.reverse_cons]
    exact (holds.find?_below [name]).trans found

theorem Holds.walk (holds : store.Holds place) (walked : store.walk place names = .ok reached) :
    store.Holds reached := by
  induction names generalizing place with
  | nil =>
      cases walked
      exact holds
  | cons name rest ih =>
      rw [Store.walk] at walked
      split at walked
      · cases walked
      · rename_i next stepped
        exact ih (holds.step stepped) walked

theorem refusal_cases {error : FileError} (refused : location.refusal? = some error) :
    location.parts = [] ∧ error = .missing ∨ error = .tooLong ∨ error = .holdsNul := by
  rw [Location.refusal?] at refused
  split at refused
  · rename_i empty
    cases refused
    rw [Location.isEmpty, Bool.and_eq_true] at empty
    exact .inl ⟨List.isEmpty_iff.mp empty.1, rfl⟩
  · split at refused
    · exact .inr (.inr (Option.some.inj refused).symm)
    · split at refused <;> cases refused
      exact .inr (.inl rfl)

theorem follow_eq_ok (found : store.follow location names = .ok reached) :
    location.refusal? = none ∧ ∃ place, store.placeOf location.start = .ok place ∧
      store.walk place names = .ok reached := by
  rw [follow] at found
  split at found
  · cases found
  · rename_i accepted
    split at found
    · cases found
    · rename_i place begun
      exact ⟨accepted, place, begun, found⟩

theorem follow_of_walk (accepted : location.refusal? = none)
    (begun : store.placeOf location.start = .ok place) :
    store.follow location names = store.walk place names := by
  simp only [follow, accepted, begun]

theorem holds_of_follow (found : store.follow location names = .ok reached) :
    store.Holds reached := by
  obtain ⟨_, place, begun, walked⟩ := follow_eq_ok found
  exact (placeOf_eq_ok_iff.mp begun).2.walk walked

theorem walk_concat (walked : store.walk place names = .ok there) (name : String) :
    store.walk place (names ++ [name]) = store.step there name := by
  induction names generalizing place with
  | nil =>
      cases walked
      rw [List.nil_append, walk]
      split <;> simp only [*, walk]
  | cons first rest ih =>
      rw [walk] at walked
      rw [List.cons_append, walk]
      split at walked
      · cases walked
      · exact ih walked

/-- What is at the end of a path is a step away from where it should be. -/
theorem locate_of_approach (found : store.approach location = .ok place)
    (last : location.names.getLast? = some name) :
    store.locate location = store.step place name := by
  obtain ⟨above, names⟩ := List.getLast?_eq_some_iff.mp last
  rw [approach, names, List.dropLast_concat] at found
  obtain ⟨accepted, start, begun, walked⟩ := follow_eq_ok found
  rw [locate, names, follow_of_walk accepted begun, walk_concat walked]

/-- A name that is missing in a place that the store has does not lead up. -/
theorem Holds.leadsDown (holds : store.Holds place)
    (absent : store.step place name = .error .missing) : LeadsDown name := by
  cases entry : place.entry with
  | file content => simp [Store.step, entry] at absent
  | directory entries =>
      constructor
      · rintro rfl
        rw [step_dot entry] at absent
        cases absent
      · rintro rfl
        -- What is above a place that the store has is there.
        have front : place.trail.tail.reverse <+: place.names := by
          rw [Place.names, List.reverse_prefix]
          exact List.tail_suffix _
        obtain ⟨above, found⟩ := Entry.find?_of_prefix front holds
        rw [step_up entry, placeOf, find?, found] at absent
        cases absent

/-- Files have neither come nor gone nor changed, and directories are still there. -/
structure Grows (store made : Store) : Prop where
  files : ∀ names content,
    made.find? names = some (.file content) ↔ store.find? names = some (.file content)
  directories : ∀ names entries, store.find? names = some (.directory entries) →
    ∃ more, made.find? names = some (.directory more)

theorem Grows.refl (store : Store) : store.Grows store :=
  ⟨fun _ _ => Iff.rfl, fun _ entries found => ⟨entries, found⟩⟩

theorem Grows.trans (first : store.Grows next) (second : next.Grows made) : store.Grows made where
  files names content := (second.files names content).trans (first.files names content)
  directories names entries found := by
    obtain ⟨more, foundNext⟩ := first.directories names entries found
    exact second.directories names more foundNext

theorem Grows.find?_eq_some (grows : store.Grows made) (found : store.find? names = some entry) :
    ∃ other, made.find? names = some other := by
  cases entry with
  | file content => exact ⟨_, (grows.files names content).mpr found⟩
  | directory entries =>
      obtain ⟨more, foundMade⟩ := grows.directories names entries found
      exact ⟨_, foundMade⟩

theorem Grows.placeOf (grows : store.Grows made) (found : store.placeOf names = .ok place) :
    ∃ there, made.placeOf names = .ok there ∧ there.trail = place.trail := by
  obtain ⟨rfl, holds⟩ := placeOf_eq_ok_iff.mp found
  obtain ⟨other, foundMade⟩ := grows.find?_eq_some holds
  exact ⟨⟨place.trail, other⟩, placeOf_eq_ok_iff.mpr ⟨rfl, foundMade⟩, rfl⟩

/-- In a store that has grown, names lead from the same places to the same places. -/
theorem Grows.step (grows : store.Grows made) (holds : store.Holds place)
    (holdsThere : made.Holds there) (same : there.trail = place.trail)
    (stepped : store.step place name = .ok reached) :
    ∃ reachedThere, made.step there name = .ok reachedThere ∧
      reachedThere.trail = reached.trail := by
  have names : there.names = place.names := congrArg List.reverse same
  obtain ⟨entries, directory⟩ := isDirectory_of_step stepped
  obtain ⟨more, directoryThere⟩ : ∃ more, there.entry = .directory more := by
    rw [Holds, directory] at holds
    obtain ⟨more, found⟩ := grows.directories _ _ holds
    rw [Holds, names, found] at holdsThere
    exact ⟨more, (Option.some.inj holdsThere).symm⟩
  by_cases dot : name = "."
  · subst dot
    rw [step_dot directory] at stepped
    cases stepped
    exact ⟨there, step_dot directoryThere, same⟩
  by_cases up : name = ".."
  · subst up
    rw [step_up directory] at stepped
    rw [step_up directoryThere, same]
    exact grows.placeOf stepped
  · obtain ⟨trail, found, short⟩ := (step_eq_ok_iff ⟨dot, up⟩).mp stepped
    rw [← holds.find?_below] at found
    obtain ⟨other, foundMade⟩ := grows.find?_eq_some found
    rw [← names, holdsThere.find?_below] at foundMade
    refine ⟨⟨name :: there.trail, other⟩, ?_, ?_⟩
    · exact (step_eq_ok_iff ⟨dot, up⟩).mpr ⟨rfl, foundMade, short⟩
    · rw [trail, same]

theorem Grows.walk (grows : store.Grows made) (holds : store.Holds place)
    (holdsThere : made.Holds there) (same : there.trail = place.trail)
    (walked : store.walk place names = .ok reached) :
    ∃ reachedThere, made.walk there names = .ok reachedThere ∧
      reachedThere.trail = reached.trail := by
  induction names generalizing place there with
  | nil =>
      cases walked
      exact ⟨there, rfl, same⟩
  | cons name rest ih =>
      rw [Store.walk] at walked ⊢
      split at walked
      · cases walked
      · rename_i next stepped
        obtain ⟨nextThere, steppedThere, sameNext⟩ := grows.step holds holdsThere same stepped
        rw [steppedThere]
        exact ih (holds.step stepped) (holdsThere.step steppedThere) sameNext walked

theorem Grows.follow (grows : store.Grows made)
    (found : store.follow location names = .ok reached) :
    ∃ there, made.follow location names = .ok there ∧ there.trail = reached.trail := by
  obtain ⟨accepted, place, begun, walked⟩ := follow_eq_ok found
  obtain ⟨placeThere, begunThere, same⟩ := grows.placeOf begun
  rw [follow_of_walk accepted begunThere]
  exact grows.walk (placeOf_eq_ok_iff.mp begun).2 (placeOf_eq_ok_iff.mp begunThere).2 same walked

/-- What is read at a path is read there after the growth. -/
theorem Grows.read (grows : store.Grows made) (got : store.read location = .ok content) :
    made.read location = .ok content := by
  rw [Store.read] at got
  split at got
  · cases got
  · cases got
  · rename_i trail old located
    obtain ⟨⟨trailThere, other⟩, locatedThere, same⟩ := grows.follow located
    have holds : store.find? trail.reverse = some (.file old) := holds_of_follow located
    have kept : made.find? trailThere.reverse = some other := holds_of_follow locatedThere
    rw [show trailThere = trail from same, (grows.files _ _).mpr holds] at kept
    cases kept
    have there : made.locate location = .ok ⟨trailThere, .file old⟩ := locatedThere
    simpa only [Store.read, there] using got

theorem makeDirectory_added (did : store.makeDirectory location = .ok made) :
    ∃ place name entries, store.approach location = .ok place ∧
      location.names.getLast? = some name ∧ LeadsDown name ∧
      name.utf8ByteSize ≤ longestName ∧ place.entry = .directory entries ∧
      entries.lookup name = none ∧ made = store.put (place.names ++ [name]) (.directory []) := by
  rw [makeDirectory] at did
  split at did
  · cases did
  · cases did
  · rename_i place name found last
    split at did
    · cases did
    · rename_i stepped
      cases did
      have down := (holds_of_follow found).leadsDown stepped
      obtain ⟨short, entries, directory, absent⟩ := step_eq_missing down stepped
      exact ⟨place, name, entries, found, last, down, short, directory, absent, rfl⟩
    · cases did

/-- A new directory stands where it was put, and everywhere else is what has been there. -/
theorem find?_put_directory (reached : store.find? names = some (.directory entries))
    (absent : entries.lookup name = none) (others : List String) :
    let made := store.put (names ++ [name]) (.directory [])
    (others = names ++ [name] ∧ store.find? others = none ∧
        made.find? others = some (.directory [])) ∨
      (∃ old new, store.find? others = some (.directory old) ∧
        made.find? others = some (.directory new)) ∨
      made.find? others = store.find? others := by
  intro made
  by_cases above : others <+: names ++ [name]
  · rcases List.prefix_concat_iff.mp above with rfl | ⟨rest, rfl⟩
    · refine .inl ⟨rfl, ?_, Entry.find?_put_self name _ reached⟩
      rw [find?, Entry.find?_append, ← find?, reached]
      simp [Entry.find?, absent]
    · -- On the way to the new directory there are directories.
      obtain ⟨entry, found⟩ := Entry.find?_of_prefix (List.prefix_append others rest) reached
      have changed : made.find? others = some (entry.put (rest ++ [name]) (.directory [])) := by
        have put := Entry.find?_put_above (rest ++ [name]) (.directory []) found
        rwa [← List.append_assoc] at put
      cases entry with
      | directory old =>
          obtain ⟨first, behind, cut⟩ := List.exists_cons_of_ne_nil
            (List.append_ne_nil_of_right_ne_nil rest (List.cons_ne_nil name []))
          rw [cut] at changed
          exact .inr (.inl ⟨old, _, found, changed⟩)
      | file content =>
          rw [find?, Entry.find?_append, found] at reached
          cases rest <;> simp [Entry.find?] at reached
  · by_cases below : names ++ [name] <+: others
    · obtain ⟨rest, rfl⟩ := below
      have nothing : store.find? (names ++ [name] ++ rest) = none := by
        rw [List.append_assoc, find?, Entry.find?_append, ← find?, reached]
        simp [Entry.find?, absent]
      have still : made.find? (names ++ [name] ++ rest) = none := by
        have put : made.find? (names ++ [name]) = some (.directory []) :=
          Entry.find?_put_self name _ reached
        rw [find?, Entry.find?_append, ← find?, put, Option.bind_some]
        cases rest with
        | nil => simp at above
        | cons next rest => simp [Entry.find?]
      exact .inr (.inr (still.trans nothing.symm))
    · exact .inr (.inr (find?_put_of_apart ⟨above, below⟩ store _))

theorem grows_put_directory (reached : store.find? names = some (.directory entries))
    (absent : entries.lookup name = none) :
    store.Grows (store.put (names ++ [name]) (.directory [])) where
  files others content := by
    rcases find?_put_directory reached absent others with
      ⟨_, nothing, new⟩ | ⟨old, new, before, after⟩ | same
    · rw [nothing, new]
      simp
    · rw [before, after]
      simp
    · rw [same]
  directories others old found := by
    rcases find?_put_directory reached absent others with
      ⟨_, nothing, new⟩ | ⟨_, new, _, after⟩ | same
    · exact ⟨[], new⟩
    · exact ⟨new, after⟩
    · exact ⟨old, same.trans found⟩

/-- A store has grown, and each directory that has come to it is one that a path of some kind leads
to. -/
structure GainsAt (paths : Location → Prop) (store made : Store) : Prop
    extends Grows store made where
  gained : ∀ names entry, made.find? names = some entry → store.find? names = none →
    ∃ path, paths path ∧ ∃ place, made.locate path = .ok place ∧ place.names = names

theorem GainsAt.refl (paths : Location → Prop) (store : Store) : GainsAt paths store store where
  toGrows := .refl store
  gained names entry found absent := by
    rw [found] at absent
    cases absent

theorem GainsAt.mono (gains : GainsAt paths store made) (wider : ∀ path, paths path → others path) :
    GainsAt others store made where
  toGrows := gains.toGrows
  gained names entry found absent := by
    obtain ⟨path, along, leads⟩ := gains.gained names entry found absent
    exact ⟨path, wider path along, leads⟩

theorem GainsAt.trans (first : GainsAt paths store next) (second : GainsAt paths next made) :
    GainsAt paths store made where
  toGrows := first.toGrows.trans second.toGrows
  gained names entry found absent := by
    cases between : next.find? names with
    | none => exact second.gained names entry found between
    | some other =>
        obtain ⟨path, along, place, located, leads⟩ := first.gained names other between absent
        obtain ⟨there, locatedThere, same⟩ := second.toGrows.follow located
        exact ⟨path, along, there, locatedThere, (congrArg List.reverse same).trans leads⟩

theorem gainsAt_makeDirectory (did : store.makeDirectory location = .ok made) :
    GainsAt (· = location) store made := by
  obtain ⟨place, name, entries, found, last, down, short, directory, absent, put⟩ :=
    makeDirectory_added did
  have holds := holds_of_follow found
  rw [Holds, directory] at holds
  have grows : store.Grows made := put ▸ grows_put_directory holds absent
  refine ⟨grows, fun others entry new old => ⟨location, rfl, ?_⟩⟩
  have same : others = place.names ++ [name] := by
    rw [put] at new
    rcases find?_put_directory holds absent others with ⟨same, _⟩ | ⟨_, _, before, _⟩ | same
    · exact same
    · rw [before] at old
      cases old
    · rw [same, old] at new
      cases new
  -- The path leads in the new store to where it should be, and from there to what was put.
  obtain ⟨there, foundThere, sameTrail⟩ := grows.follow found
  have names : there.names = place.names := congrArg List.reverse sameTrail
  rw [same, ← names, (holds_of_follow foundThere).find?_below] at new
  refine ⟨⟨name :: there.trail, entry⟩, ?_, ?_⟩
  · rw [locate_of_approach foundThere last]
    exact (step_eq_ok_iff down).mpr ⟨rfl, new, short⟩
  · rw [same, ← names, Place.names, List.reverse_cons]
    rfl

theorem gainsAt_makeAlong (store : Store) (location : Location) (parts : List Part) :
    GainsAt (location.GoesAlong parts.reverse) store (store.makeAlong location parts).1 := by
  induction parts with
  | nil => exact .refl _ store
  | cons last above ih =>
      have here {store made : Store}
          (did : store.makeDirectory (location.along (last :: above).reverse) = .ok made) :
          GainsAt (location.GoesAlong (last :: above).reverse) store made :=
        (gainsAt_makeDirectory did).mono fun _ same => ⟨_, List.prefix_refl _, same⟩
      have before : GainsAt (location.GoesAlong (last :: above).reverse) store
          (store.makeAlong location above).1 := by
        refine ih.mono fun path ⟨front, short, along⟩ => ⟨front, short.trans ?_, along⟩
        rw [List.reverse_cons]
        exact List.prefix_append _ _
      rw [makeAlong]
      split
      · rename_i made did
        exact here did
      · split
        · rename_i next error along
          rw [along] at before
          exact before
        · rename_i next along
          rw [along] at before
          split
          · rename_i made did
            exact before.trans (here did)
          · exact before
      · exact .refl _ store

end Store

/-- A path to a directory above the end of another. -/
def Location.IsAncestor (location path : Location) : Prop :=
  location.GoesAlong location.parent.parts path

/-- To make the directories above a path brings no more than these. -/
theorem Store.gainsAt_makeAbove (store : Store) (location : Location) :
    GainsAt location.IsAncestor store (store.makeDirectories location.parent).1 := by
  have gains := store.gainsAt_makeAlong location.parent location.parent.parts.reverse
  rw [List.reverse_reverse] at gains
  exact gains

end Observe
