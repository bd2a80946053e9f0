import Observe.Proofs.Growth

namespace Observe

open Location

/-- A path that cannot be followed, for its text or for one of its names, and the error that tells
so. -/
structure Location.Impassable (location : Location) (error : FileError) : Prop where
  refused : ¬ location.Passable
  told : error = .tooLong ∨ error = .holdsNul

namespace Store

variable {store made : Store} {place : Place} {name : String} {names : List String}
  {entry : Entry} {location : Location} {content : ByteArray} {parts : List Part}
  {error : FileError} {result : Except FileError Unit}

def IsLong (name : String) : Prop := longestName < name.utf8ByteSize

theorem step_error_of_found (down : LeadsDown name) (found : place.entry.find? [name] = some entry)
    (failed : store.step place name = .error error) : error = .tooLong ∧ IsLong name := by
  obtain ⟨trail, above⟩ := place
  cases above with
  | file content => simp [Entry.find?] at found
  | directory entries =>
      rw [step_directory down] at failed
      split at failed
      · rename_i long
        cases failed
        exact ⟨rfl, long⟩
      · cases there : entries.lookup name <;> simp_all [Entry.find?]

theorem walk_error_of_found (down : ∀ name ∈ names, LeadsDown name)
    (found : place.entry.find? names = some entry)
    (failed : store.walk place names = .error error) :
    error = .tooLong ∧ ∃ name ∈ names, IsLong name := by
  induction names generalizing place with
  | nil => cases failed
  | cons name rest ih =>
      obtain ⟨downFirst, downRest⟩ := List.forall_mem_cons.mp down
      rw [Entry.find?_cons] at found
      obtain ⟨below, foundFirst, foundRest⟩ := Option.bind_eq_some_iff.mp found
      rw [walk] at failed
      split at failed
      · rename_i stopped
        cases failed
        obtain ⟨rfl, long⟩ := step_error_of_found downFirst foundFirst stopped
        exact ⟨rfl, name, List.mem_cons_self, long⟩
      · rename_i next stepped
        obtain ⟨_, there, _⟩ := (step_eq_ok_iff downFirst).mp stepped
        rw [foundFirst] at there
        cases there
        obtain ⟨rfl, long, member, isLong⟩ := ih downRest foundRest failed
        exact ⟨rfl, long, List.mem_cons_of_mem _ member, isLong⟩

theorem follow_error_of_found (accepted : location.refusal? = none)
    (down : ∀ name ∈ names, LeadsDown name)
    (found : store.find? (location.start ++ names) = some entry)
    (failed : store.follow location names = .error error) :
    error = .tooLong ∧ ∃ name ∈ names, IsLong name := by
  rw [find?, Entry.find?_append] at found
  obtain ⟨start, begun, foundRest⟩ := Option.bind_eq_some_iff.mp found
  have placed : store.placeOf location.start = .ok ⟨location.start.reverse, start⟩ := by
    rw [placeOf, find?, begun]
  rw [follow_of_walk accepted placed] at failed
  exact walk_error_of_found down foundRest failed

/-- What a path leads to should be in a directory that is empty. -/
structure OpensOn (store : Store) (location : Location) (above : List String) (last : String) :
    Prop where
  names : location.names = above ++ [last]
  empty : store.find? (location.start ++ above) = some (.directory [])

variable {above : List String} {last : String}

theorem OpensOn.approach_error (opens : store.OpensOn location above last)
    (dotless : location.Dotless) (accepted : location.refusal? = none)
    (failed : store.approach location = .error error) :
    error = .tooLong ∧ ∃ name ∈ location.names, IsLong name := by
  rw [Dotless, opens.names, List.forall_mem_append] at dotless
  rw [approach, opens.names, List.dropLast_concat] at failed
  obtain ⟨rfl, name, member, long⟩ := follow_error_of_found accepted dotless.1 opens.empty failed
  exact ⟨rfl, name, opens.names ▸ List.mem_append_left _ member, long⟩

theorem OpensOn.step (opens : store.OpensOn location above last) (dotless : location.Dotless)
    (found : store.approach location = .ok place)
    (named : location.names.getLast? = some name) :
    store.step place name = .error .missing ∨
      store.step place name = .error .tooLong ∧ name ∈ location.names ∧ IsLong name := by
  obtain ⟨full, down, _, reached⟩ := approached dotless named found
  obtain ⟨trail, entry⟩ := place
  rw [Location.full, opens.names, ← List.append_assoc] at full
  rw [← (List.append_inj' full rfl).1, opens.empty] at reached
  cases reached
  rw [step_directory down]
  by_cases long : longestName < name.utf8ByteSize
  · exact .inr ⟨if_pos long, List.mem_of_getLast? named, long⟩
  · exact .inl (if_neg long)

theorem OpensOn.makeDirectory_error (opens : store.OpensOn location above last)
    (dotless : location.Dotless) (accepted : location.refusal? = none)
    (failed : store.makeDirectory location = .error error) :
    error = .tooLong ∧ ∃ name ∈ location.names, IsLong name := by
  rw [makeDirectory] at failed
  split at failed
  · rename_i stopped
    cases failed
    exact opens.approach_error dotless accepted stopped
  · rename_i nameless
    simp [opens.names] at nameless
  · rename_i place name found named
    rcases opens.step dotless found named with absent | ⟨refused, member, long⟩
    · rw [absent] at failed
      cases failed
    · rw [refused] at failed
      cases failed
      exact ⟨rfl, name, member, long⟩

theorem approach_refused (refused : location.refusal? = some error) :
    store.approach location = .error error := by
  simp only [approach, follow, refused]

theorem impassable_of_long (long : ∃ name ∈ location.names, IsLong name) :
    location.Impassable .tooLong := by
  obtain ⟨name, member, isLong⟩ := long
  exact ⟨fun passable => Nat.not_le_of_lt isLong (passable.short name member), .inl rfl⟩

/-- A file can be written there under any name that is allowed. -/
theorem OpensOn.write_error (opens : store.OpensOn location above last)
    (dotless : location.Dotless) (unended : location.endsInSlash = false)
    (failed : store.write location content = .error error) : location.Impassable error := by
  cases refusal : location.refusal? with
  | some refused =>
      rw [write, approach_refused refusal] at failed
      cases failed
      have nonempty : location.parts ≠ [] := by
        intro nothing
        have names := opens.names
        rw [Location.names, nothing] at names
        simp at names
      refine ⟨fun passable => ?_, (refusal_cases refusal).resolve_left fun both => nonempty both.1⟩
      rw [passable.accepted] at refusal
      cases refusal
  | none =>
      rw [write] at failed
      split at failed
      · rename_i stopped
        cases failed
        obtain ⟨rfl, long⟩ := opens.approach_error dotless refusal stopped
        exact impassable_of_long long
      · rename_i nameless
        simp [opens.names] at nameless
      · rename_i place name found named
        rw [unended, if_neg Bool.false_ne_true] at failed
        rcases opens.step dotless found named with absent | ⟨refused, member, long⟩
        · rw [absent] at failed
          cases failed
        · rw [refused] at failed
          cases failed
          exact impassable_of_long ⟨name, member, long⟩

theorem OpensOn.leadsToDirectory (opens : store.OpensOn location above last)
    (dotless : location.Dotless) : store.leadsToDirectory location = false := by
  rw [Store.leadsToDirectory]
  split
  · rename_i place located
    have found := ((locate_eq_ok_iff dotless).mp located).2.2
    rw [full, opens.names, ← List.append_assoc, find?, Entry.find?_append, ← find?,
      opens.empty] at found
    simp [Entry.find?] at found
  · rfl

/-- A directory that was made is empty. -/
theorem find?_made (dotless : location.Dotless) (did : store.makeDirectory location = .ok made) :
    made.find? location.full = some (.directory []) := by
  obtain ⟨place, name, entries, found, named, _, _, directory, _, rfl⟩ := makeDirectory_added did
  have approached := approached dotless named found
  rw [approached.names]
  exact Entry.find?_put_self name _ (directory ▸ approached.reached)

theorem opensOn_along {last : Part} {above : List Part}
    (empty : store.find? (location.start ++ above.reverse.map (·.name)) = some (.directory [])) :
    store.OpensOn (location.along (last :: above).reverse) (above.reverse.map (·.name))
      last.name where
  names := by simp
  empty := empty

/-- Where directories are made at all, the last of them is empty. -/
theorem makeAlong_ok (down : ∀ part ∈ parts, LeadsDown part.name)
    (did : store.makeAlong location parts = (made, .ok ())) :
    made = store ∨ made.find? (location.start ++ parts.reverse.map (·.name)) =
      some (.directory []) := by
  induction parts generalizing made with
  | nil =>
      cases did
      exact .inl rfl
  | cons last above ih =>
      have dotless : (location.along (last :: above).reverse).Dotless := dotless_along down
      rw [makeAlong] at did
      split at did
      · rename_i other done
        cases did
        exact .inr (find?_made dotless done)
      · split at did
        · cases did
        · rename_i next along
          split at did
          · rename_i other done
            cases did
            exact .inr (find?_made dotless done)
          · split at did <;> cases did
            rename_i leads
            refine .inl ?_
            rcases ih (List.forall_mem_cons.mp down).2 along with same | empty
            · exact same
            · rw [(opensOn_along empty).leadsToDirectory dotless] at leads
              cases leads
      · split at did <;> cases did
        exact .inl rfl

/-- Directories are left behind only before a name that is too long. -/
theorem makeAlong_error (down : ∀ part ∈ parts, LeadsDown part.name)
    (failed : store.makeAlong location parts = (made, .error error)) :
    made = store ∨ error = .tooLong ∧ ∃ part ∈ parts, IsLong part.name := by
  induction parts generalizing made error with
  | nil => cases failed
  | cons last above ih =>
      have dotless : (location.along (last :: above).reverse).Dotless := dotless_along down
      have downAbove := (List.forall_mem_cons.mp down).2
      rw [makeAlong] at failed
      split at failed
      · cases failed
      · rename_i missing
        have accepted : (location.along (last :: above).reverse).refusal? = none := by
          cases refusal : (location.along (last :: above).reverse).refusal? with
          | none => rfl
          | some refused =>
              rw [makeDirectory, approach_refused refusal] at missing
              cases missing
              rcases refusal_cases refusal with ⟨nothing, -⟩ | told | told
              · cases List.reverse_eq_nil_iff.mp nothing
              · cases told
              · cases told
        split at failed
        · rename_i next stopped along
          cases failed
          rcases ih downAbove along with same | ⟨rfl, part, member, long⟩
          · exact .inl same
          · exact .inr ⟨rfl, part, List.mem_cons_of_mem _ member, long⟩
        · rename_i next along
          split at failed
          · cases failed
          · rename_i stopped refused
            split at failed <;> cases failed
            rcases makeAlong_ok downAbove along with same | empty
            · exact .inl same
            · obtain ⟨rfl, name, member, long⟩ :=
                (opensOn_along empty).makeDirectory_error dotless accepted refused
              rw [names_along] at member
              obtain ⟨part, memberPart, rfl⟩ := List.mem_map.mp member
              exact .inr ⟨rfl, part, List.mem_reverse.mp memberPart, long⟩
      · split at failed <;> cases failed
        exact .inl rfl

end Store

namespace Settings

variable {settings : Settings} {location : Location} {store made : Store} {error : SaveError}

theorem gainsAt_save (failed : settings.save location store = (made, .error error)) :
    Store.GainsAt location.IsAncestor store made := by
  have gains := store.gainsAt_makeAbove location
  rw [save] at failed
  split at failed
  · rename_i next stopped along
    cases failed
    rwa [along] at gains
  · rename_i next along
    rw [along] at gains
    split at failed
    · cases failed
      exact gains
    · split at failed <;> cases failed
      exact gains

theorem save_error_of_wide (wide : widestIndent < settings.indent.toNat) (location : Location)
    (store : Store) :
    ∃ made error, settings.save location store = (made, .error error) := by
  rw [save]
  split
  · exact ⟨_, _, rfl⟩
  · rw [text?, if_neg (Nat.not_le_of_lt wide)]
    exact ⟨_, _, rfl⟩

/-- With an indent that can be written, only a path that is not allowed can leave directories. -/
theorem save_error_of_narrow (narrow : settings.indent.toNat ≤ widestIndent)
    (dotless : location.Dotless) (unended : location.endsInSlash = false)
    (failed : settings.save location store = (made, .error error)) :
    made = store ∨ ∃ cause, error = .unwritable cause ∧ location.Impassable cause := by
  have parts : location.parent.parts = location.parts.dropLast := by
    rw [Store.parent_of_dotless dotless]
    rfl
  have down : ∀ part ∈ location.parent.parts.reverse, LeadsDown part.name := by
    intro part member
    rw [parts, List.mem_reverse] at member
    exact dotless part.name (List.mem_map_of_mem (List.dropLast_subset _ member))
  rw [save] at failed
  split at failed
  · rename_i next cause along
    cases failed
    rcases Store.makeAlong_error down along with same | ⟨rfl, part, member, long⟩
    · exact .inl same
    · rw [parts, List.mem_reverse] at member
      have named : part.name ∈ location.names :=
        List.mem_map_of_mem (List.dropLast_subset _ member)
      exact .inr ⟨.tooLong, rfl, Store.impassable_of_long ⟨part.name, named, long⟩⟩
  · rename_i next along
    split at failed
    · rename_i unwritten
      rw [text?, if_pos narrow] at unwritten
      cases unwritten
    · rename_i text written
      split at failed <;> cases failed
      rename_i cause refused
      rcases Store.makeAlong_ok down along with same | empty
      · exact .inl same
      · rw [List.reverse_reverse, parts] at empty
        cases cut : location.parts.getLast? with
        | none =>
            -- Nothing is above a path without names, and so nothing has been made.
            rw [List.getLast?_eq_none_iff.mp cut] at parts
            rw [Store.makeDirectories, parts] at along
            cases along
            exact .inl rfl
        | some last =>
            obtain ⟨above, split⟩ := List.getLast?_eq_some_iff.mp cut
            rw [split, List.dropLast_concat] at empty
            have opens : Store.OpensOn made location (above.map (·.name)) last.name :=
              ⟨by rw [names, split, List.map_append, List.map_singleton], empty⟩
            exact .inr ⟨cause, rfl, opens.write_error dotless unended refused⟩

/-- A save that fails leaves every file as it is, and brings no more than directories above the end
of its path. With an indent that can be written and a path without dots that ends in a name, it does
not bring these either, unless the path is not allowed for its length, for that of a name or for a
NUL in it, which the error then tells. With an indent that is too wide every save fails. -/
theorem save_failed (settings : Settings) (location : Location) (store : Store) :
    (∀ made error, settings.save location store = (made, .error error) →
      Store.GainsAt location.IsAncestor store made ∧
      (∀ content, store.read location = .ok content → made.read location = .ok content) ∧
      (settings.indent.toNat ≤ widestIndent → location.Dotless → location.endsInSlash = false →
        made = store ∨ ∃ cause, error = .unwritable cause ∧ location.Impassable cause)) ∧
    (widestIndent < settings.indent.toNat →
      ∃ made error, settings.save location store = (made, .error error)) := by
  refine ⟨fun made error failed => ?_, fun wide => save_error_of_wide wide location store⟩
  have gains := gainsAt_save failed
  refine ⟨gains, fun content got => gains.toGrows.read got, ?_⟩
  intro narrow dotless unended
  exact save_error_of_narrow narrow dotless unended failed

theorem save_failed_atFile :
    let store : Store := ⟨.directory [("d", .directory [("f", .file "old".toUTF8)])]⟩
    let file := Location.ofText [] "/d/f"
    let below := Location.ofText [] "/d/f/g/h"
    let wide : Settings := { indent := 9223372036854775808 }
    (∃ made error, wide.save file store = (made, .error error) ∧
      made.read file = .ok "old".toUTF8) ∧
    (({} : Settings).save below store).1 = store := by
  intro store file below wide
  constructor
  · obtain ⟨made, error, failed⟩ := (save_failed wide file store).2 (by decide)
    have kept := ((save_failed wide file store).1 made error failed).2.1
    exact ⟨made, error, failed, kept "old".toUTF8 (by decide +kernel)⟩
  · have failed : (({} : Settings).save below store).2 = .error (.unwritable .notDirectory) := by
      decide +kernel
    have blocked := (save_failed {} below store).1 _ _ (Prod.ext rfl failed)
    rcases blocked.2.2 (by decide) (by decide +kernel) (by decide +kernel) with
      same | ⟨cause, refused, impassable⟩
    · exact same
    · cases refused
      rcases impassable.told with told | told <;> cases told

/-- A path is refused for its last name after a directory has been made for it. -/
theorem save_failed_leaves_directory :
    let location := Location.ofText [] "/k/\x00"
    location.Dotless ∧ location.endsInSlash = false ∧
      ({} : Settings).indent.toNat ≤ widestIndent ∧
      ∃ made, ({} : Settings).save location .empty = (made, .error (.unwritable .holdsNul)) ∧
        (made.find? ["k"]).any Entry.isDirectory = true ∧ Store.empty.find? ["k"] = none := by
  intro location
  have failed : (({} : Settings).save location .empty).2 = .error (.unwritable .holdsNul) := by
    decide +kernel
  refine ⟨by decide +kernel, by decide +kernel, by decide, ?_⟩
  exact ⟨(({} : Settings).save location .empty).1, Prod.ext rfl failed, by decide +kernel, rfl⟩

end Settings

end Observe
