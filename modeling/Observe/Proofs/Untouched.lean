import Observe.Proofs.Following
import Observe.Settings

namespace Observe

/-- Neither names lead through the others. -/
structure Apart (names others : List String) : Prop where
  above : ¬ names <+: others
  below : ¬ others <+: names

instance (names others : List String) : Decidable (Apart names others) :=
  decidable_of_iff (¬ names <+: others ∧ ¬ others <+: names)
    ⟨fun ⟨above, below⟩ => ⟨above, below⟩, fun ⟨above, below⟩ => ⟨above, below⟩⟩

namespace Store

open Location

variable {store made : Store} {location : Location} {names others : List String}
  {content other : ByteArray} {entry : Entry}

theorem find?_put_of_apart (apart : Apart names others) (store : Store) (entry : Entry) :
    (store.put others entry).find? names = store.find? names :=
  Entry.find?_put_of_apart store.root entry
    (Bool.eq_false_iff.mpr (mt List.isPrefixOf_iff_prefix.mp apart.below))
    (Bool.eq_false_iff.mpr (mt List.isPrefixOf_iff_prefix.mp apart.above))

theorem find?_drop_of_apart (apart : Apart names others) (store : Store) :
    (store.drop others).find? names = store.find? names :=
  Entry.find?_drop_of_apart store.root
    (Bool.eq_false_iff.mpr (mt List.isPrefixOf_iff_prefix.mp apart.below))
    (Bool.eq_false_iff.mpr (mt List.isPrefixOf_iff_prefix.mp apart.above))

/-- A directory is only made where nothing is, and so not on the way to a file. -/
theorem find?_makeDirectory (dotless : location.Dotless) (beside : ¬ names <+: location.full)
    (found : store.find? names = some entry) (did : store.makeDirectory location = .ok made) :
    made.find? names = some entry := by
  obtain ⟨rfl, absent⟩ := makeDirectory_eq_ok dotless did
  have apart : Apart names location.full := by
    refine ⟨beside, fun front => ?_⟩
    -- Above the entry that is found there is something, and a directory is made where nothing is.
    obtain ⟨above, there⟩ := Entry.find?_of_prefix front found
    rw [find?, there] at absent
    cases absent
  rw [find?_put_of_apart apart, found]

theorem dotless_along {parts : List Part} (down : ∀ part ∈ parts, LeadsDown part.name) :
    (location.along parts.reverse).Dotless := by
  rw [Dotless, names_along]
  exact List.forall_mem_map.mpr fun part member => down part (List.mem_reverse.mp member)

theorem find?_makeAlong {parts : List Part} (down : ∀ part ∈ parts, LeadsDown part.name)
    (beside : ¬ names <+: location.start ++ parts.reverse.map (·.name))
    (found : store.find? names = some entry) :
    (store.makeAlong location parts).1.find? names = some entry := by
  induction parts with
  | nil => exact found
  | cons last above ih =>
      have dotless : (location.along (last :: above).reverse).Dotless := dotless_along down
      have besideAbove : ¬ names <+: location.start ++ above.reverse.map (·.name) := by
        refine fun front => beside (front.trans ?_)
        rw [List.reverse_cons, List.map_append, ← List.append_assoc]
        exact List.prefix_append _ _
      have foundAbove := ih (List.forall_mem_cons.mp down).2 besideAbove
      rw [makeAlong]
      split
      · rename_i made did
        exact find?_makeDirectory dotless beside found did
      · split
        · rename_i made error along
          rw [along] at foundAbove
          exact foundAbove
        · rename_i next along
          rw [along] at foundAbove
          split
          · rename_i made did
            exact find?_makeDirectory dotless beside foundAbove did
          · exact foundAbove
      · exact found

theorem find?_makeDirectories (dotless : location.Dotless) (beside : ¬ names <+: location.full)
    (found : store.find? names = some entry) :
    (store.makeDirectories location).1.find? names = some entry := by
  rw [makeDirectories]
  apply find?_makeAlong _ _ found
  · intro part member
    exact dotless part.name (List.mem_map_of_mem (List.mem_reverse.mp member))
  · rw [List.reverse_reverse]
    exact beside

theorem parent_of_dotless (dotless : location.Dotless) :
    location.parent = location.along location.parts.dropLast := by
  have kept : location.parts.filter (·.name ≠ ".") = location.parts := by
    refine List.filter_eq_self.mpr fun part member => ?_
    exact decide_eq_true (dotless part.name (List.mem_map_of_mem member)).1
  rw [parent, kept]

/-- To make the directories above a path leaves files elsewhere as they are. -/
theorem find?_makeAbove (dotless : location.Dotless) (beside : ¬ names <+: location.full)
    (found : store.find? names = some entry) :
    (store.makeDirectories location.parent).1.find? names = some entry := by
  rw [parent_of_dotless dotless]
  apply find?_makeDirectories _ _ found
  · rw [Dotless, names_along]
    exact List.forall_mem_map.mpr fun part member =>
      dotless part.name (List.mem_map_of_mem (List.dropLast_subset _ member))
  · refine fun front => beside (front.trans ?_)
    exact (List.prefix_append_right_inj _).mpr ((List.dropLast_prefix _).map _)

theorem find?_write (dotless : location.Dotless) (apart : Apart names location.full)
    (written : store.write location other = .ok made) :
    made.find? names = store.find? names := by
  obtain ⟨rfl, _⟩ := write_eq_ok dotless written
  exact find?_put_of_apart apart store _

theorem find?_place (dotless : location.Dotless) (apart : Apart names location.full)
    (found : store.find? names = some entry) :
    (store.place location other).1.find? names = some entry := by
  rw [place]
  split
  · exact find?_makeDirectories dotless apart.above found
  · have above := find?_makeAbove dotless apart.above found
    split
    · rename_i next error made
      rw [made] at above
      exact above
    · rename_i next made
      rw [made] at above
      split
      · rename_i written did
        rw [find?_write dotless apart did, above]
      · exact above

theorem find?_save (settings : Settings) (dotless : location.Dotless)
    (apart : Apart names location.full) (found : store.find? names = some entry) :
    (settings.save location store).1.find? names = some entry := by
  have above := find?_makeAbove dotless apart.above found
  rw [Settings.save]
  split
  · rename_i next error made
    rw [made] at above
    exact above
  · rename_i next made
    rw [made] at above
    split
    · exact above
    · split
      · rename_i written did
        rw [find?_write dotless apart did, above]
      · exact above

theorem find?_remove (dotless : location.Dotless) (apart : Apart names location.full)
    (removed : store.remove location = .ok made) : made.find? names = store.find? names := by
  have led {place : Place} (located : store.locate location = .ok place) :
      Apart names place.trail.reverse := by
    have leads : place.trail.reverse = location.full := ((locate_eq_ok_iff dotless).mp located).2.1
    rwa [leads]
  rw [remove] at removed
  split at removed
  · cases removed
  · rename_i trail content located
    split at removed <;> cases removed
    exact find?_drop_of_apart (led located) store
  · rename_i trail entries located
    split at removed <;> cases removed
    · exact find?_drop_of_apart (led located) store
    · exact find?_put_of_apart (led located) store _

end Store

end Observe
