namespace Observe

/-- What a path can lead to. Names lead from a directory to what is in it, and so on from there. -/
inductive Entry where
  | file (content : ByteArray)
  | directory (entries : List (String × Entry))

namespace Entry

def isDirectory : Entry → Bool
  | directory _ => true
  | file _ => false

/-- What names lead to, the first of them from the entry itself. -/
def find? : Entry → List String → Option Entry
  | entry, [] => some entry
  | directory entries, name :: rest => (entries.lookup name).bind fun entry => entry.find? rest
  | file _, _ :: _ => none

def without (name : String) (entries : List (String × Entry)) : List (String × Entry) :=
  entries.filter (·.1 ≠ name)

/-- Replaces what names lead to. Directories that are missing on the way are made. -/
def put : Entry → List String → Entry → Entry
  | _, [], new => new
  | directory entries, name :: rest, new =>
      let old := (entries.lookup name).getD (directory [])
      directory ((name, old.put rest new) :: without name entries)
  | file content, _ :: _, _ => file content

/-- Drops what names lead to, with everything in it. -/
def drop : Entry → List String → Entry
  | entry, [] => entry
  | directory entries, [name] => directory (without name entries)
  | directory entries, name :: next :: rest =>
      match entries.lookup name with
      | some entry => directory ((name, entry.drop (next :: rest)) :: without name entries)
      | none => directory entries
  | file content, _ :: _ => file content

theorem lookup_without_of_ne {name other : String} (entries : List (String × Entry))
    (distinct : other ≠ name) : (without name entries).lookup other = entries.lookup other := by
  unfold without
  induction entries with
  | nil => rfl
  | cons first rest ih =>
      obtain ⟨key, entry⟩ := first
      by_cases same : key = name
      · subst key
        have missed : (other == name) = false := by simpa using distinct
        simpa [List.lookup_cons, missed] using ih
      · by_cases found : other = key
        · subst found
          simp [same]
        · have missed : (other == key) = false := by simpa using found
          simpa [same, List.lookup_cons, missed] using ih

theorem lookup_replaced {name other : String} (entries : List (String × Entry)) (new : Entry) :
    ((name, new) :: without name entries).lookup other =
      if other = name then some new else entries.lookup other := by
  by_cases same : other = name
  · simp [same]
  · have missed : (other == name) = false := by simpa using same
    rw [List.lookup_cons, missed, if_neg same]
    exact lookup_without_of_ne entries same

@[simp] theorem find?_nil (entry : Entry) : entry.find? [] = some entry := by
  cases entry <;> rfl

theorem find?_append (before after : List String) (entry : Entry) :
    entry.find? (before ++ after) = (entry.find? before).bind fun below => below.find? after := by
  induction before generalizing entry with
  | nil => simp
  | cons name rest ih =>
      cases entry with
      | file content => rfl
      | directory entries =>
          cases found : entries.lookup name with
          | none => simp [find?, found]
          | some below => simpa [find?, found] using ih below

/-- Below a directory that is there, an entry is found where it was put. -/
theorem find?_put_self {above : List String} {root : Entry} {entries : List (String × Entry)}
    (name : String) (new : Entry) (reached : root.find? above = some (directory entries)) :
    (root.put (above ++ [name]) new).find? (above ++ [name]) = some new := by
  induction above generalizing root with
  | nil =>
      simp only [find?_nil, Option.some.injEq] at reached
      subst root
      simp [put, find?]
  | cons first rest ih =>
      cases root with
      | file content => simp [find?] at reached
      | directory siblings =>
          cases found : siblings.lookup first with
          | none => simp [find?, found] at reached
          | some below =>
              have belowReached : below.find? rest = some (directory entries) := by
                simpa [find?, found] using reached
              simpa [put, find?, found, lookup_replaced] using ih belowReached

/-- To put an entry does not change what other names lead to. -/
theorem find?_put_of_apart {names others : List String} (root new : Entry)
    (below : names.isPrefixOf others = false) (above : others.isPrefixOf names = false) :
    (root.put names new).find? others = root.find? others := by
  induction names generalizing others root with
  | nil => simp at below
  | cons name rest ih =>
      cases others with
      | nil => simp at above
      | cons other others =>
          cases root with
          | file content => rfl
          | directory entries =>
              simp only [put, find?, lookup_replaced]
              by_cases same : other = name
              · subst other
                simp only [List.isPrefixOf, BEq.rfl, Bool.true_and] at below above
                cases found : entries.lookup name with
                | some old => simpa using ih old below above
                | none =>
                    have nothing := ih (directory []) below above
                    cases others with
                    | nil => simp at above
                    | cons next others => simpa [find?] using nothing
              · simp [same]

/-- To drop an entry does not change what other names lead to. -/
theorem find?_drop_of_apart {names others : List String} (root : Entry)
    (below : names.isPrefixOf others = false) (above : others.isPrefixOf names = false) :
    (root.drop names).find? others = root.find? others := by
  induction names generalizing others root with
  | nil => simp at below
  | cons name rest ih =>
      cases others with
      | nil => simp at above
      | cons other others =>
          cases root with
          | file content => cases rest <;> rfl
          | directory entries =>
              by_cases same : other = name
              · subst other
                simp only [List.isPrefixOf, BEq.rfl, Bool.true_and] at below above
                cases rest with
                | nil => simp at below
                | cons next rest =>
                    cases found : entries.lookup name with
                    | none => simp [drop, found]
                    | some old =>
                        simpa [drop, find?, found, lookup_replaced] using ih old below above
              · cases rest with
                | nil => simp only [drop, find?, lookup_without_of_ne entries same]
                | cons next rest =>
                    cases found : entries.lookup name with
                    | none => simp [drop, found]
                    | some old => simp [drop, find?, found, lookup_replaced, same]

end Entry

end Observe
