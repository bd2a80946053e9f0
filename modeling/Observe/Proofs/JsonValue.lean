import Observe.Proofs.JsonText

namespace Observe.Json

/-- A value is read from the front of some tokens, and others are left. -/
def Reads (tokens : List Token) (json : Json) (rest : List Token) : Prop :=
  ∃ shorter, value? tokens = some ⟨json, rest, shorter⟩

/-- Items are read together with the bracket after them. -/
def ReadsItems (tokens : List Token) (items : List Json) (rest : List Token) : Prop :=
  ∃ shorter, items? tokens = some ⟨items, rest, shorter⟩

def ReadsMembers (tokens : List Token) (members : List (Option String × Json))
    (rest : List Token) : Prop :=
  ∃ shorter, members? tokens = some ⟨members, rest, shorter⟩

variable {given more rest : List Token} {json : Json} {items : List Json} {name : Option String}
  {members : List (Option String × Json)}

theorem Reads.null : Reads (.null :: rest) .null rest := ⟨_, by rw [value?]⟩

theorem Reads.boolean (value : Bool) : Reads (.boolean value :: rest) (.boolean value) rest :=
  ⟨_, by rw [value?]⟩

theorem Reads.number (literal : String) : Reads (.number literal :: rest) (.number literal) rest :=
  ⟨_, by rw [value?]⟩

theorem Reads.string (text : Option String) : Reads (.string text :: rest) (.string text) rest :=
  ⟨_, by rw [value?]⟩

theorem Reads.emptyArray : Reads (.openArray :: .closeArray :: rest) (.array []) rest :=
  ⟨_, by rw [value?]⟩

theorem Reads.emptyObject : Reads (.openObject :: .closeObject :: rest) (.object []) rest :=
  ⟨_, by rw [value?]⟩

theorem ReadsItems.last (read : Reads given json (.closeArray :: rest)) :
    ReadsItems given [json] rest := by
  obtain ⟨shorter, read⟩ := read
  exact ⟨_, by rw [items?, read]⟩

theorem ReadsItems.cons (read : Reads given json (.comma :: more))
    (others : ReadsItems more items rest) : ReadsItems given (json :: items) rest := by
  obtain ⟨shorter, read⟩ := read
  obtain ⟨less, others⟩ := others
  exact ⟨_, by rw [items?, read]; dsimp only; rw [others]⟩

theorem ReadsMembers.last (read : Reads given json (.closeObject :: rest)) :
    ReadsMembers (.string name :: .colon :: given) [(name, json)] rest := by
  obtain ⟨shorter, read⟩ := read
  exact ⟨_, by rw [members?, read]⟩

theorem ReadsMembers.cons (read : Reads given json (.comma :: more))
    (others : ReadsMembers more members rest) :
    ReadsMembers (.string name :: .colon :: given) ((name, json) :: members) rest := by
  obtain ⟨shorter, read⟩ := read
  obtain ⟨less, others⟩ := others
  exact ⟨_, by rw [members?, read]; dsimp only; rw [others]⟩

theorem value?_closeArray (rest : List Token) : value? (.closeArray :: rest) = none := by
  rw [value?.eq_def]

theorem ReadsItems.array (read : ReadsItems given items rest) :
    Reads (.openArray :: given) (.array items) rest := by
  obtain ⟨shorter, read⟩ := read
  refine ⟨Nat.lt_succ_of_lt shorter, ?_⟩
  rw [value?]
  · rw [read]
  · -- No item begins with the bracket that ends the array.
    rintro _ rfl
    rw [items?, value?_closeArray] at read
    cases read

theorem ReadsMembers.object (read : ReadsMembers given members rest) :
    Reads (.openObject :: given) (.object members) rest := by
  obtain ⟨shorter, read⟩ := read
  refine ⟨Nat.lt_succ_of_lt shorter, ?_⟩
  rw [value?]
  · rw [read]
  · rintro _ rfl
    rw [members?.eq_def] at read
    cases read

def tokens (level : Nat) (json : Json) : List Token := (json.pieces level).filterMap Piece.token?

def itemTokens (level : Nat) (items : List Json) : List Token :=
  (itemPieces level items).filterMap Piece.token?

def memberTokens (level : Nat) (members : List (Option String × Json)) : List Token :=
  (memberPieces level members).filterMap Piece.token?

theorem tokens_array (level : Nat) (items : List Json) :
    (array items).tokens level = .openArray :: (itemTokens level items ++ [.closeArray]) := by
  simp [tokens, pieces, itemTokens, Piece.token?]

theorem tokens_object (level : Nat) (members : List (Option String × Json)) :
    (object members).tokens level =
      .openObject :: (memberTokens level members ++ [.closeObject]) := by
  simp [tokens, pieces, memberTokens, Piece.token?]

theorem itemTokens_singleton (level : Nat) (item : Json) :
    itemTokens level [item] = item.tokens (level + 1) := by
  simp [itemTokens, itemPieces, tokens, Piece.token?, List.filterMap_cons]

theorem itemTokens_cons (level : Nat) (item next : Json) (others : List Json) :
    itemTokens level (item :: next :: others) =
      item.tokens (level + 1) ++ .comma :: itemTokens level (next :: others) := by
  simp [itemTokens, itemPieces, tokens, Piece.token?, List.filterMap_cons]

theorem memberTokens_singleton (level : Nat) (name : Option String) (value : Json) :
    memberTokens level [(name, value)] = .string name :: .colon :: value.tokens (level + 1) := by
  simp [memberTokens, memberPieces, tokens, Piece.token?, List.filterMap_cons]

theorem memberTokens_cons (level : Nat) (name : Option String) (value : Json)
    (next : Option String × Json) (others : List (Option String × Json)) :
    memberTokens level ((name, value) :: next :: others) =
      .string name :: .colon :: (value.tokens (level + 1) ++
        .comma :: memberTokens level (next :: others)) := by
  simp [memberTokens, memberPieces, tokens, Piece.token?, List.filterMap_cons]

mutual

theorem reads_tokens (json : Json) (level : Nat) (rest : List Token) :
    Reads (json.tokens level ++ rest) json rest :=
  match json with
  | .null => .null
  | .boolean value => .boolean value
  | .number literal => .number literal
  | .string text => .string text
  | .array [] => .emptyArray
  | .object [] => .emptyObject
  | .array (first :: others) => by
      have inside := reads_itemTokens (first :: others) (List.cons_ne_nil _ _) level rest
      rw [tokens_array, List.cons_append, List.append_assoc]
      exact inside.array
  | .object (first :: others) => by
      have inside := reads_memberTokens (first :: others) (List.cons_ne_nil _ _) level rest
      rw [tokens_object, List.cons_append, List.append_assoc]
      exact inside.object
termination_by structural json

theorem reads_itemTokens (items : List Json) (nonempty : items ≠ []) (level : Nat)
    (rest : List Token) :
    ReadsItems (itemTokens level items ++ .closeArray :: rest) items rest :=
  match items with
  | [] => absurd rfl nonempty
  | [item] => by
      rw [itemTokens_singleton]
      apply ReadsItems.last
      exact reads_tokens item (level + 1) _
  | item :: next :: others => by
      rw [itemTokens_cons, List.append_assoc, List.cons_append]
      apply ReadsItems.cons
      · exact reads_tokens item (level + 1) _
      · exact reads_itemTokens (next :: others) (List.cons_ne_nil _ _) level rest
termination_by structural items

theorem reads_memberTokens (members : List (Option String × Json)) (nonempty : members ≠ [])
    (level : Nat) (rest : List Token) :
    ReadsMembers (memberTokens level members ++ .closeObject :: rest) members rest :=
  match members with
  | [] => absurd rfl nonempty
  | [(name, value)] => by
      rw [memberTokens_singleton]
      apply ReadsMembers.last
      exact reads_tokens value (level + 1) _
  | (name, value) :: next :: others => by
      rw [memberTokens_cons, List.cons_append, List.cons_append, List.append_assoc,
        List.cons_append]
      apply ReadsMembers.cons
      · exact reads_tokens value (level + 1) _
      · exact reads_memberTokens (next :: others) (List.cons_ne_nil _ _) level rest
termination_by structural members

end

/-- No number occurs in the text of the value. -/
def Unnumbered (json : Json) : Prop :=
  ∀ level lexeme, Piece.token lexeme ∈ json.pieces level → lexeme.isNumber = false

theorem unnumbered_of_alone {json : Json} {lexeme : Token}
    (alone : ∀ level, json.pieces level = [.token lexeme]) (noNumber : lexeme.isNumber = false) :
    json.Unnumbered := by
  intro level other member
  rw [alone, List.mem_singleton] at member
  cases member
  exact noNumber

theorem unnumbered_string (text : Option String) : Unnumbered (.string text) :=
  unnumbered_of_alone (fun _ => rfl) rfl

theorem unnumbered_boolean (value : Bool) : Unnumbered (.boolean value) :=
  unnumbered_of_alone (fun _ => rfl) rfl

theorem isNumber_of_mem_itemPieces {items : List Json} (all : ∀ item ∈ items, item.Unnumbered)
    {level : Nat} {lexeme : Token} (member : .token lexeme ∈ itemPieces level items) :
    lexeme.isNumber = false := by
  induction items with
  | nil => cases member
  | cons item rest ih =>
      obtain ⟨first, others⟩ := List.forall_mem_cons.mp all
      simp only [itemPieces, List.mem_cons, List.mem_append, reduceCtorEq, false_or] at member
      rcases member with here | later
      · exact first _ _ here
      · split at later
        · simp at later
        · rcases List.mem_cons.mp later with comma | further
          · cases comma
            rfl
          · exact ih others further

theorem unnumbered_array {items : List Json} (all : ∀ item ∈ items, item.Unnumbered) :
    Unnumbered (.array items) := by
  intro level lexeme member
  simp only [pieces, List.mem_cons, List.mem_append, List.not_mem_nil, or_false,
    Piece.token.injEq] at member
  rcases member with rfl | among | rfl
  · rfl
  · exact isNumber_of_mem_itemPieces all among
  · rfl

theorem unnumbered_member (name : Option String) {value : Json} (unnumbered : value.Unnumbered) :
    Unnumbered (.object [(name, value)]) := by
  intro level lexeme member
  simp only [pieces, memberPieces, List.isEmpty_nil, if_pos, List.mem_cons, List.mem_append,
    List.not_mem_nil, or_false, Piece.token.injEq, reduceCtorEq, false_or] at member
  rcases member with rfl | (rfl | rfl | among) | rfl
  · rfl
  · rfl
  · rfl
  · exact unnumbered _ _ among
  · rfl

theorem parse?_of_readAll? {text : String} {json : Json} {level : Nat}
    (cut : Token.readAll? text.toList = some (json.tokens level)) : parse? text = some json := by
  have read := reads_tokens json level []
  rw [List.append_nil] at read
  obtain ⟨shorter, read⟩ := read
  unfold parse?
  rw [cut]
  dsimp only
  rw [read]

theorem parse?_compact {json : Json} (unnumbered : json.Unnumbered) :
    parse? json.compact = some json := by
  apply parse?_of_readAll?
  rw [compact, String.toList_ofList]
  exact Piece.readAll?_compactChars_eq (unnumbered 0)

theorem parse?_pretty {json : Json} (unnumbered : json.Unnumbered) :
    parse? json.pretty = some json := by
  apply parse?_of_readAll?
  rw [pretty, String.toList_ofList]
  exact Piece.readAll?_chars_eq (unnumbered 0)

end Observe.Json
