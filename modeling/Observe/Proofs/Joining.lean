import Observe.Expression.Path
import Observe.Proofs.Deepening
import Observe.Proofs.Displacement
import Observe.Proofs.Text

namespace Observe

/-! Two expressions with punctuation between them are read as one expression, and an expression in
brackets is read as a group. The parts keep their trees, but for the flag of a last step that comes
to be followed by another. -/

namespace Token

variable {front behind : List Spaced} {separator : TokenKind} {gap : List Char}
  {text other : String} {tokens otherTokens : List Token}

/-- Punctuation keeps apart whatever stands around it. -/
theorem Separate.around (before : Separate front) (lexeme : IsLexeme separator)
    (noWord : isWord separator = false) (blank : ∀ c ∈ gap, Text.isBlank c = true)
    (after : Separate behind) : Separate (front ++ ⟨separator, gap⟩ :: behind) := by
  induction front with
  | nil => exact separate_cons_iff.mpr ⟨lexeme, blank, by simp [noWord], after⟩
  | cons first rest ih =>
      obtain ⟨lexemeFirst, gapBlank, breaks, separate⟩ := separate_cons_iff.mp before
      refine separate_cons_iff.mpr ⟨lexemeFirst, gapBlank, fun word => ?_, ih separate⟩
      cases rest with
      | nil =>
          refine (breaks_chars_iff gapBlank ?_).mpr ?_
          · rintro token ⟨⟩
            exact lexeme
          · rintro token ⟨⟩ wordBehind
            rw [noWord] at wordBehind
            cases wordBehind
      | cons second others =>
          have lexemes : ∀ token ∈ (second :: others).head?, IsLexeme token.kind := by
            rintro token ⟨⟩
            exact separate.lexeme
          have gapped := (breaks_chars_iff gapBlank lexemes).mp (breaks word)
          refine (breaks_chars_iff gapBlank ?_).mpr ?_
          · rintro token ⟨⟩
            exact separate.lexeme
          · rintro token ⟨⟩
            exact gapped second rfl

theorem LaidOut.nothing : LaidOut "" [] :=
  ⟨[], [], List.forall_mem_nil _, trivial, rfl, rfl⟩

/-- Two texts with punctuation between them have the tokens of both. -/
theorem LaidOut.around (left : LaidOut text tokens) (separator : TokenKind)
    (lexeme : IsLexeme separator) (noWord : isWord separator = false)
    (right : LaidOut other otherTokens) :
    ∃ joined, LaidOut (text ++ separator.text ++ other) joined ∧
      joined.map Token.kind = tokens.map Token.kind ++ separator :: otherTokens.map Token.kind := by
  obtain ⟨lead, spaced, blank, separate, split, rfl⟩ := left
  obtain ⟨gap, otherSpaced, gapBlank, otherSeparate, otherSplit, rfl⟩ := right
  let whole := spaced ++ ⟨separator, gap⟩ :: otherSpaced
  refine ⟨placed (Text.byteLength lead) whole, ⟨lead, whole, blank, ?_, ?_, rfl⟩, ?_⟩
  · exact separate.around lexeme noWord gapBlank otherSeparate
  · simp [whole, split, otherSplit, chars]
  · simp [whole, map_kind_placed]

theorem LaidOut.brackets (inner : LaidOut text tokens) :
    ∃ grouped, LaidOut ("[" ++ text ++ "]") grouped ∧
      grouped.map Token.kind = .openBracket :: (tokens.map Token.kind ++ [.closeBracket]) := by
  obtain ⟨opened, laidOut, kinds⟩ := LaidOut.nothing.around .openBracket trivial rfl inner
  obtain ⟨grouped, whole, allKinds⟩ := laidOut.around .closeBracket trivial rfl LaidOut.nothing
  refine ⟨grouped, ?_, ?_⟩
  · simpa [TokenKind.text] using whole
  · simpa [kinds] using allKinds

end Token

theorem Path.endWith_cons (notify : Bool) (first : Step) {rest : Path}
    (nonempty : rest.isEmpty = false) :
    Path.endWith notify (first :: rest) = first :: Path.endWith notify rest := by
  cases rest with
  | nil => cases nonempty
  | cons second others => rfl

theorem Series.Derives.append {kinds otherKinds : List TokenKind} {series others : Series}
    (notify : Bool) (first : Series.Derives kinds series)
    (second : Series.Derives otherKinds others) :
    Series.Derives (kinds ++ .ofNotify notify :: otherKinds)
      (Path.endWith notify series ++ others) := by
  cases first with
  | last head =>
      cases notify with
      | true => exact .dot head second
      | false => exact .colon head second
  | dot head tail =>
      rw [Path.endWith_cons notify _ tail.isEmpty, List.append_assoc, List.cons_append]
      exact .dot head (tail.append notify second)
  | colon head tail =>
      rw [Path.endWith_cons notify _ tail.isEmpty, List.append_assoc, List.cons_append]
      exact .colon head (tail.append notify second)

theorem Expression.Derives.append {kinds otherKinds : List TokenKind} {left right : Expression}
    (first : Expression.Derives kinds left) (second : Expression.Derives otherKinds right) :
    Expression.Derives (kinds ++ .comma :: otherKinds) (left ++ right) := by
  cases first with
  | one head => exact .more head second
  | more head tail =>
      rw [List.append_assoc, List.cons_append]
      exact .more head (tail.append second)

/-- A dot or a colon joins the series on either side of it and leaves the other branches alone. -/
theorem Expression.Derives.joined {kinds otherKinds : List TokenKind} {left right : Expression}
    (first : Expression.Derives kinds left) (second : Expression.Derives otherKinds right) :
    ∃ front last head tail, left = front ++ [last] ∧ right = head :: tail ∧
      ∀ notify, Expression.Derives (kinds ++ .ofNotify notify :: otherKinds)
        (front ++ (Path.endWith notify last ++ head) :: tail) := by
  cases first with
  | @one _ last derived =>
      cases second with
      | @one _ head others =>
          exact ⟨[], last, head, [], rfl, rfl, fun notify => .one (derived.append notify others)⟩
      | @more _ _ head tail others later =>
          refine ⟨[], last, head, tail, rfl, rfl, fun notify => ?_⟩
          have joined := Expression.Derives.more (derived.append notify others) later
          rwa [List.append_assoc, List.cons_append] at joined
  | @more _ _ series _ derived more =>
      obtain ⟨front, last, head, tail, rfl, rfl, joined⟩ := more.joined second
      refine ⟨series :: front, last, head, tail, rfl, rfl, fun notify => ?_⟩
      rw [List.append_assoc, List.cons_append]
      exact .more derived (joined notify)

theorem Series.depth_append (front behind : Series) :
    Series.depth (front ++ behind) = max front.depth behind.depth := by
  induction front with
  | nil => exact (Nat.zero_max _).symm
  | cons step rest ih =>
      obtain ⟨element, notify⟩ := step
      simp only [List.cons_append, Series.depth, ih, Nat.max_assoc]

theorem Series.depth_endWith (notify : Bool) (path : Path) :
    Series.depth (Path.endWith notify path) = Series.depth path := by
  induction path using Path.endWith.induct with
  | case1 => rfl
  | case2 last =>
      obtain ⟨element, flag⟩ := last
      rfl
  | case3 first rest nonempty ih =>
      obtain ⟨element, flag⟩ := first
      rw [Path.endWith, Series.depth, Series.depth, ih]
      exact nonempty

theorem Expression.depth_append (front behind : Expression) :
    Expression.depth (front ++ behind) = max front.depth behind.depth := by
  induction front with
  | nil => exact (Nat.zero_max _).symm
  | cons series rest ih =>
      simp only [List.cons_append, Expression.depth, ih, Nat.max_assoc]

theorem Expression.depth_joined (front : Expression) (last head : Series) (tail : Expression)
    (notify : Bool) :
    Expression.depth (front ++ (Path.endWith notify last ++ head) :: tail) =
      max (Expression.depth (front ++ [last])) (Expression.depth (head :: tail)) := by
  simp only [Expression.depth_append, Expression.depth, Series.depth_append, Series.depth_endWith]
  omega

/-- With too low a limit on how deep groups nest, a bracket is one too many. -/
theorem Parser.expression_tooDeep {limit : Nat} {tokens : List Token} {value : Expression}
    (finish : Nat) (derived : Expression.Derives (tokens.map Token.kind) value)
    (deep : limit < value.depth) :
    ∃ position, (expression limit finish (.start tokens)).1 =
      .error (.nestingTooDeep position limit) := by
  have read := expression_reads finish derived (Nat.le_refl value.depth)
  rcases expression_wider (Nat.le_of_lt deep) finish tokens with same | tooDeep
  · rw [read] at same
    have shallow : value.depth ≤ limit := (reads_iff.mp same.symm).2
    omega
  · exact tooDeep

namespace Expression

open Token (LaidOut)

variable {front behind : String} {left right : Expression}

theorem parse_tooDeep {text : String} {tokens : List Token} {value : Expression}
    (laidOut : LaidOut text tokens) (derived : Expression.Derives (tokens.map Token.kind) value)
    (deep : Parser.maximalDepth < value.depth) :
    ∃ position, parse text = .error (.syntactic (.nestingTooDeep position Parser.maximalDepth)) := by
  obtain ⟨position, refused⟩ :=
    Parser.expression_tooDeep (Text.byteLength text.toList) derived deep
  refine ⟨position, ?_⟩
  rw [parse_of_tokens (Token.tokenize_eq_ok.mpr laidOut), refused]
  rfl

theorem parse_comma (readLeft : parse front = .ok left) (readRight : parse behind = .ok right) :
    parse (front ++ "," ++ behind) = .ok (left ++ right) := by
  obtain ⟨tokens, laidOut, derived, shallow⟩ := parse_eq_ok_iff.mp readLeft
  obtain ⟨others, laidOutBehind, derivedBehind, shallowBehind⟩ := parse_eq_ok_iff.mp readRight
  obtain ⟨joined, whole, kinds⟩ := laidOut.around .comma trivial rfl laidOutBehind
  refine parse_eq_ok_iff.mpr ⟨joined, whole, ?_, ?_⟩
  · rw [kinds]
    exact derived.append derivedBehind
  · rw [depth_append]
    exact Nat.max_le.mpr ⟨shallow, shallowBehind⟩

theorem parse_ofNotify (readLeft : parse front = .ok left) (readRight : parse behind = .ok right) :
    ∃ others last head tail, left = others ++ [last] ∧ right = head :: tail ∧
      ∀ notify, parse (front ++ (TokenKind.ofNotify notify).text ++ behind) =
        .ok (others ++ (Path.endWith notify last ++ head) :: tail) := by
  obtain ⟨tokens, laidOut, derived, shallow⟩ := parse_eq_ok_iff.mp readLeft
  obtain ⟨_, laidOutBehind, derivedBehind, shallowBehind⟩ := parse_eq_ok_iff.mp readRight
  obtain ⟨others, last, head, tail, rfl, rfl, derives⟩ := derived.joined derivedBehind
  refine ⟨others, last, head, tail, rfl, rfl, ?_⟩
  intro notify
  have lexeme : Token.IsLexeme (.ofNotify notify) := by
    cases notify <;> trivial
  have noWord : Token.isWord (.ofNotify notify) = false := by
    cases notify <;> rfl
  obtain ⟨joined, whole, kinds⟩ := laidOut.around _ lexeme noWord laidOutBehind
  refine parse_eq_ok_iff.mpr ⟨joined, whole, ?_, ?_⟩
  · rw [kinds]
    exact derives notify
  · rw [depth_joined]
    exact Nat.max_le.mpr ⟨shallow, shallowBehind⟩

theorem depth_group (branches : Expression) :
    Expression.depth [[⟨.group branches, false⟩]] = 1 + branches.depth := by
  simp [Expression.depth, Series.depth, Element.depth]

/-- Brackets make a group, unless the groups inside nest as deep as they may already. -/
theorem parse_brackets (read : parse front = .ok left) :
    (left.depth < Parser.maximalDepth →
      parse ("[" ++ front ++ "]") = .ok [[⟨.group left, false⟩]]) ∧
    (left.depth = Parser.maximalDepth → ∃ position, parse ("[" ++ front ++ "]") =
      .error (.syntactic (.nestingTooDeep position Parser.maximalDepth))) := by
  obtain ⟨tokens, laidOut, derived, _⟩ := parse_eq_ok_iff.mp read
  obtain ⟨grouped, whole, kinds⟩ := laidOut.brackets
  have derivedGroup : Expression.Derives (grouped.map Token.kind) [[⟨.group left, false⟩]] := by
    rw [kinds]
    exact .one (.last (.group derived))
  have deeper := depth_group left
  constructor
  · intro room
    exact parse_eq_ok_iff.mpr ⟨grouped, whole, derivedGroup, by omega⟩
  · intro full
    exact parse_tooDeep whole derivedGroup (by omega)

/-- What is read from a text that is put together is put together from what is read from its parts.
A comma adds branches. A dot or a colon makes one series of the two that it stands between, and its
flag is the one of the step before it. Brackets make a group while there is room for one more. -/
theorem parse_joined (readLeft : parse front = .ok left) (readRight : parse behind = .ok right) :
    parse (front ++ "," ++ behind) = .ok (left ++ right) ∧
    (∃ others last head tail, left = others ++ [last] ∧ right = head :: tail ∧
      parse (front ++ "." ++ behind) = .ok (others ++ (Path.endWith true last ++ head) :: tail) ∧
      parse (front ++ ":" ++ behind) =
        .ok (others ++ (Path.endWith false last ++ head) :: tail)) ∧
    (left.depth < Parser.maximalDepth →
      parse ("[" ++ front ++ "]") = .ok [[⟨.group left, false⟩]]) ∧
    (left.depth = Parser.maximalDepth → ∃ position, parse ("[" ++ front ++ "]") =
      .error (.syntactic (.nestingTooDeep position Parser.maximalDepth))) := by
  obtain ⟨others, last, head, tail, splitLeft, splitRight, joined⟩ :=
    parse_ofNotify readLeft readRight
  exact ⟨parse_comma readLeft readRight,
    ⟨others, last, head, tail, splitLeft, splitRight, joined true, joined false⟩,
    parse_brackets readLeft⟩

theorem parse_joined_atGroup :
    parse "a,[b]" = .ok [[⟨.trait "a", false⟩], [⟨.group [[⟨.trait "b", false⟩]], false⟩]] ∧
      parse "+m:items,c" =
        .ok [[⟨.metadata "m", false⟩, ⟨.items, false⟩], [⟨.trait "c", false⟩]] ∧
      parse ("a,[b]" ++ "." ++ "+m:items,c") =
        .ok [[⟨.trait "a", false⟩], [⟨.group [[⟨.trait "b", false⟩]], true⟩, ⟨.metadata "m", false⟩,
          ⟨.items, false⟩], [⟨.trait "c", false⟩]] := by
  have readLeft : parse "a,[b]" =
      .ok [[⟨.trait "a", false⟩], [⟨.group [[⟨.trait "b", false⟩]], false⟩]] := by cbv
  have readRight : parse "+m:items,c" =
      .ok [[⟨.metadata "m", false⟩, ⟨.items, false⟩], [⟨.trait "c", false⟩]] := by cbv
  obtain ⟨_, ⟨others, last, head, tail, splitLeft, splitRight, joined, _⟩, _⟩ :=
    parse_joined readLeft readRight
  have split : [_] ++ [_] = others ++ [last] := splitLeft
  obtain ⟨rfl, singleton⟩ := List.append_inj' split rfl
  cases singleton
  cases splitRight
  exact ⟨readLeft, readRight, joined⟩

end Expression

end Observe
