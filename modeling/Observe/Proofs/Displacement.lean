import Observe.Proofs.Concatenation
import Observe.Proofs.Grammar
import Observe.Proofs.Prefix

namespace Observe

open Observe.Text

/-! Blanks that are put between the parts of a text move the positions behind them, and change
nothing else. -/

/-- Where a position comes to be when so many bytes are put in at a place. -/
def Text.inserted (place size position : Nat) : Nat :=
  if position < place then position else position + size

def Token.displaced (move : Nat → Nat) (token : Token) : Token :=
  ⟨token.kind, move token.position⟩

def LexicalError.displaced (move : Nat → Nat) (error : LexicalError) : LexicalError :=
  ⟨error.character, move error.position⟩

def SyntaxError.displaced (move : Nat → Nat) : SyntaxError → SyntaxError
  | .unexpectedToken position found expected => .unexpectedToken (move position) found expected
  | .unexpectedEnd position expected => .unexpectedEnd (move position) expected
  | .nestingTooDeep position limit => .nestingTooDeep (move position) limit

def ExpressionError.displaced (move : Nat → Nat) : ExpressionError → ExpressionError
  | .lexical error => .lexical (error.displaced move)
  | .syntactic error => .syntactic (error.displaced move)

namespace ScanMode

variable {limit opened : Nat} {mode : ScanMode} {move : Nat → Nat}

theorem step_displaced (token : Token) :
    mode.step limit opened (token.displaced move) =
      (mode.step limit opened token).mapError (SyntaxError.displaced move) := by
  obtain ⟨kind, position⟩ := token
  by_cases group : mode = elementNext ∧ kind = .openBracket
  · obtain ⟨rfl, rfl⟩ := group
    by_cases room : opened < limit
    · rw [step_openBracket rfl room, step_openBracket rfl room]
      rfl
    · have full := Nat.not_lt.mp room
      rw [step_openBracket_full rfl full, step_openBracket_full rfl full]
      rfl
  · cases mode <;> cases kind <;> cases opened <;> first | rfl | simp at group

theorem scan_displaced (move : Nat → Nat) (limit finish : Nat) (mode : ScanMode) (opened : Nat)
    (tokens : List Token) :
    mode.scan limit (move finish) opened (tokens.map (Token.displaced move)) =
      (mode.scan limit finish opened tokens).mapError (SyntaxError.displaced move) := by
  induction tokens generalizing mode opened with
  | nil =>
      simp only [List.map_nil, scan]
      split <;> rfl
  | cons token rest ih =>
      rw [List.map_cons, scan, scan, step_displaced]
      cases mode.step limit opened token with
      | error error => rfl
      | ok state => exact ih state.1 state.2

end ScanMode

namespace Parser

/-- The parser reads the kinds of the tokens and hands their positions on. -/
theorem expression_displaced (move : Nat → Nat) (limit finish : Nat) (tokens : List Token) :
    (expression limit (move finish) (.start (tokens.map (Token.displaced move)))).1 =
      (expression limit finish (.start tokens)).1.mapError (SyntaxError.displaced move) := by
  cases result : (expression limit finish (.start tokens)).1 with
  | ok value =>
      obtain ⟨derived, shallow⟩ := reads_iff.mp result
      have kinds : (tokens.map (Token.displaced move)).map Token.kind = tokens.map Token.kind := by
        simp [Token.displaced, Function.comp_def]
      rw [← kinds] at derived
      exact reads_iff.mpr ⟨derived, shallow⟩
  | error error =>
      have scanned := ScanMode.scan_displaced move limit finish .elementNext 0 tokens
      rw [scan_of_refused result] at scanned
      exact refused_iff_scan.mpr scanned

end Parser

namespace Token

variable {text other : String} {move otherMove : Nat → Nat} {cursor : Cursor} {first last : Nat}

/-- What the lexer finds, at other positions. -/
def displace (move : Nat → Nat) :
    List Token × Option LexicalError → List Token × Option LexicalError :=
  Prod.map (List.map (Token.displaced move)) (Option.map (LexicalError.displaced move))

def Reading.displaced (shift : Nat) : Reading → Reading
  | .token found => .token (found.displaced (· + shift))
  | .finished => .finished
  | .rejected error => .rejected (error.displaced (· + shift))

namespace Cursor

def displaced (shift : Nat) (cursor : Cursor) : Cursor := ⟨cursor.rest, cursor.position + shift⟩

theorem skip_displaced (shift : Nat) (test : Char → Bool) (cursor : Cursor) :
    (cursor.displaced shift).skip test = (cursor.skip test).displaced shift := by
  simp only [skip, displaced, Nat.add_right_comm]

theorem read_displaced (shift : Nat) (here : Cursor) :
    (here.displaced shift).read =
      (Reading.displaced shift here.read.1, here.read.2.displaced shift) := by
  have skipped := skip_displaced shift isNamePart here
  obtain ⟨rest, position⟩ := here
  cases rest with
  | nil => rfl
  | cons c rest =>
      simp only [displaced] at skipped
      simp only [read, displaced]
      cases TokenKind.ofPunctuation? c with
      | some kind => simp only [Reading.displaced, Token.displaced, Nat.add_right_comm]
      | none =>
          cases isNameStart c with
          | true =>
              simp only [if_true, skipped]
              rfl
          | false => rfl

theorem next_displaced (shift : Nat) (cursor : Cursor) :
    (cursor.displaced shift).next =
      (Reading.displaced shift cursor.next.1, cursor.next.2.displaced shift) := by
  rw [next, skip_displaced, read_displaced, next]

theorem scan_displaced (shift : Nat) (cursor : Cursor) :
    (cursor.displaced shift).scan = displace (· + shift) cursor.scan := by
  induction cursor using Cursor.scan.induct with
  | case1 cursor token after found others error rest ih =>
      have foundThere := next_displaced shift cursor
      rw [found] at foundThere
      rw [scan_token found, scan_token foundThere, ih]
      rfl
  | case2 cursor after found =>
      have foundThere := next_displaced shift cursor
      rw [found] at foundThere
      rw [scan_finished found, scan_finished foundThere]
      rfl
  | case3 cursor error after found =>
      have foundThere := next_displaced shift cursor
      rw [found] at foundThere
      rw [scan_rejected found, scan_rejected foundThere]
      rfl

/-- The positions of all that the lexer finds lie between two. -/
structure Within (first last : Nat) (found : List Token × Option LexicalError) : Prop where
  token : ∀ token ∈ found.1, first ≤ token.position ∧ token.position < last
  error : ∀ error ∈ found.2, first ≤ error.position ∧ error.position < last

theorem scan_within (cursor : Cursor) :
    Within cursor.position (cursor.position + byteLength cursor.rest) cursor.scan := by
  induction cursor using Cursor.scan.induct with
  | case1 cursor token after found others error rest ih =>
      obtain ⟨used, split, ends, lower, upper⟩ := next_consumes found
      have longer : byteLength cursor.rest = byteLength used + byteLength after.rest := by
        rw [split, byteLength_append]
      rw [scan_token found]
      refine ⟨?_, ?_⟩
      · intro other member
        rcases List.mem_cons.mp member with rfl | later
        · omega
        · have bounds := ih.token other later
          omega
      · intro error member
        have bounds := ih.error error member
        omega
  | case2 cursor after found =>
      rw [scan_finished found]
      exact ⟨List.forall_mem_nil _, by simp⟩
  | case3 cursor error after found =>
      obtain ⟨blanks, rest, split, _, _, _, _, begins⟩ := next_rejected found
      have longer : byteLength cursor.rest =
          byteLength blanks + (error.character.utf8Size + byteLength rest) := by
        rw [split, byteLength_append, byteLength_cons]
      have positive := error.character.utf8Size_pos
      rw [scan_rejected found]
      refine ⟨List.forall_mem_nil _, ?_⟩
      intro other member
      cases member
      omega

theorem Within.displace_congr {found : List Token × Option LexicalError}
    (within : Within first last found)
    (agree : ∀ position, first ≤ position → position < last → move position = otherMove position) :
    displace move found = displace otherMove found := by
  obtain ⟨tokens, error⟩ := found
  refine Prod.ext ?_ ?_
  · refine List.map_congr_left fun token member => ?_
    obtain ⟨lower, upper⟩ := within.token token member
    simp only [Token.displaced, agree token.position lower upper]
  · refine Option.map_congr fun error member => ?_
    obtain ⟨lower, upper⟩ := within.error error member
    simp only [LexicalError.displaced, agree error.position lower upper]

theorem displace_id (found : List Token × Option LexicalError) : displace id found = found := by
  have sameToken : Token.displaced id = id := rfl
  have sameError : LexicalError.displaced id = id := rfl
  simp [displace, sameToken, sameError]

theorem displace_followedBy (move : Nat → Nat) (front behind : List Token × Option LexicalError) :
    displace move (followedBy front behind) =
      followedBy (displace move front) (displace move behind) := by
  obtain ⟨tokens, error⟩ := front
  cases error with
  | none => simp [displace, followedBy]
  | some error => rfl

theorem Within.displace_before {found : List Token × Option LexicalError} {place : Nat}
    (within : Within first last found) (before : last ≤ place) (size : Nat) :
    displace (inserted place size) found = found := by
  have kept : displace (inserted place size) found = displace id found := by
    refine within.displace_congr fun position _ upper => ?_
    have earlier : position < place := Nat.lt_of_lt_of_le upper before
    simp only [inserted, if_pos earlier, id]
  rw [kept, displace_id]

theorem Within.displace_behind {found : List Token × Option LexicalError} {place : Nat}
    (within : Within first last found) (behind : place ≤ first) (size : Nat) :
    displace (inserted place size) found = displace (· + size) found := by
  refine within.displace_congr fun position lower _ => ?_
  have later : ¬ position < place := Nat.not_lt.mpr (Nat.le_trans behind lower)
  simp only [inserted, if_neg later]

theorem scan_insert_blanks {front behind blanks : List Char}
    (blank : ∀ c ∈ blanks, isBlank c = true) (apart : Apart front behind) :
    Cursor.scan ⟨front ++ (blanks ++ behind), 0⟩ =
      displace (inserted (byteLength front) (byteLength blanks))
        (Cursor.scan ⟨front ++ behind, 0⟩) := by
  let here : Cursor := ⟨front, 0⟩
  let there : Cursor := ⟨behind, 0 + byteLength front⟩
  have atFront : 0 + byteLength front ≤ byteLength front := Nat.le_of_eq (Nat.zero_add _)
  have atBehind : byteLength front ≤ there.position := Nat.le_of_eq (Nat.zero_add _).symm
  have frontKept := (scan_within here).displace_before atFront (byteLength blanks)
  have behindMoved := (scan_within there).displace_behind atBehind (byteLength blanks)
  have skipped : Cursor.scan ⟨blanks ++ behind, 0 + byteLength front⟩ =
      (there.displaced (byteLength blanks)).scan :=
    scan_congr (next_blanks blank behind (0 + byteLength front))
  calc Cursor.scan ⟨front ++ (blanks ++ behind), 0⟩
      = followedBy here.scan (Cursor.scan ⟨blanks ++ behind, 0 + byteLength front⟩) :=
        scan_append here (apart.blanks blank)
    _ = followedBy here.scan (displace (· + byteLength blanks) there.scan) := by
        rw [skipped, scan_displaced]
    _ = displace (inserted (byteLength front) (byteLength blanks))
          (followedBy here.scan there.scan) := by
        rw [displace_followedBy, frontKept, behindMoved]
    _ = displace (inserted (byteLength front) (byteLength blanks))
          (Cursor.scan ⟨front ++ behind, 0⟩) := by
        rw [← scan_append here apart]

end Cursor

theorem tokenize_of_displaced
    (found : (Cursor.start other).scan = displace move (Cursor.start text).scan) :
    tokenize other =
      ((tokenize text).map (List.map (Token.displaced move))).mapError
        (LexicalError.displaced move) := by
  unfold tokenize
  rw [found]
  rcases (Cursor.start text).scan with ⟨tokens, _ | error⟩ <;> rfl

end Token

namespace Expression

variable {text : String}

theorem parse_of_tokens {tokens : List Token} (cut : Token.tokenize text = .ok tokens) :
    parse text =
      (Parser.expression Parser.maximalDepth (byteLength text.toList) (.start tokens)).1.mapError
        .syntactic := by
  simp only [parse, cut]
  rcases Parser.expression Parser.maximalDepth (byteLength text.toList) (.start tokens) with
    ⟨_ | _, _⟩ <;> rfl

theorem parse_of_lexicalError {error : LexicalError} (cut : Token.tokenize text = .error error) :
    parse text = .error (.lexical error) := by
  simp only [parse, cut]

/-- Blanks between two parts of a text that no word joins change what is read from it only in the
positions behind them. -/
theorem parse_insert_blanks {front blanks behind : String} (blank : allBlank blanks = true)
    (apart : Token.Apart front.toList behind.toList) :
    parse (front ++ blanks ++ behind) =
      (parse (front ++ behind)).mapError (ExpressionError.displaced
        (inserted (byteLength front.toList) (byteLength blanks.toList))) := by
  let move := inserted (byteLength front.toList) (byteLength blanks.toList)
  have found : (Token.Cursor.start (front ++ blanks ++ behind)).scan =
      Token.displace move (Token.Cursor.start (front ++ behind)).scan := by
    have scanned := Token.Cursor.scan_insert_blanks (List.all_eq_true.mp blank) apart
    simpa only [Token.Cursor.start, String.toList_append, List.append_assoc] using scanned
  have cutThere := Token.tokenize_of_displaced found
  have finish : byteLength (front ++ blanks ++ behind).toList =
      move (byteLength (front ++ behind).toList) := by
    simp only [String.toList_append, byteLength_append, move, inserted]
    rw [if_neg (by omega)]
    omega
  cases cut : Token.tokenize (front ++ behind) with
  | error error =>
      rw [cut] at cutThere
      rw [parse_of_lexicalError cut, parse_of_lexicalError cutThere]
      rfl
  | ok tokens =>
      rw [cut] at cutThere
      rw [parse_of_tokens cut, parse_of_tokens cutThere, finish, Parser.expression_displaced]
      rcases (Parser.expression Parser.maximalDepth (byteLength (front ++ behind).toList)
        (.start tokens)).1 with _ | _ <;> rfl

theorem parse_insert_blanks_inGroup :
    allBlank "\u3000\n" = true ∧ Token.Apart "[a".toList ".+]".toList ∧
      parse ("[a" ++ "\u3000\n" ++ ".+]") =
        .error (.syntactic (.unexpectedToken 8 .closeBracket metadataNameWanted)) := by
  have blank : allBlank "\u3000\n" = true := by decide
  have apart : Token.Apart "[a".toList ".+]".toList := by
    intro c last part d next
    obtain rfl : '.' = d := by simpa using next
    rfl
  have cut : Token.tokenize ("[a" ++ ".+]") = .ok [⟨.openBracket, 0⟩, ⟨.name "a", 1⟩, ⟨.dot, 2⟩,
      ⟨.plus, 3⟩, ⟨.closeBracket, 4⟩] := by
    have name : IsName "a" := ⟨⟨'a', [], rfl, rfl, List.forall_mem_nil _⟩, by decide⟩
    refine Token.tokenize_eq_ok.mpr ⟨[], [⟨.openBracket, []⟩, ⟨.name "a", []⟩, ⟨.dot, []⟩,
      ⟨.plus, []⟩, ⟨.closeBracket, []⟩], List.forall_mem_nil _, ?_, by decide, rfl⟩
    simp [Token.Separate, Token.IsLexeme, name, Token.isWord]
  have read : parse ("[a" ++ ".+]") =
      .error (.syntactic (.unexpectedToken 4 .closeBracket metadataNameWanted)) := by
    rw [parse_of_tokens cut, Parser.refused_iff_scan.mpr rfl]
    rfl
  refine ⟨blank, apart, ?_⟩
  rw [parse_insert_blanks blank apart, read]
  rfl

end Expression

end Observe
