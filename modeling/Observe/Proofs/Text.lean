import Mathlib
import Observe.Proofs.Grammar
import Observe.Proofs.Lexer
import Observe.Proofs.Spelling

namespace Observe

open Text

namespace Expression

open Token (LaidOut)

/-- A text is read as a tree if it is laid out as tokens that the tree derives from. -/
theorem parse_eq_ok_iff {text : String} {value : Expression} :
    parse text = .ok value ↔ ∃ tokens, LaidOut text tokens ∧
      Expression.Derives (tokens.map Token.kind) value ∧ value.depth ≤ Parser.maximalDepth := by
  constructor
  · intro read
    unfold parse at read
    split at read
    · cases read
    · rename_i tokens cut
      refine ⟨tokens, Token.tokenize_eq_ok.mp cut, ?_⟩
      dsimp only at read
      split at read
      · cases read
      · rename_i accepted
        cases read
        exact Parser.reads_iff.mp (Prod.ext_iff.mp accepted).1
  · rintro ⟨tokens, laidOut, derived, shallow⟩
    have cut := Token.tokenize_eq_ok.mpr laidOut
    simp only [parse, cut, Parser.expression_reads _ derived shallow]

variable {text : String} {value : Expression}

theorem wellFormed_of_parse (read : parse text = .ok value) : value.WellFormed := by
  obtain ⟨tokens, laidOut, derived, shallow⟩ := parse_eq_ok_iff.mp read
  exact ⟨derived.proper laidOut.lexemes, shallow⟩

/-- A well-formed tree is read back from its canonical text. -/
theorem parse_text (wellFormed : value.WellFormed) : parse value.text = .ok value := by
  obtain ⟨proper, shallow⟩ := wellFormed
  obtain ⟨derived, lexemes⟩ := Expression.Proper.derives value proper
  let tokens := Token.placed 0 (Token.dense value.kinds)
  have kinds : tokens.map Token.kind = value.kinds := by
    simp [tokens, Token.map_kind_placed, Token.dense, Function.comp_def]
  rw [← kinds] at derived lexemes
  have read := Parser.expression_reads 0 derived shallow
  have passed := (Parser.expression_read read).1.passed
  have separate : Token.Separate (Token.dense (tokens.map Token.kind)) :=
    Token.separate_dense passed (List.forall_mem_map.mp lexemes)
  rw [kinds] at separate
  refine parse_eq_ok_iff.mpr ⟨tokens, ⟨[], Token.dense value.kinds, ?_, separate, ?_, rfl⟩,
    derived, shallow⟩
  · exact List.forall_mem_nil _
  · exact (Token.chars_dense value.kinds).symm

/-- Reading loses nothing but blanks. -/
theorem text_of_parse (read : parse text = .ok value) : value.text = withoutBlanks text := by
  obtain ⟨tokens, laidOut, derived, _⟩ := parse_eq_ok_iff.mp read
  rw [laidOut.withoutBlanks, Expression.text, derived.kinds_eq]

theorem eq_of_text_eq {other : Expression} (wellFormed : value.WellFormed)
    (otherWellFormed : other.WellFormed) (same : value.text = other.text) : value = other := by
  have read := parse_text wellFormed
  rw [same, parse_text otherWellFormed] at read
  exact (Except.ok.inj read).symm

/-- What is read is well formed, and the well-formed trees are those that are read back from their
own text. -/
theorem parse_text_eq_ok_iff :
    (∀ text value, parse text = .ok value → value.WellFormed) ∧
      ∀ value : Expression, parse value.text = .ok value ↔ value.WellFormed :=
  ⟨fun _ _ => wellFormed_of_parse, fun _ => ⟨wellFormed_of_parse, parse_text⟩⟩

/-- A tree is written as the text that it was read from without its blanks. So two texts are read
as one tree if and only if they differ in blanks only. -/
theorem text_eq_withoutBlanks (read : parse text = .ok value) :
    value.text = withoutBlanks text ∧
      ∀ other otherValue, parse other = .ok otherValue →
        (value = otherValue ↔ withoutBlanks text = withoutBlanks other) := by
  have same := text_of_parse read
  refine ⟨same, fun other otherValue readOther => ?_⟩
  have sameOther := text_of_parse readOther
  rw [← same, ← sameOther]
  constructor
  · exact congrArg Expression.text
  · exact eq_of_text_eq (wellFormed_of_parse read) (wellFormed_of_parse readOther)

theorem text_eq_withoutBlanks_grouped :
    parse "\u3000[a.b , +m]:\titems" =
        .ok [[⟨.group [[⟨.trait "a", true⟩, ⟨.trait "b", false⟩], [⟨.metadata "m", false⟩]], false⟩,
          ⟨.items, false⟩]] ∧
      withoutBlanks "\u3000[a.b , +m]:\titems" = "[a.b,+m]:items" := by
  have read : parse "\u3000[a.b , +m]:\titems" =
      .ok [[⟨.group [[⟨.trait "a", true⟩, ⟨.trait "b", false⟩], [⟨.metadata "m", false⟩]], false⟩,
        ⟨.items, false⟩]] := by cbv
  exact ⟨read, (text_eq_withoutBlanks read).1.symm.trans (by cbv)⟩

end Expression

end Observe
