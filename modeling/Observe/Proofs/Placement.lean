import Mathlib.Logic.ExistsUnique
import Observe.Proofs.Lexer

namespace Observe.Token

open Observe.Text

variable {spaced otherSpaced rest : List Spaced} {first : Spaced} {lead otherLead : List Char}
  {position : Nat} {text : String} {token : Token}

theorem IsLexeme.byteLength_pos {kind : TokenKind} (lexeme : IsLexeme kind) :
    0 < byteLength kind.text.toList := by
  obtain ⟨first, rest, spelled, _⟩ := lexeme.begins
  have positive := first.utf8Size_pos
  rw [spelled, byteLength_cons]
  omega

theorem position_le_of_mem_placed (member : token ∈ placed position spaced) :
    position ≤ token.position := by
  induction spaced generalizing position with
  | nil => cases member
  | cons first rest ih =>
      rcases List.mem_cons.mp member with rfl | later
      · exact Nat.le_refl _
      · have behind := ih later
        omega

theorem placed_apart (position : Nat) (spaced : List Spaced) :
    (placed position spaced).Pairwise fun first second =>
      first.position + byteLength first.kind.text.toList ≤ second.position := by
  induction spaced generalizing position with
  | nil => exact .nil
  | cons first rest ih =>
      refine .cons ?_ (ih _)
      intro second later
      have behind := position_le_of_mem_placed later
      exact Nat.le_trans (Nat.le_add_right _ _) behind

theorem LaidOut.apart {tokens : List Token} (laidOut : LaidOut text tokens) :
    tokens.Pairwise fun first second =>
      first.position + byteLength first.kind.text.toList ≤ second.position := by
  obtain ⟨lead, spaced, _, _, _, rfl⟩ := laidOut
  exact placed_apart _ spaced

theorem LaidOut.ordered {tokens : List Token} (laidOut : LaidOut text tokens) :
    tokens.Pairwise fun first second => first.position < second.position := by
  have lexemes := List.forall_mem_map.mp laidOut.lexemes
  refine laidOut.apart.imp_of_mem ?_
  intro first second member _ apart
  have positive := (lexemes first member).byteLength_pos
  omega

theorem Separate.breaks_blank (separate : Separate spaced) : Breaks isBlank (chars spaced) := by
  cases spaced with
  | nil => simp [Breaks, chars]
  | cons first rest =>
      obtain ⟨c, behind, spelled, noBlank, _⟩ := separate.lexeme.begins
      rw [chars_cons, spelled]
      rintro _ ⟨⟩
      exact noBlank

theorem Separate.eq_nil (separate : Separate spaced) (nothing : chars spaced = []) :
    spaced = [] := by
  cases spaced with
  | nil => rfl
  | cons first rest =>
      obtain ⟨c, behind, spelled, _⟩ := separate.lexeme.begins
      rw [chars_cons, spelled] at nothing
      cases nothing

theorem Separate.cuts (separate : Separate (first :: rest)) (position : Nat) :
    Cursor.Cuts ⟨chars (first :: rest), position⟩ ⟨first.kind, position⟩
      ⟨first.gap ++ chars rest, position + byteLength first.kind.text.toList⟩ := by
  obtain ⟨lexeme, _, breaks, _⟩ := separate_cons_iff.mp separate
  exact ⟨chars_cons first rest, lexeme, breaks, rfl, rfl⟩

/-- A run of characters that ends at the same test ends at the same place. -/
theorem eq_of_breaks {test : Char → Bool} {front otherFront behind otherBehind : List Char}
    (passes : ∀ c ∈ front, test c = true) (breaks : Breaks test behind)
    (otherPasses : ∀ c ∈ otherFront, test c = true) (otherBreaks : Breaks test otherBehind)
    (same : front ++ behind = otherFront ++ otherBehind) :
    front = otherFront ∧ behind = otherBehind := by
  have taken := Cursor.takeWhile_of_breaks otherPasses otherBreaks
  have dropped := Cursor.dropWhile_of_breaks otherPasses otherBreaks
  rw [← same, Cursor.takeWhile_of_breaks passes breaks] at taken
  rw [← same, Cursor.dropWhile_of_breaks passes breaks] at dropped
  exact ⟨taken, dropped⟩

/-- The first token is what the lexer reads where the blanks end. -/
theorem layout_unique (blank : ∀ c ∈ lead, isBlank c = true) (separate : Separate spaced)
    (otherBlank : ∀ c ∈ otherLead, isBlank c = true) (otherSeparate : Separate otherSpaced)
    (same : lead ++ chars spaced = otherLead ++ chars otherSpaced) :
    lead = otherLead ∧ spaced = otherSpaced := by
  obtain ⟨leads, behind⟩ :=
    eq_of_breaks blank separate.breaks_blank otherBlank otherSeparate.breaks_blank same
  refine ⟨leads, ?_⟩
  induction spaced generalizing lead otherLead otherSpaced with
  | nil => exact (otherSeparate.eq_nil behind.symm).symm
  | cons first rest ih =>
      cases otherSpaced with
      | nil => exact separate.eq_nil behind
      | cons second others =>
          -- Both layouts have as their first token the one that is read where they begin.
          have cuts := Cursor.read_of_cuts (separate.cuts 0)
          rw [behind, Cursor.read_of_cuts (otherSeparate.cuts 0)] at cuts
          obtain ⟨_, gap, _, separateRest⟩ := separate_cons_iff.mp separate
          obtain ⟨_, otherGap, _, separateOthers⟩ := separate_cons_iff.mp otherSeparate
          simp only [Prod.mk.injEq, Reading.token.injEq, Token.mk.injEq, Cursor.mk.injEq] at cuts
          obtain ⟨⟨kinds, _⟩, rests, _⟩ := cuts
          obtain ⟨gaps, restBehind⟩ := eq_of_breaks otherGap separateOthers.breaks_blank gap
            separateRest.breaks_blank rests
          have restSame := ih gap separateRest otherGap separateOthers rests.symm gaps.symm
            restBehind.symm
          obtain ⟨kind, gapOfFirst⟩ := first
          obtain ⟨otherKind, gapOfSecond⟩ := second
          simp only at kinds gaps
          rw [kinds, gaps, restSame]

/-- The text is blanks, followed by tokens that are kept apart. -/
structure IsLayout (text : String) (lead : List Char) (spaced : List Spaced) : Prop where
  blank : ∀ c ∈ lead, isBlank c = true
  separate : Separate spaced
  split : text.toList = lead ++ chars spaced

theorem IsLayout.unique (layout : IsLayout text lead spaced)
    (other : IsLayout text otherLead otherSpaced) : lead = otherLead ∧ spaced = otherSpaced :=
  layout_unique layout.blank layout.separate other.blank other.separate
    (layout.split.symm.trans other.split)

/-- A text is cut into the tokens that it is laid out as. They stand in order and do not overlap, and
the text has no other layout. -/
theorem tokenize_ok_iff_laidOut (text : String) (tokens : List Token) :
    (tokenize text = .ok tokens ↔ LaidOut text tokens) ∧
      (LaidOut text tokens →
        (tokens.Pairwise fun first second => first.position < second.position) ∧
        (tokens.Pairwise fun first second =>
          first.position + byteLength first.kind.text.toList ≤ second.position) ∧
        ∃! layout : List Char × List Spaced, IsLayout text layout.1 layout.2) := by
  refine ⟨tokenize_eq_ok, fun laidOut => ⟨laidOut.ordered, laidOut.apart, ?_⟩⟩
  obtain ⟨lead, spaced, blank, separate, split, _⟩ := laidOut
  have layout : IsLayout text lead spaced := ⟨blank, separate, split⟩
  refine ⟨(lead, spaced), layout, ?_⟩
  rintro ⟨otherLead, otherSpaced⟩ other
  obtain ⟨leads, rests⟩ := layout.unique other
  rw [leads, rests]

theorem tokenize_ok_iff_laidOut_words :
    LaidOut "\u3000items item." [⟨.items, 3⟩, ⟨.name "item", 9⟩, ⟨.dot, 13⟩] ∧
      ∃! layout : List Char × List Spaced, IsLayout "\u3000items item." layout.1 layout.2 := by
  have name : IsName "item" :=
    ⟨⟨'i', ['t', 'e', 'm'], rfl, rfl, List.all_eq_true.mp rfl⟩, by decide⟩
  have gap : isBlank ' ' = true := rfl
  have laidOut : LaidOut "\u3000items item." [⟨.items, 3⟩, ⟨.name "item", 9⟩, ⟨.dot, 13⟩] := by
    refine ⟨['\u3000'], [⟨.items, [' ']⟩, ⟨.name "item", []⟩, ⟨.dot, []⟩], ?_, ?_, rfl, rfl⟩
    · exact List.forall_mem_singleton.mpr rfl
    · simp [Separate, IsLexeme, name, gap, isWord]
  exact ⟨laidOut, ((tokenize_ok_iff_laidOut _ _).2 laidOut).2.2⟩

end Observe.Token
