import FluentStyle.Grammar.Source
import FluentStyle.Proofs.Token.Position
import FluentStyle.Snippet

/-!
# Where errors are

A text that is no fragment is at fault at a boundary: at a token, where a token could have started,
or at the end.  So the line and the column of an error can be counted in the text before it, they
lead back to the error, and what is marked in a snippet is the character that stands there.
-/

namespace FluentStyle

open Text

/-!
# Boundaries
-/

namespace Lexeme

theorem isBoundary_positionBefore {source : String} {lexemes : List Lexeme}
    (h : ∀ lexeme ∈ lexemes, lexeme.StandsIn source.toList) (left : Nat) :
    IsBoundary source.toList (positionBefore lexemes source.utf8ByteSize left) := by
  unfold positionBefore
  split
  · rw [← byteLength_toList]
    exact isBoundary_byteLength source.toList
  · rename_i lexeme others hdrop
    have hmem : lexeme ∈ lexemes.drop (lexemes.length - left) := by
      rw [hdrop]
      exact List.mem_cons_self
    exact (h lexeme (List.mem_of_mem_drop hmem)).isBoundary

end Lexeme

namespace Fragment

theorem isBoundary_of_parse {source : String} {error : SyntaxError}
    (h : parse source = .error error) : IsBoundary source.toList error.position := by
  cases htokens : Lexeme.tokenize source with
  | error fault =>
      unfold parse at h
      rw [htokens] at h
      cases h
      exact Lexeme.isBoundary_of_tokenize htokens
  | ok lexemes =>
      by_cases hne : lexemes = []
      · subst hne
        rw [parse_of_tokenize_nil htokens] at h
        cases h
        exact isBoundary_zero source.toList
      · rw [parse_of_tokenize htokens hne] at h
        split at h
        · cases h
        · cases h
          exact Lexeme.isBoundary_positionBefore (Lexeme.standsIn_of_tokenize htokens) _

end Fragment

/-!
# Lines, columns and snippets
-/

namespace SyntaxError

/-- The error stands between two characters of the source text or at one of its ends.  The text is
cut there to count the lines and the columns before the error, and what is marked in the snippet is
the character behind the cut, or nothing at the end of the text. -/
structure StandsIn (error : SyntaxError) (source : String) : Prop where
  position_le : error.position ≤ source.utf8ByteSize
  isBoundary : IsBoundary source.toList error.position
  exists_cut : ∃ (front back : List Char) (stop : Nat),
    cut? (min error.position source.utf8ByteSize) source.toList = some (front, back) ∧
    error.lineColumn source = lineColumnAfter front ∧
    slice? error.position stop source.toList = some (back.take 1) ∧
    error.render source = Snippet.render source error.position stop error.reason.message

theorem standsIn_of_isBoundary {error : SyntaxError} {source : String}
    (h : IsBoundary source.toList error.position) : error.StandsIn source := by
  have hle : error.position ≤ source.utf8ByteSize := by
    rw [← byteLength_toList]
    exact h.le
  rcases h with ⟨front, back, htext, hposition⟩
  have hstart : min error.position source.utf8ByteSize = byteLength front :=
    (Nat.min_eq_left hle).trans hposition.symm
  have hmarked := slice?_append front (back.take 1) (back.drop 1)
  rw [List.append_assoc, List.take_append_drop] at hmarked
  refine ⟨hle, ⟨front, back, htext, hposition⟩, front, back, byteLength (front ++ back.take 1),
    ?_, ?_, ?_, ?_⟩
  · rw [hstart, htext]
    exact cut?_append front back
  · rw [lineColumn, Text.lineColumn, htext, ← hposition, before_append]
  · rw [htext, ← hposition]
    exact hmarked
  · unfold render
    rw [hstart, htext, ← hposition]
    simp only [after_append, byteLength_append]
    cases back <;> simp

theorem offset?_lineColumn {error : SyntaxError} {source : String}
    (h : IsBoundary source.toList error.position) :
    offset? source.toList (error.lineColumn source) = some error.position :=
  offset?_eq_some_iff.mpr ⟨h, rfl⟩

end SyntaxError

/-- A text that is no fragment is at fault at a boundary, where it can be cut.  Counting lines and
columns from the place of a boundary leads back to the boundary, and later boundaries have later
places. -/
theorem Fragment.standsIn_of_parse {source : String} {error : SyntaxError}
    (h : parse source = .error error) :
    error.StandsIn source ∧
      (∀ other : SyntaxError, IsBoundary source.toList other.position →
        offset? source.toList (other.lineColumn source) = some other.position) ∧
      StrictMonoOn
        (fun position => toLex (SyntaxError.lineColumn { error with position } source))
        {position | IsBoundary source.toList position} := by
  refine ⟨SyntaxError.standsIn_of_isBoundary (isBoundary_of_parse h), ?_, ?_⟩
  · intro other hother
    exact SyntaxError.offset?_lineColumn hother
  · intro first hfirst last hlast hlt
    exact lineColumn_lt hfirst hlast hlt

/-- A bracket too many on the second line, behind letters of two bytes each. -/
theorem Fragment.standsIn_of_parse_accented :
    parse "Select::make('é')\n->label('ü'))" = .error ⟨32, .unbalanced .round none⟩ ∧
      SyntaxError.StandsIn ⟨32, .unbalanced .round none⟩ "Select::make('é')\n->label('ü'))" ∧
      SyntaxError.lineColumn ⟨32, .unbalanced .round none⟩ "Select::make('é')\n->label('ü'))" =
        (2, 13) ∧
      offset? "Select::make('é')\n->label('ü'))".toList (2, 13) = some 32 := by
  have hparse : parse "Select::make('é')\n->label('ü'))" =
      .error ⟨32, .unbalanced .round none⟩ := by decide +kernel
  have hplace : SyntaxError.lineColumn ⟨32, .unbalanced .round none⟩
      "Select::make('é')\n->label('ü'))" = (2, 13) := by decide +kernel
  rcases standsIn_of_parse hparse with ⟨hstands, hoffset, -⟩
  exact ⟨hparse, hstands, hplace, hplace ▸ hoffset _ hstands.isBoundary⟩

end FluentStyle
