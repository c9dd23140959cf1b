import FluentStyle.Grammar.Expr
import FluentStyle.Token.Reader

/-!
# From source text to fragment

A source text is cut into tokens and the tokens are read as a fragment.  Reading itself does not
see positions: a place where it got stuck is a number of tokens left, which is turned into a byte
of the source afterwards.
-/

namespace FluentStyle

namespace Lexeme

/-- The byte at which the last `left` tokens start; with none left, the end of the source. -/
def positionBefore (lexemes : List Lexeme) (sourceLength left : Nat) : Nat :=
  match lexemes.drop (lexemes.length - left) with
  | [] => sourceLength
  | lexeme :: _ => lexeme.position

end Lexeme

namespace Fragment

/-- The fragment that a source text stands for, or the place and the reason why it is none. -/
def parse (source : String) : Except SyntaxError Fragment :=
  match Lexeme.tokenize source with
  | .error error => .error error
  | .ok [] => .error ⟨0, .emptyFragment⟩
  | .ok lexemes =>
      match ofTokens (lexemes.map (·.token)) with
      | .ok fragment => .ok fragment
      | .error stuck =>
          .error ⟨Lexeme.positionBefore lexemes source.utf8ByteSize stuck.left, stuck.reason⟩

theorem parse_of_tokenize {source : String} {lexemes : List Lexeme}
    (h : Lexeme.tokenize source = .ok lexemes) (hne : lexemes ≠ []) :
    parse source =
      match ofTokens (lexemes.map (·.token)) with
      | .ok fragment => .ok fragment
      | .error stuck =>
          .error ⟨Lexeme.positionBefore lexemes source.utf8ByteSize stuck.left, stuck.reason⟩ := by
  unfold parse
  rw [h]
  cases lexemes with
  | nil => exact absurd rfl hne
  | cons lexeme lexemes => rfl

theorem parse_of_tokenize_nil {source : String} (h : Lexeme.tokenize source = .ok []) :
    parse source = .error ⟨0, .emptyFragment⟩ := by
  unfold parse
  rw [h]

instance : DecidableEq (Except SyntaxError Fragment)
  | .ok a, .ok b => decidable_of_iff (a = b) (by simp)
  | .error a, .error b => decidable_of_iff (a = b) (by simp)
  | .ok _, .error _ => isFalse (by simp)
  | .error _, .ok _ => isFalse (by simp)

end Fragment

end FluentStyle
