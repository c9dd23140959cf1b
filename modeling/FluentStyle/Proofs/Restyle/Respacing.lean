import FluentStyle.Proofs.Grammar.Recognition
import FluentStyle.Proofs.Token.Respacing
import FluentStyle.Restyle.Outcome

/-!
# Blanks make no difference

Texts with the same tokens are read in the same way, and if they cannot be read they fail for the
same reason at the same token.  So whatever is made of a text depends on the blanks in it only by
the position of an error.
-/

namespace FluentStyle

/-- Both are the same, or both failed for the same reason, wherever that was. -/
def SyntaxError.Alike {α : Type} : Except SyntaxError α → Except SyntaxError α → Prop
  | .ok a, .ok b => a = b
  | .error error, .error other => error.reason = other.reason
  | _, _ => False

theorem SyntaxError.Alike.map {α β : Type} {a b : Except SyntaxError α} (h : Alike a b)
    (f : α → β) : Alike (a.map f) (b.map f) := by
  cases a with
  | ok x =>
      cases b with
      | ok y => exact congrArg f h
      | error error => exact h
  | error error =>
      cases b with
      | ok y => exact h
      | error other => exact h

namespace Fragment

variable {source other : String} {lexemes others : List Lexeme}

theorem parse_of_tokens_eq (h : Lexeme.tokenize source = .ok lexemes)
    (hother : Lexeme.tokenize other = .ok others)
    (htokens : lexemes.map (·.token) = others.map (·.token)) (hne : lexemes ≠ []) :
    (∃ fragment : Fragment, parse source = .ok fragment ∧ parse other = .ok fragment) ∨
      ∃ (left : Nat) (reason : Reason),
        parse source =
          .error ⟨Lexeme.positionBefore lexemes source.utf8ByteSize left, reason⟩ ∧
        parse other = .error ⟨Lexeme.positionBefore others other.utf8ByteSize left, reason⟩ := by
  have hne' : others ≠ [] := by
    rintro rfl
    exact hne (List.map_eq_nil_iff.mp htokens)
  rw [parse_of_tokenize h hne, parse_of_tokenize hother hne', htokens]
  cases ofTokens (others.map (·.token)) with
  | ok fragment => exact Or.inl ⟨fragment, rfl, rfl⟩
  | error stuck => exact Or.inr ⟨stuck.left, stuck.reason, rfl, rfl⟩

theorem alike_of_tokens_eq (h : Lexeme.tokenize source = .ok lexemes)
    (hother : Lexeme.tokenize other = .ok others)
    (htokens : lexemes.map (·.token) = others.map (·.token)) :
    SyntaxError.Alike (parse source) (parse other) := by
  by_cases hne : lexemes = []
  · subst hne
    rw [List.map_eq_nil_iff.mp htokens.symm] at hother
    rw [parse_of_tokenize_nil h, parse_of_tokenize_nil hother]
    rfl
  · rcases parse_of_tokens_eq h hother htokens hne with
      ⟨fragment, hsource, hfragment⟩ | ⟨left, reason, hsource, hfailed⟩
    · rw [hsource, hfragment]
      rfl
    · rw [hsource, hfailed]
      rfl

/-- Reading, writing and restyling make the same of both texts. -/
structure Interchangeable (source other : String) : Prop where
  parse : SyntaxError.Alike (parse source) (parse other)
  render : SyntaxError.Alike ((Fragment.parse source).map render)
    ((Fragment.parse other).map render)
  restyle : ∀ (catalog : Catalog) (maxPasses : Nat),
    SyntaxError.Alike (catalog.restyle maxPasses source) (catalog.restyle maxPasses other)

/-- Texts with the same tokens are interchangeable, and so is a text with itself where other blanks
stand between its tokens. -/
theorem interchangeable_of_tokens {source : String} {lexemes : List Lexeme}
    (h : Lexeme.tokenize source = .ok lexemes) :
    (∀ {other : String} {others : List Lexeme}, Lexeme.tokenize other = .ok others →
      lexemes.map (·.token) = others.map (·.token) → Interchangeable source other) ∧
    (∀ {other : String}, Lexeme.Respaced source.toList other.toList →
      Interchangeable source other) := by
  have hsame : ∀ {other : String} {others : List Lexeme}, Lexeme.tokenize other = .ok others →
      lexemes.map (·.token) = others.map (·.token) → Interchangeable source other := by
    intro other others hother htokens
    have halike := alike_of_tokens_eq h hother htokens
    exact ⟨halike, halike.map render, fun catalog maxPasses => halike.map _⟩
  refine ⟨hsame, ?_⟩
  intro other hrespaced
  rcases Lexeme.tokenize_respaced h hrespaced with ⟨others, hother, htokens⟩
  exact hsame hother htokens

/-- A call with other blanks, and with a blank in front of each of its tokens. -/
theorem interchangeable_of_tokens_call :
    let lexemes : List Lexeme := [⟨.name "f", 0⟩, ⟨.opening .round, 1⟩, ⟨.number "1", 2⟩,
      ⟨.mark .comma, 3⟩, ⟨.name "b", 4⟩, ⟨.closing .round, 5⟩]
    let others : List Lexeme := [⟨.name "f", 0⟩, ⟨.opening .round, 2⟩, ⟨.number "1", 3⟩,
      ⟨.mark .comma, 5⟩, ⟨.name "b", 8⟩, ⟨.closing .round, 9⟩]
    Lexeme.tokenize "f(1,b)" = .ok lexemes ∧ Lexeme.tokenize "f (1 ,\n b)" = .ok others ∧
      Interchangeable "f(1,b)" "f (1 ,\n b)" ∧ Interchangeable "f(1,b)" " f ( 1 , b )" := by
  intro lexemes others
  have htokens : Lexeme.tokenize "f(1,b)" = .ok lexemes :=
    Lexeme.tokenize_eq_ok (by decide +kernel)
  have hothers : Lexeme.tokenize "f (1 ,\n b)" = .ok others :=
    Lexeme.tokenize_eq_ok (by decide +kernel)
  have hscan := (Lexeme.tokenize_eq_ok_iff.mp htokens).1
  have hgap : Lexeme.IsGap [' '] := ⟨rfl, by rintro c ⟨⟩; rfl⟩
  have hrespaced := Lexeme.respaced_gaps hgap (List.cons_ne_nil _ _) hscan
  have hspaced : (lexemes.flatMap fun lexeme => [' '] ++ lexeme.token.text.toList) =
      " f ( 1 , b )".toList := by decide +kernel
  rw [hspaced] at hrespaced
  exact ⟨htokens, hothers, (interchangeable_of_tokens htokens).1 hothers rfl,
    (interchangeable_of_tokens htokens).2 hrespaced⟩

end Fragment

end FluentStyle
