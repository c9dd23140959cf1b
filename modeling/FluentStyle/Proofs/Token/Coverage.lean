import FluentStyle.Grammar.Source
import FluentStyle.Proofs.Token.Position

/-!
# Coverage of a source text

Cutting a source text into tokens loses nothing.  The tokens stand in the text one behind the other,
the end of the fragment is the end of the text, and what no token takes is blank.
-/

namespace FluentStyle

open Text

namespace Lexeme

/-- The text, which starts at the given byte, is made up of the lexemes with blanks before and
between them, of more blanks, and of a rest that no token has been read from. -/
inductive LaidOut (rest : List Char) : Nat → List Char → List Lexeme → Prop where
  | blanks {position : Nat} {gap : List Char} (hgap : gap.all isBlank = true) :
      LaidOut rest position (gap ++ rest) []
  | token {position : Nat} {gap after : List Char} {token : Token} {lexemes : List Lexeme}
      (hgap : gap.all isBlank = true) (spelled : token.isSpelled = true)
      (hafter : LaidOut rest (position + byteLength gap + token.text.utf8ByteSize) after lexemes) :
      LaidOut rest position (gap ++ (token.text.toList ++ after))
        (⟨token, position + byteLength gap⟩ :: lexemes)

theorem LaidOut.refl (position : Nat) (rest : List Char) : LaidOut rest position rest [] :=
  @LaidOut.blanks rest position [] rfl

theorem LaidOut.cons_token {rest after : List Char} {position : Nat} {token : Token}
    {lexemes : List Lexeme} (spelled : token.isSpelled = true)
    (h : LaidOut rest (position + token.text.utf8ByteSize) after lexemes) :
    LaidOut rest position (token.text.toList ++ after) (⟨token, position⟩ :: lexemes) :=
  @LaidOut.token rest position [] after token lexemes rfl spelled h

theorem LaidOut.cons_blank {rest text : List Char} {position : Nat} {lexemes : List Lexeme}
    {c : Char} (hblank : isBlank c = true) (h : LaidOut rest (position + c.utf8Size) text lexemes) :
    LaidOut rest position (c :: text) lexemes := by
  have hcons : ∀ {gap : List Char}, gap.all isBlank = true → (c :: gap).all isBlank = true := by
    intro gap hgap
    rw [List.all_cons, hblank, hgap]
    rfl
  cases h with
  | blanks hgap => exact .blanks (hcons hgap)
  | token hgap spelled hafter =>
      rw [Nat.add_assoc position, ← byteLength_cons] at hafter ⊢
      exact .token (hcons hgap) spelled hafter

/-- What is read of a text is laid out in it, up to the fault if there is one. -/
theorem laidOut_of_scanFrom {position : Nat} {text : List Char} {lexemes : List Lexeme}
    {fault : Option SyntaxError} (h : scanFrom position text = (lexemes, fault)) :
    ∃ rest : List Char, LaidOut rest position text lexemes ∧ (fault = none → rest = []) := by
  fun_induction scanFrom position text generalizing lexemes fault with
  | case1 position =>
      cases h
      exact ⟨[], .refl position [], fun _ => rfl⟩
  | case2 position c rest hblank ih =>
      rcases ih h with ⟨left, hlaid, hleft⟩
      exact ⟨left, hlaid.cons_blank hblank, hleft⟩
  | case3 position c rest hblank reason hread =>
      cases h
      exact ⟨c :: rest, .refl position _, by rintro ⟨⟩⟩
  | case4 position c rest hblank token after hread others othersFault hothers ih =>
      cases h
      rcases ih hothers with ⟨left, hlaid, hleft⟩
      have spelled := Token.isSpelled_of_read (Bool.not_eq_true _ ▸ hblank) hread
      refine ⟨left, ?_, hleft⟩
      rw [← Token.text_append_of_read hread]
      exact .cons_token spelled hlaid

theorem laidOut_of_tokenize {source : String} {lexemes : List Lexeme}
    (h : tokenize source = .ok lexemes) : LaidOut [] 0 source.toList lexemes := by
  rcases laidOut_of_scanFrom (tokenize_eq_ok_iff.mp h).1 with ⟨rest, hlaid, hrest⟩
  rw [hrest rfl] at hlaid
  exact hlaid

/-!
# Order

A token takes at least one byte, so later tokens start behind earlier ones.
-/

def finish (lexeme : Lexeme) : Nat :=
  lexeme.position + lexeme.token.text.utf8ByteSize

theorem position_lt_finish {lexeme : Lexeme} (h : lexeme.token.isSpelled = true) :
    lexeme.position < lexeme.finish := by
  have hreads : lexeme.token.Reads [] (lexeme.token.text.toList ++ []) :=
    Token.reads_text h (by rintro c ⟨⟩)
  have hlength : 0 < byteLength lexeme.token.text.toList := by
    cases htext : lexeme.token.text.toList with
    | nil => exact absurd htext hreads.text_ne_nil
    | cons c rest =>
        have hsize := c.utf8Size_pos
        rw [byteLength_cons]
        omega
  rw [byteLength_toList] at hlength
  unfold finish
  omega

theorem LaidOut.le_position {rest text : List Char} {position : Nat} {lexemes : List Lexeme}
    (h : LaidOut rest position text lexemes) : ∀ lexeme ∈ lexemes, position ≤ lexeme.position := by
  induction h with
  | blanks hgap => simp
  | token hgap spelled hafter ih =>
      refine List.forall_mem_cons.mpr ⟨Nat.le_add_right _ _, fun lexeme hlexeme => ?_⟩
      have hle := ih lexeme hlexeme
      omega

theorem LaidOut.pairwise_finish {rest text : List Char} {position : Nat} {lexemes : List Lexeme}
    (h : LaidOut rest position text lexemes) :
    lexemes.Pairwise fun first second => first.finish ≤ second.position := by
  induction h with
  | blanks hgap => exact .nil
  | token hgap spelled hafter ih => exact .cons hafter.le_position ih

theorem LaidOut.finish_le {text : List Char} {position : Nat} {lexemes : List Lexeme}
    (h : LaidOut [] position text lexemes) :
    ∀ lexeme ∈ lexemes, lexeme.position < lexeme.finish ∧
      lexeme.finish ≤ position + byteLength text := by
  induction h with
  | blanks hgap => simp
  | @token position gap after token lexemes hgap spelled hafter ih =>
      rw [byteLength_append, byteLength_append, byteLength_toList]
      refine List.forall_mem_cons.mpr ⟨⟨position_lt_finish spelled, ?_⟩, fun lexeme hlexeme => ?_⟩
      · unfold finish
        simp only
        omega
      · rcases ih lexeme hlexeme with ⟨hpositive, hle⟩
        omega

/-!
# What no token takes

A token takes the bytes from its position up to where it finishes.  A character that starts at a
byte of no token is blank.
-/

def Takes (lexeme : Lexeme) (position : Nat) : Prop :=
  lexeme.position ≤ position ∧ position < lexeme.finish

theorem append_eq_append_cons {first second front back : List Char} {c : Char}
    (h : first ++ second = front ++ c :: back) :
    (∃ more : List Char, first = front ++ c :: more) ∨
      ∃ more : List Char, front = first ++ more ∧ second = more ++ c :: back := by
  rcases List.append_eq_append_iff.mp h with ⟨more, rfl, hsecond⟩ | ⟨more, rfl, hback⟩
  · exact Or.inr ⟨more, rfl, hsecond⟩
  · cases more with
    | nil => exact Or.inr ⟨[], by rw [List.append_nil, List.append_nil], hback.symm⟩
    | cons d more =>
        cases hback
        exact Or.inl ⟨more, rfl⟩

theorem LaidOut.isBlank {text : List Char} {position : Nat} {lexemes : List Lexeme}
    (h : LaidOut [] position text lexemes) {front back : List Char} {c : Char}
    (htext : text = front ++ c :: back)
    (hfree : ∀ lexeme ∈ lexemes, ¬ lexeme.Takes (position + byteLength front)) :
    isBlank c = true := by
  induction h generalizing front with
  | blanks hgap =>
      rw [List.append_nil] at htext
      rw [htext] at hgap
      exact List.all_eq_true.mp hgap c (List.mem_append_right front List.mem_cons_self)
  | @token position gap after token lexemes hgap spelled hafter ih =>
      rcases List.forall_mem_cons.mp hfree with ⟨hfirst, hothers⟩
      rcases append_eq_append_cons htext with ⟨more, rfl⟩ | ⟨inner, rfl, hinner⟩
      · exact List.all_eq_true.mp hgap c (List.mem_append_right front List.mem_cons_self)
      rw [byteLength_append] at hfirst hothers
      rcases append_eq_append_cons hinner with ⟨more, htoken⟩ | ⟨later, rfl, hlater⟩
      · -- The character would be one of the token.
        have hsize := c.utf8Size_pos
        have hlength := congrArg byteLength htoken
        rw [byteLength_toList, byteLength_append, byteLength_cons] at hlength
        refine absurd ⟨?_, ?_⟩ hfirst
        · simp only
          omega
        · unfold finish
          simp only
          omega
      · apply ih hlater
        rw [byteLength_append, byteLength_toList] at hothers
        rwa [← Nat.add_assoc, ← Nat.add_assoc] at hothers

/-!
# Source texts
-/

/-- The tokens stand in the source text in order and apart from each other, with the end of the
fragment at the end of the text, and what they leave of the text is blank. -/
structure Covers (lexemes : List Lexeme) (source : String) : Prop where
  increasing : (lexemes.map (·.position) ++
    [positionBefore lexemes source.utf8ByteSize 0]).Pairwise (· < ·)
  finish_eq : positionBefore lexemes source.utf8ByteSize 0 = source.utf8ByteSize
  standsIn : ∀ lexeme ∈ lexemes, lexeme.StandsIn source.toList
  disjoint : lexemes.Pairwise fun first second => first.finish ≤ second.position
  isBlank : ∀ (front back : List Char) (c : Char), source.toList = front ++ c :: back →
    (∀ lexeme ∈ lexemes, ¬ lexeme.Takes (byteLength front)) → Text.isBlank c = true

theorem positionBefore_zero (lexemes : List Lexeme) (sourceLength : Nat) :
    positionBefore lexemes sourceLength 0 = sourceLength := by
  unfold positionBefore
  rw [Nat.sub_zero, List.drop_length]

/-- The tokens of a source text cover it. -/
theorem covers_of_tokenize {source : String} {lexemes : List Lexeme}
    (h : tokenize source = .ok lexemes) : Covers lexemes source := by
  have hlaid := laidOut_of_tokenize h
  have hfinish := hlaid.finish_le
  rw [Nat.zero_add, byteLength_toList] at hfinish
  refine ⟨?_, positionBefore_zero lexemes _, standsIn_of_tokenize h, hlaid.pairwise_finish, ?_⟩
  · rw [positionBefore_zero, List.pairwise_append, List.pairwise_map]
    refine ⟨?_, List.pairwise_singleton _ _, ?_⟩
    · refine hlaid.pairwise_finish.imp_of_mem fun hfirst _ hle => ?_
      exact Nat.lt_of_lt_of_le (hfinish _ hfirst).1 hle
    · intro position hposition last hlast
      rcases List.mem_map.mp hposition with ⟨lexeme, hlexeme, rfl⟩
      rw [List.mem_singleton.mp hlast]
      exact Nat.lt_of_lt_of_le (hfinish _ hlexeme).1 (hfinish _ hlexeme).2
  · intro front back c htext hfree
    refine hlaid.isBlank htext ?_
    rwa [Nat.zero_add]

/-- A number that starts with a point, a literal with a blank in it, and blanks at both ends. -/
theorem covers_of_tokenize_blanks :
    tokenize "\tx->y(.5, 'a b' )\n" =
        .ok [⟨.name "x", 1⟩, ⟨.mark .arrow, 2⟩, ⟨.name "y", 4⟩, ⟨.opening .round, 5⟩,
          ⟨.number ".5", 6⟩, ⟨.mark .comma, 8⟩, ⟨.literal "'a b'", 10⟩, ⟨.closing .round, 16⟩] ∧
      Covers [⟨.name "x", 1⟩, ⟨.mark .arrow, 2⟩, ⟨.name "y", 4⟩, ⟨.opening .round, 5⟩,
        ⟨.number ".5", 6⟩, ⟨.mark .comma, 8⟩, ⟨.literal "'a b'", 10⟩, ⟨.closing .round, 16⟩]
        "\tx->y(.5, 'a b' )\n" := by
  have htokens : tokenize "\tx->y(.5, 'a b' )\n" =
      .ok [⟨.name "x", 1⟩, ⟨.mark .arrow, 2⟩, ⟨.name "y", 4⟩, ⟨.opening .round, 5⟩,
        ⟨.number ".5", 6⟩, ⟨.mark .comma, 8⟩, ⟨.literal "'a b'", 10⟩,
        ⟨.closing .round, 16⟩] := by decide +kernel
  exact ⟨htokens, covers_of_tokenize htokens⟩

end Lexeme

end FluentStyle
