import FluentStyle.Proofs.Text.Boundary
import FluentStyle.Proofs.Token.Layout

/-!
# Positions of tokens

Every token stands in the source text at its position, so it starts at a boundary.  Whatever is
wrong with the tokens of a text is found where a token starts or could have started.
-/

namespace FluentStyle

namespace Lexeme

/-- The text holds the token of the lexeme at its position. -/
def StandsIn (text : List Char) (lexeme : Lexeme) : Prop :=
  ∃ front back : List Char, text = front ++ (lexeme.token.text.toList ++ back) ∧
    Text.byteLength front = lexeme.position

theorem StandsIn.isBoundary {text : List Char} {lexeme : Lexeme} (h : lexeme.StandsIn text) :
    Text.IsBoundary text lexeme.position := by
  rcases h with ⟨front, back, rfl, hposition⟩
  exact ⟨front, _, rfl, hposition⟩

/-!
# Scanning

What is read behind the front of a text stands in the text, and so does a fault.
-/

theorem scanFrom_positions (front rest : List Char) :
    (∀ lexeme ∈ (scanFrom (Text.byteLength front) rest).1, lexeme.StandsIn (front ++ rest)) ∧
      ∀ fault ∈ (scanFrom (Text.byteLength front) rest).2,
        Text.IsBoundary (front ++ rest) fault.position := by
  -- What has been read goes into the front, so the position stays its length.
  generalize hposition : Text.byteLength front = position
  fun_induction scanFrom position rest generalizing front with
  | case1 => simp
  | case2 position c rest hblank ih =>
      have hrest := ih (front ++ [c]) (by simp [hposition])
      rwa [List.append_assoc] at hrest
  | case3 position c rest hblank reason hread =>
      refine ⟨List.forall_mem_nil _, ?_⟩
      rintro fault ⟨⟩
      exact ⟨front, c :: rest, rfl, hposition⟩
  | case4 position c rest hblank token after hread lexemes fault hrest ih =>
      have htext := Token.text_append_of_read hread
      have hlength : Text.byteLength (front ++ token.text.toList) =
          position + token.text.utf8ByteSize := by
        rw [Text.byteLength_append, Text.byteLength_toList, hposition]
      have hlater := ih (front ++ token.text.toList) hlength
      rw [hrest, List.append_assoc, htext] at hlater
      refine ⟨List.forall_mem_cons.mpr ⟨?_, hlater.1⟩, hlater.2⟩
      exact ⟨front, after, by rw [htext], hposition⟩

/-!
# Balance

Brackets are left open, and closing brackets do not match, where there are lexemes.
-/

theorem balance_positions {p : Nat → Prop} {stack : List (Bracket × Nat)} {lexemes : List Lexeme}
    (hstack : ∀ opened ∈ stack, p opened.2) (hlexemes : ∀ lexeme ∈ lexemes, p lexeme.position) :
    (∀ stillOpen, balance stack lexemes = .ok stillOpen → ∀ opened ∈ stillOpen, p opened.2) ∧
      ∀ error, balance stack lexemes = .error error → p error.position := by
  fun_induction balance stack lexemes with
  | case1 stack =>
      refine ⟨?_, ?_⟩
      · rintro stillOpen ⟨⟩
        exact hstack
      · rintro error ⟨⟩
  | case2 stack bracket position rest ih =>
      rcases List.forall_mem_cons.mp hlexemes with ⟨hfirst, hrest⟩
      exact ih (List.forall_mem_cons.mpr ⟨hfirst, hstack⟩) hrest
  | case3 bracket position rest =>
      refine ⟨?_, ?_⟩
      · rintro stillOpen ⟨⟩
      · rintro error ⟨⟩
        exact hlexemes _ List.mem_cons_self
  | case4 innermost position rest opened stack ih =>
      exact ih (List.forall_mem_cons.mp hstack).2 (List.forall_mem_cons.mp hlexemes).2
  | case5 bracket position rest innermost opened stack hne =>
      refine ⟨?_, ?_⟩
      · rintro stillOpen ⟨⟩
      · rintro error ⟨⟩
        exact hlexemes _ List.mem_cons_self
  | case6 stack lexeme rest _ _ ih => exact ih hstack (List.forall_mem_cons.mp hlexemes).2

/-!
# Source texts
-/

theorem standsIn_of_tokenize {source : String} {lexemes : List Lexeme}
    (h : tokenize source = .ok lexemes) : ∀ lexeme ∈ lexemes, lexeme.StandsIn source.toList := by
  have hlexemes := (scanFrom_positions [] source.toList).1
  rw [Text.byteLength_nil, (tokenize_eq_ok_iff.mp h).1] at hlexemes
  exact hlexemes

/-- A source text that cannot be cut into balanced tokens is at fault at a boundary. -/
theorem isBoundary_of_tokenize {source : String} {error : SyntaxError}
    (h : tokenize source = .error error) : Text.IsBoundary source.toList error.position := by
  rcases scanFrom_positions [] source.toList with ⟨hlexemes, hfault⟩
  rw [Text.byteLength_nil, List.nil_append] at hlexemes hfault
  unfold tokenize at h
  generalize scanFrom 0 source.toList = scanned at h hlexemes hfault
  rcases scanned with ⟨lexemes, fault⟩
  rcases balance_positions (List.forall_mem_nil _) (fun lexeme hlexeme =>
    (hlexemes lexeme hlexeme).isBoundary) with ⟨hopen, hclosed⟩
  simp only at h
  split at h
  · rename_i found hbalance
    cases h
    exact hclosed _ hbalance
  · rename_i stillOpen hbalance
    split at h
    · cases h
      exact hfault _ rfl
    · cases h
      exact hopen _ hbalance _ List.mem_cons_self
    · cases h

end Lexeme

end FluentStyle
