import FluentStyle.Proofs.Text.Boundary
import FluentStyle.Proofs.Token.Layout

/-!
# Quoting

A literal is written for a value by two replacements, one after the other, and read by resolving its
escapes.  Reading gives the value back, and the literal ends where its token ends: no quote in a
value can close its literal.
-/

namespace FluentStyle

/-!
# Escaping by replacement
-/

namespace Text

theorem replace_singleton (p : Char) (replacement text : List Char) :
    replace [p] replacement text = text.flatMap fun c => if p = c then replacement else [c] := by
  induction text with
  | nil => rw [replace, replaceFrom, List.flatMap_nil]
  | cons c text ih =>
      rw [replace] at ih ⊢
      rw [replaceFrom, List.flatMap_cons, ← ih]
      by_cases h : p = c <;> simp [h, stripStart?]

end Text

namespace StringLiteral

/-- Backslashes are doubled first, so that those which are put before quotes are not. -/
theorem encode_eq_replace {quote : Char} (hquote : quote ≠ '\\') (value : List Char) :
    encode quote value =
      Text.replace [quote] ['\\', quote] (Text.replace ['\\'] ['\\', '\\'] value) := by
  rw [Text.replace_singleton, Text.replace_singleton, List.flatMap_assoc]
  unfold encode
  congr 1
  funext c
  by_cases hslash : '\\' = c
  · subst hslash
    simp [hquote]
  · by_cases hc : quote = c
    · subst hc
      simp [hslash]
    · simp [hslash, hc, Ne.symm hslash, Ne.symm hc]

/-!
# Reading what was written
-/

theorem encode_cons (quote c : Char) (value : List Char) :
    encode quote (c :: value) =
      (if c = '\\' ∨ c = quote then ['\\', c] else [c]) ++ encode quote value :=
  List.flatMap_cons

theorem decode_encode (quote : Char) (value : List Char) :
    decode quote (encode quote value) = value := by
  induction value with
  | nil => rfl
  | cons c value ih =>
      rw [encode_cons]
      by_cases h : c = '\\' ∨ c = quote
      · rw [if_pos h, List.cons_append, List.singleton_append, decode, if_pos h.symm, ih]
      · rw [if_neg h, List.singleton_append, decode, ih]
        intro next rest hslash
        exact absurd (Or.inl hslash) h

theorem toList_quoted (quote : Char) (value : String) :
    (quoted quote value).raw.toList = quote :: (encode quote value.toList ++ [quote]) :=
  String.toList_ofList

theorem quote_quoted (quote : Char) (value : String) : (quoted quote value).quote = quote := by
  rw [StringLiteral.quote, toList_quoted, List.headD_cons]

theorem value_of_toList {literal : StringLiteral} {quote : Char} {inner : List Char}
    (h : literal.raw.toList = quote :: (inner ++ [quote])) :
    literal.value = String.ofList (decode quote inner) := by
  rw [value, StringLiteral.quote, h, List.headD_cons, List.drop_one, List.tail_cons,
    List.dropLast_concat]

theorem value_quoted (quote : Char) (value : String) : (quoted quote value).value = value := by
  rw [value_of_toList (toList_quoted quote value), decode_encode, String.ofList_toList]

theorem value_withValue (literal : StringLiteral) (value : String) :
    (literal.withValue value).value = value := by
  unfold withValue
  split
  · exact value_quoted '"' value
  · exact value_quoted '\'' value

theorem quote_withValue {literal : StringLiteral}
    (h : literal.quote = '\'' ∨ literal.quote = '"') (value : String) :
    (literal.withValue value).quote = literal.quote := by
  unfold withValue
  rcases h with hsingle | hdouble
  · rw [hsingle, if_neg (by decide)]
    exact quote_quoted '\'' value
  · rw [hdouble, if_pos rfl]
    exact quote_quoted '"' value

/-!
# Tokens

The text of a spelled literal is cut into one token, and its last character is its quote.
-/

theorem endsLiteral_encode (quote : Char) (value : List Char) :
    Token.EndsLiteral quote (encode quote value ++ [quote]) := by
  induction value with
  | nil => exact .quote
  | cons c value ih =>
      rw [encode_cons]
      by_cases h : c = '\\' ∨ c = quote
      · rw [if_pos h]
        exact .escape c ih
      · rw [if_neg h]
        rcases not_or.mp h with ⟨hslash, hquote⟩
        exact .other hslash hquote ih

theorem isSpelled_quoted {quote : Char} (hquote : quote = '\'' ∨ quote = '"') (value : String) :
    (Token.literal (quoted quote value).raw).isSpelled = true :=
  Token.isSpelled_literal_iff.mpr ⟨hquote, endsLiteral_encode quote value.toList⟩

theorem isSpelled_withValue (literal : StringLiteral) (value : String) :
    (Token.literal (literal.withValue value).raw).isSpelled = true := by
  unfold withValue
  split
  · exact isSpelled_quoted (Or.inr rfl) value
  · exact isSpelled_quoted (Or.inl rfl) value

theorem tokenize_raw {literal : StringLiteral}
    (h : (Token.literal literal.raw).isSpelled = true) :
    Lexeme.tokenize literal.raw = .ok [⟨.literal literal.raw, 0⟩] := by
  have hreads := Token.reads_literal h []
  rw [List.append_nil] at hreads
  apply Lexeme.tokenize_eq_ok_iff.mpr
  rw [Lexeme.scanFrom_reads 0 hreads, Lexeme.scanFrom]
  exact ⟨rfl, rfl⟩

theorem exists_inner_of_endsLiteral {quote : Char} {body : List Char}
    (h : Token.EndsLiteral quote body) : ∃ inner : List Char, body = inner ++ [quote] := by
  induction h with
  | quote => exact ⟨[], rfl⟩
  | escape c _ ih =>
      rcases ih with ⟨inner, rfl⟩
      exact ⟨'\\' :: c :: inner, rfl⟩
  | @other c _ _ _ _ ih =>
      rcases ih with ⟨inner, rfl⟩
      exact ⟨c :: inner, rfl⟩

/-- The literal stands in quotes of one kind, and its value is that of the characters between them.
These are cut out of its text by bytes. -/
def IsEnclosed (literal : StringLiteral) : Prop :=
  ∃ (quote : Char) (inner : List Char), (quote = '\'' ∨ quote = '"') ∧
    literal.raw.toList = quote :: (inner ++ [quote]) ∧
    Text.slice? 1 (max (literal.raw.utf8ByteSize - 1) 1) literal.raw.toList = some inner ∧
    literal.value = String.ofList (decode quote inner)

theorem isEnclosed_of_isSpelled {literal : StringLiteral}
    (h : (Token.literal literal.raw).isSpelled = true) : literal.IsEnclosed := by
  rcases literal with ⟨raw⟩
  obtain ⟨text, rfl⟩ : ∃ text, raw = String.ofList text := ⟨raw.toList, String.ofList_toList.symm⟩
  cases text with
  | nil => simp [Token.isSpelled] at h
  | cons quote body =>
      rcases Token.isSpelled_literal_iff.mp h with ⟨hquote, hends⟩
      rcases exists_inner_of_endsLiteral hends with ⟨inner, rfl⟩
      have hsize : Text.byteLength [quote] = 1 := by rcases hquote with rfl | rfl <;> rfl
      have hslice := Text.slice?_append [quote] inner [quote]
      refine ⟨quote, inner, hquote, String.toList_ofList, ?_, value_of_toList String.toList_ofList⟩
      rw [hsize] at hslice
      rw [Text.utf8ByteSize_ofList, String.toList_ofList]
      have hlast : max (Text.byteLength (quote :: (inner ++ [quote])) - 1) 1 =
          Text.byteLength ([quote] ++ inner) := by
        simp only [Text.byteLength_append, Text.byteLength_cons, Text.byteLength_nil] at hsize ⊢
        omega
      rw [hlast]
      exact hslice

/-- A literal written for a value has the value and is one token.  The value of every literal of a
source text is read strictly between its quotes. -/
theorem value_round_trip :
    (∀ value : String, (singleQuoted value).value = value ∧
      Lexeme.tokenize (singleQuoted value).raw = .ok [⟨.literal (singleQuoted value).raw, 0⟩]) ∧
    (∀ (literal : StringLiteral) (value : String), (literal.withValue value).value = value ∧
      Lexeme.tokenize (literal.withValue value).raw =
        .ok [⟨.literal (literal.withValue value).raw, 0⟩]) ∧
    ∀ (source : String) (lexemes : List Lexeme), Lexeme.tokenize source = .ok lexemes →
      ∀ literal : StringLiteral, .literal literal.raw ∈ lexemes.map (·.token) →
        literal.IsEnclosed := by
  refine ⟨?_, ?_, ?_⟩
  · intro value
    exact ⟨value_quoted '\'' value, tokenize_raw (isSpelled_quoted (Or.inl rfl) value)⟩
  · intro literal value
    exact ⟨value_withValue literal value, tokenize_raw (isSpelled_withValue literal value)⟩
  · intro source lexemes htokens literal hliteral
    exact isEnclosed_of_isSpelled (Lexeme.isSpelled_of_tokenize htokens _ hliteral)

/-- A literal with an escaped quote, as an argument. -/
theorem value_round_trip_escaped :
    Lexeme.tokenize "label('it\\'s')" =
      .ok [⟨.name "label", 0⟩, ⟨.opening .round, 5⟩, ⟨.literal "'it\\'s'", 6⟩,
        ⟨.closing .round, 13⟩] ∧
      IsEnclosed ⟨"'it\\'s'"⟩ ∧ (StringLiteral.mk "'it\\'s'").value = "it's" := by
  have htokens : Lexeme.tokenize "label('it\\'s')" =
      .ok [⟨.name "label", 0⟩, ⟨.opening .round, 5⟩, ⟨.literal "'it\\'s'", 6⟩,
        ⟨.closing .round, 13⟩] := by decide +kernel
  exact ⟨htokens, value_round_trip.2.2 _ _ htokens ⟨"'it\\'s'"⟩ (by decide), by decide⟩

end StringLiteral

end FluentStyle
