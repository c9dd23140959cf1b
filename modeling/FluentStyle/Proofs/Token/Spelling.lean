import FluentStyle.Token.Reader

/-!
# Spellings

A token is spelled if its text is one that the reader can have made it from.  What the reader gives
is spelled, and from the text of a spelled token it gives that token, if what follows is not a
character with which the token would go on.
-/

namespace FluentStyle

namespace Token

/-- Whether the text of the token is one that the reader makes the token from. -/
def isSpelled : Token → Bool
  | .name text =>
      match text.toList with
      | [] => false
      | c :: rest => !Text.isBlank c && startsName c && rest.all isNameChar
  | .variable text =>
      match text.toList with
      | '$' :: c :: rest => isWordChar c && rest.all isWordChar
      | _ => false
  | .literal raw =>
      match raw.toList with
      | [] => false
      | quote :: rest => (quote = '\'' || quote = '"') && spanLiteral? quote rest = some (rest, [])
  | .number raw =>
      match raw.toList with
      | [] => false
      | c :: rest => startsNumber (c :: rest) && spanNumber (c = '.') rest = (rest, [])
  | .opening _ | .closing _ | .mark _ | .operator _ => true

/-- Whether the token ends before the character, which would otherwise be taken for a part of it. -/
def endsBefore : Token → Char → Bool
  | .name _, c => !isNameChar c
  | .variable _, c => !isWordChar c
  | .number _, c => !(c = '.' || Text.isDigit c || c = '_')
  | .mark .bang, c => c ≠ '='
  | .mark .question, c => c ≠ '?' && c ≠ '-'
  | .mark .colon, c => c ≠ ':'
  | .mark .assign, c => c ≠ '=' && c ≠ '>'
  | .mark .ampersand, c => c ≠ '&'
  | .operator .subtract, c => c ≠ '-' && c ≠ '=' && c ≠ '>'
  | .operator _, c => c = ' '
  | .literal _, _ | .opening _, _ | .closing _, _ | .mark _, _ => true

def EndsBefore (token : Token) (after : List Char) : Prop :=
  ∀ c ∈ after.head?, token.endsBefore c = true

/-!
# First characters

Digits, quotes, the dollar sign and the first characters of the signs start no name.
-/

theorem isDigit_iff {c : Char} : Text.isDigit c = true ↔ 48 ≤ c.toNat ∧ c.toNat ≤ 57 := by
  unfold Text.isDigit
  rw [Bool.and_eq_true, decide_eq_true_eq, decide_eq_true_eq]
  exact Iff.rfl

theorem not_startsName_of_isDigit {c : Char} (h : Text.isDigit c = true) :
    startsName c = false := by
  rcases isDigit_iff.mp h with ⟨hleast, hgreatest⟩
  have hletter : Text.isLetter c = false := by
    unfold Text.isLetter
    rw [if_pos (by omega)]
    simp only [Bool.or_eq_false_iff, Bool.and_eq_false_iff, decide_eq_false_iff_not]
    constructor
    · left
      intro hle
      have : 97 ≤ c.toNat := hle
      omega
    · left
      intro hle
      have : 65 ≤ c.toNat := hle
      omega
  unfold startsName
  rw [hletter]
  simp only [Bool.false_or, Bool.or_eq_false_iff, decide_eq_false_iff_not]
  constructor <;> rintro rfl <;> simp at hgreatest

theorem not_isBlank_of_isDigit {c : Char} (h : Text.isDigit c = true) : Text.isBlank c = false := by
  rcases isDigit_iff.mp h with ⟨hleast, hgreatest⟩
  unfold Text.isBlank
  rw [if_pos (by omega)]
  simp only [Bool.or_eq_false_iff, Bool.and_eq_false_iff, decide_eq_false_iff_not]
  constructor
  · rintro rfl
    simp at hleast
  · omega

def signChars : List Char :=
  ['=', '!', '*', '?', '<', '.', '-', ':', '>', '&', '|', '+', '/', '%', '(', '[', '\x7b', ')', ']',
    '\x7d', ',', ';', '^', '~', '@', '\x60']

theorem sign?_eq_none {c : Char} {rest : List Char} (h : c ∉ signChars) :
    sign? (c :: rest) = none := by
  have hsigns : ∀ sign ∈ signs, sign.1.head?.any signChars.contains = true :=
    List.all_eq_true.mp (by decide)
  unfold sign?
  rw [List.find?_eq_none]
  intro sign hsign hfits
  have hfirst := hsigns sign hsign
  rcases sign with ⟨spelling, token⟩
  cases spelling with
  | nil => cases hfirst
  | cons first spelling =>
      have hstarts : (first :: spelling).isPrefixOf (c :: rest) = true := hfits
      rw [List.isPrefixOf_cons_cons, Bool.and_eq_true, beq_iff_eq] at hstarts
      exact h (hstarts.1 ▸ List.contains_iff_mem.mp hfirst)

theorem not_startsName_of_mem {c : Char} (h : c ∈ '#' :: '\'' :: '"' :: '$' :: signChars) :
    startsName c = false := by
  have hall : ∀ c ∈ '#' :: '\'' :: '"' :: '$' :: signChars, (!startsName c) = true :=
    List.all_eq_true.mp (by decide)
  simpa using hall c h

theorem startsComment_eq_false {c : Char} {rest : List Char} (hhash : c ≠ '#') (hslash : c ≠ '/') :
    startsComment (c :: rest) = false := by
  unfold startsComment
  split <;> simp_all

theorem startsNumber_cons (c : Char) (rest : List Char) :
    startsNumber (c :: rest) =
      if c = '.' then rest.head?.any Text.isDigit else Text.isDigit c := by
  unfold startsNumber
  split
  · rename_i heq
    cases heq
    rfl
  · rename_i first tail hpoint heq
    cases heq
    split
    · rename_i hc
      subst hc
      cases rest with
      | nil => rfl
      | cons d rest => exact (hpoint d rest rfl rfl).elim
    · rfl
  · rename_i heq
    cases heq

theorem startsNumber_eq_false {c : Char} {rest : List Char} (hpoint : c ≠ '.')
    (hdigit : Text.isDigit c = false) : startsNumber (c :: rest) = false := by
  rw [startsNumber_cons, if_neg hpoint, hdigit]

/-!
# What the reader gives is spelled

A number that is read starts as one, a literal ends at its quote whatever comes behind it, and no
comment starts where the reader gives a token.
-/

theorem spanNumber_spanNumber (pointSeen : Bool) (text : List Char) :
    spanNumber pointSeen (spanNumber pointSeen text).1 = ((spanNumber pointSeen text).1, []) := by
  induction text generalizing pointSeen with
  | nil => rfl
  | cons c rest ih =>
      by_cases hpoint : c = '.' ∧ pointSeen = false
      · simp only [spanNumber, if_pos hpoint, ih]
      · by_cases hdigit : Text.isDigit c = true ∨ c = '_'
        · simp only [spanNumber, if_neg hpoint, if_pos hdigit, ih]
        · simp only [spanNumber, if_neg hpoint, if_neg hdigit]

theorem startsNumber_spanNumber {c : Char} {rest : List Char}
    (h : startsNumber (c :: rest) = true) :
    startsNumber (c :: (spanNumber (c = '.') rest).1) = true := by
  rw [startsNumber_cons] at h ⊢
  by_cases hpoint : c = '.'
  · subst hpoint
    cases rest with
    | nil => cases h
    | cons d rest =>
        have hdigit : Text.isDigit d = true := h
        have hspan : ¬ (d = '.' ∧ decide ('.' = '.') = false) := by simp
        rw [spanNumber, if_neg hspan, if_pos (Or.inl hdigit)]
        exact hdigit
  · rw [if_neg hpoint] at h ⊢
    exact h

/-- What stands behind the first quote of a literal, up to the quote that ends it. -/
inductive EndsLiteral (quote : Char) : List Char → Prop where
  | quote : EndsLiteral quote [quote]
  | escape (c : Char) {body : List Char} (h : EndsLiteral quote body) :
      EndsLiteral quote ('\\' :: c :: body)
  | other {c : Char} {body : List Char} (hslash : c ≠ '\\') (hquote : c ≠ quote)
      (h : EndsLiteral quote body) : EndsLiteral quote (c :: body)

theorem endsLiteral_of_spanLiteral? {quote : Char} {text body after : List Char}
    (h : spanLiteral? quote text = some (body, after)) : EndsLiteral quote body := by
  fun_induction spanLiteral? quote text generalizing body after with
  | case1 => cases h
  | case2 c rest ih =>
      rcases Option.map_eq_some_iff.mp h with ⟨⟨body', after'⟩, hspan, heq⟩
      cases heq
      exact .escape c (ih hspan)
  | case3 rest _ =>
      cases h
      exact .quote
  | case4 c rest hescape hquote ih =>
      rcases Option.map_eq_some_iff.mp h with ⟨⟨body', after'⟩, hspan, heq⟩
      cases heq
      refine .other ?_ hquote (ih hspan)
      rintro rfl
      cases rest with
      | nil => cases hspan
      | cons d rest => exact hescape d rest rfl rfl

theorem EndsLiteral.spanLiteral?_append {quote : Char} (hslash : quote ≠ '\\')
    {body : List Char} (h : EndsLiteral quote body) (after : List Char) :
    spanLiteral? quote (body ++ after) = some (body, after) := by
  induction h with
  | quote =>
      rw [List.singleton_append, spanLiteral?, if_pos rfl]
      intro c rest hquote
      exact absurd hquote hslash
  | escape c _ ih => rw [List.cons_append, List.cons_append, spanLiteral?, ih, Option.map_some]
  | other hother hquote _ ih =>
      rw [List.cons_append, spanLiteral?, if_neg hquote, ih, Option.map_some]
      intro c rest hescape
      exact absurd hescape hother

theorem isSpelled_number_iff {c : Char} {rest : List Char} :
    (Token.number (String.ofList (c :: rest))).isSpelled = true ↔
      startsNumber (c :: rest) = true ∧ spanNumber (c = '.') rest = (rest, []) := by
  simp only [isSpelled, String.toList_ofList, Bool.and_eq_true, decide_eq_true_eq]

theorem ne_slash_of_quote {quote : Char} (h : quote = '\'' ∨ quote = '"') : quote ≠ '\\' := by
  rcases h with rfl | rfl <;> decide

theorem isSpelled_literal_iff {quote : Char} {rest : List Char} :
    (Token.literal (String.ofList (quote :: rest))).isSpelled = true ↔
      (quote = '\'' ∨ quote = '"') ∧ EndsLiteral quote rest := by
  simp only [isSpelled, String.toList_ofList, Bool.and_eq_true, Bool.or_eq_true,
    decide_eq_true_eq]
  refine and_congr_right fun hquote => ⟨endsLiteral_of_spanLiteral?, fun h => ?_⟩
  have hspan := h.spanLiteral?_append (ne_slash_of_quote hquote) []
  rwa [List.append_nil] at hspan

theorem isSpelled_variable_iff {word : List Char} :
    (Token.variable (String.ofList ('$' :: word))).isSpelled = true ↔
      word ≠ [] ∧ word.all isWordChar = true := by
  cases word with
  | nil => simp [isSpelled]
  | cons c rest => simp [isSpelled, String.toList_ofList]

theorem isSpelled_name_iff {c : Char} {rest : List Char} :
    (Token.name (String.ofList (c :: rest))).isSpelled = true ↔
      Text.isBlank c = false ∧ startsName c = true ∧ rest.all isNameChar = true := by
  simp only [isSpelled, String.toList_ofList, Bool.and_eq_true, Bool.not_eq_true', and_assoc]

/-- What the reader takes of a text that starts with a token, and what it leaves. -/
inductive Taken (c : Char) (rest : List Char) : Token → List Char → Prop where
  | number {digits after : List Char} (starts : startsNumber (c :: rest) = true)
      (span : spanNumber (c = '.') rest = (digits, after)) :
      Taken c rest (.number (String.ofList (c :: digits))) after
  | sign {token : Token} {after : List Char} (mem : (token.text.toList, some token) ∈ signs)
      (first : sign? (c :: rest) = some (token.text.toList, some token))
      (noNumber : startsNumber (c :: rest) = false)
      (split : token.text.toList ++ after = c :: rest) : Taken c rest token after
  | literal {body after : List Char} (quote : c = '\'' ∨ c = '"')
      (span : spanLiteral? c rest = some (body, after)) :
      Taken c rest (.literal (String.ofList (c :: body))) after
  | variable {word after : List Char} (dollar : c = '$') (nonempty : word ≠ [])
      (taken : rest.takeWhile isWordChar = word) (left : rest.dropWhile isWordChar = after) :
      Taken c rest (.variable (String.ofList (c :: word))) after
  | name {word after : List Char} (starts : startsName c = true)
      (taken : rest.takeWhile isNameChar = word) (left : rest.dropWhile isNameChar = after) :
      Taken c rest (.name (String.ofList (c :: word))) after

theorem text_of_mem_signs : ∀ sign ∈ signs, ∀ token ∈ sign.2,
    token.text.toList = sign.1 ∧ sign.1 ≠ [] := by
  decide

theorem taken_of_read {c : Char} {rest after : List Char} {token : Token}
    (h : read c rest = .ok (token, after)) :
    startsComment (c :: rest) = false ∧ Taken c rest token after := by
  unfold read at h
  split at h
  · cases h
  · rename_i hcomment
    refine ⟨Bool.not_eq_true _ ▸ hcomment, ?_⟩
    split at h
    · rename_i hnumber
      cases h
      exact .number hnumber rfl
    · rename_i hnumber
      split at h
      · rename_i spelling sign hsign
        cases h
        have hmem := List.mem_of_find?_eq_some hsign
        have hfits := List.find?_some hsign
        rcases text_of_mem_signs _ hmem token rfl with ⟨htext, hne⟩
        rcases List.isPrefixOf_iff_prefix.mp hfits with ⟨after, hafter⟩
        obtain rfl : token.text.toList = spelling := htext
        refine .sign hmem hsign (Bool.not_eq_true _ ▸ hnumber) ?_
        cases hspelling : token.text.toList with
        | nil => exact absurd hspelling hne
        | cons first tail =>
            rw [hspelling] at hafter
            rcases List.cons.inj hafter with ⟨rfl, hrest⟩
            rw [List.length_cons, Nat.add_sub_cancel, ← hrest]
            exact congrArg (first :: tail ++ ·) List.drop_left
      · cases h
      · split at h
        · rename_i hquote
          split at h
          · rename_i body after' hspan
            cases h
            exact .literal hquote hspan
          · cases h
        · split at h
          · rename_i hdollar
            split at h
            · cases h
            · rename_i hword
              cases h
              exact .variable hdollar hword rfl rfl
          · split at h
            · rename_i hname
              cases h
              exact .name hname rfl rfl
            · cases h

/-- What the reader gives is spelled. -/
theorem isSpelled_of_read {c : Char} {rest after : List Char} {token : Token}
    (hblank : Text.isBlank c = false) (h : read c rest = .ok (token, after)) :
    token.isSpelled = true := by
  cases (taken_of_read h).2 with
  | number starts span =>
      have hstarts := startsNumber_spanNumber starts
      have hspan := spanNumber_spanNumber (c = '.') rest
      rw [span] at hstarts hspan
      exact isSpelled_number_iff.mpr ⟨hstarts, hspan⟩
  | sign mem _ _ _ =>
      have hall : ∀ sign ∈ signs, ∀ token ∈ sign.2, token.isSpelled = true := by decide
      exact hall _ mem token rfl
  | literal quote span =>
      exact isSpelled_literal_iff.mpr ⟨quote, endsLiteral_of_spanLiteral? span⟩
  | «variable» dollar nonempty taken _ =>
      rw [dollar, isSpelled_variable_iff, ← taken]
      exact ⟨taken ▸ nonempty, List.all_takeWhile⟩
  | name starts taken _ =>
      rw [← taken]
      exact isSpelled_name_iff.mpr ⟨hblank, starts, List.all_takeWhile⟩

/-!
# Reading what is spelled
-/

theorem takeWhile_append_eq {p : Char → Bool} {word : List Char} (hword : word.all p = true)
    {after : List Char} (hafter : ∀ c ∈ after.head?, p c = false) :
    (word ++ after).takeWhile p = word ∧ (word ++ after).dropWhile p = after := by
  rw [List.takeWhile_append_of_pos (List.all_eq_true.mp hword),
    List.dropWhile_append_of_pos (List.all_eq_true.mp hword)]
  cases after with
  | nil => simp
  | cons c rest =>
      have hc := hafter c rfl
      simp [hc]

theorem spanNumber_append_eq {pointSeen : Bool} {digits after : List Char}
    (hdigits : spanNumber pointSeen digits = (digits, []))
    (hafter : ∀ c ∈ after.head?, (c = '.' || Text.isDigit c || c = '_') = false) :
    spanNumber pointSeen (digits ++ after) = (digits, after) := by
  induction digits generalizing pointSeen with
  | nil =>
      cases after with
      | nil => rfl
      | cons c rest =>
          have hc := hafter c rfl
          simp only [Bool.or_eq_false_iff, decide_eq_false_iff_not] at hc
          simp [spanNumber, hc]
  | cons c digits ih =>
      rw [List.cons_append]
      by_cases hpoint : c = '.' ∧ pointSeen = false
      · simp only [spanNumber, if_pos hpoint, Prod.mk.injEq, List.cons.injEq, true_and] at hdigits ⊢
        rw [ih (Prod.ext hdigits.1 hdigits.2)]
        exact ⟨rfl, rfl⟩
      · by_cases hdigit : Text.isDigit c = true ∨ c = '_'
        · simp only [spanNumber, if_neg hpoint, if_pos hdigit, Prod.mk.injEq, List.cons.injEq,
            true_and] at hdigits ⊢
          rw [ih (Prod.ext hdigits.1 hdigits.2)]
          exact ⟨rfl, rfl⟩
        · simp only [spanNumber, if_neg hpoint, if_neg hdigit, Prod.mk.injEq, reduceCtorEq,
            false_and] at hdigits

theorem isPrefixOf_cons_eq_false {c d : Char} {spelling text : List Char} (h : d ≠ c) :
    (c :: spelling).isPrefixOf (d :: text) = false := by
  rw [List.isPrefixOf_cons_cons, Bool.and_eq_false_iff]
  exact Or.inl (beq_eq_false_iff_ne.mpr (Ne.symm h))

theorem sign?_mark {m : Mark} {after : List Char} (ends : (Token.mark m).EndsBefore after) :
    sign? (m.spelling.toList ++ after) = some (m.spelling.toList, some (.mark m)) := by
  cases after with
  | nil => cases m <;> rfl
  | cons c rest =>
      have hc : (Token.mark m).endsBefore c = true := ends c rfl
      cases m <;>
        simp_all [sign?, signs, Mark.spelling, endsBefore, isPrefixOf_cons_eq_false]

theorem sign?_operator {op : Operator} {after : List Char}
    (ends : (Token.operator op).EndsBefore after) :
    sign? (op.spelling.toList ++ after) = some (op.spelling.toList, some (.operator op)) := by
  cases after with
  | nil => cases op <;> rfl
  | cons c rest =>
      have hc : (Token.operator op).endsBefore c = true := ends c rfl
      cases op <;>
        simp_all [sign?, signs, Operator.spelling, endsBefore, isPrefixOf_cons_eq_false]

theorem sign?_opening (bracket : Bracket) (after : List Char) :
    sign? (bracket.opening :: after) = some ([bracket.opening], some (.opening bracket)) := by
  cases bracket <;> simp [sign?, signs, Bracket.opening]

theorem sign?_closing (bracket : Bracket) (after : List Char) :
    sign? (bracket.closing :: after) = some ([bracket.closing], some (.closing bracket)) := by
  cases bracket <;> simp [sign?, signs, Bracket.closing]

/-- The text is the text of the token and what is after it, and the reader takes it apart so. -/
def Reads (token : Token) (after text : List Char) : Prop :=
  ∃ (c : Char) (rest : List Char), text = c :: rest ∧ Text.isBlank c = false ∧
    read c rest = .ok (token, after)

theorem reads_sign {c : Char} {tail after : List Char} {token : Token}
    (hsign : sign? (c :: (tail ++ after)) = some (c :: tail, some token))
    (hblank : Text.isBlank c = false) (hcomment : startsComment (c :: (tail ++ after)) = false)
    (hnumber : startsNumber (c :: (tail ++ after)) = false) :
    token.Reads after (c :: (tail ++ after)) := by
  refine ⟨c, tail ++ after, rfl, hblank, ?_⟩
  unfold read
  rw [hcomment, hnumber, hsign]
  simp

theorem reads_mark {m : Mark} {after : List Char} (ends : (Token.mark m).EndsBefore after) :
    (Token.mark m).Reads after (m.spelling.toList ++ after) := by
  have hsign := sign?_mark ends
  cases m <;>
    exact reads_sign hsign (by decide) (by rfl) (by rfl)

theorem reads_operator {op : Operator} {after : List Char}
    (ends : (Token.operator op).EndsBefore after) :
    (Token.operator op).Reads after (op.spelling.toList ++ after) := by
  have hsign := sign?_operator ends
  cases after with
  | nil =>
      cases op <;>
        exact reads_sign hsign (by decide) (by rfl) (by rfl)
  | cons c rest =>
      have hc : (Token.operator op).endsBefore c = true := ends c rfl
      cases op <;>
        first
        | exact reads_sign hsign (by decide) (by rfl) (by rfl)
        | (obtain rfl : c = ' ' := by simpa [endsBefore] using hc
           exact reads_sign hsign (by decide) (by rfl) (by rfl))

theorem reads_name {text : String} {after : List Char}
    (spelled : (Token.name text).isSpelled = true) (ends : (Token.name text).EndsBefore after) :
    (Token.name text).Reads after (text.toList ++ after) := by
  obtain ⟨word, rfl⟩ : ∃ word, text = String.ofList word := ⟨text.toList, String.ofList_toList.symm⟩
  cases word with
  | nil => simp [isSpelled] at spelled
  | cons c rest =>
      rcases isSpelled_name_iff.mp spelled with ⟨hblank, hname, hrest⟩
      have hstart : c ∉ '#' :: '\'' :: '"' :: '$' :: signChars := by
        intro hmem
        rw [not_startsName_of_mem hmem] at hname
        cases hname
      simp only [List.mem_cons, not_or] at hstart
      rcases hstart with ⟨hhash, hsingle, hdouble, hdollar, hsign⟩
      have hdigit : Text.isDigit c = false := by
        cases hdigit : Text.isDigit c with
        | false => rfl
        | true =>
            rw [not_startsName_of_isDigit hdigit] at hname
            cases hname
      have hpoint : c ≠ '.' := by
        rintro rfl
        exact hsign (by decide)
      have hslash : c ≠ '/' := by
        rintro rfl
        exact hsign (by decide)
      have hafter : ∀ c ∈ after.head?, isNameChar c = false :=
        fun c hc => by simpa [endsBefore] using ends c hc
      rcases takeWhile_append_eq hrest hafter with ⟨htake, hdrop⟩
      rw [String.toList_ofList]
      refine ⟨c, rest ++ after, rfl, hblank, ?_⟩
      unfold read
      rw [startsComment_eq_false hhash hslash, startsNumber_eq_false hpoint hdigit,
        sign?_eq_none hsign]
      simp [hsingle, hdouble, hdollar, hname, htake, hdrop]

theorem reads_variable {text : String} {after : List Char}
    (spelled : (Token.variable text).isSpelled = true)
    (ends : (Token.variable text).EndsBefore after) :
    (Token.variable text).Reads after (text.toList ++ after) := by
  obtain ⟨word, rfl⟩ : ∃ word, text = String.ofList ('$' :: word) := by
    unfold isSpelled at spelled
    simp only at spelled
    split at spelled
    · rename_i c rest htext
      exact ⟨c :: rest, by rw [← htext, String.ofList_toList]⟩
    · cases spelled
  rcases isSpelled_variable_iff.mp spelled with ⟨hword, hall⟩
  have hafter : ∀ c ∈ after.head?, isWordChar c = false :=
    fun c hc => by simpa [endsBefore] using ends c hc
  rcases takeWhile_append_eq hall hafter with ⟨htake, hdrop⟩
  rw [String.toList_ofList]
  refine ⟨'$', word ++ after, rfl, by decide, ?_⟩
  have hsign : sign? ('$' :: (word ++ after)) = none := sign?_eq_none (by decide)
  unfold read
  rw [startsComment_eq_false (by decide) (by decide), startsNumber_eq_false (by decide) (by decide),
    hsign, htake, hdrop]
  cases word with
  | nil => exact absurd rfl hword
  | cons c rest => rfl

theorem reads_number {raw : String} {after : List Char}
    (spelled : (Token.number raw).isSpelled = true) (ends : (Token.number raw).EndsBefore after) :
    (Token.number raw).Reads after (raw.toList ++ after) := by
  obtain ⟨digits, rfl⟩ : ∃ digits, raw = String.ofList digits :=
    ⟨raw.toList, String.ofList_toList.symm⟩
  cases digits with
  | nil => simp [isSpelled] at spelled
  | cons c digits =>
      rcases isSpelled_number_iff.mp spelled with ⟨hstarts, hspan⟩
      have hfirst : c = '.' ∨ Text.isDigit c = true := by
        rw [startsNumber_cons] at hstarts
        split at hstarts
        · exact Or.inl ‹_›
        · exact Or.inr hstarts
      have hstarts' : startsNumber (c :: (digits ++ after)) = true := by
        rw [startsNumber_cons] at hstarts ⊢
        split at hstarts
        · rename_i hpoint
          rw [if_pos hpoint]
          cases digits with
          | nil => cases hstarts
          | cons d digits => exact hstarts
        · rename_i hpoint
          rw [if_neg hpoint]
          exact hstarts
      have hblank : Text.isBlank c = false := by
        rcases hfirst with rfl | hdigit
        · decide
        · exact not_isBlank_of_isDigit hdigit
      have hcomment : startsComment (c :: (digits ++ after)) = false := by
        apply startsComment_eq_false
        · rintro rfl
          simp [Text.isDigit] at hfirst
        · rintro rfl
          simp [Text.isDigit] at hfirst
      rw [String.toList_ofList]
      refine ⟨c, digits ++ after, rfl, hblank, ?_⟩
      unfold read
      rw [hcomment, hstarts', spanNumber_append_eq hspan]
      · rfl
      · intro d hd
        simpa [endsBefore] using ends d hd

theorem reads_literal {raw : String} (spelled : (Token.literal raw).isSpelled = true)
    (after : List Char) : (Token.literal raw).Reads after (raw.toList ++ after) := by
  obtain ⟨text, rfl⟩ : ∃ text, raw = String.ofList text := ⟨raw.toList, String.ofList_toList.symm⟩
  cases text with
  | nil => simp [isSpelled] at spelled
  | cons quote body =>
      rcases isSpelled_literal_iff.mp spelled with ⟨hquote, hends⟩
      rw [String.toList_ofList]
      refine ⟨quote, body ++ after, rfl, ?_, ?_⟩
      · rcases hquote with rfl | rfl <;> decide
      · have hspan := hends.spanLiteral?_append (ne_slash_of_quote hquote) after
        have hsign : sign? (quote :: (body ++ after)) = none :=
          sign?_eq_none (by rcases hquote with rfl | rfl <;> decide)
        unfold read
        rw [startsComment_eq_false, startsNumber_eq_false, hsign]
        · simp [hquote, hspan]
        all_goals rcases hquote with rfl | rfl <;> decide

/-- From the text of a spelled token the reader gives the token, if something else follows. -/
theorem reads_text {token : Token} {after : List Char} (spelled : token.isSpelled = true)
    (ends : token.EndsBefore after) : token.Reads after (token.text.toList ++ after) := by
  cases token with
  | name text => exact reads_name spelled ends
  | literal raw => exact reads_literal spelled after
  | number raw => exact reads_number spelled ends
  | opening bracket =>
      have hsign := sign?_opening bracket after
      cases bracket <;> exact reads_sign hsign (by decide) (by rfl) (by rfl)
  | closing bracket =>
      have hsign := sign?_closing bracket after
      cases bracket <;> exact reads_sign hsign (by decide) (by rfl) (by rfl)
  | mark m => exact reads_mark ends
  | operator op => exact reads_operator ends
  | _ text => exact reads_variable spelled ends

/-!
# The text of a token
-/

theorem Taken.text_append {c : Char} {rest after : List Char} {token : Token}
    (h : Taken c rest token after) : token.text.toList ++ after = c :: rest := by
  cases h with
  | number _ span =>
      rw [text, String.toList_ofList, List.cons_append, ← spanNumber_append (c = '.') rest, span]
  | sign _ _ _ split => exact split
  | literal _ span => rw [text, String.toList_ofList, List.cons_append, spanLiteral?_append span]
  | «variable» _ _ taken left =>
      rw [text, String.toList_ofList, List.cons_append, ← taken, ← left,
        List.takeWhile_append_dropWhile]
  | name _ taken left =>
      rw [text, String.toList_ofList, List.cons_append, ← taken, ← left,
        List.takeWhile_append_dropWhile]

theorem text_append_of_read {c : Char} {rest after : List Char} {token : Token}
    (h : read c rest = .ok (token, after)) : token.text.toList ++ after = c :: rest :=
  (taken_of_read h).2.text_append

theorem Reads.text_append {token : Token} {after text : List Char} (h : token.Reads after text) :
    token.text.toList ++ after = text := by
  rcases h with ⟨c, rest, rfl, -, hread⟩
  exact text_append_of_read hread

theorem Reads.text_ne_nil {token : Token} {after text : List Char} (h : token.Reads after text) :
    token.text.toList ≠ [] := by
  intro hnil
  have htext := h.text_append
  rcases h with ⟨c, rest, rfl, -, hread⟩
  have hlength := length_le_of_read hread
  rw [hnil, List.nil_append] at htext
  rw [htext, List.length_cons] at hlength
  omega

end Token

end FluentStyle
