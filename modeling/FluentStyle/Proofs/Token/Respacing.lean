import Mathlib.Data.List.Infix
import FluentStyle.Proofs.Token.Layout

/-!
# Other blanks between tokens

No token depends on what stands behind a blank after it, unless it is a literal that goes on there.
So a text has the same tokens if other blanks stand between them, as long as none are taken away
entirely where there were some.
-/

namespace FluentStyle

namespace Token

/-!
# Looking ahead

Whatever holds no blank is in front of the text if it is in front of the other one.  So words and
numbers end where they did, no comment starts where none did, and among the signs the same one wins.
-/

/-- Behind a token the other text goes on as the text does up to its first blank, and if that comes
at once it ends a name. -/
structure Resumes (after other : List Char) : Prop where
  front : other.takeWhile (fun c => !Text.isBlank c) <+: after
  head : ∀ c ∈ other.head?, Text.isBlank c = true → isNameChar c = false

variable {after other tail : List Char}

theorem Resumes.front_append (h : Resumes after other) {word : List Char}
    (hword : word.any Text.isBlank = false) (hfront : word <+: tail ++ other) :
    word <+: tail ++ after := by
  rcases List.prefix_or_prefix_of_prefix hfront (List.prefix_append tail other) with
    hshort | ⟨more, rfl⟩
  · exact hshort.trans (List.prefix_append tail after)
  · rw [List.prefix_append_right_inj] at hfront ⊢
    rcases hfront with ⟨rest, rfl⟩
    have hmore : ∀ c ∈ more, (!Text.isBlank c) = true := by
      intro c hc
      rw [Bool.not_eq_true']
      exact Bool.eq_false_iff.mpr (List.any_eq_false.mp hword c (List.mem_append_right tail hc))
    have hall := h.front
    rw [List.takeWhile_append_of_pos hmore] at hall
    exact (List.prefix_append more _).trans hall

theorem Resumes.head_eq (h : Resumes after other) {c : Char} (hc : c ∈ other.head?) :
    Text.isBlank c = true ∧ isNameChar c = false ∨ c ∈ after.head? := by
  cases other with
  | nil => cases hc
  | cons d other =>
      obtain rfl : d = c := Option.some.inj hc
      cases hblank : Text.isBlank d with
      | true => exact Or.inl ⟨rfl, h.head d rfl hblank⟩
      | false =>
          have hfront : [d] <+: [] ++ after :=
            h.front_append (by simpa using hblank) (List.prefix_append [d] other)
          rcases hfront with ⟨more, hmore⟩
          rw [List.nil_append] at hmore
          rw [← hmore]
          exact Or.inr rfl

theorem not_numeric_of_isBlank {c : Char} (h : Text.isBlank c = true) :
    c ≠ '.' ∧ Text.isDigit c = false ∧ c ≠ '_' := by
  refine ⟨?_, ?_, ?_⟩
  · rintro rfl
    revert h
    decide
  · cases hdigit : Text.isDigit c with
    | false => rfl
    | true =>
        rw [not_isBlank_of_isDigit hdigit] at h
        cases h
  · rintro rfl
    revert h
    decide

theorem startsComment_iff (text : List Char) :
    startsComment text = true ↔ ['#'] <+: text ∨ ['/', '/'] <+: text ∨ ['/', '*'] <+: text := by
  constructor
  · intro h
    unfold startsComment at h
    split at h
    · exact Or.inl ⟨_, rfl⟩
    · exact Or.inr (Or.inl ⟨_, rfl⟩)
    · exact Or.inr (Or.inr ⟨_, rfl⟩)
    · cases h
  · rintro (⟨more, rfl⟩ | ⟨more, rfl⟩ | ⟨more, rfl⟩) <;> rfl

theorem Resumes.startsComment_eq_false (h : Resumes after other)
    (hcomment : startsComment (tail ++ after) = false) : startsComment (tail ++ other) = false := by
  rw [← Bool.not_eq_true, startsComment_iff] at hcomment ⊢
  rintro (hfront | hfront | hfront)
  · exact hcomment (Or.inl (h.front_append rfl hfront))
  · exact hcomment (Or.inr (Or.inl (h.front_append rfl hfront)))
  · exact hcomment (Or.inr (Or.inr (h.front_append rfl hfront)))

theorem Resumes.startsNumber_eq_false (h : Resumes after other) {c : Char}
    (hnumber : startsNumber (c :: (tail ++ after)) = false) :
    startsNumber (c :: (tail ++ other)) = false := by
  rw [startsNumber_cons] at hnumber ⊢
  split
  · rename_i hpoint
    rw [if_pos hpoint] at hnumber
    cases tail with
    | cons d tail => exact hnumber
    | nil =>
        rw [List.nil_append] at hnumber ⊢
        cases other with
        | nil => rfl
        | cons d other =>
            rcases h.head_eq rfl with ⟨hblank, -⟩ | hhead
            · exact (not_numeric_of_isBlank hblank).2.1
            · rw [hhead] at hnumber
              exact hnumber
  · rename_i hpoint
    rw [if_neg hpoint] at hnumber
    exact hnumber

theorem Resumes.spanNumber_eq (h : Resumes after other) {pointSeen : Bool}
    (hspan : spanNumber pointSeen (tail ++ after) = (tail, after)) :
    spanNumber pointSeen (tail ++ other) = (tail, other) := by
  induction tail generalizing pointSeen with
  | nil =>
      cases other with
      | nil => rfl
      | cons c other =>
          rcases h.head_eq rfl with ⟨hblank, -⟩ | hhead
          · rcases not_numeric_of_isBlank hblank with ⟨hpoint, hdigit, hline⟩
            simp [spanNumber, hpoint, hdigit, hline]
          · rcases List.head?_eq_some_iff.mp hhead with ⟨more, rfl⟩
            rw [List.nil_append, spanNumber] at hspan ⊢
            split
            · rename_i hpoint
              rw [if_pos hpoint] at hspan
              cases hspan
            · rename_i hpoint
              rw [if_neg hpoint] at hspan
              split
              · rename_i hdigit
                rw [if_pos hdigit] at hspan
                cases hspan
              · rfl
  | cons c tail ih =>
      rw [List.cons_append, spanNumber] at hspan ⊢
      split at hspan
      · rename_i hpoint
        rw [if_pos hpoint]
        simp only [Prod.mk.injEq, List.cons.injEq, true_and] at hspan ⊢
        rw [ih (Prod.ext hspan.1 hspan.2)]
        exact ⟨rfl, rfl⟩
      · rename_i hpoint
        rw [if_neg hpoint]
        split at hspan
        · rename_i hdigit
          rw [if_pos hdigit]
          simp only [Prod.mk.injEq, List.cons.injEq, true_and] at hspan ⊢
          rw [ih (Prod.ext hspan.1 hspan.2)]
          exact ⟨rfl, rfl⟩
        · cases hspan

theorem not_isBlank_of_mem_signs : ∀ sign ∈ signs, sign.1.any Text.isBlank = false := by
  decide

theorem Resumes.sign?_eq (h : Resumes after other)
    (hself : ∀ sign ∈ sign? (tail ++ after), sign.1 <+: tail) :
    sign? (tail ++ other) = sign? (tail ++ after) := by
  have hfits : ∀ sign ∈ signs, sign.1.isPrefixOf (tail ++ after) = false →
      sign.1.isPrefixOf (tail ++ other) = false := by
    intro sign hsign hfits
    rw [← Bool.not_eq_true, List.isPrefixOf_iff_prefix] at hfits ⊢
    exact fun hfront => hfits (h.front_append (not_isBlank_of_mem_signs sign hsign) hfront)
  cases hsign : sign? (tail ++ after) with
  | none =>
      unfold sign? at hsign ⊢
      rw [List.find?_eq_none] at hsign ⊢
      intro sign hmem
      have hnone := hfits sign hmem (Bool.not_eq_true _ ▸ hsign sign hmem)
      simp [hnone]
  | some sign =>
      have hfront := hself sign hsign
      unfold sign? at hsign ⊢
      rw [List.find?_eq_some_iff_append] at hsign ⊢
      rcases hsign with ⟨-, before, later, heq, hbefore⟩
      refine ⟨List.isPrefixOf_iff_prefix.mpr (hfront.trans (List.prefix_append tail other)),
        before, later, heq, ?_⟩
      intro earlier hearlier
      have hmem : earlier ∈ signs := heq ▸ List.mem_append_left _ hearlier
      have hno := hfits earlier hmem (by simpa using hbefore earlier hearlier)
      simp [hno]

theorem Resumes.ends (h : Resumes after other) {p : Char → Bool}
    (hp : ∀ c : Char, p c = true → isNameChar c = true) {rest : List Char}
    (hafter : after = rest.dropWhile p) : ∀ c ∈ other.head?, p c = false := by
  intro c hc
  rcases h.head_eq hc with ⟨-, hname⟩ | hhead
  · cases hword : p c with
    | false => rfl
    | true =>
        rw [hp c hword] at hname
        cases hname
  · have hnot := List.head?_dropWhile_not p rest
    rw [← hafter, Option.mem_def.mp hhead] at hnot
    simpa using hnot

theorem startsNumber_append {c : Char} (h : startsNumber (c :: tail) = true)
    (after : List Char) : startsNumber (c :: (tail ++ after)) = true := by
  rw [startsNumber_cons] at h ⊢
  split
  · rename_i hpoint
    rw [if_pos hpoint] at h
    cases tail with
    | nil => cases h
    | cons d tail => exact h
  · rename_i hpoint
    rw [if_neg hpoint] at h
    exact h

theorem Resumes.reads_number (h : Resumes after other) {c : Char} (hblank : Text.isBlank c = false)
    (hcomment : startsComment (c :: (tail ++ other)) = false)
    (hstarts : startsNumber (c :: (tail ++ after)) = true)
    (hspan : spanNumber (c = '.') (tail ++ after) = (tail, after)) :
    (Token.number (String.ofList (c :: tail))).Reads other (c :: (tail ++ other)) := by
  have htail := startsNumber_spanNumber hstarts
  rw [hspan] at htail
  refine ⟨c, tail ++ other, rfl, hblank, ?_⟩
  unfold read
  rw [hcomment, startsNumber_append htail, h.spanNumber_eq hspan]
  rfl

theorem Resumes.reads_sign (h : Resumes after other) {c : Char} {token : Token}
    (hblank : Text.isBlank c = false) (hcomment : startsComment (c :: (tail ++ other)) = false)
    (hnumber : startsNumber (c :: (tail ++ after)) = false)
    (hsign : sign? (c :: (tail ++ after)) = some (c :: tail, some token)) :
    token.Reads other (c :: (tail ++ other)) := by
  have hsame : sign? ((c :: tail) ++ other) = sign? ((c :: tail) ++ after) := by
    apply h.sign?_eq
    intro found hfound
    obtain rfl := Option.some.inj (hsign.symm.trans hfound)
    exact List.prefix_refl _
  exact Token.reads_sign (hsame.trans hsign) hblank hcomment (h.startsNumber_eq_false hnumber)

/-- The reader makes the same token where the other text follows. -/
theorem Reads.resume {token : Token} (h : token.Reads after (token.text.toList ++ after))
    (hother : Resumes after other) : token.Reads other (token.text.toList ++ other) := by
  have hne := h.text_ne_nil
  rcases h with ⟨c, rest, heq, hblank, hread⟩
  have spelled := isSpelled_of_read hblank hread
  rcases taken_of_read hread with ⟨hcomment, htaken⟩
  obtain ⟨tail, htext, rfl⟩ : ∃ tail : List Char,
      token.text.toList = c :: tail ∧ tail ++ after = rest := by
    cases htext : token.text.toList with
    | nil => exact absurd htext hne
    | cons d tail =>
        rw [htext] at heq
        cases heq
        exact ⟨tail, rfl, rfl⟩
  have hcomment' : startsComment ((c :: tail) ++ other) = false :=
    hother.startsComment_eq_false hcomment
  cases htaken with
  | number starts span =>
      rw [text, String.toList_ofList] at htext ⊢
      cases htext
      exact hother.reads_number hblank hcomment' starts span
  | sign _ first noNumber _ =>
      rw [htext] at first ⊢
      exact hother.reads_sign hblank hcomment' noNumber first
  | literal _ _ => exact reads_literal spelled other
  | «variable» _ _ _ left =>
      have hends := hother.ends (fun c hc => by simp [isNameChar, hc]) left.symm
      exact reads_variable spelled fun c hc => by simp [endsBefore, hends c hc]
  | name _ _ left =>
      have hends := hother.ends (fun _ => id) left.symm
      exact reads_name spelled fun c hc => by simp [endsBefore, hends c hc]

end Token

/-!
# Texts

Both texts are cut into the same tokens, and which brackets are open depends on the tokens only.
-/

namespace Lexeme

open Token

/-- Blanks that may stand where there were others: what comes before them ends there. -/
structure IsGap (gap : List Char) : Prop where
  blank : gap.all Text.isBlank = true
  ends : ∀ c ∈ gap.head?, isNameChar c = false

/-- The other text has the tokens of the text with other blanks between them.  Blanks may come where
there were none, and blanks that are there do not vanish. -/
inductive Respaced : List Char → List Char → Prop where
  | blanks {gap other : List Char} (h : gap.all Text.isBlank = true) (hother : IsGap other) :
      Respaced gap other
  | token {gap other after rest : List Char} {token : Token} (h : gap.all Text.isBlank = true)
      (hother : IsGap other) (hne : gap ≠ [] → other ≠ [])
      (hreads : token.Reads after (token.text.toList ++ after)) (hrest : Respaced after rest) :
      Respaced (gap ++ (token.text.toList ++ after)) (other ++ (token.text.toList ++ rest))

theorem takeWhile_gap {gap : List Char} (h : gap.all Text.isBlank = true) (hne : gap ≠ [])
    (after : List Char) : (gap ++ after).takeWhile (fun c => !Text.isBlank c) = [] := by
  cases gap with
  | nil => exact absurd rfl hne
  | cons c gap =>
      rw [List.all_cons, Bool.and_eq_true] at h
      simp [h.1]

theorem head_gap {gap : List Char} (h : IsGap gap) (hne : gap ≠ []) (after : List Char) :
    ∀ c ∈ (gap ++ after).head?, isNameChar c = false := by
  cases gap with
  | nil => exact absurd rfl hne
  | cons c gap => exact h.ends

theorem resumes_append {text after other : List Char} (h : Resumes after other)
    (htext : ∀ c ∈ text.head?, Text.isBlank c = false) :
    Resumes (text ++ after) (text ++ other) := by
  constructor
  · clear htext
    induction text with
    | nil => exact h.front
    | cons c text ih =>
        rw [List.cons_append, List.cons_append, List.takeWhile_cons]
        split
        · exact List.cons_prefix_cons.mpr ⟨rfl, ih⟩
        · exact List.nil_prefix
  · cases text with
    | nil => exact h.head
    | cons c text =>
        intro d hd hblank
        rw [htext d hd] at hblank
        cases hblank

theorem Respaced.resumes {text other : List Char} (h : Respaced text other) :
    Resumes text other := by
  induction h with
  | @blanks gap other h hother =>
      cases other with
      | nil => exact ⟨List.nil_prefix, by rintro c ⟨⟩⟩
      | cons c other =>
          have hnil := takeWhile_gap hother.blank (List.cons_ne_nil c other) []
          rw [List.append_nil] at hnil
          exact ⟨hnil ▸ List.nil_prefix, fun c hc _ => hother.ends c hc⟩
  | @token gap other after rest token h hother hne hreads hrest ih =>
      by_cases hnil : other = []
      · obtain rfl : gap = [] := by
          by_contra hgap
          exact hne hgap hnil
        subst hnil
        apply resumes_append ih
        have htext := hreads.text_ne_nil
        rcases hreads with ⟨c, more, heq, hblank, -⟩
        intro d hd
        cases hlist : token.text.toList with
        | nil => exact absurd hlist htext
        | cons first tail =>
            rw [hlist] at heq hd
            cases heq
            obtain rfl := Option.some.inj hd
            exact hblank
      · exact ⟨(takeWhile_gap hother.blank hnil _).symm ▸ List.nil_prefix,
          fun c hc _ => head_gap hother hnil _ c hc⟩

theorem scanFrom_respaced {text other : List Char} (h : Respaced text other)
    (position position' : Nat) :
    ∃ lexemes others : List Lexeme, scanFrom position text = (lexemes, none) ∧
      scanFrom position' other = (others, none) ∧
      lexemes.map (·.token) = others.map (·.token) := by
  have hblanks : ∀ (position : Nat) {gap : List Char}, gap.all Text.isBlank = true →
      scanFrom position gap = ([], none) := by
    intro position gap hgap
    rcases scanFrom_blanks position hgap [] with ⟨next, hnext⟩
    rw [List.append_nil] at hnext
    rw [hnext, scanFrom]
  induction h generalizing position position' with
  | blanks h hother => exact ⟨[], [], hblanks _ h, hblanks _ hother.blank, rfl⟩
  | @token gap other after rest token h hother hne hreads hrest ih =>
      rcases scanFrom_blanks position h (token.text.toList ++ after) with ⟨next, hnext⟩
      rcases scanFrom_blanks position' hother.blank (token.text.toList ++ rest) with
        ⟨next', hnext'⟩
      rcases ih (next + token.text.utf8ByteSize) (next' + token.text.utf8ByteSize) with
        ⟨lexemes, others, hscan, hscan', htokens⟩
      have hreads' := hreads.resume hrest.resumes
      refine ⟨⟨token, next⟩ :: lexemes, ⟨token, next'⟩ :: others, ?_, ?_, ?_⟩
      · rw [hnext, scanFrom_reads next hreads, hscan]
      · rw [hnext', scanFrom_reads next' hreads', hscan']
      · rw [List.map_cons, List.map_cons, htokens]

theorem balance_eq_ok {stack stack' opened : List (Bracket × Nat)} {lexemes others : List Lexeme}
    (hstack : stack.map (·.1) = stack'.map (·.1))
    (htokens : lexemes.map (·.token) = others.map (·.token))
    (h : balance stack lexemes = .ok opened) :
    ∃ opened' : List (Bracket × Nat), balance stack' others = .ok opened' ∧
      opened.map (·.1) = opened'.map (·.1) := by
  induction lexemes generalizing stack stack' others with
  | nil =>
      rw [balance] at h
      cases h
      rw [List.map_eq_nil_iff.mp htokens.symm]
      exact ⟨stack', by rw [balance], hstack⟩
  | cons lexeme lexemes ih =>
      rcases List.map_eq_cons_iff.mp htokens.symm with ⟨other, rest, rfl, htoken, hrest⟩
      rcases lexeme with ⟨token, position⟩
      rcases other with ⟨token', position'⟩
      obtain rfl : token' = token := htoken
      cases token' with
      | opening bracket =>
          rw [balance] at h ⊢
          exact ih (by rw [List.map_cons, List.map_cons, hstack]) hrest.symm h
      | closing bracket =>
          cases stack with
          | nil =>
              rw [balance] at h
              cases h
          | cons innermost stack =>
              rcases List.map_eq_cons_iff.mp hstack.symm with ⟨innermost', stack', rfl, hfst, hmore⟩
              rcases innermost with ⟨bracket', start⟩
              rcases innermost' with ⟨bracket'', start'⟩
              obtain rfl : bracket'' = bracket' := hfst
              rw [balance] at h ⊢
              split at h
              · rename_i heq
                rw [if_pos heq]
                exact ih hmore.symm hrest.symm h
              · cases h
      | _ =>
          simp only [balance] at h ⊢
          exact ih hstack hrest.symm h

/-- A source text with other blanks has the same tokens. -/
theorem tokenize_respaced {source other : String} {lexemes : List Lexeme}
    (h : tokenize source = .ok lexemes) (hother : Respaced source.toList other.toList) :
    ∃ others : List Lexeme, tokenize other = .ok others ∧
      lexemes.map (·.token) = others.map (·.token) := by
  rcases tokenize_eq_ok_iff.mp h with ⟨hscan, hbalance⟩
  rcases scanFrom_respaced hother 0 0 with ⟨found, others, hfound, hothers, htokens⟩
  obtain rfl : lexemes = found := (Prod.mk.inj (hscan.symm.trans hfound)).1
  have hstack : ([] : List (Bracket × Nat)).map (·.1) = ([] : List (Bracket × Nat)).map (·.1) := rfl
  rcases balance_eq_ok hstack htokens hbalance with ⟨opened, hopened, hnone⟩
  rw [List.map_eq_nil_iff.mp hnone.symm] at hopened
  exact ⟨others, tokenize_eq_ok_iff.mpr ⟨hothers, hopened⟩, htokens⟩

/-- Any text that is cut into tokens may have one and the same gap in front of each of them. -/
theorem respaced_gaps {gap : List Char} (h : IsGap gap) (hne : gap ≠ []) {position : Nat}
    {text : List Char} {lexemes : List Lexeme} (hscan : scanFrom position text = (lexemes, none)) :
    Respaced text (lexemes.flatMap fun lexeme => gap ++ lexeme.token.text.toList) := by
  have hlead : ∀ lead : List Char, lead.all Text.isBlank = true →
      Respaced (lead ++ text) (lexemes.flatMap fun lexeme => gap ++ lexeme.token.text.toList) := by
    fun_induction scanFrom position text generalizing lexemes with
    | case1 =>
        cases hscan
        intro lead hlead
        rw [List.append_nil]
        exact .blanks hlead ⟨rfl, by rintro c ⟨⟩⟩
    | case2 position c rest hblank ih =>
        intro lead hlead
        rw [← List.singleton_append, ← List.append_assoc]
        apply ih hscan
        simp [hlead, hblank]
    | case3 => cases hscan
    | case4 position c rest hblank token after hread found fault hrest ih =>
        cases hscan
        intro lead hlead
        have htext := Token.text_append_of_read hread
        have hreads : token.Reads after (token.text.toList ++ after) :=
          ⟨c, rest, htext, Bool.not_eq_true _ ▸ hblank, hread⟩
        rw [List.flatMap_cons, List.append_assoc, ← htext]
        exact .token hlead h (fun _ => hne) hreads (ih hrest [] rfl)
  exact hlead [] rfl

end Lexeme

end FluentStyle
