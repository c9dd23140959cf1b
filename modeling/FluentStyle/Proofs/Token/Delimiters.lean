import FluentStyle.Proofs.Token.Coverage

/-!
# Delimiters of a source text

The brackets of a source text are those outside its string literals.  Whether they match can be told
from them alone: they are a balanced word, or one of them closes what is not open, or some are left
open at the end.
-/

namespace FluentStyle

open Text

/-!
# Balanced words
-/

namespace Token

/-- A word of brackets in which every bracket that is opened is closed by its own kind, and
everything between the two is balanced. -/
inductive BalancedWord : List Token → Prop where
  | nil : BalancedWord []
  | enclosed (bracket : Bracket) {inner rest : List Token} (hinner : BalancedWord inner)
      (hrest : BalancedWord rest) :
      BalancedWord (.opening bracket :: (inner ++ .closing bracket :: rest))

theorem BalancedWord.append {first second : List Token} (hfirst : BalancedWord first)
    (hsecond : BalancedWord second) : BalancedWord (first ++ second) := by
  induction hfirst with
  | nil => exact hsecond
  | enclosed bracket hinner _ _ ih =>
      rw [List.cons_append, List.append_assoc, List.cons_append]
      exact .enclosed bracket hinner ih

theorem BalancedWord.pair {inner : List Token} (h : BalancedWord inner) (bracket : Bracket) :
    BalancedWord (.opening bracket :: (inner ++ [.closing bracket])) :=
  .enclosed bracket h .nil

end Token

namespace Lexeme

open Token

/-- The brackets leave some open, which are given with their positions, the innermost first.  All
others are closed. -/
inductive LeavesOpen : List Lexeme → List (Bracket × Nat) → Prop where
  | nothing {word : List Lexeme} (h : BalancedWord (word.map (·.token))) : LeavesOpen word []
  | bracket {front inner : List Lexeme} {stillOpen : List (Bracket × Nat)} {bracket : Bracket}
      {position : Nat} (hfront : LeavesOpen front stillOpen)
      (hinner : BalancedWord (inner.map (·.token))) :
      LeavesOpen (front ++ ⟨.opening bracket, position⟩ :: inner)
        ((bracket, position) :: stillOpen)

theorem LeavesOpen.append {word inner : List Lexeme} {stillOpen : List (Bracket × Nat)}
    (h : LeavesOpen word stillOpen) (hinner : BalancedWord (inner.map (·.token))) :
    LeavesOpen (word ++ inner) stillOpen := by
  cases h with
  | nothing hword =>
      apply LeavesOpen.nothing
      rw [List.map_append]
      exact hword.append hinner
  | bracket hfront hmiddle =>
      rw [List.append_assoc, List.cons_append]
      apply LeavesOpen.bracket hfront
      rw [List.map_append]
      exact hmiddle.append hinner

theorem LeavesOpen.opening {word : List Lexeme} {stillOpen : List (Bracket × Nat)}
    (h : LeavesOpen word stillOpen) (bracket : Bracket) (position : Nat) :
    LeavesOpen (word ++ [⟨.opening bracket, position⟩]) ((bracket, position) :: stillOpen) :=
  .bracket h .nil

theorem LeavesOpen.closing {word : List Lexeme} {stillOpen : List (Bracket × Nat)}
    {bracket : Bracket} {opened : Nat} (h : LeavesOpen word ((bracket, opened) :: stillOpen))
    (position : Nat) : LeavesOpen (word ++ [⟨.closing bracket, position⟩]) stillOpen := by
  cases h with
  | bracket hfront hinner =>
      rw [List.append_assoc]
      apply hfront.append
      simp only [List.cons_append, List.map_cons, List.map_append, List.map_nil]
      exact hinner.pair bracket

/-- The first bracket that does not match: a closing one, where the innermost bracket that is open
is of another kind, or none is open. -/
def FirstMismatch (word : List Lexeme) (position : Nat) (closed : Bracket)
    (innermost : Option (Bracket × Nat)) : Prop :=
  ∃ (before after : List Lexeme) (stillOpen : List (Bracket × Nat)),
    word = before ++ ⟨.closing closed, position⟩ :: after ∧ LeavesOpen before stillOpen ∧
      stillOpen.head? = innermost ∧ ∀ opened ∈ innermost, opened.1 ≠ closed

theorem FirstMismatch.append {word : List Lexeme} {position : Nat} {closed : Bracket}
    {innermost : Option (Bracket × Nat)} (h : FirstMismatch word position closed innermost)
    (more : List Lexeme) : FirstMismatch (word ++ more) position closed innermost := by
  rcases h with ⟨before, after, stillOpen, rfl, hbefore, hinnermost, hne⟩
  refine ⟨before, after ++ more, stillOpen, ?_, hbefore, hinnermost, hne⟩
  rw [List.append_assoc, List.cons_append]

/-!
# Checking balance

Brackets stay open only at lexemes, and the check fails for no other reason than a mismatch.
-/

def brackets (lexemes : List Lexeme) : List Lexeme :=
  lexemes.filter (·.token.isBracket)

/-- What the check of balance says of lexemes that follow others. -/
theorem balance_spec {before : List Lexeme} {stack : List (Bracket × Nat)}
    (hbefore : LeavesOpen before stack) (lexemes : List Lexeme) :
    (∀ stillOpen, balance stack lexemes = .ok stillOpen →
      LeavesOpen (before ++ brackets lexemes) stillOpen) ∧
    ∀ error, balance stack lexemes = .error error →
      ∃ closed innermost, error.reason = .unbalanced closed innermost ∧
        FirstMismatch (before ++ brackets lexemes) error.position closed innermost := by
  unfold brackets
  fun_induction balance stack lexemes generalizing before with
  | case1 stack =>
      refine ⟨?_, by rintro error ⟨⟩⟩
      rintro stillOpen ⟨⟩
      rwa [List.filter_nil, List.append_nil]
  | case2 stack bracket position rest ih =>
      have hrest := ih (hbefore.opening bracket position)
      rwa [List.append_assoc] at hrest
  | case3 bracket position rest =>
      refine ⟨by rintro stillOpen ⟨⟩, ?_⟩
      rintro error ⟨⟩
      exact ⟨bracket, none, rfl, before, _, [], rfl, hbefore, rfl, by rintro opened ⟨⟩⟩
  | case4 position rest bracket opened stack ih =>
      have hrest := ih (hbefore.closing position)
      rwa [List.append_assoc] at hrest
  | case5 bracket position rest innermost opened stack hne =>
      refine ⟨by rintro stillOpen ⟨⟩, ?_⟩
      rintro error ⟨⟩
      refine ⟨bracket, some (innermost, opened), rfl, before, _, _, rfl, hbefore, rfl, ?_⟩
      rintro _ ⟨⟩
      exact hne
  | case6 stack lexeme rest hopening hclosing ih =>
      have hplain : lexeme.token.isBracket = false := by
        rcases lexeme with ⟨token, position⟩
        cases token with
        | opening bracket => exact absurd rfl (hopening bracket position)
        | closing bracket => exact absurd rfl (hclosing bracket position)
        | _ => rfl
      rw [List.filter_cons_of_neg (by rw [hplain]; exact Bool.false_ne_true)]
      exact ih hbefore

theorem balance_nil_spec (lexemes : List Lexeme) :
    (∀ stillOpen, balance [] lexemes = .ok stillOpen → LeavesOpen (brackets lexemes) stillOpen) ∧
    ∀ error, balance [] lexemes = .error error →
      ∃ closed innermost, error.reason = .unbalanced closed innermost ∧
        FirstMismatch (brackets lexemes) error.position closed innermost :=
  balance_spec (@LeavesOpen.nothing [] .nil) lexemes

end Lexeme

/-!
# Brackets outside string literals
-/

namespace Text

/-- Where one stands among the characters of a text: outside its string literals, inside one that
ends at the given quote, or inside one behind a backslash. -/
inductive LiteralState where
  | outside
  | inside (quote : Char)
  | escaped (quote : Char)
deriving DecidableEq, Repr

def LiteralState.step : LiteralState → Char → LiteralState
  | .outside, c => if c = '\'' ∨ c = '"' then .inside c else .outside
  | .inside quote, c =>
      if c = '\\' then .escaped quote else if c = quote then .outside else .inside quote
  | .escaped quote, _ => .inside quote

def bracket? (c : Char) : Option Token :=
  if c = '(' then some (.opening .round)
  else if c = '[' then some (.opening .square)
  else if c = '\x7b' then some (.opening .curly)
  else if c = ')' then some (.closing .round)
  else if c = ']' then some (.closing .square)
  else if c = '\x7d' then some (.closing .curly)
  else none

/-- The brackets outside the string literals of a text that starts at the given byte. -/
def delimiters (state : LiteralState) (position : Nat) : List Char → List Lexeme
  | [] => []
  | c :: rest =>
      let found := if state = .outside then (bracket? c).toList.map (⟨·, position⟩) else []
      found ++ delimiters (state.step c) (position + c.utf8Size) rest

def isPlain (c : Char) : Bool :=
  bracket? c = none && c ≠ '\'' && c ≠ '"'

theorem delimiters_plain {word : List Char} (h : word.all isPlain = true) (position : Nat)
    (after : List Char) :
    delimiters .outside position (word ++ after) =
      delimiters .outside (position + byteLength word) after := by
  induction word generalizing position with
  | nil => rfl
  | cons c word ih =>
      rw [List.all_cons, Bool.and_eq_true] at h
      rcases h with ⟨hfirst, hword⟩
      simp only [isPlain, Bool.and_eq_true, decide_eq_true_eq] at hfirst
      rcases hfirst with ⟨⟨hbracket, hsingle⟩, hdouble⟩
      have hstep : LiteralState.step .outside c = .outside := by
        rw [LiteralState.step, if_neg (not_or.mpr ⟨hsingle, hdouble⟩)]
      rw [List.cons_append, delimiters, hbracket, hstep, ih hword, byteLength_cons, Nat.add_assoc]
      rfl

theorem delimiters_inside {quote : Char} (hslash : quote ≠ '\\') {body : List Char}
    (h : Token.EndsLiteral quote body) (position : Nat) (after : List Char) :
    delimiters (.inside quote) position (body ++ after) =
      delimiters .outside (position + byteLength body) after := by
  induction h generalizing position with
  | quote =>
      have hstep : LiteralState.step (.inside quote) quote = .outside := by
        rw [LiteralState.step, if_neg hslash, if_pos rfl]
      rw [List.singleton_append, delimiters, hstep]
      rfl
  | @escape c body _ ih =>
      have hstep : LiteralState.step (.inside quote) '\\' = .escaped quote := rfl
      have hescaped : LiteralState.step (.escaped quote) c = .inside quote := rfl
      rw [List.cons_append, List.cons_append, delimiters, delimiters, hstep, hescaped, ih,
        byteLength_cons, byteLength_cons, Nat.add_assoc, Nat.add_assoc]
      rfl
  | @other c body hother hquote _ ih =>
      have hstep : LiteralState.step (.inside quote) c = .inside quote := by
        rw [LiteralState.step, if_neg hother, if_neg hquote]
      rw [List.cons_append, delimiters, hstep, ih, byteLength_cons, Nat.add_assoc]
      rfl

/-!
# Brackets of tokens

A character is plain if it is no bracket and does not start a string literal.
-/

def reservedChars : List Char :=
  ['(', ')', '[', ']', '\x7b', '\x7d', '\'', '"']

theorem all_isPlain {p : Char → Bool} (hp : reservedChars.any p = false) {word : List Char}
    (h : word.all p = true) : word.all isPlain = true := by
  rw [List.all_eq_true] at h ⊢
  intro c hc
  have hreserved : c ∉ reservedChars := by
    intro hmem
    exact List.any_eq_false.mp hp c hmem (h c hc)
  simp only [reservedChars, List.mem_cons, List.not_mem_nil, or_false, not_or] at hreserved
  simp [isPlain, bracket?, hreserved]

/-!
# Characters of tokens

The text of a token that is neither a bracket nor a literal is plain.
-/

theorem any_isNameChar_reserved : reservedChars.any Token.isNameChar = false := by
  decide

theorem any_isBlank_reserved : reservedChars.any isBlank = false := by
  decide

def isNumberChar (c : Char) : Bool :=
  c = '.' || isDigit c || c = '_'

theorem all_isNumberChar {pointSeen : Bool} {digits : List Char}
    (h : Token.spanNumber pointSeen digits = (digits, [])) :
    digits.all isNumberChar = true := by
  induction digits generalizing pointSeen with
  | nil => rfl
  | cons c digits ih =>
      rw [Token.spanNumber] at h
      rw [List.all_cons, Bool.and_eq_true]
      split at h
      · rename_i hpoint
        simp only [Prod.mk.injEq, List.cons.injEq, true_and] at h
        exact ⟨by simp [isNumberChar, hpoint.1], ih (Prod.ext h.1 h.2)⟩
      · split at h
        · rename_i hdigit
          simp only [Prod.mk.injEq, List.cons.injEq, true_and] at h
          exact ⟨by simp [isNumberChar, or_assoc, hdigit], ih (Prod.ext h.1 h.2)⟩
        · cases h

theorem isNameChar_of_startsName {c : Char} (h : Token.startsName c = true) :
    Token.isNameChar c = true := by
  simp only [Token.startsName, Token.isNameChar, Token.isWordChar, isLetterOrNumeral,
    Bool.or_eq_true] at h ⊢
  rcases h with (hletter | hline) | hslash
  · exact Or.inl (Or.inl (Or.inl hletter))
  · exact Or.inl (Or.inr hline)
  · exact Or.inr hslash

theorem all_isPlain_text {token : Token} (spelled : token.isSpelled = true)
    (hbracket : token.isBracket = false) (hliteral : ∀ raw, token ≠ .literal raw) :
    token.text.toList.all isPlain = true := by
  cases token with
  | name text =>
      apply all_isPlain any_isNameChar_reserved
      rw [Token.text]
      rw [Token.isSpelled] at spelled
      cases htext : text.toList with
      | nil => rfl
      | cons c rest =>
          simp only [htext, Bool.and_eq_true] at spelled
          rw [List.all_cons, isNameChar_of_startsName spelled.1.2, spelled.2]
          rfl
  | number raw =>
      have hreserved : reservedChars.any isNumberChar = false := by decide
      apply all_isPlain hreserved
      rw [Token.text]
      rw [Token.isSpelled] at spelled
      cases hraw : raw.toList with
      | nil => rfl
      | cons c rest =>
          simp only [hraw, Bool.and_eq_true, decide_eq_true_eq] at spelled
          have hfirst : isNumberChar c = true := by
            have hstarts := spelled.1
            rw [Token.startsNumber_cons] at hstarts
            split at hstarts
            · rename_i hpoint
              rw [hpoint]
              rfl
            · simp [isNumberChar, hstarts]
          rw [List.all_cons, hfirst, all_isNumberChar spelled.2]
          rfl
  | literal raw => exact absurd rfl (hliteral raw)
  | opening bracket => cases hbracket
  | closing bracket => cases hbracket
  | mark m => cases m <;> decide
  | operator op => cases op <;> decide
  | _ text =>
      rw [Token.text]
      rw [Token.isSpelled] at spelled
      split at spelled
      · rename_i c rest htext
        have hword : reservedChars.any Token.isWordChar = false := by decide
        have hname : (c :: rest).all isPlain = true := all_isPlain hword spelled
        rw [htext, List.all_cons, hname]
        decide
      · cases spelled

end Text

/-!
# Brackets of source texts

A token that is read adds itself to the brackets if it is one, so the brackets of a text are those
among its tokens and those of the rest that is not read.
-/

namespace Lexeme

theorem delimiters_literal {raw : String} (spelled : (Token.literal raw).isSpelled = true)
    (position : Nat) (after : List Char) :
    delimiters .outside position (raw.toList ++ after) =
      delimiters .outside (position + raw.utf8ByteSize) after := by
  obtain ⟨text, rfl⟩ : ∃ text, raw = String.ofList text := ⟨raw.toList, String.ofList_toList.symm⟩
  cases text with
  | nil => simp [Token.isSpelled] at spelled
  | cons quote body =>
      rcases Token.isSpelled_literal_iff.mp spelled with ⟨hquote, hends⟩
      have hstep : LiteralState.step .outside quote = .inside quote := by
        rw [LiteralState.step, if_pos hquote]
      have hbracket : bracket? quote = none := by
        rcases hquote with rfl | rfl <;> decide
      rw [String.toList_ofList, List.cons_append, delimiters, hbracket, hstep,
        delimiters_inside (Token.ne_slash_of_quote hquote) hends, utf8ByteSize_ofList,
          byteLength_cons,
        Nat.add_assoc]
      rfl

theorem delimiters_token {token : Token} (spelled : token.isSpelled = true) (position : Nat)
    (after : List Char) :
    delimiters .outside position (token.text.toList ++ after) =
      brackets [⟨token, position⟩] ++
        delimiters .outside (position + token.text.utf8ByteSize) after := by
  cases hbracket : token.isBracket with
  | true =>
      cases token with
      | opening bracket => cases bracket <;> rfl
      | closing bracket => cases bracket <;> rfl
      | _ => cases hbracket
  | false =>
      have hnone : brackets [⟨token, position⟩] = [] := by
        rw [brackets, List.filter_cons_of_neg (by rw [hbracket]; exact Bool.false_ne_true)]
        rfl
      rw [hnone, List.nil_append]
      by_cases hliteral : ∃ raw, token = .literal raw
      · rcases hliteral with ⟨raw, rfl⟩
        exact delimiters_literal spelled position after
      · rw [delimiters_plain (all_isPlain_text spelled hbracket (not_exists.mp hliteral)),
          byteLength_toList]

theorem brackets_cons (lexeme : Lexeme) (lexemes : List Lexeme) :
    brackets (lexeme :: lexemes) = brackets [lexeme] ++ brackets lexemes :=
  List.filter_append [lexeme] lexemes

theorem LaidOut.delimiters_eq {rest text : List Char} {position : Nat} {lexemes : List Lexeme}
    (h : LaidOut rest position text lexemes) :
    ∃ next : Nat,
      delimiters .outside position text = brackets lexemes ++ delimiters .outside next rest := by
  have hblanks : ∀ {gap : List Char}, gap.all Text.isBlank = true → gap.all isPlain = true :=
    fun hgap => all_isPlain any_isBlank_reserved hgap
  induction h with
  | blanks hgap => exact ⟨_, delimiters_plain (hblanks hgap) _ _⟩
  | token hgap spelled hafter ih =>
      rcases ih with ⟨next, hnext⟩
      refine ⟨next, ?_⟩
      rw [delimiters_plain (hblanks hgap), delimiters_token spelled, hnext, ← List.append_assoc,
        ← brackets_cons]

theorem reason_of_read {c : Char} {rest : List Char} {reason : Reason}
    (h : Token.read c rest = .error reason) :
    (∀ closed innermost, reason ≠ .unbalanced closed innermost) ∧
      ∀ bracket, reason ≠ .unclosed bracket := by
  have hreason : reason = .comment ∨ (∃ text, reason = .unsupportedOperator text) ∨
      reason = .unterminatedLiteral ∨ reason = .namelessVariable ∨
      reason = .unexpectedCharacter c := by
    unfold Token.read at h
    grind
  rcases hreason with rfl | ⟨text, rfl⟩ | rfl | rfl | rfl <;> simp

theorem reason_of_scanFrom {position : Nat} {text : List Char} :
    ∀ fault ∈ (scanFrom position text).2,
      (∀ closed innermost, fault.reason ≠ .unbalanced closed innermost) ∧
        ∀ bracket, fault.reason ≠ .unclosed bracket := by
  fun_induction scanFrom position text with
  | case1 => simp
  | case2 position c rest hblank ih => exact ih
  | case3 position c rest hblank reason hread =>
      rintro fault ⟨⟩
      exact reason_of_read hread
  | case4 position c rest hblank token after hread lexemes fault hrest ih =>
      rwa [hrest] at ih

/-- Why a text is not cut into balanced tokens: a bracket does not match, a token is at fault, or a
bracket is left open. -/
theorem tokenize_error_cases {source : String} {error : SyntaxError}
    (h : tokenize source = .error error) :
    balance [] (scanFrom 0 source.toList).1 = .error error ∨
      (scanFrom 0 source.toList).2 = some error ∨
      (scanFrom 0 source.toList).2 = none ∧
        ∃ bracket stillOpen,
          balance [] (scanFrom 0 source.toList).1 = .ok ((bracket, error.position) :: stillOpen) ∧
            error.reason = .unclosed bracket := by
  unfold tokenize at h
  simp only at h
  split at h
  · rename_i found hbalance
    cases h
    exact Or.inl hbalance
  · rename_i stillOpen hbalance
    split at h
    · rename_i fault hfault
      cases h
      exact Or.inr (Or.inl hfault)
    · rename_i bracket position others hfault
      cases h
      exact Or.inr (Or.inr ⟨hfault, bracket, others, hbalance, rfl⟩)
    · cases h

theorem balancedWord_of_leavesOpen {word : List Lexeme} (h : LeavesOpen word []) :
    Token.BalancedWord (word.map (·.token)) := by
  cases h with
  | nothing hword => exact hword

/-- Brackets that match are balanced.  Where one does not match, it is the first that does not, and
where one is not closed, all of the text is cut into tokens and it is the innermost that is open at
the end. -/
theorem tokenize_delimiters (source : String) :
    (∀ lexemes, tokenize source = .ok lexemes →
      Token.BalancedWord ((brackets lexemes).map (·.token)) ∧
        brackets lexemes = delimiters .outside 0 source.toList) ∧
    (∀ position closed innermost,
      tokenize source = .error ⟨position, .unbalanced closed innermost⟩ →
        FirstMismatch (delimiters .outside 0 source.toList) position closed innermost) ∧
    ∀ position bracket, tokenize source = .error ⟨position, .unclosed bracket⟩ →
      ∃ lexemes stillOpen, scanFrom 0 source.toList = (lexemes, none) ∧
        LeavesOpen (delimiters .outside 0 source.toList) ((bracket, position) :: stillOpen) := by
  have hfault := @reason_of_scanFrom 0 source.toList
  have hcases := @tokenize_error_cases source
  have hok := @tokenize_eq_ok_iff source
  rcases hscan : scanFrom 0 source.toList with ⟨found, fault⟩
  rw [hscan] at hfault hcases hok
  rcases laidOut_of_scanFrom hscan with ⟨rest, hlaid, hrest⟩
  rcases hlaid.delimiters_eq with ⟨next, hdelimiters⟩
  have hread : fault = none → delimiters .outside 0 source.toList = brackets found := by
    intro hnone
    rw [hdelimiters, hrest hnone, delimiters, List.append_nil]
  rcases balance_nil_spec found with ⟨hopen, hmismatch⟩
  refine ⟨?_, ?_, ?_⟩
  · intro lexemes htokens
    rcases hok.mp htokens with ⟨heq, hbalance⟩
    cases heq
    exact ⟨balancedWord_of_leavesOpen (hopen _ hbalance), (hread rfl).symm⟩
  · intro position closed innermost herror
    rcases hcases herror with hbalance | hlexical | ⟨-, bracket, stillOpen, -, hreason⟩
    · rcases hmismatch _ hbalance with ⟨closed', innermost', hreason, hfirst⟩
      cases hreason
      rw [hdelimiters]
      exact hfirst.append _
    · exact absurd rfl ((hfault _ hlexical).1 closed innermost)
    · cases hreason
  · intro position bracket herror
    rcases hcases herror with hbalance | hlexical | ⟨hnone, bracket', stillOpen, hbalance, hreason⟩
    · rcases hmismatch _ hbalance with ⟨closed, innermost, hreason, -⟩
      cases hreason
    · exact absurd rfl ((hfault _ hlexical).2 bracket)
    · cases hreason
      refine ⟨found, stillOpen, Prod.ext rfl hnone, ?_⟩
      rw [hread hnone]
      exact hopen _ hbalance

/-- Brackets in literals do not count: a balanced word, a mismatch, and brackets left open. -/
theorem tokenize_delimiters_literals :
    (tokenize "f([')'])" = .ok [⟨.name "f", 0⟩, ⟨.opening .round, 1⟩, ⟨.opening .square, 2⟩,
        ⟨.literal "')'", 3⟩, ⟨.closing .square, 6⟩, ⟨.closing .round, 7⟩] ∧
      Token.BalancedWord
        [.opening .round, .opening .square, .closing .square, .closing .round]) ∧
    (tokenize "f(['('\x7d)" = .error ⟨6, .unbalanced .curly (some (.square, 2))⟩ ∧
      FirstMismatch [⟨.opening .round, 1⟩, ⟨.opening .square, 2⟩, ⟨.closing .curly, 6⟩,
        ⟨.closing .round, 7⟩] 6 .curly (some (.square, 2))) ∧
    tokenize "f([] ('\\')' [" = .error ⟨12, .unclosed .square⟩ ∧
      ∃ stillOpen, LeavesOpen [⟨.opening .round, 1⟩, ⟨.opening .square, 2⟩, ⟨.closing .square, 3⟩,
        ⟨.opening .round, 5⟩, ⟨.opening .square, 12⟩] ((.square, 12) :: stillOpen) := by
  have hbalanced : tokenize "f([')'])" = .ok [⟨.name "f", 0⟩, ⟨.opening .round, 1⟩,
      ⟨.opening .square, 2⟩, ⟨.literal "')'", 3⟩, ⟨.closing .square, 6⟩,
      ⟨.closing .round, 7⟩] := by decide +kernel
  have hmismatch : tokenize "f(['('\x7d)" =
      .error ⟨6, .unbalanced .curly (some (.square, 2))⟩ := by decide +kernel
  have hopen : tokenize "f([] ('\\')' [" = .error ⟨12, .unclosed .square⟩ := by decide +kernel
  rcases (tokenize_delimiters _).2.2 _ _ hopen with ⟨lexemes, stillOpen, -, hleaves⟩
  exact ⟨⟨hbalanced, ((tokenize_delimiters _).1 _ hbalanced).1⟩,
    ⟨hmismatch, (tokenize_delimiters _).2.1 _ _ _ hmismatch⟩, hopen, stillOpen, hleaves⟩

end Lexeme

end FluentStyle
