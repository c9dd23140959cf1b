import FluentStyle.Proofs.Token.Spelling
import FluentStyle.Tree.Printer

/-!
# From pieces to text and back

Pieces are clear if all tokens among them are spelled and none goes on with what stands behind it.
The text of clear pieces is cut into their tokens, and if these are balanced the text passes for a
source text.
-/

namespace FluentStyle

namespace Piece

def tokens (pieces : List Piece) : List Token :=
  pieces.filterMap token?

@[simp] theorem tokens_nil : tokens [] = [] := rfl

@[simp] theorem tokens_cons_token (token : Token) (pieces : List Piece) :
    tokens (.token token :: pieces) = token :: tokens pieces := rfl

@[simp] theorem tokens_cons_mark (m : Mark) (pieces : List Piece) :
    tokens (mark m :: pieces) = .mark m :: tokens pieces := rfl

@[simp] theorem tokens_cons_space (pieces : List Piece) :
    tokens (.space :: pieces) = tokens pieces := rfl

@[simp] theorem tokens_cons_line (indentation : Nat) (pieces : List Piece) :
    tokens (.line indentation :: pieces) = tokens pieces := rfl

@[simp] theorem tokens_append (before after : List Piece) :
    tokens (before ++ after) = tokens before ++ tokens after :=
  List.filterMap_append

def chars (pieces : List Piece) : List Char :=
  pieces.flatMap fun piece => piece.text.toList

theorem chars_cons (piece : Piece) (pieces : List Piece) :
    chars (piece :: pieces) = piece.text.toList ++ chars pieces := rfl

theorem toList_textAll (pieces : List Piece) : (textAll pieces).toList = chars pieces := by
  unfold textAll chars
  rw [String.toList_join, List.flatMap_map]

/-- All tokens among the pieces are spelled and end where their pieces end. -/
def Clear : List Piece → Prop
  | [] => True
  | .token t :: rest => t.isSpelled = true ∧ t.EndsBefore (chars rest) ∧ Clear rest
  | .space :: rest => Clear rest
  | .line _ :: rest => Clear rest

end Piece

/-!
# Cutting the text of pieces
-/

namespace Lexeme

theorem scanFrom_blanks (position : Nat) {blanks : List Char}
    (h : blanks.all Text.isBlank = true) (after : List Char) :
    ∃ next : Nat, scanFrom position (blanks ++ after) = scanFrom next after := by
  induction blanks generalizing position with
  | nil => exact ⟨position, rfl⟩
  | cons c blanks ih =>
      rw [List.all_cons, Bool.and_eq_true] at h
      rcases ih (position + c.utf8Size) h.2 with ⟨next, hnext⟩
      refine ⟨next, ?_⟩
      rw [List.cons_append, scanFrom, if_pos h.1, hnext]

theorem scanFrom_reads {token : Token} {after text : List Char} (position : Nat)
    (h : token.Reads after text) :
    scanFrom position text =
      (⟨token, position⟩ :: (scanFrom (position + token.text.utf8ByteSize) after).1,
        (scanFrom (position + token.text.utf8ByteSize) after).2) := by
  rcases h with ⟨c, rest, rfl, hblank, hread⟩
  rw [scanFrom, if_neg (by simp [hblank])]
  split
  · rename_i reason herror
    rw [hread] at herror
    cases herror
  · rename_i token' after' hok
    rw [hread] at hok
    cases hok
    rfl

theorem scanFrom_chars {pieces : List Piece} (h : Piece.Clear pieces) (position : Nat) :
    ∃ lexemes : List Lexeme, scanFrom position (Piece.chars pieces) = (lexemes, none) ∧
      lexemes.map (·.token) = Piece.tokens pieces := by
  induction pieces generalizing position with
  | nil => exact ⟨[], by rw [Piece.chars, List.flatMap_nil, scanFrom], rfl⟩
  | cons piece pieces ih =>
      rw [Piece.chars_cons]
      cases piece with
      | token token =>
          rcases h with ⟨spelled, ends, clear⟩
          rcases ih clear (position + token.text.utf8ByteSize) with ⟨lexemes, hscan, htokens⟩
          have hreads : token.Reads (Piece.chars pieces)
              ((Piece.token token).text.toList ++ Piece.chars pieces) :=
            Token.reads_text spelled ends
          refine ⟨⟨token, position⟩ :: lexemes, ?_, ?_⟩
          · rw [scanFrom_reads position hreads, hscan]
          · rw [List.map_cons, htokens, Piece.tokens_cons_token]
      | space =>
          have hblanks : Piece.space.text.toList.all Text.isBlank = true := by decide
          rcases scanFrom_blanks position hblanks (Piece.chars pieces) with ⟨next, hnext⟩
          rcases ih h next with ⟨lexemes, hscan, htokens⟩
          exact ⟨lexemes, hnext.trans hscan, htokens⟩
      | line indentation =>
          have hblanks : (Piece.line indentation).text.toList.all Text.isBlank = true := by
            unfold Piece.text
            simp only [String.toList_append, List.all_append, String.toList_ofList,
              List.all_replicate, Bool.and_eq_true]
            refine ⟨by decide, ?_⟩
            split
            · rfl
            · decide
          rcases scanFrom_blanks position hblanks (Piece.chars pieces) with ⟨next, hnext⟩
          rcases ih h next with ⟨lexemes, hscan, htokens⟩
          exact ⟨lexemes, hnext.trans hscan, htokens⟩

end Lexeme

/-!
# Balance

Tokens are balanced if what is open before them is open after them.
-/

namespace Token

def Balanced (tokens : List Token) : Prop :=
  ∀ (lexemes after : List Lexeme) (stack : List (Bracket × Nat)),
    lexemes.map (·.token) = tokens →
      Lexeme.balance stack (lexemes ++ after) = Lexeme.balance stack after

theorem balanced_nil : Balanced [] := by
  intro lexemes after stack h
  rw [List.map_eq_nil_iff.mp h, List.nil_append]

theorem Balanced.append {before after : List Token} (hbefore : Balanced before)
    (hafter : Balanced after) : Balanced (before ++ after) := by
  intro lexemes others stack h
  rcases List.map_eq_append_iff.mp h with ⟨first, second, rfl, hfirst, hsecond⟩
  rw [List.append_assoc, hbefore _ _ _ hfirst, hafter _ _ _ hsecond]

def isBracket : Token → Bool
  | .opening _ | .closing _ => true
  | _ => false

theorem balanced_singleton {token : Token} (h : token.isBracket = false) : Balanced [token] := by
  intro lexemes after stack hlexemes
  rcases List.map_eq_cons_iff.mp hlexemes with ⟨lexeme, rest, rfl, htoken, hrest⟩
  rw [List.map_eq_nil_iff.mp hrest]
  rcases lexeme with ⟨token', position⟩
  cases htoken
  cases token' with
  | opening bracket => cases h
  | closing bracket => cases h
  | _ => simp only [List.singleton_append, Lexeme.balance]

theorem Balanced.cons {token : Token} {tokens : List Token} (h : Balanced tokens)
    (hplain : token.isBracket = false) : Balanced (token :: tokens) :=
  (balanced_singleton hplain).append h

theorem Balanced.enclosed {tokens : List Token} (h : Balanced tokens) (bracket : Bracket) :
    Balanced (.opening bracket :: (tokens ++ [.closing bracket])) := by
  intro lexemes after stack hlexemes
  rcases List.map_eq_cons_iff.mp hlexemes with ⟨⟨first, position⟩, rest, rfl, hfirst, hrest⟩
  rcases List.map_eq_append_iff.mp hrest with ⟨inner, last, rfl, hinner, hlast⟩
  rcases List.map_eq_cons_iff.mp hlast with ⟨⟨final, finalPosition⟩, none, rfl, hfinal, hnone⟩
  cases hfirst
  cases hfinal
  rw [List.map_eq_nil_iff.mp hnone, List.cons_append, List.append_assoc, Lexeme.balance,
    h _ _ _ hinner, List.singleton_append, Lexeme.balance]
  simp

end Token

/-!
# Source texts
-/

namespace Lexeme

theorem tokenize_eq_ok_iff {source : String} {lexemes : List Lexeme} :
    tokenize source = .ok lexemes ↔
      scanFrom 0 source.toList = (lexemes, none) ∧ balance [] lexemes = .ok [] := by
  unfold tokenize
  rcases scanFrom 0 source.toList with ⟨found, fault⟩
  simp only
  constructor
  · intro h
    split at h
    · cases h
    · rename_i stillOpen hbalance
      split at h <;> cases h
      exact ⟨rfl, hbalance⟩
  · rintro ⟨heq, hbalance⟩
    cases heq
    rw [hbalance]

/-- The text of clear pieces with balanced tokens is cut into these tokens. -/
theorem tokenize_textAll {pieces : List Piece} (clear : Piece.Clear pieces)
    (balanced : Token.Balanced (Piece.tokens pieces)) :
    ∃ lexemes : List Lexeme, tokenize (Piece.textAll pieces) = .ok lexemes ∧
      lexemes.map (·.token) = Piece.tokens pieces := by
  rcases scanFrom_chars clear 0 with ⟨lexemes, hscan, htokens⟩
  have hbalance : balance [] lexemes = .ok [] := by
    have h := balanced lexemes [] [] htokens
    rw [List.append_nil] at h
    exact h
  rw [← Piece.toList_textAll] at hscan
  exact ⟨lexemes, tokenize_eq_ok_iff.mpr ⟨hscan, hbalance⟩, htokens⟩

theorem isSpelled_of_mem_scanFrom {position : Nat} {text : List Char} :
    ∀ lexeme ∈ (scanFrom position text).1, lexeme.token.isSpelled = true := by
  fun_induction scanFrom position text with
  | case1 => simp
  | case2 position c rest hblank ih => exact ih
  | case3 position c rest hblank reason hread => simp
  | case4 position c rest hblank token after hread lexemes fault hrest ih =>
      rw [hrest] at ih
      have hfirst := Token.isSpelled_of_read (Bool.not_eq_true _ ▸ hblank) hread
      exact List.forall_mem_cons.mpr ⟨hfirst, ih⟩

theorem isSpelled_of_tokenize {source : String} {lexemes : List Lexeme}
    (h : tokenize source = .ok lexemes) :
    ∀ token ∈ lexemes.map (·.token), token.isSpelled = true := by
  rcases tokenize_eq_ok_iff.mp h with ⟨hscan, -⟩
  intro token htoken
  rcases List.mem_map.mp htoken with ⟨lexeme, hlexeme, rfl⟩
  have hspelled := @isSpelled_of_mem_scanFrom 0 source.toList
  rw [hscan] at hspelled
  exact hspelled lexeme hlexeme

end Lexeme

end FluentStyle
