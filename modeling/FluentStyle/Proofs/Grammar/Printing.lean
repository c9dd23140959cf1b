import FluentStyle.Proofs.Grammar.Shape

/-!
# Printed trees

What is printed for a readable tree is clear, and its tokens are balanced.
-/

namespace FluentStyle

/-!
# Names of calls
-/

namespace Call

theorem nameToken_of_variable {name : String} (h : (Token.variable name).isSpelled = true) :
    nameToken name = .variable name := by
  unfold Token.isSpelled at h
  simp only at h
  split at h
  · rename_i c rest htext
    unfold nameToken
    rw [htext]
    rfl
  · cases h

theorem nameToken_of_name {name : String} (h : (Token.name name).isSpelled = true) :
    nameToken name = .name name := by
  unfold nameToken
  rw [if_neg]
  intro hdollar
  unfold Token.isSpelled at h
  simp only at h
  cases htext : name.toList with
  | nil =>
      rw [htext] at hdollar
      cases hdollar
  | cons c rest =>
      rw [htext] at h hdollar
      cases hdollar
      simp [Token.startsName, Text.isLetter] at h

theorem isBracket_nameToken (name : String) : (nameToken name).isBracket = false := by
  unfold nameToken
  split <;> rfl

end Call

/-!
# First tokens
-/

namespace Expr

def firstToken : Expr → Token
  | .literal l => .literal l.raw
  | .number raw => .number raw
  | .constant name => .name name
  | .classConstant className _ => .name className
  | .variable name => .variable name
  | .array _ => .opening .square
  | .closure (.arrow _ _) => .name "fn"
  | .closure (.block _ _ _) => .name "function"
  | .chain ⟨.static className, _, _⟩ => .name className
  | .chain ⟨.function, first, _⟩ => Call.nameToken first.name
  | .chain ⟨.receiver object, _, _⟩ => object.firstToken
  | .property object _ => object.firstToken
  | .unary op _ => op.token
  | .binary _ lhs _ => lhs.firstToken
  | .ternary condition _ _ => condition.firstToken
  | .elvis condition _ => condition.firstToken
  | .group _ => .opening .round

def StartsWith (first : Token) (pieces : List Piece) : Prop :=
  ∃ more : List Piece, pieces = .token first :: more ∧
    ∀ name : String, first = .variable name → (Piece.tokens more).head? ≠ some (.mark .assign)

theorem head?_append_ne {tokens after : List Token} {token : Token}
    (h : tokens.head? ≠ some token) (hafter : after.head? ≠ some token) :
    (tokens ++ after).head? ≠ some token := by
  cases tokens with
  | nil => exact hafter
  | cons first tokens => exact h

theorem StartsWith.append {first : Token} {pieces after : List Piece}
    (h : StartsWith first pieces) (hafter : (Piece.tokens after).head? ≠ some (.mark .assign)) :
    StartsWith first (pieces ++ after) := by
  rcases h with ⟨more, rfl, hmore⟩
  refine ⟨more ++ after, List.cons_append, ?_⟩
  intro name hname
  rw [Piece.tokens_append]
  exact head?_append_ne (hmore name hname) hafter

theorem startsWith_firstToken (expr : Expr) (level : Nat) :
    StartsWith expr.firstToken (expr.pieces level) := by
  induction expr using children_induction generalizing level with
  | h expr ih =>
      cases expr with
      | literal l => exact ⟨[], rfl, by rintro name ⟨⟩⟩
      | number raw => exact ⟨[], rfl, by rintro name ⟨⟩⟩
      | constant name => exact ⟨[], rfl, by rintro name ⟨⟩⟩
      | classConstant className name => exact ⟨_, rfl, by rintro name ⟨⟩⟩
      | array items =>
          rw [pieces]
          split <;> exact ⟨_, rfl, by rintro name ⟨⟩⟩
      | closure c => cases c <;> exact ⟨_, rfl, by rintro name ⟨⟩⟩
      | chain c =>
          rcases c with ⟨root, ⟨name, args⟩, rest⟩
          cases root with
          | static className => exact ⟨_, rfl, by rintro name ⟨⟩⟩
          | function => exact ⟨_, rfl, by simp⟩
          | receiver object =>
              have hobject := ih object List.mem_cons_self level
              simp only [pieces, List.append_assoc]
              exact hobject.append (by simp)
      | property object name =>
          have hobject := ih object List.mem_cons_self level
          exact hobject.append (by simp)
      | unary op operand =>
          refine ⟨_, rfl, ?_⟩
          cases op <;> rintro name ⟨⟩
      | binary op lhs rhs =>
          have hlhs := ih lhs List.mem_cons_self level
          simp only [pieces, List.append_assoc]
          refine hlhs.append ?_
          cases op <;> simp [BinaryOp.token]
      | ternary condition yes no =>
          have hcondition := ih condition List.mem_cons_self level
          simp only [pieces, List.append_assoc]
          exact hcondition.append (by simp)
      | elvis condition no =>
          have hcondition := ih condition List.mem_cons_self level
          simp only [pieces, List.append_assoc]
          exact hcondition.append (by simp)
      | group inner => exact ⟨_, rfl, by rintro name ⟨⟩⟩
      | _ => exact ⟨[], rfl, by simp⟩

end Expr

namespace Token

def starts : Token → Bool
  | .name word => !("new" :: Expr.reserved).contains word
  | .literal _ | .number _ | .variable _ => true
  | .opening .round | .opening .square => true
  | .mark .bang | .operator .subtract => true
  | _ => false

end Token

namespace Expr

theorem isHead_iff {name : String} :
    isHead name = true ↔ (Token.name name).isSpelled = true ∧ name ∉ keywords := by
  unfold isHead
  rw [Bool.and_eq_true, Bool.not_eq_true', ← Bool.not_eq_true, List.contains_iff_mem]

theorem starts_of_isHead {name : String} (h : isHead name = true) :
    (Token.name name).starts = true := by
  rcases isHead_iff.mp h with ⟨-, hkeyword⟩
  unfold Token.starts
  simp only [keywords, List.mem_cons, not_or] at hkeyword
  simp only [Bool.not_eq_true', ← Bool.not_eq_true, List.contains_iff_mem, List.mem_cons, not_or]
  exact hkeyword.2.2

theorem firstToken_spelled {expr : Expr} (h : expr.Readable) :
    expr.firstToken.starts = true ∧ expr.firstToken.isSpelled = true := by
  induction expr using children_induction with
  | h expr ih =>
      rcases readable_iff.mp h with ⟨⟨hspelled, -, -⟩, hchildren⟩
      cases expr with
      | literal l => exact ⟨rfl, hspelled⟩
      | number raw => exact ⟨rfl, hspelled⟩
      | constant name => exact ⟨starts_of_isHead hspelled, (isHead_iff.mp hspelled).1⟩
      | classConstant className name =>
          have hhead := (Bool.and_eq_true _ _ ▸ hspelled).1
          exact ⟨starts_of_isHead hhead, (isHead_iff.mp hhead).1⟩
      | closure c =>
          have harrow : (Token.name "fn").starts = true ∧ (Token.name "fn").isSpelled = true := by
            decide
          have hblock : (Token.name "function").starts = true ∧
              (Token.name "function").isSpelled = true := by
            decide
          cases c with
          | arrow params body => exact harrow
          | block params captures body => exact hblock
      | chain c =>
          rcases c with ⟨root, first, rest⟩
          cases root with
          | static className =>
              simp only [isSpelled, Chain.isSpelled, Bool.and_eq_true] at hspelled
              exact ⟨starts_of_isHead hspelled.1.1, (isHead_iff.mp hspelled.1.1).1⟩
          | function =>
              simp only [isSpelled, Chain.isSpelled, Bool.and_eq_true, Bool.or_eq_true] at hspelled
              show (Call.nameToken first.name).starts = true ∧ _
              rcases hspelled.1 with hvariable | hhead
              · rw [firstToken, Call.nameToken_of_variable hvariable]
                exact ⟨rfl, hvariable⟩
              · rw [firstToken, Call.nameToken_of_name (isHead_iff.mp hhead).1]
                exact ⟨starts_of_isHead hhead, (isHead_iff.mp hhead).1⟩
          | receiver object => exact ih object List.mem_cons_self (hchildren _ List.mem_cons_self)
      | property object name => exact ih object List.mem_cons_self (hchildren _ List.mem_cons_self)
      | unary op operand => cases op <;> exact ⟨rfl, rfl⟩
      | binary op lhs rhs => exact ih lhs List.mem_cons_self (hchildren _ List.mem_cons_self)
      | ternary condition yes no =>
          exact ih condition List.mem_cons_self (hchildren _ List.mem_cons_self)
      | elvis condition no =>
          exact ih condition List.mem_cons_self (hchildren _ List.mem_cons_self)
      | array items => exact ⟨rfl, rfl⟩
      | group inner => exact ⟨rfl, rfl⟩
      | _ => exact ⟨rfl, hspelled⟩

theorem unaryOp?_firstToken {expr : Expr} (h : expr.Readable) (hstrength : 11 ≤ expr.strength) :
    expr.firstToken.unaryOp? = none := by
  induction expr using children_induction with
  | h expr ih =>
      rcases readable_iff.mp h with ⟨⟨-, hgrouped, -⟩, hchildren⟩
      cases expr with
      | closure c => cases c <;> rfl
      | chain c =>
          rcases c with ⟨root, first, rest⟩
          cases root with
          | static className => rfl
          | function =>
              rw [firstToken]
              unfold Call.nameToken
              split <;> rfl
          | receiver object =>
              exact ih object List.mem_cons_self (hchildren _ List.mem_cons_self)
                (Nat.le_trans (by decide) hgrouped)
      | property object name =>
          exact ih object List.mem_cons_self (hchildren _ List.mem_cons_self) hgrouped
      | unary op operand => exact absurd hstrength (by simp [strength])
      | binary op lhs rhs =>
          have hle := op.precedence_le
          have hprecedence : 11 ≤ op.precedence := hstrength
          omega
      | ternary condition yes no => exact absurd hstrength (by simp [strength])
      | elvis condition no => exact absurd hstrength (by simp [strength])
      | _ => rfl

end Expr

/-!
# Delimiters

What is printed behind an expression starts with a character that no token of the expression goes on
with.
-/

namespace Token

def delimiters : List Char :=
  [' ', '\n', ')', ']', ',', ';', '-', '(', ':']

/-- Whether the token ends before each of the delimiters. -/
def isFirm : Token → Bool
  | .name _ | .variable _ | .literal _ | .number _ | .opening _ | .closing _ => true
  | _ => false

/-- Whether the token ends before each character. -/
def isSealed : Token → Bool
  | .literal _ | .opening _ | .closing _ => true
  | .mark .comma | .mark .semicolon | .mark .arrow | .mark .doubleColon | .mark .fatArrow => true
  | _ => false

theorem endsBefore_of_isFirm {token : Token} {c : Char} (h : token.isFirm = true)
    (hc : c ∈ delimiters) : token.endsBefore c = true := by
  have hname : ∀ c ∈ delimiters, (!isNameChar c) = true := List.all_eq_true.mp (by decide)
  have hword : ∀ c ∈ delimiters, (!isWordChar c) = true := List.all_eq_true.mp (by decide)
  have hdigit : ∀ c ∈ delimiters, (!(c = '.' || Text.isDigit c || c = '_')) = true :=
    List.all_eq_true.mp (by decide)
  cases token with
  | name text => exact hname c hc
  | number raw => exact hdigit c hc
  | literal raw => rfl
  | opening bracket => rfl
  | closing bracket => rfl
  | mark m => cases h
  | operator op => cases h
  | _ text => exact hword c hc

theorem endsBefore_of_isSealed {token : Token} (h : token.isSealed = true) (c : Char) :
    token.endsBefore c = true := by
  cases token with
  | mark m => cases m <;> first | rfl | cases h
  | _ => first | rfl | cases h

theorem endsBefore_space (token : Token) : token.endsBefore ' ' = true := by
  cases token with
  | name text =>
      show (!isNameChar ' ') = true
      decide
  | number raw =>
      show (!(decide (' ' = '.') || Text.isDigit ' ' || decide (' ' = '_'))) = true
      decide
  | mark m => cases m <;> rfl
  | operator op => cases op <;> rfl
  | literal raw => rfl
  | opening bracket => rfl
  | closing bracket => rfl
  | _ text =>
      show (!isWordChar ' ') = true
      decide

end Token

namespace Piece

/-- The pieces do not start with a character that a name or a number goes on with. -/
def Delimited (pieces : List Piece) : Prop :=
  ∀ c ∈ (chars pieces).head?, c ∈ Token.delimiters

theorem delimited_nil : Delimited [] := by rintro c ⟨⟩

def delimits (piece : Piece) : Bool :=
  piece.text.toList.head?.any Token.delimiters.contains

theorem delimited_cons {piece : Piece} {rest : List Piece} (h : piece.delimits = true) :
    Delimited (piece :: rest) := by
  intro c hc
  unfold delimits at h
  rw [chars_cons, List.head?_append] at hc
  cases hhead : piece.text.toList.head? with
  | none =>
      rw [hhead] at h
      cases h
  | some d =>
      rw [hhead] at h hc
      cases hc
      exact List.contains_iff_mem.mp h

theorem clear_firm {token : Token} {rest : List Piece} (firm : token.isFirm = true)
    (spelled : token.isSpelled = true) (delimited : Delimited rest) (clear : Clear rest) :
    Clear (.token token :: rest) :=
  ⟨spelled, fun c hc => Token.endsBefore_of_isFirm firm (delimited c hc), clear⟩

theorem clear_sealed {token : Token} {rest : List Piece} (closed : token.isSealed = true)
    (spelled : token.isSpelled = true) (clear : Clear rest) : Clear (.token token :: rest) :=
  ⟨spelled, fun c _ => Token.endsBefore_of_isSealed closed c, clear⟩

theorem clear_mark {m : Mark} {rest : List Piece} (closed : (Token.mark m).isSealed = true)
    (clear : Clear rest) : Clear (mark m :: rest) :=
  clear_sealed closed rfl clear

theorem clear_spaced {token : Token} {rest : List Piece} (spelled : token.isSpelled = true)
    (clear : Clear rest) : Clear (.token token :: .space :: rest) := by
  refine ⟨spelled, ?_, clear⟩
  intro c hc
  cases hc
  exact token.endsBefore_space

theorem clear_before {token next : Token} {rest : List Piece} {c : Char} {more : List Char}
    (spelled : token.isSpelled = true) (htext : next.text.toList = c :: more)
    (ends : token.endsBefore c = true) (clear : Clear (.token next :: rest)) :
    Clear (.token token :: .token next :: rest) := by
  refine ⟨spelled, ?_, clear⟩
  intro d hd
  rw [chars_cons, text, htext] at hd
  cases hd
  exact ends

/-- What is printed for something is clear in front of all that is clear and delimited. -/
def Lays (pieces : List Piece) : Prop :=
  ∀ rest : List Piece, Clear rest → Delimited rest → Clear (pieces ++ rest)

theorem lays_separated {lists : List (List Piece)} (h : ∀ pieces ∈ lists, Lays pieces) :
    Lays (separated lists) := by
  intro rest clear delimited
  fun_induction separated lists with
  | case1 => exact clear
  | case2 pieces => exact h pieces List.mem_cons_self rest clear delimited
  | case3 pieces others _ ih =>
      rcases List.forall_mem_cons.mp h with ⟨hpieces, hothers⟩
      rw [List.append_assoc]
      refine hpieces _ ?_ (delimited_cons rfl)
      exact clear_sealed rfl rfl (ih hothers)

end Piece

/-!
# First characters
-/

namespace Token

theorem name_eq_cons {text : String} (h : (Token.name text).isSpelled = true) :
    ∃ (c : Char) (rest : List Char), text.toList = c :: rest ∧ c ∉ signChars := by
  unfold isSpelled at h
  simp only at h
  split at h
  · cases h
  · rename_i c rest htext
    refine ⟨c, rest, htext, ?_⟩
    intro hmem
    simp only [Bool.and_eq_true] at h
    rw [not_startsName_of_mem (by simp [hmem])] at h
    exact Bool.noConfusion h.1.2

theorem text_eq_cons {token : Token} (starts : token.starts = true)
    (spelled : token.isSpelled = true) :
    ∃ (c : Char) (rest : List Char), token.text.toList = c :: rest ∧ c ≠ '=' ∧ c ≠ '>' ∧
      (c = '-' → token = .operator .subtract) := by
  cases token with
  | name text =>
      rcases name_eq_cons spelled with ⟨c, rest, htext, hsign⟩
      refine ⟨c, rest, htext, ?_, ?_, ?_⟩ <;> rintro rfl <;> exact absurd (by decide) hsign
  | literal raw =>
      unfold isSpelled at spelled
      simp only at spelled
      split at spelled
      · cases spelled
      · rename_i quote rest htext
        simp only [Bool.and_eq_true, Bool.or_eq_true, decide_eq_true_eq] at spelled
        refine ⟨quote, rest, htext, ?_, ?_, ?_⟩ <;> rcases spelled.1 with rfl | rfl <;> simp
  | number raw =>
      unfold isSpelled at spelled
      simp only at spelled
      split at spelled
      · cases spelled
      · rename_i c rest htext
        rw [Bool.and_eq_true, startsNumber_cons] at spelled
        refine ⟨c, rest, htext, ?_⟩
        rcases spelled with ⟨hstarts, -⟩
        split at hstarts
        · rename_i hpoint
          subst hpoint
          simp
        · refine ⟨?_, ?_, ?_⟩ <;> rintro rfl <;> cases hstarts
  | opening bracket =>
      cases bracket with
      | round => exact ⟨'(', [], rfl, by decide⟩
      | square => exact ⟨'[', [], rfl, by decide⟩
      | curly => cases starts
  | closing bracket => cases starts
  | mark m =>
      cases m with
      | bang => exact ⟨'!', [], rfl, by decide⟩
      | _ => cases starts
  | operator op =>
      cases op with
      | subtract => exact ⟨'-', [], rfl, by decide⟩
      | _ => cases starts
  | _ text =>
      unfold isSpelled at spelled
      simp only at spelled
      split at spelled
      · rename_i c rest htext
        exact ⟨'$', c :: rest, htext, by simp⟩
      · cases spelled

theorem variable_eq_cons {text : String} (h : (Token.variable text).isSpelled = true) :
    ∃ rest : List Char, text.toList = '$' :: rest := by
  unfold isSpelled at h
  simp only at h
  split at h
  · rename_i c rest htext
    exact ⟨c :: rest, htext⟩
  · cases h

end Token

/-!
# Clear pieces

Between a prefix operator and its operand there is a space if both are minus signs, and pieces with
commas between them are clear if they are.
-/

theorem Param.lays {param : Param} (h : param.isSpelled = true) : Piece.Lays param.pieces := by
  intro rest clear delimited
  rcases param with ⟨hint, name⟩
  unfold Param.isSpelled at h
  rw [Bool.and_eq_true] at h
  rcases h with ⟨hname, hhint⟩
  cases hint with
  | none => exact Piece.clear_firm rfl hname delimited clear
  | some hint =>
      rcases hint with ⟨nullable, type⟩
      have htype : (Token.name type).isSpelled = true := hhint
      have hrest : Piece.Clear (.token (.name type) :: .space :: .token (.variable name) :: rest) :=
        Piece.clear_spaced htype (Piece.clear_firm rfl hname delimited clear)
      cases nullable with
      | false => exact hrest
      | true =>
          rcases Token.name_eq_cons htype with ⟨first, more, htext, hsign⟩
          refine Piece.clear_before rfl htext ?_ hrest
          simp only [Token.endsBefore, Bool.and_eq_true, decide_eq_true_eq]
          constructor <;> rintro rfl <;> exact absurd (by decide) hsign

theorem Param.clear_piecesAll {params : List Param} (h : params.all Param.isSpelled = true)
    {rest : List Piece} (clear : Piece.Clear rest) :
    Piece.Clear (Param.piecesAll params ++ rest) := by
  have hlays : ∀ pieces ∈ params.map Param.pieces, Piece.Lays pieces := by
    intro pieces hpieces
    rcases List.mem_map.mp hpieces with ⟨param, hparam, rfl⟩
    exact Param.lays (List.all_eq_true.mp h param hparam)
  unfold Param.piecesAll
  simp only [List.cons_append, List.append_assoc]
  apply Piece.clear_sealed rfl rfl
  exact Piece.lays_separated hlays _ (Piece.clear_sealed rfl rfl clear) (Piece.delimited_cons rfl)

theorem Capture.lays {capture : Capture} (h : capture.isSpelled = true) :
    Piece.Lays capture.pieces := by
  intro rest clear delimited
  rcases capture with ⟨byReference, name⟩
  have hname : Piece.Clear (.token (.variable name) :: rest) :=
    Piece.clear_firm rfl h delimited clear
  cases byReference with
  | false => exact hname
  | true =>
      rcases Token.variable_eq_cons h with ⟨more, htext⟩
      exact Piece.clear_before rfl htext rfl hname

theorem Capture.clear_piecesAll {captures : List Capture}
    (h : captures.all Capture.isSpelled = true) {rest : List Piece} (clear : Piece.Clear rest) :
    Piece.Clear (Capture.piecesAll captures ++ rest) := by
  have hlays : ∀ pieces ∈ captures.map Capture.pieces, Piece.Lays pieces := by
    intro pieces hpieces
    rcases List.mem_map.mp hpieces with ⟨capture, hcapture, rfl⟩
    exact Capture.lays (List.all_eq_true.mp h capture hcapture)
  have huse : (Token.name "use").isSpelled = true := by decide
  cases captures with
  | nil => exact clear
  | cons capture captures =>
      unfold Capture.piecesAll
      simp only [List.cons_append, List.append_assoc]
      apply Piece.clear_spaced huse
      apply Piece.clear_sealed rfl rfl
      exact Piece.lays_separated hlays _ (Piece.clear_sealed rfl rfl clear)
        (Piece.delimited_cons rfl)

def Expr.Lays (expr : Expr) : Prop :=
  ∀ level : Nat, Piece.Lays (expr.pieces level)

theorem Piece.clear_separator {pieces : List Piece} (clear : Piece.Clear pieces) (first : Bool) :
    Piece.Clear (Piece.separator first ++ pieces) := by
  cases first with
  | true => exact clear
  | false => exact Piece.clear_sealed rfl rfl clear

theorem Expr.delimited_inline (exprs : List Expr) (level : Nat) {rest : List Piece}
    (delimited : Piece.Delimited rest) :
    Piece.Delimited (Expr.inline level false exprs ++ rest) := by
  cases exprs with
  | nil =>
      rw [Expr.inline]
      exact delimited
  | cons expr exprs =>
      rw [Expr.inline]
      exact Piece.delimited_cons rfl

theorem Expr.lays_inline {exprs : List Expr} (h : ∀ expr ∈ exprs, expr.Lays) (level : Nat)
    (first : Bool) : Piece.Lays (Expr.inline level first exprs) := by
  intro rest clear delimited
  induction exprs generalizing first with
  | nil =>
      rw [Expr.inline]
      exact clear
  | cons expr exprs ih =>
      rcases List.forall_mem_cons.mp h with ⟨hexpr, hexprs⟩
      rw [Expr.inline, List.append_assoc, List.append_assoc]
      apply Piece.clear_separator
      exact hexpr level _ (ih hexprs false) (Expr.delimited_inline exprs level delimited)

theorem ArrayItem.delimited_inline (items : List ArrayItem) (level : Nat) {rest : List Piece}
    (delimited : Piece.Delimited rest) :
    Piece.Delimited (ArrayItem.inline level false items ++ rest) := by
  cases items with
  | nil =>
      rw [ArrayItem.inline]
      exact delimited
  | cons item items =>
      cases item <;>
        (rw [ArrayItem.inline]
         exact Piece.delimited_cons rfl)

theorem ArrayItem.lays_inline {items : List ArrayItem}
    (h : ∀ item ∈ items, ∀ child ∈ item.children, child.Lays) (level : Nat) (first : Bool) :
    Piece.Lays (ArrayItem.inline level first items) := by
  intro rest clear delimited
  induction items generalizing first with
  | nil =>
      rw [ArrayItem.inline]
      exact clear
  | cons item items ih =>
      rcases List.forall_mem_cons.mp h with ⟨hitem, hitems⟩
      have hrest := ih hitems false
      have hdelimited := ArrayItem.delimited_inline items level delimited
      cases item with
      | value e =>
          simp only [ArrayItem.inline, List.append_assoc]
          apply Piece.clear_separator
          exact hitem e List.mem_cons_self level _ hrest hdelimited
      | pair key e =>
          rcases List.forall_mem_cons.mp hitem with ⟨hkey, hvalue⟩
          have hlaid := hvalue e List.mem_cons_self level _ hrest hdelimited
          simp only [ArrayItem.inline, List.append_assoc]
          apply Piece.clear_separator
          refine hkey level _ ?_ (Piece.delimited_cons rfl)
          exact Piece.clear_spaced rfl hlaid

theorem ArrayItem.clear_lines {items : List ArrayItem}
    (h : ∀ item ∈ items, ∀ child ∈ item.children, child.Lays) (level : Nat) {rest : List Piece}
    (clear : Piece.Clear rest) : Piece.Clear (ArrayItem.lines level items ++ rest) := by
  induction items with
  | nil =>
      rw [ArrayItem.lines]
      exact clear
  | cons item items ih =>
      rcases List.forall_mem_cons.mp h with ⟨hitem, hitems⟩
      have hrest : Piece.Clear (Piece.mark .comma :: (ArrayItem.lines level items ++ rest)) :=
        Piece.clear_sealed rfl rfl (ih hitems)
      cases item with
      | value e =>
          simp only [ArrayItem.lines, List.cons_append, List.append_assoc]
          exact hitem e List.mem_cons_self level _ hrest (Piece.delimited_cons rfl)
      | pair key e =>
          rcases List.forall_mem_cons.mp hitem with ⟨hkey, hvalue⟩
          have hlaid := hvalue e List.mem_cons_self level _ hrest (Piece.delimited_cons rfl)
          simp only [ArrayItem.lines, List.cons_append, List.append_assoc]
          refine hkey level _ ?_ (Piece.delimited_cons rfl)
          exact Piece.clear_spaced rfl hlaid

theorem Call.clear_args {args : List Expr} (h : ∀ arg ∈ args, arg.Lays) (level : Nat)
    {rest : List Piece} (clear : Piece.Clear rest) :
    Piece.Clear (.token (.opening .round) ::
      (Expr.inline level true args ++ .token (.closing .round) :: rest)) := by
  apply Piece.clear_sealed rfl rfl
  exact Expr.lays_inline h level true _ (Piece.clear_sealed rfl rfl clear)
    (Piece.delimited_cons rfl)

theorem Call.lays_pieces {calls : List Call} (hspelled : calls.all Call.isSpelled = true)
    (h : ∀ call ∈ calls, ∀ arg ∈ call.args, arg.Lays) (tall : Bool) (level : Nat) :
    Piece.Lays (Call.pieces tall level calls) := by
  intro rest clear delimited
  induction calls with
  | nil =>
      rw [Call.pieces]
      exact clear
  | cons call calls ih =>
      rcases call with ⟨name, args⟩
      rcases List.forall_mem_cons.mp h with ⟨hargs, hcalls⟩
      rw [List.all_cons, Bool.and_eq_true] at hspelled
      have hname : (Token.name name).isSpelled = true := hspelled.1
      have hcall : Piece.Clear (.token (Call.nameToken name) :: .token (.opening .round) ::
          (Expr.inline level true args ++
            .token (.closing .round) :: (Call.pieces tall level calls ++ rest))) := by
        rw [Call.nameToken_of_name hname]
        apply Piece.clear_firm rfl hname (Piece.delimited_cons rfl)
        exact Call.clear_args hargs level (ih hspelled.2 hcalls)
      simp only [Call.pieces, List.cons_append, List.append_assoc]
      cases tall with
      | true => exact Piece.clear_mark rfl hcall
      | false => exact Piece.clear_mark rfl hcall

theorem Stmt.clear_lines : (stmts : List Stmt) → Stmt.isSpelled stmts = true →
    (∀ child ∈ Stmt.children stmts, child.Lays) → (level : Nat) → {rest : List Piece} →
    Piece.Clear rest → Piece.Clear (Stmt.lines level stmts ++ rest)
  | [], _, _, level, rest, clear => by
      rw [Stmt.lines]
      exact clear
  | .leave :: stmts, hspelled, h, level, rest, clear => by
      rw [Stmt.isSpelled] at hspelled
      rw [Stmt.children] at h
      have hrest := Stmt.clear_lines stmts hspelled h level clear
      have hreturn : (Token.name "return").isSpelled = true := by decide
      simp only [Stmt.lines, List.cons_append, List.append_assoc]
      apply Piece.clear_firm rfl hreturn (Piece.delimited_cons rfl)
      exact Piece.clear_sealed rfl rfl hrest
  | .give e :: stmts, hspelled, h, level, rest, clear => by
      rw [Stmt.isSpelled] at hspelled
      rw [Stmt.children] at h
      rcases List.forall_mem_cons.mp h with ⟨he, hstmts⟩
      have hrest := Stmt.clear_lines stmts hspelled hstmts level clear
      have hreturn : (Token.name "return").isSpelled = true := by decide
      simp only [Stmt.lines, List.cons_append, List.append_assoc]
      apply Piece.clear_spaced hreturn
      exact he level _ (Piece.clear_sealed rfl rfl hrest) (Piece.delimited_cons rfl)
  | .expr e :: stmts, hspelled, h, level, rest, clear => by
      rw [Stmt.isSpelled] at hspelled
      rw [Stmt.children] at h
      rcases List.forall_mem_cons.mp h with ⟨he, hstmts⟩
      have hrest := Stmt.clear_lines stmts hspelled hstmts level clear
      simp only [Stmt.lines, List.cons_append, List.append_assoc]
      exact he level _ (Piece.clear_sealed rfl rfl hrest) (Piece.delimited_cons rfl)
  | .assign target e :: stmts, hspelled, h, level, rest, clear => by
      rw [Stmt.children] at h
      rcases List.forall_mem_cons.mp h with ⟨he, hstmts⟩
      rw [Stmt.isSpelled, Bool.and_eq_true] at hspelled
      have hrest := Stmt.clear_lines stmts hspelled.2 hstmts level clear
      simp only [Stmt.lines, List.cons_append, List.append_assoc]
      apply Piece.clear_spaced hspelled.1
      apply Piece.clear_spaced rfl
      exact he level _ (Piece.clear_sealed rfl rfl hrest) (Piece.delimited_cons rfl)
  | .when condition yes :: stmts, hspelled, h, level, rest, clear => by
      rw [Stmt.children] at h
      rcases List.forall_mem_cons.mp h with ⟨hcondition, hstmts⟩
      rcases List.forall_mem_append.mp hstmts with ⟨hyes, hstmts⟩
      rw [Stmt.isSpelled, Bool.and_eq_true] at hspelled
      have hrest := Stmt.clear_lines stmts hspelled.2 hstmts level clear
      have hblock : Piece.Clear (Stmt.lines (level + 1) yes ++
          .line level :: .token (.closing .curly) :: (Stmt.lines level stmts ++ rest)) :=
        Stmt.clear_lines yes hspelled.1 hyes (level + 1) (Piece.clear_sealed rfl rfl hrest)
      have hif : (Token.name "if").isSpelled = true := by decide
      simp only [Stmt.lines, List.cons_append, List.append_assoc, List.nil_append]
      apply Piece.clear_spaced hif
      apply Piece.clear_sealed rfl rfl
      refine hcondition level _ ?_ (Piece.delimited_cons rfl)
      apply Piece.clear_spaced rfl
      exact Piece.clear_sealed rfl rfl hblock
  | .choose condition yes no :: stmts, hspelled, h, level, rest, clear => by
      rw [Stmt.children] at h
      rcases List.forall_mem_cons.mp h with ⟨hcondition, hstmts⟩
      rcases List.forall_mem_append.mp hstmts with ⟨hyes, hstmts⟩
      rcases List.forall_mem_append.mp hstmts with ⟨hno, hstmts⟩
      rw [Stmt.isSpelled, Bool.and_eq_true, Bool.and_eq_true] at hspelled
      have hrest := Stmt.clear_lines stmts hspelled.2 hstmts level clear
      have helse : (Token.name "else").isSpelled = true := by decide
      have hnoBlock : Piece.Clear (Stmt.lines (level + 1) no ++
          .line level :: .token (.closing .curly) :: (Stmt.lines level stmts ++ rest)) :=
        Stmt.clear_lines no hspelled.1.2 hno (level + 1) (Piece.clear_sealed rfl rfl hrest)
      have hyesBlock : Piece.Clear (Stmt.lines (level + 1) yes ++
          .line level :: .token (.closing .curly) :: .space :: .token (.name "else") ::
            .space :: .token (.opening .curly) :: (Stmt.lines (level + 1) no ++
              .line level :: .token (.closing .curly) :: (Stmt.lines level stmts ++ rest))) :=
        Stmt.clear_lines yes hspelled.1.1 hyes (level + 1)
          (Piece.clear_spaced rfl (Piece.clear_spaced helse (Piece.clear_sealed rfl rfl hnoBlock)))
      have hif : (Token.name "if").isSpelled = true := by decide
      simp only [Stmt.lines, List.cons_append, List.append_assoc, List.nil_append]
      apply Piece.clear_spaced hif
      apply Piece.clear_sealed rfl rfl
      refine hcondition level _ ?_ (Piece.delimited_cons rfl)
      apply Piece.clear_spaced rfl
      exact Piece.clear_sealed rfl rfl hyesBlock

theorem Chain.lays {chain : Chain} (hspelled : chain.isSpelled = true)
    (h : ∀ child ∈ chain.children, child.Lays) : (Expr.chain chain).Lays := by
  intro level rest clear delimited
  rcases chain with ⟨root, first, calls⟩
  rcases first with ⟨name, args⟩
  cases root with
  | static className =>
      simp only [Chain.isSpelled, Bool.and_eq_true] at hspelled
      rcases hspelled with ⟨⟨hclass, hfirst⟩, hcalls⟩
      rcases List.forall_mem_append.mp h with ⟨hargs, hrest⟩
      have hname : (Token.name name).isSpelled = true := hfirst
      have hlaid := Call.lays_pieces hcalls
        (fun call hcall arg harg => hrest arg (List.mem_flatMap.mpr ⟨call, hcall, harg⟩))
        (!calls.isEmpty) (if !calls.isEmpty then level + 1 else level) rest clear delimited
      simp only [Expr.pieces, List.cons_append, List.append_assoc, List.nil_append]
      apply Piece.clear_firm rfl (Expr.isHead_iff.mp hclass).1 (Piece.delimited_cons rfl)
      apply Piece.clear_mark rfl
      rw [Call.nameToken_of_name hname]
      apply Piece.clear_firm rfl hname (Piece.delimited_cons rfl)
      exact Call.clear_args hargs level hlaid
  | function =>
      simp only [Chain.isSpelled, Bool.and_eq_true, Bool.or_eq_true] at hspelled
      rcases hspelled with ⟨hname, hcalls⟩
      rcases List.forall_mem_append.mp h with ⟨hargs, hrest⟩
      have hlaid := Call.lays_pieces hcalls
        (fun call hcall arg harg => hrest arg (List.mem_flatMap.mpr ⟨call, hcall, harg⟩))
        false level rest clear delimited
      have hclear := Call.clear_args hargs level hlaid
      simp only [Expr.pieces, List.cons_append, List.append_assoc, List.nil_append]
      rcases hname with hvariable | hhead
      · rw [Call.nameToken_of_variable hvariable]
        exact Piece.clear_firm rfl hvariable (Piece.delimited_cons rfl) hclear
      · have hword := (Expr.isHead_iff.mp hhead).1
        rw [Call.nameToken_of_name hword]
        exact Piece.clear_firm rfl hword (Piece.delimited_cons rfl) hclear
  | receiver object =>
      simp only [Chain.isSpelled, Bool.and_eq_true] at hspelled
      rcases hspelled with ⟨hfirst, hcalls⟩
      rcases List.forall_mem_cons.mp h with ⟨hobject, hothers⟩
      rcases List.forall_mem_append.mp hothers with ⟨hargs, hrest⟩
      have hname : (Token.name name).isSpelled = true := hfirst
      have hlaid := Call.lays_pieces hcalls
        (fun call hcall arg harg => hrest arg (List.mem_flatMap.mpr ⟨call, hcall, harg⟩))
        false level rest clear delimited
      simp only [Expr.pieces, List.cons_append, List.append_assoc, List.nil_append]
      refine hobject level _ ?_ (Piece.delimited_cons rfl)
      apply Piece.clear_mark rfl
      rw [Call.nameToken_of_name hname]
      apply Piece.clear_firm rfl hname (Piece.delimited_cons rfl)
      exact Call.clear_args hargs level hlaid

theorem Closure.lays {closure : Closure} (hspelled : (Expr.closure closure).isSpelled = true)
    (h : ∀ child ∈ closure.children, child.Lays) : (Expr.closure closure).Lays := by
  intro level rest clear delimited
  cases closure with
  | arrow params body =>
      have hfn : (Token.name "fn").isSpelled = true := by decide
      have hbody := h body List.mem_cons_self level rest clear delimited
      simp only [Expr.pieces, List.cons_append, List.append_assoc, List.nil_append]
      apply Piece.clear_spaced hfn
      apply Param.clear_piecesAll hspelled
      exact Piece.clear_spaced rfl hbody
  | block params captures body =>
      have hfunction : (Token.name "function").isSpelled = true := by decide
      simp only [Expr.isSpelled, Bool.and_eq_true] at hspelled
      rcases hspelled with ⟨⟨hparams, hcaptures⟩, hstmts⟩
      have hlines : Piece.Clear (Stmt.lines (level + 1) body ++
          .line level :: .token (.closing .curly) :: rest) :=
        Stmt.clear_lines body hstmts h (level + 1) (Piece.clear_sealed rfl rfl clear)
      simp only [Expr.pieces, List.cons_append, List.append_assoc, List.nil_append]
      apply Piece.clear_spaced hfunction
      apply Param.clear_piecesAll hparams
      show Piece.Clear (Capture.piecesAll captures ++ _)
      apply Capture.clear_piecesAll hcaptures
      exact Piece.clear_sealed rfl rfl hlines

theorem Expr.pieces_unary (op : UnaryOp) {operand : Expr} (readable : operand.Readable)
    (hstrength : 10 ≤ operand.strength) (level : Nat) :
    ∃ gap : List Piece,
      (Expr.unary op operand).pieces level = .token op.token :: (gap ++ operand.pieces level) ∧
        (gap = [.space] ∨
          gap = [] ∧ (op = .negate → operand.firstToken ≠ .operator .subtract)) := by
  simp only [Expr.pieces, List.cons_append]
  refine ⟨_, rfl, ?_⟩
  split
  · exact Or.inl rfl
  · rename_i hgap
    refine Or.inr ⟨rfl, ?_⟩
    rintro rfl hminus
    by_cases hprimary : 11 ≤ operand.strength
    · have hnone := unaryOp?_firstToken readable hprimary
      rw [hminus] at hnone
      cases hnone
    · cases operand with
      | unary inner deep =>
          cases inner with
          | not => cases hminus
          | negate => exact hgap deep rfl rfl
      | binary inner lhs rhs =>
          have hle := inner.precedence_le
          have hprecedence : 10 ≤ inner.precedence := hstrength
          omega
      | _ => simp [strength] at hprimary hstrength

theorem Expr.lays_unary {op : UnaryOp} {operand : Expr} (readable : operand.Readable)
    (hstrength : 10 ≤ operand.strength) (h : operand.Lays) : (Expr.unary op operand).Lays := by
  intro level rest clear delimited
  have hoperand := h level rest clear delimited
  have hop : op.token.isSpelled = true := by cases op <;> rfl
  rcases Expr.pieces_unary op readable hstrength level with ⟨gap, hpieces, hgap⟩
  rw [hpieces]
  rcases hgap with rfl | ⟨rfl, hminus⟩
  · exact Piece.clear_spaced hop hoperand
  · rcases operand.startsWith_firstToken level with ⟨more, hfirst, -⟩
    rcases firstToken_spelled readable with ⟨hstarts, hspelled⟩
    rcases Token.text_eq_cons hstarts hspelled with ⟨c, text, htext, hequal, hgreater, hsubtract⟩
    rw [hfirst] at hoperand ⊢
    refine Piece.clear_before hop htext ?_ hoperand
    cases op with
    | not => simpa [UnaryOp.token, Token.endsBefore] using hequal
    | negate =>
        simp only [UnaryOp.token, Token.endsBefore, Bool.and_eq_true, decide_eq_true_eq]
        exact ⟨⟨fun hc => hminus rfl (hsubtract hc), hequal⟩, hgreater⟩

theorem BinaryOp.isSpelled_token (op : BinaryOp) : op.token.isSpelled = true := by
  have hand : (Token.name "and").isSpelled = true := by decide
  have hor : (Token.name "or").isSpelled = true := by decide
  cases op with
  | sign operator => rfl
  | wordAnd => exact hand
  | wordOr => exact hor

/-- What is printed for a readable expression is clear. -/
theorem Expr.lays {expr : Expr} (h : expr.Readable) : expr.Lays := by
  induction expr using children_induction with
  | h expr ih =>
      rcases readable_iff.mp h with ⟨⟨hspelled, hgrouped, -⟩, hchildren⟩
      have hlays : ∀ child ∈ expr.children, child.Lays :=
        fun child hchild => ih child hchild (hchildren child hchild)
      cases expr with
      | closure c => exact Closure.lays hspelled hlays
      | chain c => exact Chain.lays hspelled hlays
      | unary op operand =>
          exact Expr.lays_unary (hchildren operand List.mem_cons_self) hgrouped
            (hlays operand List.mem_cons_self)
      | array items =>
          intro level rest clear delimited
          have hitems : ∀ item ∈ items, ∀ child ∈ item.children, child.Lays :=
            fun item hitem child hchild => hlays child (List.mem_flatMap.mpr ⟨item, hitem, hchild⟩)
          have hclose : Piece.Clear (.token (.closing .square) :: rest) :=
            Piece.clear_sealed rfl rfl clear
          rw [Expr.pieces]
          split
          · simp only [List.cons_append, List.append_assoc, List.nil_append]
            apply Piece.clear_sealed rfl rfl
            have hlines : Piece.Clear (.line level :: .token (.closing .square) :: rest) := hclose
            exact ArrayItem.clear_lines hitems (level + 1) hlines
          · simp only [List.cons_append, List.append_assoc, List.nil_append]
            apply Piece.clear_sealed rfl rfl
            exact ArrayItem.lays_inline hitems level true _ hclose (Piece.delimited_cons rfl)
      | classConstant className name =>
          intro level rest clear delimited
          rcases Bool.and_eq_true _ _ ▸ hspelled with ⟨hclass, hname⟩
          simp only [Expr.pieces, List.cons_append, List.nil_append]
          apply Piece.clear_firm rfl (isHead_iff.mp hclass).1 (Piece.delimited_cons rfl)
          apply Piece.clear_mark rfl
          exact Piece.clear_firm rfl hname delimited clear
      | property object name =>
          intro level rest clear delimited
          simp only [Expr.pieces, List.cons_append, List.append_assoc, List.nil_append]
          refine hlays object List.mem_cons_self level _ ?_ (Piece.delimited_cons rfl)
          apply Piece.clear_mark rfl
          exact Piece.clear_firm rfl hspelled delimited clear
      | binary op lhs rhs =>
          rcases List.forall_mem_cons.mp hlays with ⟨hlhs, hrhs⟩
          intro level rest clear delimited
          simp only [Expr.pieces, List.cons_append, List.append_assoc, List.nil_append]
          refine hlhs level _ ?_ (Piece.delimited_cons rfl)
          apply Piece.clear_spaced op.isSpelled_token
          exact hrhs rhs List.mem_cons_self level rest clear delimited
      | ternary condition yes no =>
          rcases List.forall_mem_cons.mp hlays with ⟨hcondition, hbranches⟩
          rcases List.forall_mem_cons.mp hbranches with ⟨hyes, hno⟩
          intro level rest clear delimited
          simp only [Expr.pieces, List.cons_append, List.append_assoc, List.nil_append]
          refine hcondition level _ ?_ (Piece.delimited_cons rfl)
          apply Piece.clear_spaced rfl
          refine hyes level _ ?_ (Piece.delimited_cons rfl)
          apply Piece.clear_spaced rfl
          exact hno no List.mem_cons_self level rest clear delimited
      | elvis condition no =>
          rcases List.forall_mem_cons.mp hlays with ⟨hcondition, hno⟩
          intro level rest clear delimited
          simp only [Expr.pieces, List.cons_append, List.append_assoc, List.nil_append]
          refine hcondition level _ ?_ (Piece.delimited_cons rfl)
          have hcolon : Piece.Clear (Piece.mark .colon :: .space :: (no.pieces level ++ rest)) :=
            Piece.clear_spaced rfl (hno no List.mem_cons_self level rest clear delimited)
          have htext : (Token.mark .colon).text.toList = [':'] := rfl
          exact Piece.clear_before rfl htext rfl hcolon
      | group inner =>
          intro level rest clear delimited
          simp only [Expr.pieces, List.cons_append, List.append_assoc, List.nil_append]
          apply Piece.clear_sealed rfl rfl
          exact hlays inner List.mem_cons_self level _ (Piece.clear_sealed rfl rfl clear)
            (Piece.delimited_cons rfl)
      | literal l =>
          intro level rest clear delimited
          exact Piece.clear_sealed rfl hspelled clear
      | number raw =>
          intro level rest clear delimited
          exact Piece.clear_firm rfl hspelled delimited clear
      | constant name =>
          intro level rest clear delimited
          exact Piece.clear_firm rfl (isHead_iff.mp hspelled).1 delimited clear
      | _ name =>
          intro level rest clear delimited
          exact Piece.clear_firm rfl hspelled delimited clear

end FluentStyle
