import FluentStyle.Grammar.Source
import FluentStyle.Proofs.Grammar.Following

/-!
# Reading ends

From every position in a list of tokens with the end of the fragment at its end, each function that
reads a part of a fragment ends.
-/

namespace FluentStyle

namespace Descent

/-- The end of the fragment is the last of the tokens, and none of the others. -/
structure EndsOnce (tokens : List (Option Token)) : Prop where
  last : tokens.getLast? = some none
  notMem : none ∉ tokens.dropLast

theorem exists_eq_map_some {tokens : List (Option Token)} (h : none ∉ tokens) :
    ∃ words : List Token, tokens = words.map some := by
  induction tokens with
  | nil => exact ⟨[], rfl⟩
  | cons token tokens ih =>
    rcases ih fun hmem => h (List.mem_cons_of_mem token hmem) with ⟨words, rfl⟩
    cases token with
    | none => exact (h List.mem_cons_self).elim
    | some word => exact ⟨word :: words, rfl⟩

theorem exists_eq_ended {tokens : List (Option Token)} (h : EndsOnce tokens) :
    ∃ words : List Token, tokens = ended words := by
  rcases List.getLast?_eq_some_iff.mp h.last with ⟨before, rfl⟩
  rcases exists_eq_map_some (List.dropLast_concat ▸ h.notMem) with ⟨words, rfl⟩
  exact ⟨words, rfl⟩

/-- From every position within the tokens, whatever is open there, reading ends, and not past the
last token.  If it succeeds it has read so many tokens at least, and left the counter as it was. -/
def Ends (tokens : List (Option Token)) (least : Nat) (d : Calls → Descent α) : Prop :=
  ∀ position : Position, position.cursor < tokens.length →
    (∃ (a : α) (next : Position), ComesTo tokens d position (.ok (a, next)) ∧
      position.cursor + least ≤ next.cursor ∧ next.cursor < tokens.length ∧
        next.depth = position.depth) ∨
    ∃ halt : Halt, ComesTo tokens d position (.error halt) ∧ halt.cursor < tokens.length

/-- Reading ends, whichever part of a fragment is read.  Only what follows a name or an operand,
what stands in a pair of brackets and a `use` clause may be nothing. -/
structure Terminates (tokens : List (Option Token)) : Prop where
  advance : Ends tokens 0 fun _ => advance tokens
  expr : Ends tokens 1 (·.expr)
  ternary : Ends tokens 1 (·.ternary)
  binary (floor : Nat) : Ends tokens 1 fun calls => calls.binary floor
  operators (floor nested : Nat) (lhs : Expr) :
    Ends tokens 0 fun calls => calls.operators floor nested lhs
  unary : Ends tokens 1 (·.unary)
  applied : Ends tokens 1 (·.applied)
  accesses (nested : Nat) (first : Expr) : Ends tokens 0 fun calls => calls.accesses nested first
  primary : Ends tokens 1 (·.primary)
  named (word : String) : Ends tokens 0 fun calls => calls.named word
  args : Ends tokens 1 (·.args)
  argList : Ends tokens 0 (·.argList)
  array : Ends tokens 1 (·.array)
  item : Ends tokens 1 (·.item)
  itemList : Ends tokens 0 (·.itemList)
  arrowClosure : Ends tokens 1 (·.arrowClosure)
  blockClosure : Ends tokens 1 (·.blockClosure)
  params : Ends tokens 1 (·.params)
  paramList : Ends tokens 0 (·.paramList)
  param : Ends tokens 1 (·.param)
  captures : Ends tokens 0 (·.captures)
  useClause : Ends tokens 1 (·.useClause)
  captureList : Ends tokens 0 (·.captureList)
  capture : Ends tokens 1 (·.capture)
  block : Ends tokens 1 (·.block)
  stmtList : Ends tokens 0 (·.stmtList)
  stmt : Ends tokens 1 (·.stmt)
  exprList : Ends tokens 1 (·.exprList)
  fragment : Ends tokens 1 (fragment tokens)

section Ends

variable {words : List Token} {d : Calls → Descent α} {p : Nat → Parser α}

theorem exists_rest {position : Position} (h : position.cursor < (ended words).length) :
    ∃ rest : List Token, rest <:+ words ∧
      position = ⟨words.length - rest.length, position.depth⟩ := by
  have hle : position.cursor ≤ words.length := by
    rw [ended, List.length_append, List.length_map] at h
    exact Nat.le_of_lt_succ h
  refine ⟨words.drop position.cursor, List.drop_suffix _ _, ?_⟩
  rw [List.length_drop, Nat.sub_sub_self hle]

theorem sub_lt_length_ended (words : List Token) (left : Nat) :
    words.length - left < (ended words).length := by
  rw [ended, List.length_append, List.length_map]
  exact Nat.lt_succ_of_le (Nat.sub_le _ _)

theorem Follows.ends {least : Nat} (h : ∀ limit depth, Follows words limit depth d (p depth))
    (hleast : ∀ {depth : Nat} {tokens : List Token} {a : α} {rest : List Token},
      (p depth).run tokens = .ok (a, rest) → rest.length + least ≤ tokens.length) :
    Ends (ended words) least d := by
  intro position hposition
  rcases exists_rest hposition with ⟨rest, hrest, heq⟩
  have hcomes := h (rest.length + 1) position.depth rest hrest (Nat.lt_succ_self _)
  rw [← heq] at hcomes
  cases hrun : (p position.depth).run rest with
  | error stuck =>
      rw [hrun] at hcomes
      exact Or.inr ⟨_, hcomes, sub_lt_length_ended words _⟩
  | ok result =>
      rw [hrun] at hcomes
      refine Or.inl ⟨result.1, _, hcomes, ?_, sub_lt_length_ended words _, rfl⟩
      have hread := hleast hrun
      have hlength := hrest.length_le
      have hcursor : position.cursor = words.length - rest.length := congrArg Position.cursor heq
      show position.cursor + least ≤ words.length - result.2.length
      omega

theorem Follows.ends_zero (h : ∀ limit depth, Follows words limit depth d (p depth)) :
    Ends (ended words) 0 d :=
  Follows.ends h fun hrun => Parser.length_le hrun

theorem Follows.ends_one (h : ∀ limit depth, Follows words limit depth d (p depth))
    (hconsumes : ∀ depth, (p depth).Consumes) : Ends (ended words) 1 d :=
  Follows.ends h fun hrun => hconsumes _ hrun

theorem Ends.of_ok {tokens : List (Option Token)} {least : Nat} (h : Ends tokens least d)
    {position next : Position} {a : α} (hposition : position.cursor < tokens.length)
    (hcomes : ComesTo tokens d position (.ok (a, next))) :
    position.cursor + least ≤ next.cursor ∧ next.cursor < tokens.length ∧
      next.depth = position.depth := by
  rcases h position hposition with ⟨value, after, hvalue, hread⟩ | ⟨halt, hhalt, -⟩
  · cases hcomes.unique hvalue
    exact hread
  · cases hcomes.unique hhalt

def levelAt (depth : Nat) : Level :=
  Level.withRoom (nestingLimit - depth)

end Ends

section Fragment

variable {words : List Token}

theorem run_isAtEnd {rest : List Token} (h : rest <:+ words) (depth : Nat) :
    isAtEnd (ended words) ⟨words.length - rest.length, depth⟩ =
      some (.ok (decide (rest = []), ⟨words.length - rest.length, depth⟩)) := by
  rw [isAtEnd, run_bind, peek, run_peekAt h]
  cases rest <;> rfl

/-!
# Fragments

Where no token is left there is no fragment, and where one is left a fragment is what is read up to
the end.
-/

theorem comesTo_fragment_nil (words : List Token) (depth : Nat) :
    ComesTo (ended words) (fragment (ended words)) ⟨words.length, depth⟩
      (.error ⟨0, .emptyFragment⟩) :=
  ComesTo.bind_ok (comesTo_of_eq fun _ => run_isAtEnd (List.nil_suffix) depth)
    (comesTo_of_eq fun _ => rfl)

theorem comesTo_fragment {rest : List Token} (h : rest <:+ words) (hne : rest ≠ []) {depth : Nat}
    {result : Except Halt (Fragment × Position)}
    (hcomes : ComesTo (ended words) (toEnd (ended words))
      ⟨words.length - rest.length, depth⟩ result) :
    ComesTo (ended words) (fragment (ended words)) ⟨words.length - rest.length, depth⟩ result := by
  refine ComesTo.bind_ok (comesTo_of_eq fun _ => run_isAtEnd h depth) ?_
  rw [decide_eq_false hne]
  exact hcomes

theorem ends_toEnd (words : List Token) : Ends (ended words) 1 (toEnd (ended words)) :=
  Follows.ends_one (fun _ _ => follows_toEnd) fun _ =>
    Fragment.consumes_toEndParser (Level.consumes_withRoom _).expr

theorem ends_fragment (words : List Token) : Ends (ended words) 1 (fragment (ended words)) := by
  intro position hposition
  have hend := ends_toEnd words position hposition
  rcases exists_rest hposition with ⟨rest, hrest, heq⟩
  rw [heq] at hend ⊢
  cases rest with
  | nil => exact Or.inr ⟨_, comesTo_fragment_nil words _, Nat.zero_lt_of_lt hposition⟩
  | cons token rest =>
      rcases hend with ⟨fragment, next, hcomes, hread⟩ | ⟨halt, hcomes, hhalt⟩
      · exact Or.inl ⟨fragment, next, comesTo_fragment hrest (List.cons_ne_nil _ _) hcomes, hread⟩
      · exact Or.inr ⟨halt, comesTo_fragment hrest (List.cons_ne_nil _ _) hcomes, hhalt⟩

theorem comesTo_fragment_start (hne : words ≠ []) :
    ComesTo (ended words) (fragment (ended words)) ⟨0, 0⟩
      (outcome words 0 ((Fragment.ofTokens words).map (·, []))) := by
  have hstart : (⟨0, 0⟩ : Position) = ⟨words.length - words.length, 0⟩ := by
    rw [Nat.sub_self]
  rw [hstart, ← Fragment.run_toEndParser]
  exact comesTo_fragment (List.suffix_refl words) hne
    (follows_toEnd words (List.suffix_refl words) (Nat.lt_succ_self _))

end Fragment

theorem terminates_ended (words : List Token) : Terminates (ended words) := by
  have hlevel : ∀ depth, FollowsLevel words depth (levelAt depth) := followsLevel_withRoom words
  have hconsumes : ∀ depth, (levelAt depth).Consumes := fun depth => Level.consumes_withRoom _
  have hbinary := fun limit depth =>
    follows_binary (hconsumes depth).unary (hlevel depth).unary limit
  exact {
    advance := Follows.ends_zero fun limit depth => follows_advance
    expr := Follows.ends_one (fun limit depth => (hlevel depth).expr limit) fun depth =>
      (hconsumes depth).expr
    ternary := Follows.ends_one
      (fun limit depth =>
        follows_ternary (hconsumes depth).unary (hlevel depth).unary (hlevel depth).expr)
      fun depth => Expr.consumes_conditionalParser _ (hconsumes depth).unary _
    binary := fun floor => Follows.ends_one (fun limit depth => hbinary limit depth floor)
      fun depth => Expr.consumes_binaryParser _ (hconsumes depth).unary floor
    operators := fun floor nested lhs => Follows.ends_zero fun limit depth =>
      follows_operators (hconsumes depth).unary
        (fun limit op _ => hbinary limit depth op.precedence) nested lhs
    unary := Follows.ends_one (fun limit depth => (hlevel depth).unary limit) fun depth =>
      (hconsumes depth).unary
    applied := Follows.ends_one
      (fun limit depth => follows_applied (hlevel depth).expr (hlevel depth).block)
      fun depth => Parser.consumes_bind_left (Expr.consumes_primaryParser _ _)
    accesses := fun nested first => Follows.ends_zero fun limit depth =>
      follows_accesses (hlevel depth).expr nested first
    primary := Follows.ends_one
      (fun limit depth => follows_primary (hlevel depth).expr (hlevel depth).block)
      fun depth => Expr.consumes_primaryParser _ _
    named := fun word => Follows.ends_zero fun limit depth => follows_named (hlevel depth).expr word
    args := Follows.ends_one (fun limit depth => follows_args (hlevel depth).expr) fun depth =>
      Parser.consumes_expect_bind _ _ _
    argList := Follows.ends_zero fun limit depth =>
      follows_argList (hlevel depth).expr
    array := Follows.ends_one (fun limit depth => follows_array (hlevel depth).expr) fun depth =>
      Parser.consumes_bind_left (ArrayItem.consumes_listParser _)
    item := Follows.ends_one (fun limit depth => follows_item (hlevel depth).expr) fun depth =>
      Parser.consumes_bind_left (hconsumes depth).expr
    itemList := Follows.ends_zero fun limit depth =>
      follows_itemList (hlevel depth).expr
    arrowClosure := Follows.ends_one (fun limit depth => follows_arrowClosure (hlevel depth).expr)
      fun depth => Parser.consumes_bind_left (Closure.consumes_arrowParser _)
    blockClosure := Follows.ends_one (fun limit depth => follows_blockClosure (hlevel depth).block)
      fun depth => Parser.consumes_bind_left (Closure.consumes_blockParser _)
    params := Follows.ends_one (fun limit depth => follows_params) fun depth =>
      Param.consumes_listParser
    paramList := Follows.ends_zero fun limit depth => follows_paramList
    param := Follows.ends_one (fun limit depth => follows_param) fun depth => Param.consumes_parser
    captures := Follows.ends_zero fun limit depth => follows_captures
    useClause := Follows.ends_one (fun limit depth => follows_useClause) fun depth =>
      Parser.consumes_expect_bind _ _ _
    captureList := Follows.ends_zero fun limit depth => follows_captureList
    capture := Follows.ends_one (fun limit depth => follows_capture) fun depth =>
      Capture.consumes_parser
    block := Follows.ends_one (fun limit depth => (hlevel depth).block limit) fun depth =>
      (hconsumes depth).block
    stmt := Follows.ends_one
      (fun limit depth => follows_stmt (hlevel depth).expr (hlevel depth).block)
      fun depth => Stmt.consumes_statement _ _
    stmtList := Follows.ends_zero fun limit depth =>
      follows_stmtList (hlevel depth).expr (hlevel depth).block
    exprList := Follows.ends_one (fun limit depth => follows_exprList) fun depth =>
      Fragment.consumes_itemsParser (hconsumes depth).expr
    fragment := ends_fragment words }

/-- All functions end from every position, and come to what the readers make of the tokens. -/
theorem terminates_of_endsOnce {tokens : List (Option Token)} (h : EndsOnce tokens) :
    Terminates tokens ∧
      ∃ words : List Token, tokens = ended words ∧
        (∀ depth, FollowsLevel words depth (levelAt depth)) ∧
          (words ≠ [] → ComesTo tokens (fragment tokens) ⟨0, 0⟩
            (outcome words 0 ((Fragment.ofTokens words).map (·, [])))) := by
  rcases exists_eq_ended h with ⟨words, rfl⟩
  exact ⟨terminates_ended words, words, rfl, followsLevel_withRoom words, comesTo_fragment_start⟩

/-- A call that is not closed. -/
theorem terminates_of_endsOnce_unclosed :
    EndsOnce [some (.name "a"), some (.opening .round), none] ∧
      Terminates [some (.name "a"), some (.opening .round), none] := by
  have h : EndsOnce [some (.name "a"), some (.opening .round), none] := ⟨rfl, by decide⟩
  exact ⟨h, (terminates_of_endsOnce h).1⟩

end Descent

namespace Fragment

/-- A source text is read as the functions with a cursor read its tokens, and an error is at the
token at which they got stuck. -/
theorem parse_eq_fragment {source : String} {lexemes : List Lexeme}
    (h : Lexeme.tokenize source = .ok lexemes) (hne : lexemes ≠ []) :
    ∃ result, Descent.ComesTo (Descent.ended (lexemes.map (·.token)))
        (Descent.fragment (Descent.ended (lexemes.map (·.token)))) ⟨0, 0⟩ result ∧
      parse source =
        match result with
        | .ok (fragment, _) => .ok fragment
        | .error halt =>
            .error ⟨Lexeme.positionBefore lexemes source.utf8ByteSize
              (lexemes.length - halt.cursor), halt.reason⟩ := by
  refine ⟨_, Descent.comesTo_fragment_start (mt List.map_eq_nil_iff.mp hne), ?_⟩
  rw [parse_of_tokenize h hne]
  cases ofTokens (lexemes.map (·.token)) with
  | ok fragment => rfl
  | error stuck =>
    show _ = Except.error (SyntaxError.mk (Lexeme.positionBefore lexemes source.utf8ByteSize
      (lexemes.length - ((lexemes.map (·.token)).length - stuck.left))) stuck.reason)
    rw [List.length_map]
    unfold Lexeme.positionBefore
    rw [Nat.sub_sub_self (Nat.sub_le _ _)]

end Fragment

end FluentStyle
