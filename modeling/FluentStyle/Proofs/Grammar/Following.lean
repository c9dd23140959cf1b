import FluentStyle.Proofs.Grammar.Descent
import FluentStyle.Proofs.Grammar.Progress

/-!
# The descent follows the readers

What the functions with a cursor and a counter come to is what the readers make of the tokens behind
the cursor, at the level that has as much room as the counter leaves.
-/

namespace FluentStyle

namespace Descent

def ended (tokens : List Token) : List (Option Token) :=
  tokens.map some ++ [none]

section Calls

variable {α β : Type} (tokens : List (Option Token))

/-- Reading from the position comes to the result once calls may nest deep enough, and deeper ones
do not change it. -/
def ComesTo (d : Calls → Descent α) (position : Position)
    (result : Except Halt (α × Position)) : Prop :=
  ∃ enough, ∀ count ≥ enough, d (nested tokens count) position = some result

variable {tokens}

theorem comesTo_of_eq {d : Calls → Descent α} {position : Position}
    {result : Except Halt (α × Position)} (h : ∀ calls, d calls position = some result) :
    ComesTo tokens d position result :=
  ⟨0, fun _ _ => h _⟩

theorem ComesTo.unique {d : Calls → Descent α} {position : Position}
    {first second : Except Halt (α × Position)} (hfirst : ComesTo tokens d position first)
    (hsecond : ComesTo tokens d position second) : first = second := by
  rcases hfirst with ⟨few, hfirst⟩
  rcases hsecond with ⟨many, hsecond⟩
  have heq := (hfirst (max few many) (Nat.le_max_left _ _)).symm.trans
    (hsecond (max few many) (Nat.le_max_right _ _))
  exact Option.some.inj heq

theorem ComesTo.called {call d : Calls → Descent α} {position : Position}
    {result : Except Halt (α × Position)} (h : ComesTo tokens d position result)
    (hcall : ∀ calls, call (around tokens calls) = d calls) :
    ComesTo tokens call position result := by
  rcases h with ⟨enough, h⟩
  refine ⟨enough + 1, fun count hcount => ?_⟩
  cases count with
  | zero => exact absurd hcount (Nat.not_succ_le_zero enough)
  | succ count =>
      rw [nested, hcall]
      exact h count (Nat.le_of_succ_le_succ hcount)

theorem run_bind (d : Descent α) (f : α → Descent β) (position : Position) :
    (d >>= f) position =
      match d position with
      | none => none
      | some (.error halt) => some (.error halt)
      | some (.ok (a, next)) => f a next := by
  show ((d position : Option (Except Halt (α × Position))) >>= _) = _
  rcases d position with _ | halt | ⟨a, next⟩ <;> rfl

theorem ComesTo.bind_error {d : Calls → Descent α} {f : Calls → α → Descent β}
    {position : Position} {halt : Halt} (h : ComesTo tokens d position (.error halt)) :
    ComesTo tokens (fun calls => d calls >>= f calls) position (.error halt) := by
  rcases h with ⟨enough, h⟩
  refine ⟨enough, fun count hcount => ?_⟩
  show (d _ >>= f _) position = _
  rw [run_bind, h count hcount]

theorem ComesTo.bind_ok {d : Calls → Descent α} {f : Calls → α → Descent β}
    {position next : Position} {a : α} {result : Except Halt (β × Position)}
    (hd : ComesTo tokens d position (.ok (a, next)))
    (hf : ComesTo tokens (fun calls => f calls a) next result) :
    ComesTo tokens (fun calls => d calls >>= f calls) position result := by
  rcases hd with ⟨few, hd⟩
  rcases hf with ⟨many, hf⟩
  refine ⟨max few many, fun count hcount => ?_⟩
  show (d _ >>= f _) position = _
  rw [run_bind, hd count (Nat.le_trans (Nat.le_max_left _ _) hcount)]
  exact hf count (Nat.le_trans (Nat.le_max_right _ _) hcount)

end Calls

section Follows

variable {α β : Type} (tokens : List Token) (limit depth : Nat)

def outcome : Except Stuck (α × List Token) → Except Halt (α × Position)
  | .error stuck => .error ⟨tokens.length - stuck.left, stuck.reason⟩
  | .ok (a, rest) => .ok (a, ⟨tokens.length - rest.length, depth⟩)

/-- Wherever fewer tokens are left than the limit, the descent comes to what the reader comes to,
and the counter stays as it is. -/
def Follows (d : Calls → Descent α) (p : Parser α) : Prop :=
  ∀ rest : List Token, rest <:+ tokens → rest.length < limit →
    ComesTo (ended tokens) d ⟨tokens.length - rest.length, depth⟩
      (outcome tokens depth (p.run rest))

variable {tokens limit depth}

/-!
# Sequences

A call of a function follows what the function follows.  What is read second need only follow where
the first reader leaves tokens, and behind a reader that reads something there are fewer tokens
left.
-/

theorem Follows.mono {d : Calls → Descent α} {p : Parser α} {least : Nat}
    (h : Follows tokens limit depth d p) (hle : least ≤ limit) :
    Follows tokens least depth d p :=
  fun rest hrest hlength => h rest hrest (Nat.lt_of_lt_of_le hlength hle)

theorem Follows.called {call d : Calls → Descent α} {p : Parser α}
    (h : Follows tokens limit depth d p)
    (hcall : ∀ calls, call (around (ended tokens) calls) = d calls) :
    Follows tokens limit depth call p :=
  fun rest hrest hlength => (h rest hrest hlength).called hcall

/-- What is read second need only follow where the first reader leaves tokens. -/
theorem Follows.bind_of_lt {d : Calls → Descent α} {p : Parser α} {f : Calls → α → Descent β}
    {g : α → Parser β} {least : Nat} (hd : Follows tokens limit depth d p)
    (hleft : ∀ {rest after : List Token} {a : α}, p.run rest = .ok (a, after) →
      rest.length < limit → after.length < least)
    (hf : ∀ a, Follows tokens least depth (fun calls => f calls a) (g a)) :
    Follows tokens limit depth (fun calls => d calls >>= f calls) (p >>= g) := by
  intro rest hrest hlength
  have hcomes := hd rest hrest hlength
  rw [Parser.run_bind]
  cases hrun : p.run rest with
  | error stuck =>
      rw [hrun] at hcomes
      exact hcomes.bind_error
  | ok result =>
      rw [hrun] at hcomes
      exact hcomes.bind_ok <|
        hf result.1 result.2 ((p.suffix hrun).trans hrest) (hleft hrun hlength)

theorem Follows.bind {d : Calls → Descent α} {p : Parser α} {f : Calls → α → Descent β}
    {g : α → Parser β} (hd : Follows tokens limit depth d p)
    (hf : ∀ a, Follows tokens limit depth (fun calls => f calls a) (g a)) :
    Follows tokens limit depth (fun calls => d calls >>= f calls) (p >>= g) :=
  hd.bind_of_lt (fun hrun => Nat.lt_of_le_of_lt (Parser.length_le hrun)) hf

theorem Follows.bind_of_consumes {d : Calls → Descent α} {p : Parser α}
    {f : Calls → α → Descent β} {g : α → Parser β} (hp : p.Consumes)
    (hd : Follows tokens (limit + 1) depth d p)
    (hf : ∀ a, Follows tokens limit depth (fun calls => f calls a) (g a)) :
    Follows tokens (limit + 1) depth (fun calls => d calls >>= f calls) (p >>= g) :=
  hd.bind_of_lt (fun hrun hlength => Nat.lt_of_lt_of_le (hp hrun) (Nat.le_of_lt_succ hlength)) hf

theorem follows_pure (a : α) : Follows tokens limit depth (fun _ => pure a) (pure a) :=
  fun _ _ _ => comesTo_of_eq fun _ => rfl

theorem follows_fail (reason : Reason) :
    Follows tokens limit depth (fun _ => (fail reason : Descent α)) (Parser.fail reason) :=
  fun _ _ _ => comesTo_of_eq fun _ => rfl

theorem ComesTo.ite {d e : Calls → Descent α} {p q : Parser α} {c : Prop} [Decidable c]
    {position : Position} {rest : List Token}
    (hd : c → ComesTo (ended tokens) d position (outcome tokens depth (p.run rest)))
    (he : ¬c → ComesTo (ended tokens) e position (outcome tokens depth (q.run rest))) :
    ComesTo (ended tokens) (fun calls => if c then d calls else e calls) position
      (outcome tokens depth ((if c then p else q).run rest)) := by
  by_cases h : c
  · simp only [if_pos h]
    exact hd h
  · simp only [if_neg h]
    exact he h

theorem Follows.ite {d e : Calls → Descent α} {p q : Parser α} {c : Prop} [Decidable c]
    (hd : c → Follows tokens limit depth d p) (he : ¬c → Follows tokens limit depth e q) :
    Follows tokens limit depth (fun calls => if c then d calls else e calls)
      (if c then p else q) :=
  fun rest hrest hlength =>
    .ite (fun h => hd h rest hrest hlength) fun h => he h rest hrest hlength

/-!
# The next tokens

To see whether a token is next is to look at the next token, and to expect a token that is next is
to skip it.
-/

theorem join_getElem?_ended (tokens : List Token) (index : Nat) :
    (ended tokens)[index]?.join = tokens[index]? := by
  unfold ended
  rw [List.getElem?_append]
  split
  · rw [List.getElem?_map]
    cases tokens[index]? <;> rfl
  · rename_i hlength
    rw [List.length_map, Nat.not_lt] at hlength
    rw [List.getElem?_eq_none hlength]
    cases index - (tokens.map some).length <;> rfl

theorem getElem?_of_suffix {rest : List Token} (h : rest <:+ tokens) (offset : Nat) :
    tokens[min (tokens.length - rest.length + offset) ((ended tokens).length - 1)]? =
      rest[offset]? := by
  have hlast : (ended tokens).length - 1 = tokens.length := by simp [ended]
  rcases h with ⟨front, rfl⟩
  rw [hlast, List.length_append, Nat.add_sub_cancel]
  rcases Nat.lt_or_ge offset rest.length with hoffset | hoffset
  · rw [Nat.min_eq_left (Nat.add_le_add_left (Nat.le_of_lt hoffset) _),
      List.getElem?_append_right (Nat.le_add_right _ _), Nat.add_sub_cancel_left]
  · rw [Nat.min_eq_right (Nat.add_le_add_left hoffset _), List.getElem?_eq_none hoffset,
      List.getElem?_eq_none (Nat.le_of_eq List.length_append)]

theorem run_peekAt {rest : List Token} (h : rest <:+ tokens) (offset : Nat) :
    peekAt (ended tokens) offset ⟨tokens.length - rest.length, depth⟩ =
      some (.ok (rest[offset]?, ⟨tokens.length - rest.length, depth⟩)) := by
  rw [← getElem?_of_suffix h offset, ← join_getElem?_ended]
  rfl

theorem follows_peek :
    Follows tokens limit depth (fun _ => peek (ended tokens)) Parser.peek := by
  refine fun rest hrest _ => comesTo_of_eq fun _ => ?_
  rw [peek, run_peekAt hrest, ← List.head?_eq_getElem?]
  rfl

theorem follows_peekSecond :
    Follows tokens limit depth (fun _ => peekAt (ended tokens) 1) Parser.peekSecond := by
  refine fun rest hrest _ => comesTo_of_eq fun _ => ?_
  rw [run_peekAt hrest, ← List.head?_tail]
  rfl

theorem run_advance {rest : List Token} (h : rest <:+ tokens) :
    advance (ended tokens) ⟨tokens.length - rest.length, depth⟩ =
      some (.ok (rest.head?, ⟨tokens.length - rest.tail.length, depth⟩)) := by
  rw [advance, run_bind, peek, run_peekAt h]
  cases rest with
  | nil => rfl
  | cons token rest =>
      have hnext : tokens.length - (rest.length + 1) + 1 = tokens.length - rest.length := by
        have hle : rest.length + 1 ≤ tokens.length := h.length_le
        omega
      show some (Except.ok (some token,
        (⟨tokens.length - (rest.length + 1) + 1, depth⟩ : Position))) = _
      rw [hnext]
      rfl

theorem follows_advance :
    Follows tokens limit depth (fun _ => advance (ended tokens)) (do
      let next ← Parser.peek
      Parser.skip
      pure next) := by
  refine fun rest hrest _ => comesTo_of_eq fun _ => ?_
  rw [run_advance hrest]
  rfl

theorem Follows.advance {d : Calls → Descent α} {p : Parser α}
    (h : Follows tokens limit depth d p) :
    Follows tokens limit depth (fun calls => Descent.advance (ended tokens) >>= fun _ => d calls)
      (Parser.skip >>= fun _ => p) :=
  follows_advance.bind fun _ => h

theorem follows_unexpected (expected : Expectation) :
    Follows tokens limit depth (fun _ => (unexpected (ended tokens) expected : Descent α))
      (Parser.failAt (.missing expected)) :=
  follows_peek.bind fun next => follows_fail (.missing expected next)

theorem Follows.isNext {d e : Calls → Descent α} {f : Option Token → Parser α} (token : Token)
    (hd : Follows tokens limit depth d (f (some token)))
    (he : ∀ next, next ≠ some token → Follows tokens limit depth e (f next)) :
    Follows tokens limit depth
      (fun calls => Descent.isNext (ended tokens) token >>= fun found =>
        if found then d calls else e calls)
      (Parser.peek >>= f) := by
  show Follows tokens limit depth
    (fun calls => peek (ended tokens) >>= fun next =>
      if decide (next = some token) then d calls else e calls) _
  refine follows_peek.bind fun next => ?_
  by_cases hnext : next = some token
  · simp only [hnext, decide_true, if_true]
    exact hd
  · simp only [hnext, decide_false, Bool.false_eq_true, if_false]
    exact he next hnext

theorem Follows.isNext_ite {d e : Calls → Descent α} {p q : Parser α} (token : Token)
    (hd : Follows tokens limit depth d p) (he : Follows tokens limit depth e q) :
    Follows tokens limit depth
      (fun calls => Descent.isNext (ended tokens) token >>= fun found =>
        if found then d calls else e calls)
      (Parser.peek >>= fun next => if next = some token then p else q) := by
  refine Follows.isNext token ?_ fun next hnext => ?_
  · rw [if_pos rfl]
    exact hd
  · rw [if_neg hnext]
    exact he

theorem Follows.isAtEnd {d e : Calls → Descent α} {p q : Parser α}
    (hd : Follows tokens limit depth d p) (he : Follows tokens limit depth e q) :
    Follows tokens limit depth
      (fun calls => Descent.isAtEnd (ended tokens) >>= fun found =>
        if found then d calls else e calls)
      (Parser.peek >>= fun next => if next = none then p else q) := by
  show Follows tokens limit depth
    (fun calls => peek (ended tokens) >>= fun next =>
      if decide (next = none) then d calls else e calls) _
  refine follows_peek.bind fun next => ?_
  cases next with
  | none => exact hd
  | some token => exact he

theorem follows_eat (token : Token) :
    Follows tokens limit depth (fun _ => eat (ended tokens) token) (Parser.eat token) := by
  rw [Parser.eat_eq]
  exact (follows_pure true).advance.isNext_ite token (follows_pure false)

theorem Follows.eat {d e : Calls → Descent α} {p q : Parser α} (token : Token)
    (hd : Follows tokens limit depth d p) (he : Follows tokens (limit + 1) depth e q) :
    Follows tokens (limit + 1) depth
      (fun calls => Descent.eat (ended tokens) token >>= fun found =>
        if found then d calls else e calls)
      (Parser.eat token >>= fun found => if found then p else q) := by
  intro rest hrest hlength
  have heat : ComesTo (ended tokens) (fun _ => Descent.eat (ended tokens) token)
      ⟨tokens.length - rest.length, depth⟩
        (outcome tokens depth ((Parser.eat token).run rest)) :=
    follows_eat token rest hrest hlength
  by_cases hhead : rest.head? = some token
  · rcases List.head?_eq_some_iff.mp hhead with ⟨after, rfl⟩
    rw [Parser.run_eat] at heat
    rw [Parser.run_bind_ok (Parser.run_eat token after), if_pos rfl]
    exact heat.bind_ok <| hd after ((List.suffix_cons token after).trans hrest)
      (Nat.lt_of_succ_lt_succ hlength)
  · rw [Parser.run_eat_of_ne hhead] at heat
    rw [Parser.run_bind_ok (Parser.run_eat_of_ne hhead), if_neg Bool.false_ne_true]
    exact heat.bind_ok (he rest hrest hlength)

theorem follows_expect (token : Token) (expected : Expectation) :
    Follows tokens limit depth (fun _ => expect (ended tokens) token expected)
      (Parser.expect token expected) :=
  (follows_eat token).bind fun _ =>
    .ite (fun _ => follows_pure ()) fun _ => follows_unexpected expected

theorem Follows.isNext_expect {d e : Calls → Descent α} {p : Parser α}
    {f : Option Token → Parser α} (token : Token) (expected : Expectation)
    (hf : f (some token) = Parser.skip >>= fun _ => p) (hd : Follows tokens limit depth d p)
    (he : ∀ next, next ≠ some token → Follows tokens limit depth e (f next)) :
    Follows tokens limit depth
      (fun calls => Descent.isNext (ended tokens) token >>= fun found =>
        if found then expect (ended tokens) token expected >>= fun _ => d calls else e calls)
      (Parser.peek >>= f) := by
  rw [Parser.peek_bind_eq hf expected]
  refine Follows.isNext token ?_ fun next hnext => ?_
  · rw [if_pos rfl]
    exact (follows_expect token expected).bind fun _ => hd
  · rw [if_neg hnext]
    exact he next hnext

theorem follows_name (expected : Expectation) :
    Follows tokens limit depth (fun _ => name (ended tokens) expected) (Parser.name expected) := by
  refine follows_peek.bind fun next => ?_
  match next with
  | some (.name text) => exact (follows_pure text).advance
  | none | some (.variable _) | some (.literal _) | some (.number _) | some (.opening _)
  | some (.closing _) | some (.mark _) | some (.operator _) => exact follows_unexpected expected

theorem follows_variableName (expected : Expectation) :
    Follows tokens limit depth (fun _ => variableName (ended tokens) expected)
      (Parser.variableName expected) := by
  refine follows_peek.bind fun next => ?_
  match next with
  | some (.variable text) => exact (follows_pure text).advance
  | none | some (.name _) | some (.literal _) | some (.number _) | some (.opening _)
  | some (.closing _) | some (.mark _) | some (.operator _) => exact follows_unexpected expected

/-!
# Lists
-/

/-- A function for items with commas between them that calls itself for the others follows the
reader of a list. -/
theorem follows_list {close : Token} {call : Calls → Descent (List α)} {d : Calls → Descent α}
    {p : Parser α}
    (hcall : ∀ calls, call (around (ended tokens) calls) =
      list (ended tokens) close (d calls) (call calls))
    (h : ∀ limit, Follows tokens limit depth d p) :
    Follows tokens limit depth call (Parser.list close p) := by
  induction limit with
  | zero => exact fun _ _ hlength => absurd hlength (Nat.not_lt_zero _)
  | succ limit ih =>
      refine Follows.called ?_ hcall
      rw [Parser.list_eq]
      refine (follows_pure []).isNext_ite close ((h (limit + 1)).bind fun first => ?_)
      exact (ih.bind fun others => follows_pure (first :: others)).eat _ (follows_pure [first])

theorem follows_hint (nullable : Bool) :
    Follows tokens limit depth (fun _ => hint (ended tokens) nullable)
      (Param.hintParser nullable) := by
  have hnone : Follows tokens limit depth
      (fun _ => if nullable then fail .missingType else pure none : _ → Descent (Option TypeHint))
      (if nullable then Parser.fail .missingType else pure none) :=
    .ite (fun _ => follows_fail _) fun _ => follows_pure _
  refine follows_peek.bind fun next => ?_
  match next with
  | some (.name text) => exact (follows_pure (some (TypeHint.mk nullable text))).advance
  | none | some (.variable _) | some (.literal _) | some (.number _) | some (.opening _)
  | some (.closing _) | some (.mark _) | some (.operator _) => exact hnone

theorem follows_param :
    Follows tokens limit depth (·.param) Param.parser := by
  refine Follows.called (d := fun _ => param (ended tokens)) ?_ fun _ => rfl
  refine (follows_eat _).bind fun nullable => (follows_hint nullable).bind fun hint =>
    (follows_variableName _).bind fun name => Follows.isNext _ (follows_fail _) ?_
  intro next hnext
  split
  · exact (hnext rfl).elim
  · exact follows_pure _

theorem follows_paramList :
    Follows tokens limit depth (·.paramList) (Parser.list (.closing .round) Param.parser) :=
  follows_list (fun _ => rfl) fun _ => follows_param

theorem follows_params : Follows tokens limit depth (·.params) Param.listParser := by
  refine Follows.called (d := params (ended tokens)) ?_ fun _ => rfl
  exact (follows_expect _ _).bind fun _ => follows_paramList.bind fun params =>
    (follows_expect _ _).bind fun _ => follows_pure params

theorem follows_capture : Follows tokens limit depth (·.capture) Capture.parser := by
  refine Follows.called (d := fun _ => capture (ended tokens)) ?_ fun _ => rfl
  exact (follows_eat _).bind fun byReference => (follows_variableName _).bind fun name =>
    follows_pure (Capture.mk byReference name)

theorem follows_captureList :
    Follows tokens limit depth (·.captureList) (Parser.list (.closing .round) Capture.parser) :=
  follows_list (fun _ => rfl) fun _ => follows_capture

theorem follows_useClause : Follows tokens limit depth (·.useClause) Capture.clauseParser := by
  refine Follows.called (d := useClause (ended tokens)) ?_ fun _ => rfl
  exact (follows_expect _ _).bind fun _ => follows_captureList.bind fun captures =>
    (follows_expect _ _).bind fun _ => follows_pure captures

theorem follows_captures : Follows tokens limit depth (·.captures) Capture.listParser := by
  refine Follows.called (d := captures (ended tokens)) ?_ fun _ => rfl
  exact (follows_eat _).bind fun _ =>
    .ite (fun _ => follows_useClause) fun _ => follows_pure []

/-!
# Expressions
-/

theorem follows_zero (d : Calls → Descent α) (p : Parser α) : Follows tokens 0 depth d p :=
  fun _ _ hlength => absurd hlength (Nat.not_lt_zero _)

section Level

variable {whole operand : Parser Expr} {body : Parser (List Stmt)}

theorem follows_argList (h : ∀ limit, Follows tokens limit depth (·.expr) whole) :
    Follows tokens limit depth (·.argList) (Parser.list (.closing .round) whole) :=
  follows_list (fun _ => rfl) h

theorem follows_args (h : ∀ limit, Follows tokens limit depth (·.expr) whole) :
    Follows tokens limit depth (·.args)
      (Parser.expect (.opening .round) .openingParenthesis >>= fun _ => Call.argsParser whole) := by
  refine Follows.called (d := args (ended tokens)) ?_ fun _ => rfl
  exact (follows_expect _ _).bind fun _ => (follows_argList h).bind fun values =>
    (follows_expect _ _).bind fun _ => follows_pure values

theorem Follows.call (h : ∀ limit, Follows tokens limit depth (·.expr) whole)
    {f : Calls → List Expr → Descent α} {g : List Expr → Parser α} {d : Calls → Descent α}
    {p : Parser α}
    (hf : ∀ values, Follows tokens limit depth (fun calls => f calls values) (g values))
    (hd : Follows tokens (limit + 1) depth d p) :
    Follows tokens (limit + 1) depth
      (fun calls => Descent.isNext (ended tokens) (.opening .round) >>= fun found =>
        if found then calls.args >>= f calls else d calls)
      (Parser.eat (.opening .round) >>= fun found =>
        if found then Call.argsParser whole >>= g else p) := by
  rw [Parser.eat_bind_eq _ .openingParenthesis, ← bind_assoc]
  exact ((follows_args h).bind_of_consumes (Parser.consumes_expect_bind _ _ _) hf).isNext_ite _ hd

theorem follows_item (h : ∀ limit, Follows tokens limit depth (·.expr) whole) :
    Follows tokens limit depth (·.item) (ArrayItem.parser whole) := by
  refine Follows.called (d := item (ended tokens)) ?_ fun _ => rfl
  exact (h limit).bind fun first => (follows_eat _).bind fun _ =>
    .ite (fun _ => (h limit).bind fun value => follows_pure (ArrayItem.pair first value))
      fun _ => follows_pure (ArrayItem.value first)

theorem follows_itemList (h : ∀ limit, Follows tokens limit depth (·.expr) whole) :
    Follows tokens limit depth (·.itemList)
      (Parser.list (.closing .square) (ArrayItem.parser whole)) :=
  follows_list (fun _ => rfl) fun _ => follows_item h

theorem follows_array (h : ∀ limit, Follows tokens limit depth (·.expr) whole) :
    Follows tokens limit depth (·.array)
      (ArrayItem.listParser whole >>= fun items => pure (Expr.array items)) := by
  refine Follows.called (d := array (ended tokens)) ?_ fun _ => rfl
  rw [ArrayItem.listParser]
  simp only [bind_assoc, pure_bind]
  exact (follows_itemList h).bind fun items => (follows_expect _ _).bind fun _ =>
    follows_pure (Expr.array items)

theorem follows_arrowClosure (h : ∀ limit, Follows tokens limit depth (·.expr) whole) :
    Follows tokens limit depth (·.arrowClosure)
      (Closure.arrowParser whole >>= fun closure => pure (Expr.closure closure)) := by
  refine Follows.called (d := arrowClosure (ended tokens)) ?_ fun _ => rfl
  rw [Closure.arrowParser]
  simp only [bind_assoc, pure_bind]
  exact follows_params.bind fun params => (follows_expect _ _).bind fun _ =>
    (h limit).bind fun body => follows_pure (Expr.closure (.arrow params body))

theorem follows_blockClosure (h : ∀ limit, Follows tokens limit depth (·.block) body) :
    Follows tokens limit depth (·.blockClosure)
      (Closure.blockParser body >>= fun closure => pure (Expr.closure closure)) := by
  refine Follows.called (d := blockClosure) ?_ fun _ => rfl
  rw [Closure.blockParser]
  simp only [bind_assoc, pure_bind]
  exact follows_params.bind fun params => follows_captures.bind fun captures =>
    (h limit).bind fun body => follows_pure (Expr.closure (.block params captures body))

theorem follows_named (h : ∀ limit, Follows tokens limit depth (·.expr) whole) (word : String) :
    Follows tokens limit depth (fun calls => calls.named word) (Expr.namedParser whole word) := by
  cases limit with
  | zero => exact follows_zero _ _
  | succ limit =>
      refine Follows.called (d := fun calls => named (ended tokens) calls word) ?_ fun _ => rfl
      refine (follows_eat _).bind fun _ => .ite (fun _ => ?_) fun _ => ?_
      · exact (follows_name _).bind fun member =>
          Follows.call h (fun values => follows_pure _) (follows_pure _)
      · exact Follows.call h (fun values => follows_pure _) (follows_pure _)

theorem follows_primary (h : ∀ limit, Follows tokens limit depth (·.expr) whole)
    (hblock : ∀ limit, Follows tokens limit depth (·.block) body) :
    Follows tokens limit depth (·.primary) (Expr.primaryParser whole body) := by
  refine Follows.called (d := primary (ended tokens)) ?_ fun _ => rfl
  intro rest hrest hlength
  refine ComesTo.bind_ok (d := fun _ => get) (comesTo_of_eq fun _ => rfl) ?_
  refine ComesTo.bind_ok (comesTo_of_eq fun _ => run_advance hrest) ?_
  cases rest with
  | nil => exact comesTo_of_eq fun _ => rfl
  | cons token rest =>
      have hrest' : rest <:+ tokens := (List.suffix_cons token rest).trans hrest
      have hlength' : rest.length < limit := Nat.lt_of_succ_lt hlength
      match token with
      | .literal raw => exact comesTo_of_eq fun _ => rfl
      | .number raw => exact comesTo_of_eq fun _ => rfl
      | .variable name => exact comesTo_of_eq fun _ => rfl
      | .opening .square => exact follows_array h rest hrest' hlength'
      | .opening .round =>
          exact ((h limit).bind fun inner => (follows_expect _ _).bind fun _ =>
            follows_pure (Expr.group inner)) rest hrest' hlength'
      | .opening .curly => exact comesTo_of_eq fun _ => rfl
      | .closing bracket => exact comesTo_of_eq fun _ => rfl
      | .mark mark => exact comesTo_of_eq fun _ => rfl
      | .operator operator => exact comesTo_of_eq fun _ => rfl
      | .name word =>
          show ComesTo _ _ _ (outcome tokens depth ((if word = "fn" then _
            else if word = "function" then _ else if word = "new" then _
            else if word ∈ Expr.reserved then _ else _ : Parser Expr).run (.name word :: rest)))
          refine .ite (fun _ => ?fn) fun _ => .ite (fun _ => ?function) fun _ =>
            .ite (fun _ => ?new) fun _ => .ite (fun _ => ?reserved) fun _ => ?other
          case fn => exact follows_arrowClosure h rest hrest' hlength'
          case function => exact follows_blockClosure hblock rest hrest' hlength'
          case new => exact comesTo_of_eq fun _ => rfl
          case reserved => exact comesTo_of_eq fun _ => rfl
          case other => exact follows_named h word rest hrest' hlength'

theorem descend_of_le {position : Position} {extra : Nat}
    (h : nestingLimit ≤ position.depth + extra) :
    descend extra position = some (.error ⟨position.cursor, .nestingTooDeep⟩) := by
  show (if nestingLimit ≤ position.depth + extra then fail .nestingTooDeep else _ : Descent Unit)
    position = _
  rw [if_pos h]
  rfl

theorem descend_of_lt {position : Position} {extra : Nat}
    (h : position.depth + extra < nestingLimit) :
    descend extra position = some (.ok ((),
      if extra = 0 then { position with depth := position.depth + 1 } else position)) := by
  show (if nestingLimit ≤ position.depth + extra then fail .nestingTooDeep else _ : Descent Unit)
    position = _
  rw [if_neg (Nat.not_le.mpr h)]
  split <;> rfl

theorem Follows.deeper {d : Calls → Descent α} {p : Parser α}
    (h : Follows tokens limit depth d p) (nested : Nat) :
    Follows tokens limit depth (fun calls => descend (nested + 1) >>= fun _ => d calls)
      (if nestingLimit - depth ≤ nested + 1 then Parser.fail .nestingTooDeep else p) := by
  intro rest hrest hlength
  by_cases hdeep : nestingLimit ≤ depth + (nested + 1)
  · rw [if_pos (Nat.sub_le_iff_le_add'.mpr hdeep)]
    exact ComesTo.bind_error (comesTo_of_eq fun _ => descend_of_le hdeep)
  · rw [if_neg (mt Nat.sub_le_iff_le_add'.mp hdeep)]
    exact ComesTo.bind_ok (comesTo_of_eq fun _ => descend_of_lt (Nat.lt_of_not_le hdeep))
      (h rest hrest hlength)

theorem follows_accesses (h : ∀ limit, Follows tokens limit depth (·.expr) whole) (nested : Nat)
    (first : Expr) :
    Follows tokens limit depth (fun calls => calls.accesses nested first)
      (Expr.appliedFrom (nestingLimit - depth) (Call.argsParser whole) nested first) := by
  induction limit generalizing nested first with
  | zero => exact follows_zero _ _
  | succ limit ih =>
      refine Follows.called (d := fun calls => accesses (ended tokens) calls nested first) ?_
        fun _ => rfl
      rw [Expr.appliedFrom_eq]
      refine Follows.eat _ ((follows_name _).bind fun member => ?_) ?_
      · cases limit with
        | zero => exact follows_zero _ _
        | succ limit =>
            refine Follows.call h (fun values => ?_) ((ih _ _).deeper nested)
            cases first with
            | chain c => exact (ih _ _).mono (Nat.le_succ limit)
            | _ => exact ((ih _ _).mono (Nat.le_succ limit)).deeper nested
      · cases first with
        | «variable» name => exact Follows.call h (fun values => ih _ _) (follows_pure _)
        | _ => exact follows_pure _

theorem follows_applied (h : ∀ limit, Follows tokens limit depth (·.expr) whole)
    (hblock : ∀ limit, Follows tokens limit depth (·.block) body) :
    Follows tokens limit depth (·.applied) (do
      let first ← Expr.primaryParser whole body
      Expr.appliedParser (nestingLimit - depth) (Call.argsParser whole) first) := by
  refine Follows.called (d := applied) ?_ fun _ => rfl
  exact (follows_primary h hblock).bind fun first => follows_accesses h 0 first

theorem follows_operators {floor : Nat} (hconsumes : operand.Consumes)
    (h : ∀ limit (op : BinaryOp), floor < op.precedence →
      Follows tokens limit depth (fun calls => calls.binary op.precedence)
        (Expr.binaryParser (nestingLimit - depth) operand op.precedence))
    (nested : Nat) (lhs : Expr) :
    Follows tokens limit depth (fun calls => calls.operators floor nested lhs)
      (Expr.operatorsFrom (nestingLimit - depth) floor
        (fun op _ => Expr.binaryParser (nestingLimit - depth) operand op.precedence)
        nested lhs) := by
  induction limit generalizing nested lhs with
  | zero => exact follows_zero _ _
  | succ limit ih =>
      refine Follows.called (d := fun calls => operators (ended tokens) calls floor nested lhs) ?_
        fun _ => rfl
      rw [Expr.operatorsFrom_eq]
      refine follows_peek.bind fun next => ?_
      cases next.bind Token.binaryOp? with
      | none => exact follows_pure lhs
      | some op =>
          by_cases hfloor : op.precedence ≤ floor
          · simp only [if_pos hfloor, dif_neg (Nat.not_lt.mpr hfloor)]
            exact follows_pure lhs
          · simp only [if_neg hfloor, dif_pos (Nat.lt_of_not_le hfloor)]
            refine Follows.deeper (Follows.advance ?_) nested
            exact (h (limit + 1) op (Nat.lt_of_not_le hfloor)).bind_of_consumes
              (Expr.consumes_binaryParser _ hconsumes _) fun rhs => ih _ _

theorem follows_binary (hconsumes : operand.Consumes)
    (h : ∀ limit, Follows tokens limit depth (·.unary) operand) (limit floor : Nat) :
    Follows tokens limit depth (fun calls => calls.binary floor)
      (Expr.binaryParser (nestingLimit - depth) operand floor) := by
  refine Follows.called (d := fun calls => binary calls floor) ?_ fun _ => rfl
  rw [Expr.binaryParser]
  exact (h limit).bind fun lhs => follows_operators hconsumes
    (fun limit op _ => follows_binary hconsumes h limit op.precedence) 0 lhs
termination_by 9 - floor
decreasing_by
  have := op.precedence_le
  omega

theorem follows_ternary (hconsumes : operand.Consumes)
    (hoperand : ∀ limit, Follows tokens limit depth (·.unary) operand)
    (h : ∀ limit, Follows tokens limit depth (·.expr) whole) :
    Follows tokens limit depth (·.ternary)
      (Expr.conditionalParser (nestingLimit - depth) operand whole) := by
  refine Follows.called (d := ternary (ended tokens)) ?_ fun _ => rfl
  refine (follows_binary hconsumes hoperand limit 0).bind fun condition =>
    (follows_eat _).bind fun _ => .ite (fun _ => ?_) fun _ => follows_pure condition
  refine Follows.isNext_expect _ _ rfl
    ((h limit).bind fun no => follows_pure (Expr.elvis condition no)) fun next hnext => ?_
  split
  · exact (hnext rfl).elim
  · exact (h limit).bind fun yes => (follows_expect _ _).bind fun _ =>
      (h limit).bind fun no => follows_pure (Expr.ternary condition yes no)

/-!
# Statements

The words that start a statement are read before all others are looked at.
-/

theorem stmtParser_eq (expr : Parser Expr) (block : Parser (List Stmt)) :
    Stmt.parser expr block = (do
      if ← Parser.eat (.name "return") then
        if ← Parser.eat (.mark .semicolon) then pure .leave
        else
          let value ← expr
          Parser.expect (.mark .semicolon) .endOfReturn
          pure (.give value)
      else if ← Parser.eat (.name "if") then
        Parser.expect (.opening .round) .openingAfterIf
        let condition ← expr
        Parser.expect (.closing .round) .endOfCondition
        let yes ← block
        if ← Parser.eat (.name "else") then
          let no ← block
          pure (.choose condition yes no)
        else pure (.when condition yes)
      else
        match Stmt.target? (← Parser.peek) (← Parser.peekSecond) with
        | some target => do
            Parser.skip
            Parser.skip
            let value ← expr
            Parser.expect (.mark .semicolon) .endOfAssignment
            pure (.assign target value)
        | none => do
            let value ← expr
            Parser.expect (.mark .semicolon) .endOfExpression
            pure (.expr value)) := by
  refine Parser.ext fun tokens => ?_
  by_cases hreturn : tokens.head? = some (.name "return")
  · rcases List.head?_eq_some_iff.mp hreturn with ⟨rest, rfl⟩
    rw [Parser.run_bind_ok (Parser.run_eat _ rest)]
    rfl
  by_cases hif : tokens.head? = some (.name "if")
  · rcases List.head?_eq_some_iff.mp hif with ⟨rest, rfl⟩
    rw [Parser.run_bind_ok (Parser.run_eat_of_ne hreturn), if_neg Bool.false_ne_true,
      Parser.run_bind_ok (Parser.run_eat _ rest)]
    rfl
  rw [Parser.run_bind_ok (Parser.run_eat_of_ne hreturn), if_neg Bool.false_ne_true,
    Parser.run_bind_ok (Parser.run_eat_of_ne hif), if_neg Bool.false_ne_true, Stmt.parser,
    Parser.run_bind_ok (Parser.run_peek tokens), Parser.run_bind_ok (Parser.run_peekSecond tokens),
    Parser.run_bind_ok (Parser.run_peek tokens), Parser.run_bind_ok (Parser.run_peekSecond tokens)]
  split
  · rename_i hhead
    exact absurd hhead hreturn
  · rename_i hhead
    exact absurd hhead hif
  · rename_i target hhead hsecond
    rw [hhead, hsecond]
    rfl
  · rename_i hother
    have hnone : Stmt.target? tokens.head? tokens.tail.head? = none := by
      unfold Stmt.target?
      split
      · rename_i hhead hsecond
        exact (hother _ hhead hsecond).elim
      · rfl
    rw [hnone]

theorem follows_stmt (h : ∀ limit, Follows tokens limit depth (·.expr) whole)
    (hblock : ∀ limit, Follows tokens limit depth (·.block) body) :
    Follows tokens limit depth (·.stmt) (Stmt.parser whole body) := by
  have hended : ∀ (expected : Expectation) (build : Expr → Stmt),
      Follows tokens limit depth
        (fun calls => calls.expr >>= fun value =>
          expect (ended tokens) (.mark .semicolon) expected >>= fun _ => pure (build value))
        (whole >>= fun value =>
          Parser.expect (.mark .semicolon) expected >>= fun _ => pure (build value)) :=
    fun expected build => (h limit).bind fun value => (follows_expect _ _).bind fun _ =>
      follows_pure (build value)
  refine Follows.called (d := stmt (ended tokens)) ?_ fun _ => rfl
  rw [stmtParser_eq]
  refine (follows_eat _).bind fun _ => .ite (fun _ => ?_) fun _ =>
    (follows_eat _).bind fun _ => .ite (fun _ => ?_) fun _ => ?_
  · exact (follows_eat _).bind fun _ =>
      .ite (fun _ => follows_pure Stmt.leave) fun _ => hended .endOfReturn Stmt.give
  · exact (follows_expect _ _).bind fun _ => (h limit).bind fun condition =>
      (follows_expect _ _).bind fun _ => (hblock limit).bind fun yes =>
        (follows_eat _).bind fun _ =>
          .ite (fun _ => (hblock limit).bind fun no => follows_pure (Stmt.choose condition yes no))
            fun _ => follows_pure (Stmt.when condition yes)
  · refine follows_peek.bind fun next => follows_peekSecond.bind fun second => ?_
    cases Stmt.target? next second with
    | some target => exact (hended .endOfAssignment (Stmt.assign target)).advance.advance
    | none => exact hended .endOfExpression Stmt.expr

theorem follows_stmtList (h : ∀ limit, Follows tokens limit depth (·.expr) whole)
    (hblock : ∀ limit, Follows tokens limit depth (·.block) body) :
    Follows tokens limit depth (·.stmtList) (Stmt.allParser whole body) := by
  induction limit with
  | zero => exact follows_zero _ _
  | succ limit ih =>
      refine Follows.called (d := stmtList (ended tokens)) ?_ fun _ => rfl
      rw [Stmt.allParser_eq]
      exact (follows_pure []).isNext_ite _ <|
        (follows_stmt h hblock).bind_of_consumes (Stmt.consumes_statement whole body) fun first =>
          ih.bind fun others => follows_pure (first :: others)

end Level

/-!
# Levels
-/

variable (tokens depth) in
/-- At the depth the descent follows the readers of the level. -/
structure FollowsLevel (level : Level) : Prop where
  expr : ∀ limit, Follows tokens limit depth (·.expr) level.expr
  unary : ∀ limit, Follows tokens limit depth (·.unary) level.unary
  block : ∀ limit, Follows tokens limit depth (·.block) level.block

variable (tokens depth) in
/-- If there is room below the depth, the descent follows the readers one level in. -/
structure FollowsInside (inner : Option Level) : Prop where
  isSome_iff : inner.isSome ↔ depth < nestingLimit
  follows : ∀ level ∈ inner, FollowsLevel tokens (depth + 1) level
  consumes : ∀ level ∈ inner, level.Consumes

variable {inner : Option Level}

theorem FollowsInside.within (h : FollowsInside tokens depth inner) {read : Level → Parser α}
    {d : Calls → Descent α} {f : Calls → α → Descent β} {g : α → Parser β}
    (hd : ∀ level ∈ inner, Follows tokens limit (depth + 1) d (read level))
    (hf : ∀ a, Follows tokens limit depth (fun calls => f calls a) (g a)) :
    Follows tokens limit depth
      (fun calls => descend 0 >>= fun _ => d calls >>= fun a => ascend >>= fun _ => f calls a)
      (Level.within inner read >>= g) := by
  intro rest hrest hlength
  cases inner with
  | none =>
      have hdeep : nestingLimit ≤ depth :=
        Nat.le_of_not_lt fun hlt => Bool.false_ne_true (h.isSome_iff.mpr hlt)
      exact ComesTo.bind_error (comesTo_of_eq fun _ => descend_of_le hdeep)
  | some level =>
      have hcomes := hd level rfl rest hrest hlength
      refine ComesTo.bind_ok
        (comesTo_of_eq fun _ => descend_of_lt (h.isSome_iff.mp rfl)) ?_
      show ComesTo _ (fun calls => d calls >>= _) ⟨tokens.length - rest.length, depth + 1⟩
        (outcome tokens depth ((read level >>= g).run rest))
      rw [Parser.run_bind]
      cases hrun : (read level).run rest with
      | error stuck =>
          rw [hrun] at hcomes
          exact hcomes.bind_error
      | ok result =>
          rw [hrun] at hcomes
          refine hcomes.bind_ok (ComesTo.bind_ok (comesTo_of_eq fun _ => rfl) ?_)
          exact hf result.1 result.2 (((read level).suffix hrun).trans hrest)
            (Nat.lt_of_le_of_lt (Parser.length_le hrun) hlength)

theorem FollowsInside.around (h : FollowsInside tokens depth inner) :
    FollowsLevel tokens depth (Level.around (nestingLimit - depth) inner) := by
  have hexpr : ∀ limit, Follows tokens limit depth (·.expr)
      (Level.exprParser (nestingLimit - depth) inner) := by
    intro limit
    refine Follows.called (d := expr) ?_ fun _ => rfl
    rw [Level.exprParser, ← bind_pure (Level.within _ _)]
    refine h.within (fun level hlevel => ?_) follows_pure
    exact follows_ternary (h.consumes level hlevel).unary (h.follows level hlevel).unary
      (h.follows level hlevel).expr
  have hblock : ∀ limit, Follows tokens limit depth (·.block) (Level.blockParser inner) := by
    intro limit
    refine Follows.called (d := block (ended tokens)) ?_ fun _ => rfl
    refine (follows_expect _ _).bind fun _ => h.within (fun level hlevel => ?_) fun stmts =>
      (follows_expect _ _).bind fun _ => follows_pure stmts
    exact follows_stmtList (h.follows level hlevel).expr (h.follows level hlevel).block
  refine ⟨hexpr, fun limit => ?_, hblock⟩
  refine Follows.called (d := unary (ended tokens)) ?_ fun _ => rfl
  refine follows_peek.bind fun next => ?_
  cases next.bind Token.unaryOp? with
  | none => exact follows_applied hexpr hblock
  | some op =>
      exact (h.within (fun level hlevel => (h.follows level hlevel).unary limit) fun operand =>
        follows_pure (Expr.unary op operand)).advance

theorem followsLevel_withRoom (tokens : List Token) (depth : Nat) :
    FollowsLevel tokens depth (Level.withRoom (nestingLimit - depth)) := by
  induction hroom : nestingLimit - depth generalizing depth with
  | zero =>
      have hinside : FollowsInside tokens depth none := by
        refine ⟨iff_of_false Bool.false_ne_true (by omega), ?_, ?_⟩
        all_goals exact fun _ h => nomatch h
      have h := hinside.around
      rw [hroom] at h
      exact h
  | succ room ih =>
      have hinside : FollowsInside tokens depth (some (Level.withRoom room)) := by
        refine ⟨iff_of_true rfl (by omega), ?_, ?_⟩
        · rintro level ⟨⟩
          exact ih (depth + 1) (by omega)
        · rintro level ⟨⟩
          exact Level.consumes_withRoom room
      have h := hinside.around
      rw [hroom] at h
      exact h

/-!
# Fragments
-/

theorem follows_exprList :
    Follows tokens limit depth (·.exprList)
      (Fragment.itemsParser (Level.withRoom (nestingLimit - depth)).expr) := by
  induction limit with
  | zero => exact follows_zero _ _
  | succ limit ih =>
      refine Follows.called (d := exprList (ended tokens)) ?_ fun _ => rfl
      rw [Fragment.itemsParser_eq]
      refine ((followsLevel_withRoom tokens depth).expr (limit + 1)).bind fun first => ?_
      refine Follows.eat _ ?_ ((follows_eat _).bind fun _ => ?_)
      · exact (follows_pure ([first], Ending.comma)).isAtEnd <|
          ih.bind fun others => follows_pure (first :: others.1, others.2)
      · exact .ite (fun _ => follows_pure ([first], Ending.semicolon)) fun _ =>
          follows_pure ([first], Ending.none)

theorem follows_toEnd :
    Follows tokens limit depth (toEnd (ended tokens))
      (Fragment.toEndParser (Level.withRoom (nestingLimit - depth)).expr) :=
  follows_exprList.bind fun result =>
    (follows_pure (Fragment.mk result.1 result.2)).isAtEnd (follows_unexpected _)

end Follows

end Descent

end FluentStyle
