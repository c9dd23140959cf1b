import FluentStyle.SyntaxError

/-!
# Readers of token lists

A `Parser` reads a value from the front of a list of tokens.  What it leaves is a suffix of what it
was given; this is part of the type, so that loops over parsers end because the list gets shorter.
A failure says how many tokens were left where reading got stuck, and nothing depends on the
positions of tokens in the source.
-/

namespace FluentStyle

/-- Why reading stopped, and how many tokens were left there. -/
structure Stuck where
  left : Nat
  reason : Reason
deriving DecidableEq, Repr

/-- A reader of a value from the front of a list of tokens. -/
structure Parser (α : Type) where
  run : List Token → Except Stuck (α × List Token)
  /-- What is left is a suffix of what was given. -/
  suffix : ∀ {tokens : List Token} {a : α} {rest : List Token},
    run tokens = .ok (a, rest) → rest <:+ tokens

namespace Parser

theorem ext {p q : Parser α} (h : ∀ tokens, p.run tokens = q.run tokens) : p = q := by
  cases p
  cases q
  congr
  exact funext h

theorem length_le {p : Parser α} {tokens rest : List Token} {a : α}
    (h : p.run tokens = .ok (a, rest)) : rest.length ≤ tokens.length :=
  (p.suffix h).length_le

instance : Monad Parser where
  pure a :=
    { run := fun tokens => .ok (a, tokens)
      suffix := by
        intro tokens b rest h
        cases h
        exact List.suffix_refl _ }
  bind p f :=
    { run := fun tokens =>
        match p.run tokens with
        | .error stuck => .error stuck
        | .ok (a, rest) => (f a).run rest
      suffix := by
        intro tokens b rest h
        split at h
        · cases h
        · rename_i hp
          exact ((f _).suffix h).trans (p.suffix hp) }

@[simp] theorem run_pure (a : α) (tokens : List Token) :
    (pure a : Parser α).run tokens = .ok (a, tokens) := rfl

theorem run_bind (p : Parser α) (f : α → Parser β) (tokens : List Token) :
    (p >>= f).run tokens =
      match p.run tokens with
      | .error stuck => .error stuck
      | .ok (a, rest) => (f a).run rest := rfl

/-!
# Single tokens

A reader looks at the next two tokens and steps over the next one.  One that wants a certain token,
a name or a variable gets stuck at any other.
-/

def failAt (reason : Option Token → Reason) : Parser α where
  run tokens := .error ⟨tokens.length, reason tokens.head?⟩
  suffix h := by cases h

def fail (reason : Reason) : Parser α :=
  failAt fun _ => reason

def peek : Parser (Option Token) where
  run tokens := .ok (tokens.head?, tokens)
  suffix h := by cases h; exact List.suffix_refl _

def peekSecond : Parser (Option Token) where
  run tokens := .ok (tokens.tail.head?, tokens)
  suffix h := by cases h; exact List.suffix_refl _

def skip : Parser Unit where
  run tokens := .ok ((), tokens.tail)
  suffix h := by cases h; exact List.tail_suffix _

def eat (token : Token) : Parser Bool where
  run
    | [] => .ok (false, [])
    | next :: rest => if next = token then .ok (true, rest) else .ok (false, next :: rest)
  suffix {tokens} := by
    intro a rest h
    split at h
    · cases h
      exact List.suffix_refl _
    · split at h <;> cases h
      · exact List.suffix_cons _ _
      · exact List.suffix_refl _

def expect (token : Token) (expected : Expectation) : Parser Unit := do
  if ← eat token then pure () else failAt (.missing expected)

def name (expected : Expectation) : Parser String := do
  match ← peek with
  | some (.name text) => do
      skip
      pure text
  | _ => failAt (.missing expected)

def variableName (expected : Expectation) : Parser String := do
  match ← peek with
  | some (.variable text) => do
      skip
      pure text
  | _ => failAt (.missing expected)

/-!
# Lists
-/

/-- Items with commas between them up to a closing token, which stays; a comma may follow the last
item. -/
def runList (close : Token) (item : Parser α) (tokens : List Token) :
    Except Stuck (List α × List Token) :=
  if tokens.head? = some close then .ok ([], tokens)
  else
    match _reading : item.run tokens with
    | .error stuck => .error stuck
    | .ok (a, .mark .comma :: rest) =>
        match runList close item rest with
        | .error stuck => .error stuck
        | .ok (items, after) => .ok (a :: items, after)
    | .ok (a, rest) => .ok ([a], rest)
termination_by tokens.length
decreasing_by
  have := length_le _reading
  simp only [List.length_cons] at this
  omega

theorem suffix_of_runList {close : Token} {item : Parser α} {tokens : List Token} {items : List α}
    {rest : List Token} (h : runList close item tokens = .ok (items, rest)) : rest <:+ tokens := by
  fun_induction runList close item tokens generalizing items rest with
  | case1 => cases h; exact List.suffix_refl _
  | case2 => cases h
  | case3 => cases h
  | case4 tokens _ a rest' hreading items' after hafter ih =>
      cases h
      exact (ih hafter).trans ((List.suffix_cons _ _).trans (item.suffix hreading))
  | case5 tokens _ a rest' hcomma hreading =>
      cases h
      exact item.suffix hreading

/-- Items with commas between them up to a closing token, which stays; a comma may follow the last
item. -/
def list (close : Token) (item : Parser α) : Parser (List α) where
  run := runList close item
  suffix := suffix_of_runList

/-!
# Readers that always read something
-/

/-- A reader that never succeeds without reading a token. -/
def Consumes (p : Parser α) : Prop :=
  ∀ {tokens a rest}, p.run tokens = .ok (a, rest) → rest.length < tokens.length

theorem consumes_failAt (reason : Option Token → Reason) :
    (failAt reason : Parser α).Consumes := by
  intro tokens a rest h
  cases h

theorem consumes_bind_left {p : Parser α} {f : α → Parser β} (h : p.Consumes) :
    (p >>= f).Consumes := by
  intro tokens b rest hrun
  rw [run_bind] at hrun
  split at hrun
  · cases hrun
  · rename_i hp
    exact Nat.lt_of_le_of_lt (length_le hrun) (h hp)

theorem consumes_bind_right {p : Parser α} {f : α → Parser β} (h : ∀ a, (f a).Consumes) :
    (p >>= f).Consumes := by
  intro tokens b rest hrun
  rw [run_bind] at hrun
  split at hrun
  · cases hrun
  · rename_i hp
    exact Nat.lt_of_lt_of_le (h _ hrun) (length_le hp)

theorem consumes_eat {token : Token} {yes no : Parser α} (h : no.Consumes) :
    (eat token >>= fun found => if found then yes else no).Consumes := by
  intro tokens a rest hrun
  rw [run_bind] at hrun
  cases tokens with
  | nil => exact h hrun
  | cons next after =>
      by_cases hnext : next = token
      · simp only [eat, hnext, if_true] at hrun
        exact Nat.lt_succ_of_le (length_le hrun)
      · simp only [eat, hnext, if_false] at hrun
        exact h hrun

theorem consumes_expect (token : Token) (expected : Expectation) :
    (expect token expected).Consumes :=
  consumes_eat (consumes_failAt _)

end Parser

end FluentStyle
