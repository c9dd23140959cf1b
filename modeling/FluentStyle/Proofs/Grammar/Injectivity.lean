import FluentStyle.Effect
import FluentStyle.Proofs.Grammar.Rendering

/-!
# Readable trees are known from their texts

Two readable expressions with the same text have the same tokens, and a reader with room enough
makes both of them from these.  So what stands in the arguments of a call with readable arguments is
known from the effect of the call.
-/

namespace FluentStyle

theorem Piece.textAll_append (before after : List Piece) :
    textAll (before ++ after) = textAll before ++ textAll after := by
  unfold textAll
  rw [List.map_append, String.join_append]

namespace Expr

theorem tokenize_render {expr : Expr} (h : expr.Readable) :
    ∃ lexemes : List Lexeme, Lexeme.tokenize expr.render = .ok lexemes ∧
      lexemes.map (·.token) = expr.tokens 0 := by
  have clear : Piece.Clear (expr.pieces 0) := by
    have hlays := lays h 0 [] True.intro Piece.delimited_nil
    rw [List.append_nil] at hlays
    exact hlays
  exact Lexeme.tokenize_textAll clear (expr.even 0)

/-- Readable expressions with the same text are the same. -/
theorem eq_of_render_eq {a b : Expr} (ha : a.Readable) (hb : b.Readable)
    (h : a.render = b.render) : a = b := by
  have htokens : a.tokens 0 = b.tokens 0 := by
    rcases tokenize_render ha with ⟨lexemes, hcut, hlexemes⟩
    rcases tokenize_render hb with ⟨lexemes', hcut', hlexemes'⟩
    rw [h, hcut'] at hcut
    rw [← hlexemes, ← hlexemes', Except.ok.inj hcut]
  -- The two may need different room, and a reader with room for both makes both.
  have hread : ∀ {expr : Expr}, expr.Readable → ∀ room : Nat, expr.nesting < room →
      (Level.withRoom room).expr.run (expr.tokens 0 ++ []) = .ok (expr, []) := by
    intro expr hexpr room hroom
    exact (readsBack hexpr).whole hroom rfl
  have hreadA := hread ha (max a.nesting b.nesting + 1)
    (Nat.lt_succ_of_le (Nat.le_max_left _ _))
  have hreadB := hread hb (max a.nesting b.nesting + 1)
    (Nat.lt_succ_of_le (Nat.le_max_right _ _))
  rw [htokens, hreadB] at hreadA
  exact (Prod.mk.inj (Except.ok.inj hreadA)).1.symm

end Expr

namespace Call

def alone (args : List Expr) : Expr :=
  .chain ⟨.function, ⟨"f", args⟩, []⟩

theorem readable_alone {args : List Expr} (h : ∀ arg ∈ args, arg.Readable) :
    (alone args).Readable := by
  have hspelled : (alone args).isSpelled = true := by
    show (((Token.variable "f").isSpelled || Expr.isHead "f") && true) = true
    rfl
  refine Expr.readable_iff.mpr ⟨⟨hspelled, True.intro, True.intro⟩, ?_⟩
  intro child hchild
  apply h child
  have hchildren : (alone args).children = args := List.append_nil args
  rw [← hchildren]
  exact hchild

theorem render_alone (args : List Expr) : (alone args).render = "f(" ++ argText args ++ ")" := by
  have hpieces : (alone args).pieces 0 =
      [.token (.name "f"), .token (.opening .round)] ++ Expr.inline 0 true args ++
        [.token (.closing .round)] := by
    rw [alone, Expr.pieces, Call.pieces]
    rfl
  rw [Expr.render, hpieces, Piece.textAll_append, Piece.textAll_append]
  rfl

theorem eq_of_argText_eq {as bs : List Expr} (has : ∀ arg ∈ as, arg.Readable)
    (hbs : ∀ arg ∈ bs, arg.Readable) (h : argText as = argText bs) : as = bs := by
  have halone : alone as = alone bs := by
    apply Expr.eq_of_render_eq (readable_alone has) (readable_alone hbs)
    rw [render_alone, render_alone, h]
  cases halone
  rfl

/-- Calls with readable arguments and the same effect are the same. -/
theorem eq_of_ofCall_eq {a b : Call} (ha : ∀ arg ∈ a.args, arg.Readable)
    (hb : ∀ arg ∈ b.args, arg.Readable) (h : Effect.ofCall a = Effect.ofCall b) : a = b := by
  rcases a with ⟨name, args⟩
  rcases b with ⟨name', args'⟩
  rcases Effect.mk.inj h with ⟨hname, htext⟩
  obtain rfl : name = name' := hname
  obtain rfl : args = args' := eq_of_argText_eq ha hb htext
  rfl

end Call

end FluentStyle
