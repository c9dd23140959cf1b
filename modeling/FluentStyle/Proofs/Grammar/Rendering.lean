import FluentStyle.Proofs.Grammar.Balance
import FluentStyle.Proofs.Grammar.Completeness
import FluentStyle.Grammar.Source

/-!
# Readable fragments are what their texts are read into

The pieces of a readable fragment are clear and balanced, so its text is cut into its tokens, and
these are read back item by item.
-/

namespace FluentStyle

namespace Fragment

/-!
# Cutting
-/

theorem delimited_ending (ending : Ending) : Piece.Delimited ending.pieces := by
  cases ending with
  | none => exact Piece.delimited_nil
  | comma => exact Piece.delimited_cons rfl
  | semicolon => exact Piece.delimited_cons rfl

theorem clear_ending (ending : Ending) : Piece.Clear ending.pieces := by
  cases ending with
  | none => exact True.intro
  | comma => exact Piece.clear_mark rfl True.intro
  | semicolon => exact Piece.clear_mark rfl True.intro

theorem clear_itemPieces {items : List Expr} (h : ∀ item ∈ items, item.Readable) {rest : List Piece}
    (clear : Piece.Clear rest) (delimited : Piece.Delimited rest) :
    Piece.Clear (itemPieces items ++ rest) := by
  fun_induction itemPieces items with
  | case1 => exact clear
  | case2 item => exact Expr.lays (h item List.mem_cons_self) 0 rest clear delimited
  | case3 item items _ ih =>
      rcases List.forall_mem_cons.mp h with ⟨hitem, hitems⟩
      rw [List.append_assoc]
      refine Expr.lays hitem 0 _ ?_ (Piece.delimited_cons rfl)
      exact Piece.clear_mark rfl (ih hitems)

theorem even_itemPieces (items : List Expr) : Piece.Even (itemPieces items) := by
  fun_induction itemPieces items with
  | case1 => exact Piece.even_nil
  | case2 item => exact item.even 0
  | case3 item items _ ih => exact (item.even 0).append ((ih.line 0).cons_mark .comma)

theorem even_ending (ending : Ending) : Piece.Even ending.pieces := by
  cases ending <;> first | exact Piece.even_nil | exact Piece.even_nil.cons_mark _

theorem pieces_of_ne_nil {fragment : Fragment} (h : fragment.items ≠ []) :
    fragment.pieces = itemPieces fragment.items ++ fragment.ending.pieces := by
  unfold pieces
  rw [if_neg]
  rw [List.isEmpty_iff]
  exact h

/-!
# Reading
-/

section Items

variable {expr : Parser Expr} {item : Expr} {tokens : List Token}

theorem runItems_last {ending : Ending}
    (h : expr.run tokens = .ok (item, Piece.tokens ending.pieces)) :
    runItems expr tokens = .ok (([item], ending), []) := by
  rw [runItems]
  split
  · rename_i stuck hrun
    rw [h] at hrun
    cases hrun
  · rename_i item' hrun
    rw [h] at hrun
    cases ending <;> cases hrun
    rfl
  · rename_i item' rest hrest hrun
    rw [h] at hrun
    cases ending <;> cases hrun
    exact absurd rfl hrest
  · rename_i item' rest hrun
    rw [h] at hrun
    cases ending <;> cases hrun
    rfl
  · rename_i item' rest hcomma hothers hsemicolon hrun
    rw [h] at hrun
    cases ending with
    | none =>
        cases hrun
        rfl
    | comma =>
        cases hrun
        exact absurd rfl hcomma
    | semicolon =>
        cases hrun
        exact absurd rfl (hsemicolon [])

theorem runItems_cons {items : List Expr} {ending : Ending} {after rest : List Token}
    (h : expr.run tokens = .ok (item, .mark .comma :: after)) (hafter : after ≠ [])
    (hitems : runItems expr after = .ok ((items, ending), rest)) :
    runItems expr tokens = .ok ((item :: items, ending), rest) := by
  rw [runItems]
  split
  · rename_i stuck hrun
    rw [h] at hrun
    cases hrun
  · rename_i item' hrun
    rw [h] at hrun
    cases hrun
    exact absurd rfl hafter
  · rename_i item' rest' hrest hrun
    rw [h] at hrun
    cases hrun
    rw [hitems]
  · rename_i item' rest' hrun
    rw [h] at hrun
    cases hrun
  · rename_i item' rest' hcomma hothers hsemicolon hrun
    rw [h] at hrun
    cases hrun
    exact absurd rfl (hothers after)

end Items

theorem tokens_itemPieces_ne_nil {items : List Expr} (h : items ≠ []) (rest : List Token) :
    Piece.tokens (itemPieces items) ++ rest ≠ [] := by
  intro hnil
  cases items with
  | nil => exact h rfl
  | cons item items =>
      obtain ⟨after, hpieces⟩ : ∃ after : List Piece,
          itemPieces (item :: items) = item.pieces 0 ++ after := by
        cases items with
        | nil => exact ⟨[], (List.append_nil _).symm⟩
        | cons next items => exact ⟨_, rfl⟩
      have hhead := item.head_tokens 0 (Piece.tokens after ++ rest)
      rw [hpieces, Piece.tokens_append, List.append_assoc] at hnil
      rw [Expr.tokens, hnil] at hhead
      cases hhead

theorem gripOf_ending (ending : Ending) : Token.gripOf (Piece.tokens ending.pieces) = 0 := by
  cases ending <;> rfl

theorem runItems_itemPieces {items : List Expr} (hitems : items ≠ [])
    (h : ∀ item ∈ items, item.Readable) {room : Nat} (hroom : ∀ item ∈ items, item.nesting < room)
    (ending : Ending) :
    runItems (Level.withRoom room).expr
      (Piece.tokens (itemPieces items) ++ Piece.tokens ending.pieces) =
        .ok ((items, ending), []) := by
  fun_induction itemPieces items with
  | case1 => exact absurd rfl hitems
  | case2 item =>
      have hback := Expr.readsBack (h item List.mem_cons_self)
      exact runItems_last (hback.whole (hroom item List.mem_cons_self) (gripOf_ending ending))
  | case3 item items hne ih =>
      rcases List.forall_mem_cons.mp h with ⟨hitem, hothers⟩
      rcases List.forall_mem_cons.mp hroom with ⟨hitemRoom, hotherRoom⟩
      rw [Piece.tokens_append, Piece.tokens_cons_mark, Piece.tokens_cons_line, List.append_assoc]
      exact runItems_cons ((Expr.readsBack hitem).whole hitemRoom rfl)
        (tokens_itemPieces_ne_nil hne _) (ih hne hothers hotherRoom)

theorem ofTokens_pieces {fragment : Fragment} (h : fragment.Readable) :
    ofTokens (Piece.tokens fragment.pieces) = .ok fragment := by
  unfold ofTokens
  rw [pieces_of_ne_nil h.nonempty, Piece.tokens_append,
    runItems_itemPieces h.nonempty h.readable h.nesting]

/-- The text of a readable fragment is read into the fragment. -/
theorem parse_render {fragment : Fragment} (h : fragment.Readable) :
    parse fragment.render = .ok fragment := by
  have hpieces := pieces_of_ne_nil h.nonempty
  have clear : Piece.Clear fragment.pieces := by
    rw [hpieces]
    exact clear_itemPieces h.readable (clear_ending _) (delimited_ending _)
  have even : Piece.Even fragment.pieces := by
    rw [hpieces]
    exact (even_itemPieces _).append (even_ending _)
  rcases Lexeme.tokenize_textAll clear even with ⟨lexemes, hlexemes, htokens⟩
  unfold parse render
  rw [hlexemes]
  cases lexemes with
  | nil =>
      rw [hpieces, Piece.tokens_append] at htokens
      exact absurd htokens.symm (tokens_itemPieces_ne_nil h.nonempty _)
  | cons lexeme lexemes =>
      simp only [htokens, ofTokens_pieces h]

end Fragment

end FluentStyle
