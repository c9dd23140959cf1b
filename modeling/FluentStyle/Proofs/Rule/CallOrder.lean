import FluentStyle.Proofs.Rule.StableOrder
import FluentStyle.Proofs.Tree.Frame
import FluentStyle.Rule.CallOrder

/-!
# Ranked calls

Calls are ranked if those that are not exempt stand in the order of their categories.  Putting calls
into order is a permutation of them, ranks them, and leaves ranked calls as they are.  Whether calls
are ranked depends on their names only.
-/

namespace FluentStyle

namespace Conventions

variable {style : Conventions}

def moved (style : Conventions) (calls : List Call) : List Call :=
  calls.filter fun call => !style.isExempt call.name

/-- The calls that do not keep their place stand in the order of their categories. -/
def IsRanked (style : Conventions) (calls : List Call) : Prop :=
  (style.moved calls).Pairwise fun a b => decide (style.callRank a ≤ style.callRank b) = true

instance (style : Conventions) (calls : List Call) : Decidable (style.IsRanked calls) :=
  inferInstanceAs (Decidable (List.Pairwise _ _))

theorem moved_cons_of_exempt {call : Call} {calls : List Call}
    (h : style.isExempt call.name = true) : style.moved (call :: calls) = style.moved calls := by
  unfold moved
  rw [List.filter_cons, h]
  rfl

theorem moved_cons_of_not_exempt {call : Call} {calls : List Call}
    (h : ¬ style.isExempt call.name = true) :
    style.moved (call :: calls) = call :: style.moved calls := by
  unfold moved
  rw [List.filter_cons, if_pos]
  simpa using h

theorem not_exempt_of_mem_moved {call : Call} {calls : List Call} (h : call ∈ style.moved calls) :
    ¬ style.isExempt call.name = true := by
  have hexempt := (List.mem_filter.mp h).2
  intro htrue
  rw [htrue] at hexempt
  cases hexempt

/-!
# Placing
-/

theorem place_cons_of_exempt {call : Call} {calls ranked : List Call}
    (h : style.isExempt call.name = true) :
    style.place (call :: calls) ranked = call :: style.place calls ranked := by
  cases ranked <;> simp only [place, if_pos h]

theorem place_cons_of_not_exempt {call next : Call} {calls others : List Call}
    (h : ¬ style.isExempt call.name = true) :
    style.place (call :: calls) (next :: others) = next :: style.place calls others := by
  simp only [place, if_neg h]

theorem place_perm {calls ranked : List Call} (h : ranked.Perm (style.moved calls)) :
    (style.place calls ranked).Perm calls := by
  have hplace : ∀ {calls ranked : List Call}, ranked.length = (style.moved calls).length →
      (style.place calls ranked).Perm
        (calls.filter (fun call => style.isExempt call.name) ++ ranked) := by
    intro calls
    induction calls with
    | nil =>
        intro ranked hlength
        rw [List.length_eq_zero_iff.mp hlength]
        exact List.Perm.refl _
    | cons call calls ih =>
        intro ranked hlength
        by_cases hexempt : style.isExempt call.name = true
        · rw [moved_cons_of_exempt hexempt] at hlength
          rw [place_cons_of_exempt hexempt, List.filter_cons, if_pos hexempt]
          exact (ih hlength).cons call
        · rw [moved_cons_of_not_exempt hexempt] at hlength
          cases ranked with
          | nil => simp at hlength
          | cons next others =>
              rw [place_cons_of_not_exempt hexempt, List.filter_cons, if_neg hexempt]
              have hrest := (ih (Nat.succ.inj hlength)).cons next
              exact hrest.trans List.perm_middle.symm
  have hsplit := List.filter_append_perm (fun call : Call => style.isExempt call.name) calls
  exact ((hplace h.length_eq).trans (h.append_left _)).trans hsplit

theorem moved_place {calls ranked : List Call}
    (hlength : ranked.length = (style.moved calls).length)
    (hranked : ∀ call ∈ ranked, ¬ style.isExempt call.name = true) :
    style.moved (style.place calls ranked) = ranked := by
  induction calls generalizing ranked with
  | nil =>
      rw [List.length_eq_zero_iff.mp hlength]
      rfl
  | cons call calls ih =>
      by_cases hexempt : style.isExempt call.name = true
      · rw [moved_cons_of_exempt hexempt] at hlength
        rw [place_cons_of_exempt hexempt, moved_cons_of_exempt hexempt]
        exact ih hlength hranked
      · rw [moved_cons_of_not_exempt hexempt] at hlength
        cases ranked with
        | nil => simp at hlength
        | cons next others =>
            rcases List.forall_mem_cons.mp hranked with ⟨hnext, hothers⟩
            rw [place_cons_of_not_exempt hexempt, moved_cons_of_not_exempt hnext,
              ih (Nat.succ.inj hlength) hothers]

theorem place_moved (calls : List Call) : style.place calls (style.moved calls) = calls := by
  induction calls with
  | nil => rfl
  | cons call calls ih =>
      by_cases hexempt : style.isExempt call.name = true
      · rw [moved_cons_of_exempt hexempt, place_cons_of_exempt hexempt, ih]
      · rw [moved_cons_of_not_exempt hexempt, place_cons_of_not_exempt hexempt, ih]

/-!
# Ordering
-/

theorem ranked_perm (calls : List Call) : (style.ranked calls).Perm (style.moved calls) :=
  List.mergeSort_perm _ _

theorem ordered_perm (style : Conventions) (calls : List Call) : (style.ordered calls).Perm calls :=
  place_perm (ranked_perm calls)

theorem isRanked_ordered (calls : List Call) : style.IsRanked (style.ordered calls) := by
  unfold IsRanked ordered
  rw [moved_place (ranked_perm calls).length_eq]
  · exact (StableOrder.pairwise_mergeSort style.callRank (· ≤ ·) _).imp decide_eq_true
  · intro call hcall
    exact not_exempt_of_mem_moved ((ranked_perm calls).mem_iff.mp hcall)

/-- Ranked calls are in order already. -/
theorem ordered_of_isRanked {calls : List Call} (h : style.IsRanked calls) :
    style.ordered calls = calls := by
  have hsorted : style.ranked calls = style.moved calls := List.mergeSort_of_pairwise h
  unfold ordered
  rw [hsorted]
  exact place_moved calls

theorem isRanked_map_frame {calls : List Call} :
    style.IsRanked (calls.map Call.frame) ↔ style.IsRanked calls := by
  unfold IsRanked moved
  rw [List.filter_map, List.pairwise_map]
  exact Iff.rfl

end Conventions

namespace Chain

variable {style : Conventions}

/-!
# Reordered chains

Reordering ranks the calls of a declaration whose calls were not ranked.  Other calls after the
first, in another order, leave the children in another order.
-/

theorem children_perm_of_rest {chain : Chain} {rest : List Call} (h : rest.Perm chain.rest) :
    (Expr.chain { chain with rest }).children.Perm (Expr.chain chain).children := by
  rcases chain with ⟨root, first, calls⟩
  have hargs := (h.flatMap_right (·.args)).append_left first.args
  cases root with
  | receiver object => exact hargs.cons object
  | _ => exact hargs

theorem reordered?_eq_some {chain changed : Chain} (h : chain.reordered? style = some changed) :
    style.isDeclaration chain = true ∧ ¬ style.IsRanked chain.rest ∧
      changed = { chain with rest := style.ordered chain.rest } := by
  unfold reordered? at h
  by_cases hdeclaration : style.isDeclaration chain = true
  · rw [if_pos hdeclaration] at h
    simp only at h
    by_cases hsame : style.ordered chain.rest = chain.rest
    · rw [if_pos hsame] at h
      cases h
    · rw [if_neg hsame] at h
      refine ⟨hdeclaration, ?_, (Option.some.inj h).symm⟩
      intro hranked
      exact hsame (Conventions.ordered_of_isRanked hranked)
  · rw [if_neg hdeclaration] at h
    cases h

/-- Reordering leaves alone just the chains that are no declarations or have ranked calls. -/
theorem reordered?_eq_none_iff {chain : Chain} :
    chain.reordered? style = none ↔
      (style.isDeclaration chain = true → style.IsRanked chain.rest) := by
  unfold reordered?
  by_cases hdeclaration : style.isDeclaration chain = true
  · rw [if_pos hdeclaration]
    simp only [hdeclaration, forall_const]
    by_cases hranked : style.IsRanked chain.rest
    · rw [if_pos (Conventions.ordered_of_isRanked hranked)]
      exact ⟨fun _ => hranked, fun _ => rfl⟩
    · have hchanged : style.ordered chain.rest ≠ chain.rest := by
        intro hsame
        apply hranked
        rw [← hsame]
        exact Conventions.isRanked_ordered chain.rest
      rw [if_neg hchanged]
      constructor
      · intro h
        cases h
      · intro h
        exact absurd h hranked
  · rw [if_neg hdeclaration]
    exact ⟨fun _ h => absurd h hdeclaration, fun _ => rfl⟩

end Chain

end FluentStyle
