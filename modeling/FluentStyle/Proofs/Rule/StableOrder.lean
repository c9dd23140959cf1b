import Mathlib.Order.RelClasses

/-!
# Stable order

A list in the order of a key is known from its members with each key, in their order.  Sorting by
the key keeps them in theirs, so the sorted list is the only one in order that has the same members
with each key.
-/

namespace FluentStyle.StableOrder

variable {α κ : Type} (key : α → κ) (le : κ → κ → Prop)

section Sorting

variable [DecidableRel le]

theorem le_trans_key [IsTrans κ le] (a b c : α) (hab : decide (le (key a) (key b)) = true)
    (hbc : decide (le (key b) (key c)) = true) : decide (le (key a) (key c)) = true :=
  decide_eq_true (IsTrans.trans _ _ _ (of_decide_eq_true hab) (of_decide_eq_true hbc))

theorem le_total_key [Std.Total le] (a b : α) :
    (decide (le (key a) (key b)) || decide (le (key b) (key a))) = true := by
  simpa using Std.Total.total (r := le) (key a) (key b)

variable [Std.Total le] [IsTrans κ le]

theorem pairwise_mergeSort (xs : List α) :
    (xs.mergeSort fun a b => decide (le (key a) (key b))).Pairwise
      fun a b => le (key a) (key b) := by
  have hsorted := List.pairwise_mergeSort (le_trans_key key le) (le_total_key key le) xs
  exact hsorted.imp fun h => of_decide_eq_true h

theorem filter_mergeSort {keep : α → Bool} {k : κ} (hkey : ∀ a, keep a = true → key a = k)
    (xs : List α) :
    (xs.mergeSort fun a b => decide (le (key a) (key b))).filter keep = xs.filter keep := by
  have hequal : (xs.filter keep).Pairwise fun a b => decide (le (key a) (key b)) = true := by
    apply List.pairwise_of_forall_mem_list
    intro a ha b hb
    rw [hkey a (List.mem_filter.mp ha).2, hkey b (List.mem_filter.mp hb).2]
    exact decide_eq_true ((Std.Total.total (r := le) k k).elim id id)
  -- They stand in order before, so the sorted list has them in that order among others.
  have hsorted := List.sublist_mergeSort (le_trans_key key le) (le_total_key key le) hequal
    (List.filter_sublist (l := xs))
  have hsublist := hsorted.filter keep
  rw [List.filter_filter] at hsublist
  simp only [Bool.and_self] at hsublist
  have hperm := (List.mergeSort_perm xs fun a b => decide (le (key a) (key b))).filter keep
  exact (hsublist.eq_of_length hperm.length_eq.symm).symm

end Sorting

section Uniqueness

variable {key le} [DecidableEq κ]

theorem filter_cons_of_key {k : κ} {x : α} {xs : List α} (h : key x = k) :
    (x :: xs).filter (key · = k) = x :: xs.filter (key · = k) :=
  List.filter_cons_of_pos (decide_eq_true h)

theorem head_le [Std.Total le] {x y : α} {xs ys : List α}
    (hys : (y :: ys).Pairwise fun a b => le (key a) (key b))
    (h : (x :: xs).filter (key · = key x) = (y :: ys).filter (key · = key x)) :
    le (key y) (key x) := by
  have hmem : x ∈ (y :: ys).filter (key · = key x) := by
    rw [← h]
    exact List.mem_filter.mpr ⟨List.mem_cons_self, decide_eq_true rfl⟩
  rcases List.mem_cons.mp (List.mem_filter.mp hmem).1 with rfl | hlater
  · exact (Std.Total.total (r := le) (key x) (key x)).elim id id
  · exact List.rel_of_pairwise_cons hys hlater

variable (key le) in
/-- A list in order is known from its members with each key. -/
theorem eq_of_pairwise [Std.Total le] [Std.Antisymm le] {xs ys : List α}
    (hxs : xs.Pairwise fun a b => le (key a) (key b))
    (hys : ys.Pairwise fun a b => le (key a) (key b))
    (h : ∀ k : κ, xs.filter (key · = k) = ys.filter (key · = k)) : xs = ys := by
  induction xs generalizing ys with
  | nil =>
      cases ys with
      | nil => rfl
      | cons y ys =>
          have hy := h (key y)
          rw [filter_cons_of_key rfl] at hy
          cases hy
  | cons x xs ih =>
      cases ys with
      | nil =>
          have hx := h (key x)
          rw [filter_cons_of_key rfl] at hx
          cases hx
      | cons y ys =>
          have hkey : key x = key y :=
            Std.Antisymm.antisymm (r := le) _ _ (head_le hxs (h (key y)).symm)
              (head_le hys (h (key x)))
          have hhead := h (key x)
          rw [filter_cons_of_key rfl, filter_cons_of_key hkey.symm] at hhead
          injection hhead with hxy _
          subst hxy
          have hrest : ∀ k : κ, xs.filter (key · = k) = ys.filter (key · = k) := by
            intro k
            have hboth := h k
            rw [List.filter_cons, List.filter_cons] at hboth
            split at hboth
            · exact (List.cons_inj_right x).mp hboth
            · exact hboth
          rw [ih hxs.of_cons hys.of_cons hrest]

end Uniqueness

end FluentStyle.StableOrder
