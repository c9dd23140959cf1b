import FluentStyle.Text.Distinct
import Mathlib.Data.List.Perm.Basic

/-!
# Sets of texts

A set of texts is shown as the list of its members in order, so it does not depend on the order in
which they were found, or how often.
-/

namespace FluentStyle

namespace Text

theorem eraseReps_cons_cons (a b : String) (rest : List String) :
    (a :: b :: rest).eraseReps =
      if a = b then (b :: rest).eraseReps else a :: (b :: rest).eraseReps := by
  have hloop : ∀ (rest : List String) (a : String) (acc : List String),
      List.eraseRepsBy.loop (fun x y => x == y) a rest acc =
        acc.reverse ++ List.eraseRepsBy.loop (fun x y => x == y) a rest [] := by
    intro rest
    induction rest with
    | nil =>
        intro a acc
        simp [List.eraseRepsBy.loop]
    | cons b rest ih =>
        intro a acc
        simp only [List.eraseRepsBy.loop]
        split
        · exact ih a acc
        · rw [ih b (a :: acc), ih b [a]]
          simp
  show List.eraseRepsBy.loop (fun x y => x == y) a (b :: rest) [] = _
  rw [List.eraseRepsBy.loop]
  by_cases h : a = b
  · subst h
    simp only [beq_self_eq_true, if_true]
    rfl
  · have hne : (a == b) = false := beq_eq_false_iff_ne.mpr h
    rw [if_neg h]
    simp only [hne]
    rw [hloop]
    rfl

theorem mem_eraseReps {texts : List String} {text : String} :
    text ∈ texts.eraseReps ↔ text ∈ texts := by
  induction texts with
  | nil => exact Iff.rfl
  | cons a rest ih =>
      cases rest with
      | nil => exact Iff.rfl
      | cons b rest =>
          rw [eraseReps_cons_cons]
          split
          · rename_i heq
            rw [ih, heq]
            simp only [List.mem_cons, or_self_left]
          · rw [List.mem_cons, ih, ← List.mem_cons]

theorem pairwise_eraseReps {texts : List String} (h : texts.Pairwise (· ≤ ·)) :
    texts.eraseReps.Pairwise fun a b => a ≤ b ∧ a ≠ b := by
  induction texts with
  | nil => exact List.Pairwise.nil
  | cons a rest ih =>
      cases rest with
      | nil => exact List.pairwise_singleton _ a
      | cons b rest =>
          rcases List.pairwise_cons.mp h with ⟨hfirst, hrest⟩
          rw [eraseReps_cons_cons]
          split
          · exact ih hrest
          · rename_i hne
            refine List.pairwise_cons.mpr ⟨?_, ih hrest⟩
            intro text htext
            have hmem := mem_eraseReps.mp htext
            refine ⟨hfirst text hmem, ?_⟩
            rintro rfl
            rcases List.mem_cons.mp hmem with heq | hlater
            · exact hne heq
            · have hle := List.rel_of_pairwise_cons hrest hlater
              exact hne (String.le_antisymm (hfirst b List.mem_cons_self) hle)

theorem distinct_nil : distinct [] = [] := by
  rw [distinct, List.mergeSort_nil]
  rfl

theorem distinct_congr {xs ys : List String} (h : ∀ text : String, text ∈ xs ↔ text ∈ ys) :
    distinct xs = distinct ys := by
  have hsorted : ∀ texts : List String,
      (distinct texts).Pairwise fun a b => a ≤ b ∧ a ≠ b := by
    intro texts
    apply pairwise_eraseReps
    have htrans : ∀ a b c : String, decide (a ≤ b) = true → decide (b ≤ c) = true →
        decide (a ≤ c) = true := fun a b c hab hbc =>
      decide_eq_true (String.le_trans (of_decide_eq_true hab) (of_decide_eq_true hbc))
    have htotal : ∀ a b : String, (decide (a ≤ b) || decide (b ≤ a)) = true := fun a b => by
      simpa using String.le_total a b
    exact (List.pairwise_mergeSort htrans htotal texts).imp fun hle => of_decide_eq_true hle
  have hmem : ∀ (texts : List String) (text : String), text ∈ distinct texts ↔ text ∈ texts := by
    intro texts text
    rw [distinct, mem_eraseReps, (List.mergeSort_perm _ _).mem_iff]
  have hperm : (distinct xs).Perm (distinct ys) := by
    apply (List.perm_ext_iff_of_nodup _ _).mpr
    · intro text
      rw [hmem, hmem, h]
    · exact (hsorted xs).imp fun hlt => hlt.2
    · exact (hsorted ys).imp fun hlt => hlt.2
  exact hperm.eq_of_pairwise (fun a b _ _ hab hba => String.le_antisymm hab.1 hba.1) (hsorted xs)
    (hsorted ys)

end Text

end FluentStyle
