import FluentStyle.Path.Basic
import Mathlib.Data.List.Basic
import Mathlib.Data.Prod.Lex
import Mathlib.Data.String.Basic

/-!
# Spellings of paths

The steps of a path are its spelling.  In order, paths of one spelling stand side by side, so that
each spelling is kept once.
-/

namespace FluentStyle

namespace Path

/-!
# Order
-/

def Step.key : Step → Nat ×ₗ String
  | .down name => toLex (3, name)
  | step => toLex (step.rank, "")

theorem Step.key_injective : Function.Injective Step.key := by
  intro a b h
  cases a <;> cases b <;> simp_all [Step.key, Step.rank]

theorem Step.before_iff (a b : Step) : a.before b = true ↔ a.key < b.key := by
  cases a <;> cases b <;> simp [Step.before, Step.key, Step.rank, Prod.Lex.toLex_lt_toLex]

theorem notAfter_cons_iff (a b : Step) (first second : List Step) :
    notAfter (a :: first) (b :: second) = true ↔
      a.key < b.key ∨ a = b ∧ notAfter first second = true := by
  rw [notAfter, Bool.or_eq_true, Bool.and_eq_true, decide_eq_true_eq, Step.before_iff]

theorem notAfter_trans {first second third : List Step} (h : notAfter first second = true)
    (h' : notAfter second third = true) : notAfter first third = true := by
  induction first generalizing second third with
  | nil => rfl
  | cons a first ih =>
      cases second with
      | nil => cases h
      | cons b second =>
          cases third with
          | nil => cases h'
          | cons c third =>
              rw [notAfter_cons_iff] at h h' ⊢
              rcases h with hlt | ⟨rfl, hle⟩
              · rcases h' with hlt' | ⟨rfl, -⟩
                · exact Or.inl (hlt.trans hlt')
                · exact Or.inl hlt
              · rcases h' with hlt' | ⟨rfl, hle'⟩
                · exact Or.inl hlt'
                · exact Or.inr ⟨rfl, ih hle hle'⟩

theorem notAfter_total (first second : List Step) :
    (notAfter first second || notAfter second first) = true := by
  induction first generalizing second with
  | nil => rfl
  | cons a first ih =>
      cases second with
      | nil => rfl
      | cons b second =>
          have hrest := ih second
          rw [Bool.or_eq_true] at hrest ⊢
          rw [notAfter_cons_iff, notAfter_cons_iff]
          rcases lt_trichotomy a.key b.key with hlt | heq | hgt
          · exact Or.inl (Or.inl hlt)
          · obtain rfl := Step.key_injective heq
            exact hrest.imp (fun hle => Or.inr ⟨rfl, hle⟩) fun hle => Or.inr ⟨rfl, hle⟩
          · exact Or.inr (Or.inl hgt)

theorem notAfter_antisymm {first second : List Step} (h : notAfter first second = true)
    (h' : notAfter second first = true) : first = second := by
  induction first generalizing second with
  | nil =>
      cases second with
      | nil => rfl
      | cons b second => cases h'
  | cons a first ih =>
      cases second with
      | nil => cases h
      | cons b second =>
          rw [notAfter_cons_iff] at h h'
          rcases h with hlt | ⟨rfl, hle⟩
          · rcases h' with hlt' | ⟨rfl, -⟩
            · exact absurd hlt' hlt.asymm
            · exact absurd hlt (lt_irrefl _)
          · rcases h' with hlt' | ⟨-, hle'⟩
            · exact absurd hlt' (lt_irrefl _)
            · rw [ih hle hle']

/-!
# Each spelling once

No spelling is lost, and in order what remains of the paths comes after what is before it and is not
the same.
-/

theorem dropRepeats_sublist (paths : List String) : (dropRepeats paths).Sublist paths := by
  induction paths with
  | nil => exact .slnil
  | cons path rest ih =>
      rw [dropRepeats]
      split
      · exact (List.nil_sublist rest).cons_cons path
      · rename_i next others heq
        rw [heq] at ih
        split
        · exact ((List.sublist_cons_self next others).trans ih).cons_cons path
        · exact ih.cons_cons path

theorem exists_mem_dropRepeats {paths : List String} {path : String} (h : path ∈ paths) :
    ∃ kept ∈ dropRepeats paths, steps kept = steps path := by
  induction paths with
  | nil => cases h
  | cons first rest ih =>
      rw [dropRepeats]
      split
      · rename_i heq
        rcases List.mem_cons.mp h with rfl | hrest
        · exact ⟨path, List.mem_cons_self, rfl⟩
        · rcases ih hrest with ⟨kept, hkept, -⟩
          rw [heq] at hkept
          cases hkept
      · rename_i next others heq
        split
        · rename_i hsame
          rcases List.mem_cons.mp h with rfl | hrest
          · exact ⟨path, List.mem_cons_self, rfl⟩
          · rcases ih hrest with ⟨kept, hkept, hsteps⟩
            rw [heq] at hkept
            rcases List.mem_cons.mp hkept with rfl | hothers
            · exact ⟨first, List.mem_cons_self, hsame.trans hsteps⟩
            · exact ⟨kept, List.mem_cons_of_mem _ hothers, hsteps⟩
        · rcases List.mem_cons.mp h with rfl | hrest
          · exact ⟨path, List.mem_cons_self, rfl⟩
          · rcases ih hrest with ⟨kept, hkept, hsteps⟩
            rw [heq] at hkept
            exact ⟨kept, List.mem_cons_of_mem _ hkept, hsteps⟩

theorem pairwise_dropRepeats {paths : List String}
    (h : paths.Pairwise fun a b => notAfter (steps a) (steps b) = true) :
    (dropRepeats paths).Pairwise fun a b =>
      notAfter (steps a) (steps b) = true ∧ steps a ≠ steps b := by
  induction paths with
  | nil => exact .nil
  | cons path rest ih =>
      rcases List.pairwise_cons.mp h with ⟨hfirst, hrest⟩
      have hkept := ih hrest
      have hmem : ∀ kept ∈ dropRepeats rest, kept ∈ rest := (dropRepeats_sublist rest).subset
      rw [dropRepeats]
      split
      · exact List.pairwise_singleton _ _
      · rename_i next others heq
        rw [heq] at hkept hmem
        rcases List.pairwise_cons.mp hkept with ⟨hnext, hothers⟩
        have hpath : ∀ kept ∈ others,
            notAfter (steps path) (steps kept) = true ∧ steps path ≠ steps kept := by
          intro kept hkept
          have hle := hfirst next (hmem next List.mem_cons_self)
          refine ⟨notAfter_trans hle (hnext kept hkept).1, fun hsteps => (hnext kept hkept).2 ?_⟩
          exact notAfter_antisymm (hnext kept hkept).1 (hsteps ▸ hle)
        split
        · exact .cons hpath hothers
        · rename_i hne
          refine .cons (List.forall_mem_cons.mpr ⟨⟨?_, hne⟩, hpath⟩) hkept
          exact hfirst next (hmem next List.mem_cons_self)

theorem mem_of_mem_distinct {paths : List String} {path : String} (h : path ∈ distinct paths) :
    path ∈ paths :=
  (List.mergeSort_perm _ _).mem_iff.mp ((dropRepeats_sublist _).subset h)

theorem exists_mem_distinct {paths : List String} {path : String} (h : path ∈ paths) :
    ∃ kept ∈ distinct paths, steps kept = steps path :=
  exists_mem_dropRepeats ((List.mergeSort_perm _ _).mem_iff.mpr h)

/-- No spelling is kept twice. -/
theorem nodup_steps_distinct (paths : List String) : ((distinct paths).map steps).Nodup := by
  have hsorted : (paths.mergeSort fun a b => notAfter (steps a) (steps b)).Pairwise
      fun a b => notAfter (steps a) (steps b) = true := by
    apply List.pairwise_mergeSort
    · intro a b c
      exact notAfter_trans
    · intro a b
      exact notAfter_total (steps a) (steps b)
  rw [List.Nodup, List.pairwise_map]
  exact (pairwise_dropRepeats hsorted).imp fun h => h.2

end Path

end FluentStyle
