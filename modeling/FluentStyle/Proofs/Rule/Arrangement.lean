import FluentStyle.Proofs.Rule.CallOrder

/-!
# The arrangement of calls

What a list of calls is put into is known: exempt calls stand where they stood, the others stand in
the remaining places by rank, and those of one rank in the order in which they came.  There is one
such list, and putting the calls of a declaration into order gives it.
-/

namespace FluentStyle

namespace Conventions

variable {style : Conventions}

/-- The second list has the calls of the first one in the order of their categories. -/
structure Arranges (style : Conventions) (calls arranged : List Call) : Prop where
  perm : arranged.Perm calls
  /-- An exempt call stands just at the places where it stood. -/
  exempt : ∀ (i : Nat) (call : Call), style.isExempt call.name = true →
    (arranged[i]? = some call ↔ calls[i]? = some call)
  ranked : style.IsRanked arranged
  /-- Calls of one rank keep their order. -/
  stable : ∀ rank : Nat, (style.moved arranged).filter (style.callRank · = rank) =
    (style.moved calls).filter (style.callRank · = rank)

/-!
# Places

Placing other calls leaves the exempt ones in their places, and a list that has the exempt calls in
the same places is known from its other calls.
-/

theorem getElem?_place {calls ranked : List Call}
    (hlength : ranked.length = (style.moved calls).length)
    (hranked : ∀ call ∈ ranked, ¬ style.isExempt call.name = true) {call : Call}
    (hcall : style.isExempt call.name = true) (i : Nat) :
    (style.place calls ranked)[i]? = some call ↔ calls[i]? = some call := by
  induction calls generalizing ranked i with
  | nil => exact Iff.rfl
  | cons first calls ih =>
      by_cases hfirst : style.isExempt first.name = true
      · rw [moved_cons_of_exempt hfirst] at hlength
        rw [place_cons_of_exempt hfirst]
        cases i with
        | zero => exact Iff.rfl
        | succ i => exact ih hlength hranked i
      · rw [moved_cons_of_not_exempt hfirst] at hlength
        cases ranked with
        | nil => simp at hlength
        | cons next others =>
            rcases List.forall_mem_cons.mp hranked with ⟨hnext, hothers⟩
            rw [place_cons_of_not_exempt hfirst]
            cases i with
            | zero =>
                constructor
                · intro h
                  cases h
                  exact absurd hcall hnext
                · intro h
                  cases h
                  exact absurd hcall hfirst
            | succ i => exact ih (Nat.succ.inj hlength) hothers i

theorem place_moved_of_exempt {calls others : List Call} (hlength : others.length = calls.length)
    (hexempt : ∀ (i : Nat) (call : Call), style.isExempt call.name = true →
      (others[i]? = some call ↔ calls[i]? = some call)) :
    style.place calls (style.moved others) = others := by
  induction calls generalizing others with
  | nil => exact (List.length_eq_zero_iff.mp hlength).symm
  | cons first calls ih =>
      cases others with
      | nil => cases hlength
      | cons other others =>
          have hrest := ih (Nat.succ.inj hlength) fun i call hcall => hexempt (i + 1) call hcall
          by_cases hfirst : style.isExempt first.name = true
          · have hsame : other = first := Option.some.inj ((hexempt 0 first hfirst).mpr rfl)
            rw [hsame, moved_cons_of_exempt hfirst, place_cons_of_exempt hfirst, hrest]
          · have hother : ¬ style.isExempt other.name = true := by
              intro hother
              have hsame : first = other := Option.some.inj ((hexempt 0 other hother).mp rfl)
              exact hfirst (hsame ▸ hother)
            rw [moved_cons_of_not_exempt hother, place_cons_of_not_exempt hfirst, hrest]

/-!
# The arranged calls
-/

theorem not_exempt_of_mem_ranked {calls : List Call} :
    ∀ call ∈ style.ranked calls, ¬ style.isExempt call.name = true :=
  fun _ hcall => not_exempt_of_mem_moved ((ranked_perm calls).mem_iff.mp hcall)

theorem arranges_ordered (style : Conventions) (calls : List Call) :
    style.Arranges calls (style.ordered calls) where
  perm := ordered_perm style calls
  exempt := fun i _ hcall =>
    getElem?_place (ranked_perm calls).length_eq not_exempt_of_mem_ranked hcall i
  ranked := isRanked_ordered calls
  stable := fun rank => by
    rw [ordered, moved_place (ranked_perm calls).length_eq not_exempt_of_mem_ranked]
    exact StableOrder.filter_mergeSort style.callRank (· ≤ ·)
      (fun _ hcall => of_decide_eq_true hcall) (style.moved calls)

/-- There is one arrangement of a list of calls. -/
theorem Arranges.unique {calls first second : List Call} (hfirst : style.Arranges calls first)
    (hsecond : style.Arranges calls second) : first = second := by
  have hmoved : style.moved first = style.moved second :=
    StableOrder.eq_of_pairwise style.callRank (· ≤ ·) (hfirst.ranked.imp of_decide_eq_true)
      (hsecond.ranked.imp of_decide_eq_true)
      fun rank => (hfirst.stable rank).trans (hsecond.stable rank).symm
  rw [← place_moved_of_exempt hfirst.perm.length_eq hfirst.exempt, hmoved,
    place_moved_of_exempt hsecond.perm.length_eq hsecond.exempt]

end Conventions

namespace Chain

variable {style : Conventions} {chain : Chain}

theorem reordered?_getD (h : style.isDeclaration chain = true) :
    (chain.reordered? style).getD chain = { chain with rest := style.ordered chain.rest } := by
  cases hchanged : chain.reordered? style with
  | none =>
      rw [Conventions.ordered_of_isRanked (reordered?_eq_none_iff.mp hchanged h)]
      cases chain
      rfl
  | some changed => exact (reordered?_eq_some hchanged).2.2

/-- Reordering a declaration keeps what it starts with and gives the one arrangement of its calls,
and it leaves the declaration alone just if its calls are ranked. -/
theorem reordered_arranges (h : style.isDeclaration chain = true) :
    let result := (chain.reordered? style).getD chain
    result.root = chain.root ∧ result.first = chain.first ∧ result.calls.Perm chain.calls ∧
      (∀ calls : List Call, style.Arranges chain.rest calls ↔ calls = result.rest) ∧
      (chain.reordered? style = none ↔ style.IsRanked chain.rest) := by
  intro result
  have hresult : result = { chain with rest := style.ordered chain.rest } := reordered?_getD h
  have hordered := style.arranges_ordered chain.rest
  rw [hresult]
  refine ⟨rfl, rfl, hordered.perm.cons chain.first, ?_, ?_⟩
  · intro calls
    constructor
    · intro hcalls
      exact hcalls.unique hordered
    · rintro rfl
      exact hordered
  · rw [reordered?_eq_none_iff]
    exact ⟨fun hranked => hranked h, fun hranked _ => hranked⟩

/-- A declaration in which an exempt call stands among others that are out of order. -/
theorem reordered_arranges_exempt :
    let style : Conventions := {
      constructors := ["make"]
      order := [.labelDescription, .validation, .other]
      categories := [("label", .labelDescription), ("required", .validation)]
      exempt := ["orderBy"]
      groups := [] }
    let call (name : String) : Call := ⟨name, []⟩
    let chain : Chain := ⟨.static "Select", call "make",
      ["searchable", "orderBy", "required", "label", "native"].map call⟩
    let arranged := ["label", "orderBy", "required", "searchable", "native"].map call
    style.isDeclaration chain = true ∧
      chain.reordered? style = some { chain with rest := arranged } ∧
      style.Arranges chain.rest arranged := by
  intro style call chain arranged
  have h : style.isDeclaration chain = true := rfl
  have hranked : style.ranked chain.rest =
    ["label", "required", "searchable", "native"].map call := by
    apply StableOrder.eq_of_pairwise style.callRank (· ≤ ·)
    · exact StableOrder.pairwise_mergeSort style.callRank (· ≤ ·) _
    · decide
    · intro rank
      refine (StableOrder.filter_mergeSort style.callRank (· ≤ ·)
        (fun _ hcall => of_decide_eq_true hcall) _).trans ?_
      rcases rank with _ | _ | _ | rank <;> rfl
  have hresult : chain.reordered? style = some { chain with rest := arranged } := by
    rw [reordered?, if_pos h, Conventions.ordered, hranked]
    rfl
  have hboth := (reordered_arranges h).2.2.2.1
  rw [hresult] at hboth
  exact ⟨h, hresult, (hboth arranged).mpr rfl⟩

end Chain

end FluentStyle
