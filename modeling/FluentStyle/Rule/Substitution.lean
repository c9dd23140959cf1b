import FluentStyle.Tree.Expr

/-!
# Replacing a call

Several rules look for the first call of a declaration that they know how to replace, and put other
calls in its place.
-/

namespace FluentStyle

namespace Call

def replaceFirst? (replacement? : Call → Option (List Call)) : List Call → Option (List Call)
  | [] => none
  | call :: rest =>
      match replacement? call with
      | some calls => some (calls ++ rest)
      | none => (replaceFirst? replacement? rest).map (call :: ·)

theorem replaceFirst?_eq_some {replacement? : Call → Option (List Call)}
    {calls result : List Call} :
    replaceFirst? replacement? calls = some result ↔
      ∃ before call after new, calls = before ++ call :: after ∧
        (∀ earlier ∈ before, replacement? earlier = none) ∧ replacement? call = some new ∧
        result = before ++ (new ++ after) := by
  induction calls generalizing result with
  | nil => simp [replaceFirst?]
  | cons call rest ih =>
      cases hc : replacement? call with
      | some new =>
          constructor
          · intro h
            simp only [replaceFirst?, hc, Option.some.injEq] at h
            exact ⟨[], call, rest, new, rfl, by simp, hc, h.symm⟩
          · rintro ⟨before, call', after, new', heq, hnone, hsome, rfl⟩
            cases before with
            | nil =>
                simp only [List.nil_append, List.cons.injEq] at heq
                rcases heq with ⟨rfl, rfl⟩
                simp_all [replaceFirst?]
            | cons b bs =>
                simp only [List.cons_append, List.cons.injEq] at heq
                rcases heq with ⟨rfl, rfl⟩
                simp [hnone call (by simp)] at hc
      | none =>
          simp only [replaceFirst?, hc, Option.map_eq_some_iff, ih]
          constructor
          · rintro ⟨_, ⟨before, call', after, new, rfl, hnone, hsome, rfl⟩, rfl⟩
            exact ⟨call :: before, call', after, new, rfl, by simpa [hc] using hnone, hsome, rfl⟩
          · rintro ⟨before, call', after, new, heq, hnone, hsome, rfl⟩
            cases before with
            | nil =>
                simp only [List.nil_append, List.cons.injEq] at heq
                rcases heq with ⟨rfl, rfl⟩
                simp [hc] at hsome
            | cons b bs =>
                simp only [List.cons_append, List.cons.injEq] at heq
                rcases heq with ⟨rfl, rfl⟩
                exact ⟨_, ⟨bs, call', after, new, rfl,
                  fun earlier h => hnone earlier (List.mem_cons_of_mem _ h), hsome, rfl⟩, rfl⟩

theorem isSome_replaceFirst?_iff {replacement? : Call → Option (List Call)} {calls : List Call} :
    (replaceFirst? replacement? calls).isSome = true ↔
      ∃ call ∈ calls, (replacement? call).isSome = true := by
  induction calls with
  | nil => simp [replaceFirst?]
  | cons call rest ih =>
      cases hc : replacement? call <;> simp [replaceFirst?, hc, ih]

end Call

end FluentStyle
