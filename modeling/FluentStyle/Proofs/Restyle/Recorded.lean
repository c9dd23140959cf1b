import FluentStyle.Proofs.Restyle.NestedSections
import FluentStyle.Proofs.Restyle.Termination

/-!
# Objections are recorded

After a pass, every objection that a rule has to a site of the result was recorded in the pass.  For
a rule is tried at a site before the site is settled; if it was rejected, the objection was recorded
then, and whatever is done to the site later gives it no other objection.  So a pass over a tree at
rest, which does nothing but reject proposals, records nothing that the pass before it did not
record.
-/

namespace FluentStyle

/-!
# Sites
-/

namespace Rule

variable {style : Conventions} {rule : Rule} {site proposal : Site} {events later : List Event}

/-- If the rule objects to the site, the objection is among the events. -/
def NotedAt (style : Conventions) (rule : Rule) (events : List Event) (site : Site) : Prop :=
  ∀ objection : Objection, rule.Objects style site objection →
    Event.rejected rule.id objection ∈ events

theorem NotedAt.mono (h : rule.NotedAt style events site) (hsubset : events ⊆ later) :
    rule.NotedAt style later site :=
  fun objection hobjects => hsubset (h objection hobjects)

theorem Objects.eq {objection other : Objection} (h : rule.Objects style site objection)
    (h' : rule.Objects style site other) : objection = other := by
  rcases h with ⟨proposal, hproposal, hverdict⟩
  rcases h' with ⟨proposal', hproposal', hverdict'⟩
  cases hproposal.symm.trans hproposal'
  cases hverdict.symm.trans hverdict'
  rfl

theorem not_objects_of_accept (hproposal : rule.proposal? style site = some proposal)
    (haccept : rule.examine style site proposal = .accept) (objection : Objection) :
    ¬ rule.Objects style site objection := by
  rintro ⟨found, hfound, hreject⟩
  cases hproposal.symm.trans hfound
  cases haccept.symm.trans hreject

theorem weight_le_of_proposal? (hgroups : ∀ group ∈ style.groups, 2 ≤ group.minFields)
    (h : rule.proposal? style site = some proposal) :
    proposal.toExpr.weight ≤ site.toExpr.weight := by
  rcases weight_proposal? hgroups h with hlt | ⟨chain, changed, rfl, rfl, hreordered⟩
  · exact Nat.le_of_lt hlt
  · exact Nat.le_of_eq (Expr.disorder_reordered hreordered).1

end Rule

theorem ArrayItem.isSome_values?_frame (items : List ArrayItem) :
    (values? (items.map frame)).isSome = (values? items).isSome := by
  induction items with
  | nil => rfl
  | cons item items ih =>
      cases item with
      | value expr => simp only [List.map_cons, frame, values?, Option.isSome_map, ih]
      | pair key value => rfl

namespace Site

variable {style : Conventions} {rules : List Rule}

theorem isSome_ofExpr?_frame (expr : Expr) :
    (ofExpr? expr.frame).isSome = (ofExpr? expr).isSome := by
  cases expr with
  | array items =>
      simp only [Expr.frame, ofExpr?, Option.isSome_map, ArrayItem.isSome_values?_frame]
  | _ => rfl

def NotedIn (style : Conventions) (rules : List Rule) (events : List Event) (site : Site) : Prop :=
  ∀ rule ∈ rules, rule.NotedAt style events site

theorem NotedIn.mono {events later : List Event} {site : Site}
    (h : site.NotedIn style rules events) (hsubset : events ⊆ later) :
    site.NotedIn style rules later :=
  fun rule hrule => (h rule hrule).mono hsubset

end Site

/-- What a trail has settled stays settled with all its parts, and objections to it are recorded. -/
structure Trail.Sound (style : Conventions) (rules : List Rule) (trail : Trail) : Prop where
  settled : ∀ expr ∈ trail.settled, expr.SettledIn trail
  noted : ∀ site : Site, site.toExpr ∈ trail.settled → site.NotedIn style rules trail.events

namespace Trail.Sound

variable {style : Conventions} {rules : List Rule} {trail : Trail}

theorem empty : Trail.empty.Sound style rules :=
  ⟨List.forall_mem_nil _, fun _ h => absurd h List.not_mem_nil⟩

theorem record (h : trail.Sound style rules) (event : Event) :
    ((Walk.record event).run trail).2.Sound style rules :=
  ⟨h.settled, fun site hsite => (h.noted site hsite).mono (List.subset_append_left _ _)⟩

theorem settle (h : trail.Sound style rules) {site : Site}
    (hparts : ∀ child ∈ site.toExpr.children, child.SettledIn trail)
    (hnoted : site.NotedIn style rules trail.events) :
    let later : Trail := { trail with settled := site.toExpr :: trail.settled }
    later.Sound style rules ∧ site.toExpr.SettledIn later := by
  intro later
  have hsubset : trail.settled ⊆ later.settled := List.subset_cons_self _ _
  have hsite : site.toExpr.SettledIn later :=
    Expr.settledIn_iff.mpr ⟨fun _ => List.mem_cons_self,
      fun child hchild => (hparts child hchild).mono hsubset⟩
  refine ⟨⟨List.forall_mem_cons.mpr ⟨hsite, ?_⟩, ?_⟩, hsite⟩
  · exact fun expr hexpr => (h.settled expr hexpr).mono hsubset
  · intro other hother
    rcases List.mem_cons.mp hother with heq | hother
    · rw [Site.eq_of_toExpr_eq heq]
      exact hnoted
    · exact h.noted other hother

end Trail.Sound

/-!
# Visits

A rule that is offered is so still when another one was tried.  So a round at a site settles its
parts and records all objections to it, and a visit that goes as deep as it has to settles what it
makes of an expression.
-/

namespace Walk

variable {style : Conventions} {rules : List Rule} {visitor : Expr → Walk Expr} {trail : Trail}

/-- A visit to the expression settles what it makes of it, in a sound way. -/
def Settles (style : Conventions) (rules : List Rule) (visitor : Expr → Walk Expr) (expr : Expr) :
    Prop :=
  ∀ trail : Trail, trail.Sound style rules →
    let result := (visitor expr).run trail
    trail.Grows result.2 ∧ result.2.Sound style rules ∧ result.1.SettledIn result.2

theorem settles_mapM {exprs : List Expr} (h : ∀ expr ∈ exprs, Settles style rules visitor expr)
    (hsound : trail.Sound style rules) :
    let result := (exprs.mapM visitor).run trail
    trail.Grows result.2 ∧ result.2.Sound style rules ∧
      ∀ expr ∈ result.1, expr.SettledIn result.2 := by
  induction exprs generalizing trail with
  | nil => exact ⟨Trail.Grows.refl trail, hsound, List.forall_mem_nil _⟩
  | cons expr exprs ih =>
      rcases List.forall_mem_cons.mp h with ⟨hexpr, hexprs⟩
      rcases hexpr trail hsound with ⟨hgrows, hsoundFirst, hsettled⟩
      rcases ih hexprs hsoundFirst with ⟨hgrowsRest, hsoundRest, hsettledRest⟩
      rw [stateM_run_mapM_cons]
      refine ⟨hgrows.trans hgrowsRest, hsoundRest, List.forall_mem_cons.mpr ⟨?_, hsettledRest⟩⟩
      exact hsettled.mono hgrowsRest.settled

theorem settles_mapChildrenM {expr : Expr}
    (h : ∀ child ∈ expr.children, Settles style rules visitor child)
    (hsound : trail.Sound style rules) :
    let result := (expr.mapChildrenM visitor).run trail
    trail.Grows result.2 ∧ result.2.Sound style rules ∧
      ∀ child ∈ result.1.children, child.SettledIn result.2 := by
  have hparts := settles_mapM h hsound
  rw [(Expr.fills visitor expr trail).1] at hparts
  exact hparts

theorem settles_site {site : Site}
    (h : ∀ child ∈ site.toExpr.children, Settles style rules visitor child)
    (hsound : trail.Sound style rules) :
    let result := (site.mapChildrenM visitor).run trail
    trail.Grows result.2 ∧ result.2.Sound style rules ∧
      ∀ child ∈ result.1.toExpr.children, child.SettledIn result.2 := by
  have hparts := settles_mapChildrenM h hsound
  rw [Site.run_mapChildrenM] at hparts
  exact hparts

/-- Where a round at a site stands after some rules were tried: the parts of the site are settled,
and the objections of the rules that are not offered any more are recorded. -/
structure Underway (style : Conventions) (rules : List Rule) (depth : Nat) (start : Trail)
    (offered : List Rule) (site : Site) (trail : Trail) : Prop where
  grows : start.Grows trail
  sound : trail.Sound style rules
  weight_le : site.toExpr.weight ≤ depth + 1
  settled : ∀ child ∈ site.toExpr.children, child.SettledIn trail
  noted : ∀ rule ∈ rules, rule ∈ offered ∨ rule.NotedAt style trail.events site

theorem offered_cases {site proposal : Site} {rule other : Rule} {offered others : List Rule}
    (h : firstProposal? style site offered = some (rule, proposal, others))
    (hother : other ∈ offered) :
    other = rule ∨ other ∈ others := by
  rcases firstProposal?_eq_some h with ⟨-, before, after, rfl, rfl, -⟩
  simp only [List.mem_append, List.mem_cons] at hother ⊢
  tauto

section Round

variable {depth : Nat} {start : Trail} {offered others : List Rule} {site proposal : Site}
  {rule : Rule}

theorem Underway.reject {objection : Objection}
    (hfirst : firstProposal? style site offered = some (rule, proposal, others))
    (hreject : rule.examine style site proposal = .reject objection)
    (h : Underway style rules depth start offered site trail) :
    Underway style rules depth start others site
      ((record (.rejected rule.id objection)).run trail).2 := by
  have hproposal := (firstProposal?_eq_some hfirst).1
  have hrecorded := Trail.Grows.record trail (.rejected rule.id objection)
  refine ⟨h.grows.trans hrecorded, h.sound.record _, h.weight_le,
    fun child hchild => (h.settled child hchild).mono hrecorded.settled, ?_⟩
  intro other hother
  rcases h.noted other hother with hoffered | hnoted
  · rcases offered_cases hfirst hoffered with rfl | hothers
    · refine Or.inr fun found hobjects => ?_
      rw [hobjects.eq ⟨proposal, hproposal, hreject⟩]
      exact List.mem_append_right _ (List.mem_singleton_self _)
    · exact Or.inl hothers
  · exact Or.inr (hnoted.mono hrecorded.events)

variable (hgroups : ∀ group ∈ style.groups, 2 ≤ group.minFields)
  (hvisit : ∀ expr : Expr, expr.weight ≤ depth →
    Settles style rules (visit style rules depth) expr)

include hvisit in
theorem settles_children (hdepth : site.toExpr.weight ≤ depth + 1) :
    ∀ child ∈ site.toExpr.children, Settles style rules (visit style rules depth) child := by
  intro child hchild
  have hlt := Expr.weight_lt_of_mem_children hchild
  exact hvisit child (by omega)

include hgroups hvisit

theorem Underway.accept (hfirst : firstProposal? style site offered = some (rule, proposal, others))
    (haccept : rule.examine style site proposal = .accept)
    (h : Underway style rules depth start offered site trail) :
    let descended := (proposal.mapChildrenM (visit style rules depth)).run
      ((record (.applied rule.id)).run trail).2
    Underway style rules depth start others descended.1 descended.2 := by
  intro descended
  have hproposal := (firstProposal?_eq_some hfirst).1
  have hrecorded := Trail.Grows.record trail (.applied rule.id)
  have hproposed := Nat.le_trans (Rule.weight_le_of_proposal? hgroups hproposal) h.weight_le
  have hdescended : descended.1.toExpr.weight ≤ proposal.toExpr.weight :=
    (reaches_descend (reaches_visit depth) proposal _).weight_le hgroups
  rcases settles_site (settles_children hvisit hproposed) (h.sound.record (.applied rule.id)) with
    ⟨hlater, hsound, hsettled⟩
  have hback : ∀ (other : Rule) (objection : Objection), other.Objects style descended.1 objection →
      other.Objects style site objection := fun other objection =>
    objects_of_descended (fun child hchild => (h.settled child hchild).mono hrecorded.settled)
      hproposal haccept depth
  refine ⟨(h.grows.trans hrecorded).trans hlater, hsound, Nat.le_trans hdescended hproposed,
    hsettled, ?_⟩
  intro other hother
  rcases h.noted other hother with hoffered | hnoted
  · rcases offered_cases hfirst hoffered with rfl | hothers
    · refine Or.inr fun objection hobjects => ?_
      exact absurd (hback other objection hobjects)
        (Rule.not_objects_of_accept hproposal haccept objection)
    · exact Or.inl hothers
  · refine Or.inr fun objection hobjects => hlater.events (hrecorded.events ?_)
    exact hnoted objection (hback other objection hobjects)

/-- A round at a site settles its parts and records all objections to it. -/
theorem settles_round (hdepth : site.toExpr.weight ≤ depth + 1) (hsound : trail.Sound style rules) :
    let result := (round style (visit style rules depth) rules site).run trail
    trail.Grows result.2 ∧ result.2.Sound style rules ∧
      (∀ child ∈ result.1.toExpr.children, child.SettledIn result.2) ∧
        result.1.NotedIn style rules result.2.events := by
  intro result
  have hparts : ((site.mapChildrenM (visit style rules depth)).run trail).1.toExpr.weight ≤
      site.toExpr.weight :=
    (reaches_descend (reaches_visit depth) site trail).weight_le hgroups
  rcases settles_site (settles_children hvisit hdepth) hsound with ⟨hgrows, hsoundParts, hsettled⟩
  rcases settle_induction style _ (P := Underway style rules depth trail)
      (Underway.accept hgroups hvisit) Underway.reject (Nat.le_refl rules.length) _
      ⟨hgrows, hsoundParts, Nat.le_trans hparts hdepth, hsettled,
        fun rule hrule => Or.inl hrule⟩ with
    ⟨left, hlast, hnone⟩
  refine ⟨hlast.grows, hlast.sound, hlast.settled, ?_⟩
  intro rule hrule
  rcases hlast.noted rule hrule with hleft | hnoted
  · rintro objection ⟨proposal, hproposal, -⟩
    cases (hnone rule hleft).symm.trans hproposal
  · exact hnoted

end Round

theorem settles_visit (hgroups : ∀ group ∈ style.groups, 2 ≤ group.minFields) {depth : Nat}
    {expr : Expr} (hdepth : expr.weight ≤ depth) :
    Settles style rules (visit style rules depth) expr := by
  induction depth generalizing expr with
  | zero => exact absurd hdepth (Nat.not_le_of_lt expr.weight_pos)
  | succ depth ih =>
      intro trail hsound
      by_cases hcontains : trail.settled.contains expr = true
      · rw [run_visit_succ, if_pos hcontains]
        exact ⟨Trail.Grows.refl trail, hsound,
          hsound.settled expr (List.contains_iff_mem.mp hcontains)⟩
      cases hsite : Site.ofExpr? expr with
      | none =>
          have hchildren : ∀ child ∈ expr.children,
              Settles style rules (visit style rules depth) child := by
            intro child hchild
            have hlt := Expr.weight_lt_of_mem_children hchild
            exact ih (by omega)
          rcases settles_mapChildrenM hchildren hsound with ⟨hgrows, hsoundLater, hsettled⟩
          rw [run_visit_succ, if_neg hcontains, hsite]
          refine ⟨hgrows, hsoundLater, Expr.settledIn_iff.mpr ⟨fun hlater => ?_, hsettled⟩⟩
          have hframe := (Expr.fills (visit style rules depth) expr trail).2
          rw [← Site.isSome_ofExpr?_frame, hframe, Site.isSome_ofExpr?_frame, hsite] at hlater
          cases hlater
      | some site =>
          obtain rfl := Site.ofExpr?_eq_some.mp hsite
          rcases settles_round hgroups (fun other hother => ih hother) hdepth hsound with
            ⟨hgrows, hsoundLater, hsettled, hnoted⟩
          rcases hsoundLater.settle hsettled hnoted with ⟨hfinal, hresult⟩
          rw [run_visit_site hcontains]
          exact ⟨⟨List.Subset.trans hgrows.settled (List.subset_cons_self _ _), hgrows.events⟩,
            hfinal, hresult⟩

end Walk

/-!
# A pass over a tree at rest
-/

/-- No rule has an accepted proposal for a site of the tree, and all objections to its sites are
among the events. -/
def Expr.KnownFrom (style : Conventions) (rules : List Rule) (events : List Event) : Expr → Prop :=
  Expr.Every fun part => ∀ site : Site, Site.ofExpr? part = some site →
    site.Done style rules ∧ site.NotedIn style rules events

namespace Expr

variable {style : Conventions} {rules : List Rule} {events : List Event}

theorem KnownFrom.children {expr : Expr} (h : expr.KnownFrom style rules events) :
    ∀ child ∈ expr.children, child.KnownFrom style rules events :=
  (every_iff.mp h).2

theorem KnownFrom.site {site : Site} (h : site.toExpr.KnownFrom style rules events) :
    site.Done style rules ∧ site.NotedIn style rules events :=
  (every_iff.mp h).1 site site.ofExpr?_toExpr

theorem KnownFrom.atRest {expr : Expr} (h : expr.KnownFrom style rules events) :
    expr.AtRest style rules :=
  Every.mono (fun _ hpart site hsite => (hpart site hsite).1) h

end Expr

namespace Walk

variable {style : Conventions} {rules : List Rule} {events : List Event} {trail : Trail}

theorem events_subset_round {depth : Nat} {site : Site}
    (hvisit : ∀ expr : Expr, expr.KnownFrom style rules events → ∀ trail : Trail,
      trail.events ⊆ events → ((visit style rules depth expr).run trail).2.events ⊆ events)
    (h : site.toExpr.KnownFrom style rules events) (htrail : trail.events ⊆ events) :
    ((round style (visit style rules depth) rules site).run trail).2.events ⊆ events := by
  have hquiet : Quiet trail (((site.mapChildrenM (visit style rules depth)).run trail).1.toExpr,
      ((site.mapChildrenM (visit style rules depth)).run trail).2) := by
    unfold Quiet
    rw [← quiet_mapM (f := visit style rules depth)
      (fun child hchild => quiet_visit (h.children child hchild).atRest) trail,
      (Expr.fills (visit style rules depth) site.toExpr trail).1, Site.run_mapChildrenM]
  have hsame : ((site.mapChildrenM (visit style rules depth)).run trail).1 = site :=
    Site.eq_of_toExpr_eq ((reaches_descend (reaches_visit depth) site trail).eq_of_quiet hquiet)
  have hparts : ((site.mapChildrenM (visit style rules depth)).run trail).2.events ⊆ events := by
    have hmapM := stateM_mapM_preserves (f := visit style rules depth)
      (P := fun later => later.events ⊆ events)
      (fun child hchild => hvisit child (h.children child hchild)) htrail
    rw [(Expr.fills (visit style rules depth) site.toExpr trail).1, Site.run_mapChildrenM] at hmapM
    exact hmapM
  rw [run_round, hsame]
  rcases settle_induction style (·.mapChildrenM (visit style rules depth))
      (P := fun offered found later => offered ⊆ rules ∧ found = site ∧ later.events ⊆ events)
      (by
        rintro offered others _ proposal rule later hfirst haccept ⟨hoffered, rfl, -⟩
        have hrule := hoffered (firstProposal?_others hfirst).1
        exact absurd ⟨proposal, (firstProposal?_eq_some hfirst).1, haccept⟩ (h.site.1 rule hrule))
      (by
        rintro offered others _ proposal rule objection later hfirst hreject ⟨hoffered, rfl, hlater⟩
        rcases firstProposal?_others hfirst with ⟨hrule, hothers, -⟩
        refine ⟨List.Subset.trans hothers hoffered, rfl, List.append_subset.mpr ⟨hlater, ?_⟩⟩
        apply List.cons_subset.mpr
        refine ⟨h.site.2 rule (hoffered hrule) objection ?_, List.nil_subset _⟩
        exact ⟨proposal, (firstProposal?_eq_some hfirst).1, hreject⟩)
      (Nat.le_refl rules.length) _ ⟨List.Subset.refl rules, rfl, hparts⟩ with ⟨left, hlast, -⟩
  exact hlast.2.2

theorem events_subset_visit {depth : Nat} {expr : Expr} (h : expr.KnownFrom style rules events)
    (htrail : trail.events ⊆ events) :
    ((visit style rules depth expr).run trail).2.events ⊆ events := by
  induction depth generalizing expr trail with
  | zero => exact htrail
  | succ depth ih =>
      by_cases hcontains : trail.settled.contains expr = true
      · rw [run_visit_succ, if_pos hcontains]
        exact htrail
      cases hsite : Site.ofExpr? expr with
      | none =>
          have hmapM := stateM_mapM_preserves (f := visit style rules depth)
            (P := fun later => later.events ⊆ events)
            (fun child hchild _ => ih (h.children child hchild)) htrail
          rw [(Expr.fills (visit style rules depth) expr trail).1] at hmapM
          rw [run_visit_succ, if_neg hcontains, hsite]
          exact hmapM
      | some site =>
          obtain rfl := Site.ofExpr?_eq_some.mp hsite
          rw [run_visit_site hcontains]
          exact events_subset_round (fun other hother _ => ih hother) h htrail

end Walk

namespace Fragment

variable {style : Conventions} {rules : List Rule}

theorem pass_eq_round (fragment : Fragment) :
    fragment.pass style rules =
      let result := (Walk.round style (Walk.visit style rules fragment.weight) rules
        (.list fragment.items)).run .empty
      ({ fragment with items := result.1.items }, result.2.events) := rfl

theorem knownFrom_pass (hgroups : ∀ group ∈ style.groups, 2 ≤ group.minFields)
    {fragment : Fragment} (h : (fragment.pass style rules).1.root.AtRest style rules) :
    (fragment.pass style rules).1.root.KnownFrom style rules (fragment.pass style rules).2 := by
  have hdepth : (Site.list fragment.items).toExpr.weight ≤ fragment.weight + 1 :=
    Nat.le_succ_of_le (Nat.le_of_eq fragment.weight_root)
  rcases Walk.settles_round hgroups (fun _ => Walk.settles_visit hgroups) hdepth
    (Trail.Sound.empty : Trail.empty.Sound style rules) with ⟨-, hsound, hsettled, hnoted⟩
  rcases Walk.round_list style (Walk.visit style rules fragment.weight) rules fragment.items .empty
    with ⟨items, hlist⟩
  rw [pass_eq_round] at h ⊢
  simp only [hlist] at h hsettled hnoted ⊢
  intro part hpart site hsite
  refine ⟨h part hpart site hsite, ?_⟩
  rcases Expr.mem_parts_iff.mp hpart with rfl | ⟨child, hchild, hpart⟩
  · rw [Fragment.root, Site.ofExpr?_toExpr] at hsite
    cases hsite
    exact hnoted
  · have hmem := hsettled child hchild part hpart (by rw [hsite]; rfl)
    rw [Site.ofExpr?_eq_some.mp hsite] at hmem
    exact hsound.noted site hmem

theorem events_subset_of_known {fragment : Fragment} {events : List Event}
    (h : fragment.root.KnownFrom style rules events) :
    (fragment.pass style rules).2 ⊆ events := by
  rw [pass_eq_round]
  exact Walk.events_subset_round (fun _ hexpr _ => Walk.events_subset_visit hexpr) h
    (List.nil_subset events)

/-- A pass over what a pass has left at rest records nothing new. -/
theorem events_subset_of_atRest (hgroups : ∀ group ∈ style.groups, 2 ≤ group.minFields)
    {fragment : Fragment} (h : (fragment.pass style rules).1.root.AtRest style rules) :
    ((fragment.pass style rules).1.pass style rules).2 ⊆ (fragment.pass style rules).2 :=
  events_subset_of_known (knownFrom_pass hgroups h)

end Fragment

end FluentStyle
