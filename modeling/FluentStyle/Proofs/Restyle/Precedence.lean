import FluentStyle.Proofs.Restyle.AtRest
import FluentStyle.Proofs.Rule.Agreement
import FluentStyle.Proofs.Rule.StableOrder

/-!
# The order in which rules are tried

Two catalogs whose conventions agree restyle all sources alike, but for what advisory rules have to
say, if they try the rules that change something in one order.  That order is known from the
priorities of the rules, and for each priority from the order in which its rules are registered: it
is the only list that descends and has the rules of each priority in that order.
-/

namespace FluentStyle

/-!
# Precedence

Which sequence it is depends only on how the rules of each priority are registered.  Where all
priorities differ, there is one rule of each at most, and it does not matter in which order they are
registered.
-/

namespace Rule

def changing (rules : List Rule) : List Rule :=
  rules.filter fun rule => !rule.isAdvisory

def ofPriority (priority : Int) (rules : List Rule) : List Rule :=
  rules.filter (·.priority = priority)

/-- The sequence holds the rules that change something by descending priority, and those of one
priority in the order in which they are registered. -/
structure InPrecedence (rules sequence : List Rule) : Prop where
  descending : sequence.Pairwise fun a b => b.priority ≤ a.priority
  registered : ∀ priority : Int, ofPriority priority sequence = ofPriority priority (changing rules)

theorem mem_ofPriority {priority : Int} {rules : List Rule} {rule : Rule} :
    rule ∈ ofPriority priority rules ↔ rule ∈ rules ∧ rule.priority = priority := by
  rw [ofPriority, List.mem_filter, decide_eq_true_eq]

/-- A list that descends is known from its rules of each priority. -/
theorem eq_of_descending {xs ys : List Rule}
    (hxs : xs.Pairwise fun a b => b.priority ≤ a.priority)
    (hys : ys.Pairwise fun a b => b.priority ≤ a.priority)
    (h : ∀ priority : Int, ofPriority priority xs = ofPriority priority ys) : xs = ys :=
  StableOrder.eq_of_pairwise Rule.priority (fun a b => b ≤ a) hxs hys h

theorem InPrecedence.unique {rules first second : List Rule} (h : InPrecedence rules first)
    (h' : InPrecedence rules second) : first = second :=
  eq_of_descending h.descending h'.descending fun priority =>
    (h.registered priority).trans (h'.registered priority).symm

theorem InPrecedence.of_registered {rules others sequence : List Rule}
    (h : InPrecedence rules sequence) (hsame : ∀ priority : Int,
      ofPriority priority (changing rules) = ofPriority priority (changing others)) :
    InPrecedence others sequence where
  descending := h.descending
  registered := fun priority => (h.registered priority).trans (hsame priority)

theorem ofPriority_of_perm {rules others : List Rule} (hperm : rules.Perm others)
    (hdistinct : rules.Pairwise fun a b => a.priority ≠ b.priority) (priority : Int) :
    ofPriority priority rules = ofPriority priority others := by
  have hdistinct' : others.Pairwise fun a b => a.priority ≠ b.priority :=
    hperm.pairwise hdistinct Ne.symm
  refine List.Perm.eq_of_pairwise ?_ (hdistinct.filter _) (hdistinct'.filter _) (hperm.filter _)
  intro a b ha hb hne _
  exact absurd ((mem_ofPriority.mp ha).2.trans (mem_ofPriority.mp hb).2.symm) hne

theorem ofPriority_mergeSort (rules : List Rule) (priority : Int) :
    ofPriority priority (rules.mergeSort fun a b => decide (b.priority ≤ a.priority)) =
      ofPriority priority rules :=
  StableOrder.filter_mergeSort Rule.priority (fun a b => b ≤ a)
    (fun _ h => of_decide_eq_true h) rules

end Rule

namespace Catalog

variable {a b : Catalog}

theorem inPrecedence_changingRules (catalog : Catalog) :
    Rule.InPrecedence catalog.rules catalog.changingRules := by
  constructor
  · have hsorted := StableOrder.pairwise_mergeSort Rule.priority (fun a b => b ≤ a) catalog.rules
    exact hsorted.filter _
  · intro priority
    have hsorted := Rule.ofPriority_mergeSort catalog.rules priority
    have hswap : ∀ rules : List Rule, Rule.ofPriority priority (Rule.changing rules) =
        Rule.changing (Rule.ofPriority priority rules) := by
      intro rules
      simp only [Rule.ofPriority, Rule.changing, List.filter_filter, Bool.and_comm]
    show Rule.ofPriority priority (Rule.changing catalog.byPrecedence) = _
    rw [hswap, hswap]
    exact congrArg Rule.changing hsorted

theorem changingRules_eq_of_inPrecedence {sequence : List Rule}
    (ha : Rule.InPrecedence a.rules sequence) (hb : Rule.InPrecedence b.rules sequence) :
    a.changingRules = b.changingRules := by
  have hseq : a.changingRules = sequence := a.inPrecedence_changingRules.unique ha
  rw [hseq]
  exact hb.unique b.inPrecedence_changingRules

theorem changingRules_eq_of_registered (h : ∀ priority : Int,
    Rule.ofPriority priority (Rule.changing a.rules) =
      Rule.ofPriority priority (Rule.changing b.rules)) :
    a.changingRules = b.changingRules :=
  (a.inPrecedence_changingRules.of_registered h).unique b.inPrecedence_changingRules

end Catalog

/-!
# Runs of two catalogs
-/

namespace Conventions.Agree

variable {a b : Conventions}

theorem firstProposal? (h : a.Agree b) (site : Site) (rules : List Rule) :
    Walk.firstProposal? a site rules = Walk.firstProposal? b site rules := by
  induction rules with
  | nil => rfl
  | cons rule rest ih => simp only [Walk.firstProposal?, h.proposal?, ih]

theorem settle (h : a.Agree b) (descend : Site → Walk Site) (tries : Nat) (rules : List Rule)
    (site : Site) : Walk.settle a descend tries rules site =
      Walk.settle b descend tries rules site := by
  induction tries generalizing rules site with
  | zero => rfl
  | succ tries ih => simp only [Walk.settle, h.firstProposal?, h.examine, ih]

theorem visit (h : a.Agree b) (rules : List Rule) (depth : Nat) :
    Walk.visit a rules depth = Walk.visit b rules depth := by
  induction depth with
  | zero => rfl
  | succ depth ih =>
      funext expr
      simp only [Walk.visit, ih, h.settle]

theorem pass (h : a.Agree b) (rules : List Rule) (fragment : Fragment) :
    fragment.pass a rules = fragment.pass b rules := by
  simp only [Fragment.pass, Walk.visitItems, h.visit, h.settle]

theorem repeatPasses (h : a.Agree b) (rules : List Rule) (allowed : Nat) (fragment : Fragment) :
    Run.repeatPasses a rules allowed fragment = Run.repeatPasses b rules allowed fragment := by
  induction allowed generalizing fragment with
  | zero => simp only [Run.repeatPasses, h.pass]
  | succ allowed ih => simp only [Run.repeatPasses, h.pass, ih]

end Conventions.Agree

def Warning.isAdvice : Warning → Bool
  | .advisory _ _ => true
  | .rejected _ _ => false
  | .passLimit _ => false

def Outcome.withoutAdvice (outcome : Outcome) : Outcome :=
  { outcome with warnings := outcome.warnings.filter fun warning => !warning.isAdvice }

namespace Catalog

variable {a b : Catalog}

theorem withoutAdvice_restyleFragment (catalog : Catalog) (maxPasses : Nat) (fragment : Fragment) :
    (catalog.restyleFragment maxPasses fragment).withoutAdvice =
      let run := catalog.run maxPasses fragment
      { text := run.fragment.render
        applied := run.applied
        rejected := Text.distinct (run.rejected.map (·.1))
        warnings := run.rejections ++ run.limitWarning maxPasses
        passes := run.passes } := by
  have hrejections : (catalog.run maxPasses fragment).rejections.filter
      (fun warning => !warning.isAdvice) = (catalog.run maxPasses fragment).rejections := by
    apply List.filter_eq_self.mpr
    intro warning hwarning
    unfold Run.rejections at hwarning
    rw [List.mem_eraseDups] at hwarning
    rcases List.mem_map.mp hwarning with ⟨_, _, rfl⟩
    rfl
  have hlimit : ((catalog.run maxPasses fragment).limitWarning maxPasses).filter
      (fun warning => !warning.isAdvice) =
        (catalog.run maxPasses fragment).limitWarning maxPasses := by
    unfold Run.limitWarning
    split <;> rfl
  have hadvice : (catalog.advice (catalog.run maxPasses fragment).fragment).filter
      (fun warning => !warning.isAdvice) = [] := by
    apply List.filter_eq_nil_iff.mpr
    intro warning hwarning
    unfold advice at hwarning
    rcases List.mem_flatMap.mp hwarning with ⟨_, _, hwarning⟩
    rcases List.mem_flatMap.mp hwarning with ⟨_, _, hwarning⟩
    rcases List.mem_map.mp hwarning with ⟨_, _, rfl⟩
    exact Bool.false_ne_true
  simp only [Outcome.withoutAdvice, restyleFragment, List.filter_append, hrejections, hlimit,
    hadvice, List.append_nil]

/-- Two catalogs restyle all sources alike, but for what advisory rules have to say. -/
def RestyleAlike (a b : Catalog) : Prop :=
  ∀ (maxPasses : Nat) (source : String),
    (a.restyle maxPasses source).map Outcome.withoutAdvice =
      (b.restyle maxPasses source).map Outcome.withoutAdvice

theorem restyleAlike_of_changingRules (style : a.style.Agree b.style)
    (h : a.changingRules = b.changingRules) : RestyleAlike a b := by
  intro maxPasses source
  have hrun : ∀ fragment : Fragment, a.run maxPasses fragment = b.run maxPasses fragment := by
    intro fragment
    rw [run, run, h, style.repeatPasses]
  have hread : ∀ read : Except SyntaxError Fragment,
      (read.map (a.restyleFragment maxPasses)).map Outcome.withoutAdvice =
        (read.map (b.restyleFragment maxPasses)).map Outcome.withoutAdvice := by
    intro read
    cases read with
    | error error => simp only [Except.map]
    | ok fragment => simp only [Except.map, withoutAdvice_restyleFragment, hrun]
  exact hread (Fragment.parse source)

/-- Catalogs with conventions that agree restyle alike if the rules that change something come in
the same sequence by precedence.  This is so where the priorities of these rules all differ and they
are registered in any order; and it is so where they are registered in the same order, wherever
advisory rules stand among them. -/
theorem restyle_same_precedence (style : a.style.Agree b.style) :
    (∀ sequence : List Rule, Rule.InPrecedence a.rules sequence →
      Rule.InPrecedence b.rules sequence → RestyleAlike a b) ∧
    ((Rule.changing a.rules).Perm (Rule.changing b.rules) →
      (Rule.changing a.rules).Pairwise (fun first second => first.priority ≠ second.priority) →
      RestyleAlike a b) ∧
    (Rule.changing a.rules = Rule.changing b.rules → RestyleAlike a b) := by
  refine ⟨?_, ?_, ?_⟩
  · intro sequence ha hb
    exact restyleAlike_of_changingRules style (changingRules_eq_of_inPrecedence ha hb)
  · intro hperm hdistinct
    exact restyleAlike_of_changingRules style
      (changingRules_eq_of_registered (Rule.ofPriority_of_perm hperm hdistinct))
  · intro hsame
    apply restyleAlike_of_changingRules style
    apply changingRules_eq_of_registered
    intro priority
    rw [hsame]

/-- Two rules of distinct priorities in both orders, with an advisory rule in several places. -/
theorem restyle_same_precedence_swapped :
    let flags : Rule := ⟨"flags", none, 5, true, .bareFlags ["live"]⟩
    let order : Rule := ⟨"order", none, 0, true, .callOrder⟩
    let alike : Rule := ⟨"alike", none, 9, true, .lookalikes 2 none⟩
    let first : Catalog := ⟨{ Config.standard with rules := [flags, order] }, by decide +kernel⟩
    let second : Catalog :=
      ⟨{ Config.standard with rules := [order, alike, flags] }, by decide +kernel⟩
    let third : Catalog :=
      ⟨{ Config.standard with rules := [flags, order, alike] }, by decide +kernel⟩
    (first.style.Agree second.style ∧ first.style.Agree third.style) ∧
      (Rule.InPrecedence first.rules [flags, order] ∧
        Rule.InPrecedence third.rules [flags, order]) ∧
      ((Rule.changing first.rules).Perm (Rule.changing second.rules) ∧
        (Rule.changing first.rules).Pairwise
          fun first second => first.priority ≠ second.priority) ∧
      Rule.changing first.rules = Rule.changing third.rules ∧
      RestyleAlike first second ∧ RestyleAlike first third ∧ RestyleAlike third first := by
  intro flags order alike first second third
  have hsecond : first.style.Agree second.style := Conventions.Agree.refl _
  have hthird : first.style.Agree third.style := Conventions.Agree.refl _
  have hback : third.style.Agree first.style := Conventions.Agree.refl _
  have hsame : Rule.changing first.rules = Rule.changing third.rules := rfl
  have hfirstSequence : Rule.InPrecedence first.rules [flags, order] :=
    ⟨by decide +kernel, fun _ => rfl⟩
  have hthirdSequence : Rule.InPrecedence third.rules [flags, order] :=
    ⟨by decide +kernel, fun _ => rfl⟩
  have hperm : (Rule.changing first.rules).Perm (Rule.changing second.rules) :=
    List.Perm.swap order flags []
  have hdistinct : (Rule.changing first.rules).Pairwise
      fun first second => first.priority ≠ second.priority := by decide +kernel
  refine ⟨⟨hsecond, hthird⟩, ⟨hfirstSequence, hthirdSequence⟩, ⟨hperm, hdistinct⟩, hsame,
    ?_, ?_, ?_⟩
  · exact (restyle_same_precedence hsecond).2.1 hperm hdistinct
  · exact (restyle_same_precedence hthird).1 _ hfirstSequence hthirdSequence
  · exact (restyle_same_precedence hback).2.2 hsame.symm

end Catalog

end FluentStyle
