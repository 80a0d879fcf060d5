import KayobeConfig.Firewall.Rules

/-!
Whether extra rules take precedence over default rules. The template leaves out a
default rule only when some extra rule agrees with it on every key but `state`, so
a default rule with a `network` key survives an extra rule that has none.
-/

namespace Firewall

open Library

abbrev SameKind (rule other : Rule) : Prop := withoutState rule = withoutState other

def firstOfKind (rules : List Rule) (rule : Rule) : Option Rule :=
  rules.find? fun other => SameKind other rule

structure Added (host : Host) (extra default : List Rule) (rule : Rule) : Prop where
  applies : applicable host rule = true
  unmatched : ∀ other ∈ extra, ¬SameKind other rule
  first : firstOfKind default rule = some rule

structure ExtraTakesPrecedence (extra rendered : List Rule) : Prop where
  kept : extra ⊆ rendered
  unopposed : ∀ rule ∈ rendered, rule ∉ extra → ∀ other ∈ extra, ¬Conflicts rule other
  applied : ∀ rule ∈ extra, ∀ about, slot rule = some about →
    finalState rendered about = finalState extra about

theorem mem_kinds {rules : List Rule} {rule : Rule} :
    withoutState rule ∈ rules.map withoutState ↔ ∃ other ∈ rules, SameKind other rule :=
  List.mem_map

theorem firstOfKind_some {rules : List Rule} {rule first : Rule}
    (found : firstOfKind rules rule = some first) : first ∈ rules ∧ SameKind first rule :=
  ⟨List.mem_of_find?_eq_some found, by simpa using List.find?_some found⟩

theorem firstOfKind_congr (rules : List Rule) {rule other : Rule} (same : SameKind rule other) :
    firstOfKind rules rule = firstOfKind rules other := by
  have equal : withoutState rule = withoutState other := same
  unfold firstOfKind
  simp only [SameKind, equal]

theorem firstOfKind_snoc (rules : List Rule) (last rule : Rule) :
    firstOfKind (rules ++ [last]) rule =
      (firstOfKind rules rule).or (if SameKind last rule then some last else none) := by
  unfold firstOfKind
  rw [List.find?_append, List.find?_singleton]
  simp only [decide_eq_true_eq]

theorem firstOfKind_self {rules : List Rule} {rule first : Rule}
    (found : firstOfKind rules rule = some first) : firstOfKind rules first = some first := by
  rw [firstOfKind_congr rules (firstOfKind_some found).2, found]

theorem Added.of_first {host : Host} {extra default : List Rule} {rule first : Rule}
    (found : firstOfKind default rule = some first) (applies : applicable host rule = true)
    (unmatched : ∀ other ∈ extra, ¬SameKind other rule) : Added host extra default first := by
  have same := (firstOfKind_some found).2
  refine ⟨by rw [applicable_congr host same, applies], ?_, firstOfKind_self found⟩
  intro other member alike
  exact unmatched other member (alike.trans same)

theorem added_snoc (host : Host) (extra default : List Rule) (last rule : Rule) :
    Added host extra (default ++ [last]) rule ↔
      Added host extra default rule ∨ rule = last ∧ applicable host last = true ∧
        (∀ other ∈ extra, ¬SameKind other last) ∧ firstOfKind default last = none := by
  constructor
  · intro ⟨applies, unmatched, first⟩
    rw [firstOfKind_snoc] at first
    rcases Option.or_eq_some_iff.mp first with earlier | ⟨missing, isLast⟩
    · exact Or.inl ⟨applies, unmatched, earlier⟩
    · split at isLast
      · cases isLast
        exact Or.inr ⟨rfl, applies, unmatched, missing⟩
      · cases isLast
  · rintro (⟨applies, unmatched, first⟩ | ⟨rfl, applies, unmatched, missing⟩)
    · exact ⟨applies, unmatched, by rw [firstOfKind_snoc, first, Option.some_or]⟩
    · refine ⟨applies, unmatched, ?_⟩
      rw [firstOfKind_snoc, missing, Option.none_or, if_pos]
      rfl

theorem addRule_added {host : Host} {extra default added : List Rule}
    (members : ∀ rule, rule ∈ added ↔ Added host extra default rule) (last : Rule) :
    ∃ next, addRule host (extra ++ added) last = extra ++ next ∧
      ∀ rule, rule ∈ next ↔ Added host extra (default ++ [last]) rule := by
  unfold addRule
  split
  · rename_i present
    obtain ⟨other, member, same⟩ := mem_kinds.mp present
    refine ⟨added, rfl, ?_⟩
    intro rule
    rw [added_snoc, members]
    refine ⟨Or.inl, ?_⟩
    rintro (earlier | ⟨_, _, unmatched, missing⟩)
    · exact earlier
    · rcases List.mem_append.mp member with isExtra | isAdded
      · exact absurd same (unmatched other isExtra)
      · have first := ((members other).mp isAdded).first
        rw [firstOfKind_congr default same, missing] at first
        cases first
  · rename_i absent
    have fresh : ∀ other ∈ extra ++ added, ¬SameKind other last :=
      fun other member same => absent (mem_kinds.mpr ⟨other, member, same⟩)
    have unmatched : ∀ other ∈ extra, ¬SameKind other last :=
      fun other member => fresh other (List.mem_append_left added member)
    split
    · rename_i applies
      have missing : firstOfKind default last = none := by
        cases found : firstOfKind default last with
        | none => rfl
        | some first =>
            have isAdded := (members first).mpr (Added.of_first found applies unmatched)
            exact absurd (firstOfKind_some found).2 (fresh first (List.mem_append_right extra isAdded))
      refine ⟨added ++ [last], List.append_assoc extra added [last], ?_⟩
      intro rule
      rw [added_snoc, List.mem_append, List.mem_singleton, members]
      exact or_congr_right ⟨fun same => ⟨same, applies, unmatched, missing⟩, And.left⟩
    · rename_i inapplicable
      refine ⟨added, rfl, ?_⟩
      intro rule
      rw [added_snoc, members]
      refine ⟨Or.inl, ?_⟩
      rintro (earlier | ⟨_, applies, _⟩)
      · exact earlier
      · exact absurd applies inapplicable

theorem foldl_addRule (host : Host) (extra default : List Rule) :
    ∃ added, default.foldl (addRule host) extra = extra ++ added ∧
      ∀ rule, rule ∈ added ↔ Added host extra default rule := by
  induction default using List.reverseRecOn with
  | nil =>
      refine ⟨[], by simp, ?_⟩
      intro rule
      constructor
      · intro impossible
        cases impossible
      · intro ⟨_, _, first⟩
        cases first
  | append_singleton default last ih =>
      obtain ⟨added, looped, members⟩ := ih
      rw [List.foldl_append, List.foldl_cons, List.foldl_nil, looped]
      exact addRule_added members last

theorem rules_added (host : Host) (extra default : List Rule) :
    ∃ added, rules host extra default = extra ++ added ∧
      ∀ rule, rule ∈ added ↔ Added host extra default rule := by
  obtain ⟨added, looped, members⟩ := foldl_addRule host extra (unique default)
  refine ⟨added, looped, ?_⟩
  intro rule
  rw [members]
  have first : firstOfKind (unique default) rule = firstOfKind default rule := find?_unique _ default
  constructor
  · intro ⟨applies, unmatched, found⟩
    exact ⟨applies, unmatched, first ▸ found⟩
  · intro ⟨applies, unmatched, found⟩
    exact ⟨applies, unmatched, first.symm ▸ found⟩

theorem Added.not_extra {host : Host} {extra default : List Rule} {rule : Rule}
    (added : Added host extra default rule) : rule ∉ extra :=
  fun member => added.unmatched rule member rfl

theorem finalState_append {extra added : List Rule} {rule : Rule} {about : Slot}
    (member : rule ∈ extra) (named : slot rule = some about)
    (unopposed : ∀ later ∈ added, ∀ other ∈ extra, ¬Conflicts later other) :
    finalState (extra ++ added) about = finalState extra about := by
  unfold finalState
  rw [List.filter_append]
  cases last : (added.filter fun rule => slot rule = some about).getLast? with
  | none =>
      rw [List.getLast?_eq_none_iff.mp last, List.append_nil]
  | some later =>
      have found := List.mem_of_getLast? last
      simp only [List.mem_filter, decide_eq_true_eq] at found
      have agrees : ∀ other ∈ extra, slot other = some about → state other = state later := by
        intro other among same
        by_contra different
        exact unopposed later found.1 other among
          ⟨by simp [found.2], by rw [found.2, same], fun equal => different equal.symm⟩
      cases before : (extra.filter fun rule => slot rule = some about).getLast? with
      | none =>
          have empty := List.getLast?_eq_none_iff.mp before
          have inside : rule ∈ extra.filter fun rule => slot rule = some about := by
            simp [member, named]
          rw [empty] at inside
          cases inside
      | some earlier =>
          have known := List.mem_of_getLast? before
          simp only [List.mem_filter, decide_eq_true_eq] at known
          rw [List.getLast?_append, last, Option.some_or, Option.bind_some, Option.bind_some]
          exact (agrees earlier known.1 known.2).symm

/-- Extra rules take precedence exactly when every applicable default rule that one of
them opposes, and that is the first of its kind, is of the kind of some extra rule. -/
theorem rules_extraTakesPrecedence_iff (host : Host) (extra default : List Rule) :
    ExtraTakesPrecedence extra (rules host extra default) ↔
      ∀ rule ∈ default, applicable host rule = true → firstOfKind default rule = some rule →
        (∃ other ∈ extra, Conflicts rule other) → ∃ other ∈ extra, SameKind other rule := by
  obtain ⟨added, rendered, members⟩ := rules_added host extra default
  rw [rendered]
  constructor
  · intro precedence rule _ applies first ⟨other, among, opposed⟩
    by_contra unmatched
    simp only [not_exists, not_and] at unmatched
    have isAdded : Added host extra default rule := ⟨applies, unmatched, first⟩
    exact precedence.unopposed rule (List.mem_append_right extra ((members rule).mpr isAdded))
      isAdded.not_extra other among opposed
  · intro matched
    have unopposed : ∀ later ∈ added, ∀ other ∈ extra, ¬Conflicts later other := by
      intro later member other among opposed
      obtain ⟨applies, unmatched, first⟩ := (members later).mp member
      obtain ⟨extraRule, isExtra, same⟩ :=
        matched later (firstOfKind_some first).1 applies first ⟨other, among, opposed⟩
      exact unmatched extraRule isExtra same
    refine ⟨List.subset_append_left extra added, ?_, ?_⟩
    · intro rule member isDefault
      exact unopposed rule ((List.mem_append.mp member).resolve_left isDefault)
    · intro rule member about named
      exact finalState_append member named unopposed

def adminHost : Host where
  networkInterfaces := [.text "admin_oc"]
  netZone network := if network = .text "admin_oc" then .text "trusted" else .none

def defaultSsh : Rule :=
  ruleOf [("service", "ssh"), ("network", "admin_oc"), ("state", "enabled"), ("zone", "trusted")]

def extraSsh : Rule := ruleOf [("service", "ssh"), ("zone", "trusted"), ("state", "disabled")]

theorem rules_extra_overridden :
    ¬ExtraTakesPrecedence [extraSsh] (rules adminHost [extraSsh] [defaultSsh]) := by
  intro precedence
  have rendered : defaultSsh ∈ rules adminHost [extraSsh] [defaultSsh] := by decide
  have isDefault : defaultSsh ∉ [extraSsh] := by decide
  exact precedence.unopposed defaultSsh rendered isDefault extraSsh List.mem_cons_self (by decide)

end Firewall
