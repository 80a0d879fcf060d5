import Mathlib.Data.List.Perm.Basic
import KayobeConfig.Firewall.Default

/-!
The default rules against a specification that knows no order: which rules clash is a
matter of pairs of rules, each read on its own.
-/

namespace Firewall

open Library

def Placed (rule : Rule) : Prop := (rule.lookup "network").isSome ∨ (rule.lookup "zone").isSome

instance (rule : Rule) : Decidable (Placed rule) := inferInstanceAs (Decidable (_ ∨ _))

def inferZone (host : Host) (rule : Rule) : Rule :=
  match rule.lookup "zone", rule.lookup "network" with
  | none, some network => rule.insert "zone" (host.netZone network)
  | _, _ => rule

structure Clash (host : Host) (rule other : Rule) : Prop where
  agree : ∀ key, key ≠ "state" →
    (inferZone host rule).lookup key = (inferZone host other).lookup key
  disagree : rule.lookup "state" ≠ other.lookup "state"

def Clashing (host : Host) (rulesets : List Ruleset) : Prop :=
  ∃ rule ∈ enabledRules rulesets, ∃ other ∈ enabledRules rulesets,
    applicable host rule = true ∧ applicable host other = true ∧ Clash host rule other

/-- The rules to render: applicable, with zones, in template order, each once. -/
def specifiedRules (host : Host) (rulesets : List Ruleset) : List Rule :=
  unique (((enabledRules rulesets).filter (applicable host)).map (inferZone host))

def Reordered (rulesets others : List Ruleset) : Prop :=
  ∃ middle, rulesets.Perm middle ∧ List.Forall₂
    (fun ruleset other => ruleset.enabled = other.enabled ∧ ruleset.rules.Perm other.rules) middle others

theorem inferZone_lookup (host : Host) (rule : Rule) {key : String} (other : key ≠ "zone") :
    (inferZone host rule).lookup key = rule.lookup key := by
  unfold inferZone
  split
  · exact Finmap.lookup_insert_of_ne rule other
  · rfl

theorem inferZone_applicable (host : Host) (rule : Rule) :
    applicable host (inferZone host rule) = applicable host rule := by
  unfold applicable
  rw [inferZone_lookup host rule (by decide)]

theorem completeZone_placed {host : Host} {rule : Rule} (placed : Placed rule) :
    completeZone host rule = some (inferZone host rule) := by
  unfold completeZone inferZone
  cases zone : rule.lookup "zone" with
  | some zone => rfl
  | none =>
      cases network : rule.lookup "network" with
      | some network => rfl
      | none =>
          rcases placed with onNetwork | inZone
          · simp [network] at onNetwork
          · simp [zone] at inZone

theorem withoutState_eq_iff (rule other : Rule) :
    withoutState rule = withoutState other ↔
      ∀ key, key ≠ "state" → rule.lookup key = other.lookup key := by
  constructor
  · intro same key differs
    have looked : (withoutState rule).lookup key = (withoutState other).lookup key := by rw [same]
    unfold withoutState at looked
    rwa [Finmap.lookup_erase_ne differs, Finmap.lookup_erase_ne differs] at looked
  · intro agree
    apply Finmap.ext_lookup
    intro key
    unfold withoutState
    by_cases isState : key = "state"
    · rw [isState, Finmap.lookup_erase, Finmap.lookup_erase]
    · rw [Finmap.lookup_erase_ne isState, Finmap.lookup_erase_ne isState, agree key isState]

theorem clash_iff (host : Host) (rule other : Rule) :
    Clash host rule other ↔
      withoutState (inferZone host rule) = withoutState (inferZone host other) ∧
        inferZone host rule ≠ inferZone host other := by
  have stateOf (rule : Rule) : (inferZone host rule).lookup "state" = rule.lookup "state" :=
    inferZone_lookup host rule (by decide)
  rw [withoutState_eq_iff]
  constructor
  · intro clash
    refine ⟨clash.agree, ?_⟩
    intro same
    apply clash.disagree
    rw [← stateOf rule, same, stateOf other]
  · intro ⟨agree, different⟩
    refine ⟨agree, ?_⟩
    intro sameState
    apply different
    apply Finmap.ext_lookup
    intro key
    by_cases isState : key = "state"
    · rw [isState, stateOf, stateOf, sameState]
    · exact agree key isState

theorem completedRules_placed (host : Host) {rulesets : List Ruleset}
    (placed : ∀ rule ∈ enabledRules rulesets, Placed rule) :
    completedRules host rulesets = (enabledRules rulesets).map (inferZone host) := by
  unfold completedRules
  rw [← List.filterMap_eq_map]
  apply List.filterMap_congr
  intro rule member
  exact completeZone_placed (placed rule member)

theorem not_failsUndefined (undefinedFails : Bool → Bool) (host : Host) {rules : List Rule}
    (placed : ∀ rule ∈ rules, Placed rule) : ¬FailsUndefined undefinedFails host rules := by
  rintro ⟨before, rule, after, rfl, unzoned, _⟩
  rw [completeZone_placed (placed rule (by simp))] at unzoned
  cases unzoned

theorem filter_applicable_map (host : Host) (rules : List Rule) :
    (rules.map (inferZone host)).filter (applicable host) =
      (rules.filter (applicable host)).map (inferZone host) := by
  rw [List.filter_map]
  congr 1
  apply List.filter_congr
  intro rule _
  exact inferZone_applicable host rule

theorem differInState_iff_clashing (host : Host) (rulesets : List Ruleset) :
    DifferInState (((enabledRules rulesets).filter (applicable host)).map (inferZone host)) ↔
      Clashing host rulesets := by
  constructor
  · rintro ⟨_, member, _, among, same, different⟩
    obtain ⟨rule, kept, rfl⟩ := List.mem_map.mp member
    obtain ⟨other, keptToo, rfl⟩ := List.mem_map.mp among
    rw [List.mem_filter] at kept keptToo
    exact ⟨rule, kept.1, other, keptToo.1, kept.2, keptToo.2,
      (clash_iff host rule other).mpr ⟨same, different⟩⟩
  · rintro ⟨rule, member, other, among, applies, appliesToo, clash⟩
    obtain ⟨same, different⟩ := (clash_iff host rule other).mp clash
    exact ⟨_, List.mem_map_of_mem (List.mem_filter.mpr ⟨member, applies⟩),
      _, List.mem_map_of_mem (List.mem_filter.mpr ⟨among, appliesToo⟩), same, different⟩

theorem Reordered.enabledRules_perm {rulesets others : List Ruleset}
    (reordered : Reordered rulesets others) : (enabledRules rulesets).Perm (enabledRules others) := by
  obtain ⟨middle, permuted, inside⟩ := reordered
  have outer : (enabledRules rulesets).Perm (enabledRules middle) :=
    (permuted.filter Ruleset.enabled).flatMap_right Ruleset.rules
  refine outer.trans ?_
  clear permuted outer
  unfold enabledRules
  induction inside with
  | nil => exact List.Perm.nil
  | @cons ruleset other middle others alike _ ih =>
      cases enabled : other.enabled with
      | false =>
          rw [List.filter_cons_of_neg (by simp [alike.1, enabled]),
            List.filter_cons_of_neg (by simp [enabled])]
          exact ih
      | true =>
          rw [List.filter_cons_of_pos (alike.1.trans enabled), List.filter_cons_of_pos enabled,
            List.flatMap_cons, List.flatMap_cons]
          exact alike.2.append ih

theorem Clashing.perm {host : Host} {rulesets others : List Ruleset}
    (permuted : (enabledRules rulesets).Perm (enabledRules others))
    (clashing : Clashing host rulesets) : Clashing host others := by
  obtain ⟨rule, member, other, among, clash⟩ := clashing
  exact ⟨rule, permuted.subset member, other, permuted.subset among, clash⟩

section Default

variable (undefinedFails : Bool → Bool) (host : Host)

theorem rulesDefault_specified {rulesets : List Ruleset}
    (placed : ∀ rule ∈ enabledRules rulesets, Placed rule) :
    Clashing host rulesets ∧
        rulesDefault undefinedFails host rulesets = .error .conflictingRules ∨
      ¬Clashing host rulesets ∧
        rulesDefault undefinedFails host rulesets = .ok (specifiedRules host rulesets) := by
  have rendered := rulesDefault_completed (not_failsUndefined undefinedFails host placed)
  rw [completedRules_placed host placed, filter_applicable_map, differInState_iff_clashing]
    at rendered
  exact rendered

theorem rulesDefault_fails_iff {rulesets : List Ruleset}
    (placed : ∀ rule ∈ enabledRules rulesets, Placed rule) :
    (∃ failure, rulesDefault undefinedFails host rulesets = .error failure) ↔
      Clashing host rulesets := by
  rcases rulesDefault_specified undefinedFails host placed with ⟨clashing, failed⟩ | ⟨agree, done⟩
  · exact ⟨fun _ => clashing, fun _ => ⟨_, failed⟩⟩
  · constructor
    · rintro ⟨failure, failed⟩
      rw [done] at failed
      cases failed
    · intro clashing
      exact absurd clashing agree

/-- The default rules fail to render exactly when two applicable rules clash, render as
specified otherwise, and whether they fail depends on no order. -/
theorem rulesDefault_meets_specification (rulesets : List Ruleset)
    (placed : ∀ ruleset ∈ rulesets, ∀ rule ∈ ruleset.rules, Placed rule) :
    ((∃ failure, rulesDefault undefinedFails host rulesets = .error failure) ↔
        Clashing host rulesets) ∧
      (¬Clashing host rulesets →
        rulesDefault undefinedFails host rulesets = .ok (specifiedRules host rulesets)) ∧
      ∀ others, Reordered rulesets others →
        ((∃ failure, rulesDefault undefinedFails host others = .error failure) ↔
          ∃ failure, rulesDefault undefinedFails host rulesets = .error failure) := by
  have enabledPlaced : ∀ rule ∈ enabledRules rulesets, Placed rule := by
    intro rule member
    obtain ⟨ruleset, among, inside⟩ := List.mem_flatMap.mp member
    exact placed ruleset (List.mem_of_mem_filter among) rule inside
  refine ⟨rulesDefault_fails_iff undefinedFails host enabledPlaced, ?_, ?_⟩
  · intro agree
    rcases rulesDefault_specified undefinedFails host enabledPlaced with ⟨clashing, _⟩ | ⟨_, done⟩
    · exact absurd clashing agree
    · exact done
  · intro others reordered
    have permuted := reordered.enabledRules_perm
    have othersPlaced : ∀ rule ∈ enabledRules others, Placed rule :=
      fun rule member => enabledPlaced rule (permuted.symm.subset member)
    rw [rulesDefault_fails_iff undefinedFails host othersPlaced,
      rulesDefault_fails_iff undefinedFails host enabledPlaced]
    exact ⟨Clashing.perm permuted.symm, Clashing.perm permuted⟩

end Default

theorem rulesDefault_meets_specification_sharedZone :
    (∃ failure,
        rulesDefault (fun _ => true) sharedZoneHost sharedZoneRulesets = .error failure) ↔
      Clashing sharedZoneHost sharedZoneRulesets :=
  (rulesDefault_meets_specification (fun _ => true) sharedZoneHost sharedZoneRulesets
    (by decide)).1

end Firewall
