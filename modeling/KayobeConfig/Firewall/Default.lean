import KayobeConfig.Firewall.Rules

/-!
The rendered default rules: the applicable rules of the enabled rulesets, completed
with zones and without repeats, unless two of them differ in their state alone or
templating fails at a rule without a zone.
-/

namespace Firewall

open Library

def enabledRules (rulesets : List Ruleset) : List Rule :=
  (rulesets.filter Ruleset.enabled).flatMap Ruleset.rules

def completedRules (host : Host) (rulesets : List Ruleset) : List Rule :=
  (enabledRules rulesets).filterMap (completeZone host)

/-- Templating fails at a rule with neither a zone nor a network. -/
def FailsUndefined (undefinedFails : Bool → Bool) (host : Host) (rules : List Rule) : Prop :=
  ∃ before rule after, rules = before ++ rule :: after ∧ completeZone host rule = none ∧
    undefinedFails ((before.filterMap (completeZone host)).any (applicable host)) = true

/-- Two of the rules agree on every key but `state` and disagree on it. -/
def DifferInState (rules : List Rule) : Prop :=
  ∃ rule ∈ rules, ∃ other ∈ rules, withoutState rule = withoutState other ∧ rule ≠ other

def NoConflicts (rules : List Rule) : Prop := ∀ rule ∈ rules, ∀ other ∈ rules, ¬Conflicts rule other

instance (rules : List Rule) : Decidable (NoConflicts rules) :=
  inferInstanceAs (Decidable (∀ rule ∈ rules, ∀ other ∈ rules, ¬Conflicts rule other))

def Formats (host : Host) (completed formatted : List Rule) : Prop :=
  let kept := completed.filter (applicable host)
  (¬DifferInState kept ∧ formatted = unique kept) ∨ (DifferInState kept ∧ failure ∈ formatted)

theorem DifferInState.mono {rules others : List Rule} (subset : rules ⊆ others)
    (differ : DifferInState rules) : DifferInState others := by
  obtain ⟨rule, member, other, among, same, different⟩ := differ
  exact ⟨rule, subset member, other, subset among, same, different⟩

theorem applicable_snoc (host : Host) (completed : List Rule) (rule : Rule) :
    (completed ++ [rule]).filter (applicable host) =
      if applicable host rule then completed.filter (applicable host) ++ [rule]
      else completed.filter (applicable host) := by
  rw [List.filter_append]
  by_cases applies : applicable host rule = true
  · simp [applies]
  · simp [applies]

theorem differInState_snoc {rules : List Rule} {rule : Rule}
    (fresh : withoutState rule ∉ rules.map withoutState) :
    DifferInState (rules ++ [rule]) → DifferInState rules := by
  rintro ⟨first, member, second, among, same, different⟩
  have kindOf {other : Rule} (known : other ∈ rules) : withoutState other ≠ withoutState rule :=
    fun same => fresh (List.mem_map.mpr ⟨other, known, same⟩)
  rw [List.mem_append, List.mem_singleton] at member among
  rcases member with member | rfl
  · rcases among with among | rfl
    · exact ⟨first, member, second, among, same, different⟩
    · exact absurd same (kindOf member)
  · rcases among with among | rfl
    · exact absurd same.symm (kindOf among)
    · exact absurd rfl different

theorem formatZoned_fails {host : Host} {formatted : List Rule} (rule : Rule)
    (failed : failure ∈ formatted) : failure ∈ formatZoned host formatted rule := by
  unfold formatZoned
  split
  · exact failed
  · split
    · exact List.mem_append_left _ failed
    · split
      · exact List.mem_append_left _ failed
      · exact failed

section Step

variable {host : Host} {completed : List Rule} {rule : Rule}

theorem formats_repeated (agree : ¬DifferInState (completed.filter (applicable host)))
    (present : rule ∈ unique (completed.filter (applicable host))) :
    Formats host (completed ++ [rule])
      (formatZoned host (unique (completed.filter (applicable host))) rule) := by
  have kept := (mem_unique _ _).mp present
  left
  rw [applicable_snoc, if_pos (List.of_mem_filter kept), unique_snoc]
  constructor
  · intro differ
    refine agree (differ.mono (List.append_subset.mpr ⟨List.Subset.refl _, ?_⟩))
    simpa using kept
  · unfold formatZoned appendNew
    rw [if_pos present, if_pos present]

theorem formats_conflicting (present : rule ∉ unique (completed.filter (applicable host)))
    (known : withoutState rule ∈ (unique (completed.filter (applicable host))).map withoutState) :
    Formats host (completed ++ [rule])
      (formatZoned host (unique (completed.filter (applicable host))) rule) := by
  obtain ⟨other, member, same⟩ := List.mem_map.mp known
  have kept := (mem_unique _ _).mp member
  right
  rw [applicable_snoc, if_pos ((applicable_congr host same).symm.trans (List.of_mem_filter kept))]
  constructor
  · refine ⟨other, List.mem_append_left _ kept, rule, by simp, same, ?_⟩
    rintro rfl
    exact present member
  · unfold formatZoned
    rw [if_neg present, if_pos known]
    simp

theorem formats_fresh (agree : ¬DifferInState (completed.filter (applicable host)))
    (present : rule ∉ unique (completed.filter (applicable host)))
    (known : withoutState rule ∉ (unique (completed.filter (applicable host))).map withoutState) :
    Formats host (completed ++ [rule])
      (formatZoned host (unique (completed.filter (applicable host))) rule) := by
  have fresh : withoutState rule ∉ (completed.filter (applicable host)).map withoutState := by
    intro met
    obtain ⟨other, member, same⟩ := List.mem_map.mp met
    exact known (List.mem_map.mpr ⟨other, (mem_unique _ _).mpr member, same⟩)
  left
  rw [applicable_snoc]
  unfold formatZoned
  rw [if_neg present, if_neg known]
  by_cases applies : applicable host rule = true
  · rw [if_pos applies, if_pos applies, unique_snoc]
    refine ⟨fun differ => agree (differInState_snoc fresh differ), ?_⟩
    unfold appendNew
    rw [if_neg present]
  · rw [if_neg applies, if_neg applies]
    exact ⟨agree, rfl⟩

theorem formatZoned_formats {formatted : List Rule} (rule : Rule)
    (before : Formats host completed formatted) :
    Formats host (completed ++ [rule]) (formatZoned host formatted rule) := by
  rcases before with ⟨agree, rfl⟩ | ⟨differ, failed⟩
  · by_cases present : rule ∈ unique (completed.filter (applicable host))
    · exact formats_repeated agree present
    · by_cases known : withoutState rule ∈
          (unique (completed.filter (applicable host))).map withoutState
      · exact formats_conflicting present known
      · exact formats_fresh agree present known
  · right
    refine ⟨?_, formatZoned_fails rule failed⟩
    rw [applicable_snoc]
    split
    · exact differ.mono (List.subset_append_left _ _)
    · exact differ

end Step

theorem foldl_formatZoned (host : Host) (completed : List Rule) :
    Formats host completed (completed.foldl (formatZoned host) []) := by
  induction completed using List.reverseRecOn with
  | nil =>
      left
      refine ⟨?_, rfl⟩
      rintro ⟨rule, impossible, _⟩
      cases impossible
  | append_singleton completed rule ih =>
      rw [List.foldl_append, List.foldl_cons, List.foldl_nil]
      exact formatZoned_formats rule ih

theorem formatZoned_isEmpty (host : Host) (formatted : List Rule) (rule : Rule) :
    (formatZoned host formatted rule).isEmpty = (formatted.isEmpty && !applicable host rule) := by
  cases formatted with
  | nil =>
      unfold formatZoned
      cases applies : applicable host rule <;> simp
  | cons first rest =>
      unfold formatZoned
      split
      · rfl
      · split
        · rfl
        · split <;> rfl

theorem foldl_formatZoned_isEmpty (host : Host) (completed : List Rule) :
    (!(completed.foldl (formatZoned host) []).isEmpty) = completed.any (applicable host) := by
  induction completed using List.reverseRecOn with
  | nil => rfl
  | append_singleton completed rule ih =>
      rw [List.foldl_append, List.foldl_cons, List.foldl_nil, formatZoned_isEmpty, List.any_append,
        ← ih, Bool.not_and, Bool.not_not, List.any_cons, List.any_nil, Bool.or_false]

theorem failsUndefined_snoc (undefinedFails : Bool → Bool) (host : Host) (rules : List Rule)
    (rule : Rule) :
    FailsUndefined undefinedFails host (rules ++ [rule]) ↔
      FailsUndefined undefinedFails host rules ∨ (completeZone host rule = none ∧
        undefinedFails ((rules.filterMap (completeZone host)).any (applicable host)) = true) := by
  constructor
  · rintro ⟨before, undefined, after, split, unzoned, fails⟩
    rcases List.eq_nil_or_concat after with rfl | ⟨after, last, rfl⟩
    · obtain ⟨rfl, rfl⟩ := List.append_singleton_inj.mp split
      exact Or.inr ⟨unzoned, fails⟩
    · rw [List.concat_eq_append, ← List.cons_append, ← List.append_assoc] at split
      obtain ⟨rfl, _⟩ := List.append_singleton_inj.mp split
      exact Or.inl ⟨before, undefined, after, rfl, unzoned, fails⟩
  · rintro (⟨before, undefined, after, rfl, unzoned, fails⟩ | ⟨unzoned, fails⟩)
    · exact ⟨before, undefined, after ++ [rule], by simp, unzoned, fails⟩
    · exact ⟨rules, rule, [], rfl, unzoned, fails⟩

/-- The inner loop over all rules fails at the first undefined rule that templating does
not pass over, and formats those with zones otherwise. -/
theorem foldlM_formatRule (undefinedFails : Bool → Bool) (host : Host) (rules : List Rule) :
    FailsUndefined undefinedFails host rules ∧
        rules.foldlM (formatRule undefinedFails host) [] = .error .undefinedNetwork ∨
      ¬FailsUndefined undefinedFails host rules ∧
        rules.foldlM (formatRule undefinedFails host) [] =
          .ok ((rules.filterMap (completeZone host)).foldl (formatZoned host) []) := by
  induction rules using List.reverseRecOn with
  | nil =>
      right
      refine ⟨?_, rfl⟩
      rintro ⟨before, rule, after, split, _⟩
      simp at split
  | append_singleton rules rule ih =>
      rw [failsUndefined_snoc, List.foldlM_append, List.filterMap_append, List.foldl_append]
      rcases ih with ⟨failed, stopped⟩ | ⟨passed, formatted⟩
      · left
        exact ⟨Or.inl failed, by rw [stopped]; rfl⟩
      · rw [formatted, ok_bind]
        simp only [List.foldlM_cons, List.foldlM_nil, bind_pure]
        unfold formatRule
        rw [foldl_formatZoned_isEmpty]
        cases zoned : completeZone host rule with
        | some completed =>
            right
            refine ⟨?_, by simp [zoned]⟩
            rintro (failed | ⟨unzoned, _⟩)
            · exact passed failed
            · cases unzoned
        | none =>
            by_cases fails : undefinedFails
                ((rules.filterMap (completeZone host)).any (applicable host)) = true
            · left
              exact ⟨Or.inr ⟨rfl, fails⟩, if_pos fails⟩
            · right
              constructor
              · rintro (failed | ⟨_, stops⟩)
                · exact passed failed
                · exact fails stops
              · rw [List.filterMap_cons_none zoned]
                exact if_neg fails

theorem foldlM_formatRuleset (undefinedFails : Bool → Bool) (host : Host)
    (rulesets : List Ruleset) (formatted : List Rule) :
    rulesets.foldlM (formatRuleset undefinedFails host) formatted =
      (enabledRules rulesets).foldlM (formatRule undefinedFails host) formatted := by
  induction rulesets generalizing formatted with
  | nil => rfl
  | cons ruleset rulesets ih =>
      rw [List.foldlM_cons]
      unfold formatRuleset enabledRules
      cases enabled : ruleset.enabled with
      | false =>
          rw [List.filter_cons_of_neg (by simp [enabled])]
          exact ih formatted
      | true =>
          rw [List.filter_cons_of_pos enabled, List.flatMap_cons, List.foldlM_append, if_pos rfl]
          exact congrArg _ (funext ih)

theorem completedRules_zone {host : Host} {rulesets : List Ruleset} :
    ∀ rule ∈ completedRules host rulesets, (rule.lookup "zone").isSome := by
  intro rule member
  obtain ⟨original, _, done⟩ := List.mem_filterMap.mp member
  exact completeZone_zone done

theorem rulesDefault_undefined {undefinedFails : Bool → Bool} {host : Host}
    {rulesets : List Ruleset}
    (fails : FailsUndefined undefinedFails host (enabledRules rulesets)) :
    rulesDefault undefinedFails host rulesets = .error .undefinedNetwork := by
  rcases foldlM_formatRule undefinedFails host (enabledRules rulesets) with
    ⟨_, stopped⟩ | ⟨passed, _⟩
  · unfold rulesDefault
    rw [foldlM_formatRuleset, stopped]
    rfl
  · exact absurd fails passed

/-- Where templating passes every undefined rule, it fails exactly when two applicable
rules differ in their state alone, and renders to the applicable rules otherwise. -/
theorem rulesDefault_completed {undefinedFails : Bool → Bool} {host : Host}
    {rulesets : List Ruleset}
    (passes : ¬FailsUndefined undefinedFails host (enabledRules rulesets)) :
    DifferInState ((completedRules host rulesets).filter (applicable host)) ∧
        rulesDefault undefinedFails host rulesets = .error .conflictingRules ∨
      ¬DifferInState ((completedRules host rulesets).filter (applicable host)) ∧
        rulesDefault undefinedFails host rulesets =
          .ok (unique ((completedRules host rulesets).filter (applicable host))) := by
  have looped : rulesets.foldlM (formatRuleset undefinedFails host) [] =
      .ok ((completedRules host rulesets).foldl (formatZoned host) []) := by
    rw [foldlM_formatRuleset]
    rcases foldlM_formatRule undefinedFails host (enabledRules rulesets) with
      ⟨fails, _⟩ | ⟨_, formatted⟩
    · exact absurd fails passes
    · exact formatted
  unfold rulesDefault
  rw [looped, ok_bind]
  rcases foldl_formatZoned host (completedRules host rulesets) with ⟨agree, same⟩ | ⟨differ, failed⟩
  · right
    refine ⟨agree, ?_⟩
    rw [same, if_neg]
    · rfl
    · intro failed
      rw [mem_unique] at failed
      have zone := completedRules_zone failure (List.mem_of_mem_filter failed)
      rw [failure_zone] at zone
      cases zone
  · left
    exact ⟨differ, if_pos failed⟩

/-- A rendered list never has conflicting rules exactly when either nothing is rendered
(templating fails at an undefined rule, or two applicable rules differ in their state
alone), or no applicable rules conflict. -/
theorem rulesDefault_noConflicts_iff (undefinedFails : Bool → Bool) (host : Host)
    (rulesets : List Ruleset) :
    (∀ rendered, rulesDefault undefinedFails host rulesets = .ok rendered → NoConflicts rendered) ↔
      FailsUndefined undefinedFails host (enabledRules rulesets) ∨
        DifferInState ((completedRules host rulesets).filter (applicable host)) ∨
        NoConflicts ((completedRules host rulesets).filter (applicable host)) := by
  have noConflicts_unique (rules : List Rule) : NoConflicts (unique rules) ↔ NoConflicts rules := by
    simp only [NoConflicts, mem_unique]
  by_cases fails : FailsUndefined undefinedFails host (enabledRules rulesets)
  · refine iff_of_true ?_ (Or.inl fails)
    intro rendered done
    rw [rulesDefault_undefined fails] at done
    cases done
  · rw [or_iff_right fails]
    rcases rulesDefault_completed fails with ⟨differ, failed⟩ | ⟨agree, same⟩
    · refine iff_of_true ?_ (Or.inl differ)
      intro rendered done
      rw [failed] at done
      cases done
    · rw [or_iff_right agree, ← noConflicts_unique]
      constructor
      · intro consistent
        exact consistent _ same
      · intro consistent rendered done
        rw [same] at done
        cases done
        exact consistent

def sharedZoneHost : Host where
  networkInterfaces := [.text "storage", .text "storage_mgmt"]
  netZone _ := .text "trusted"

def sharedZoneRulesets : List Ruleset :=
  [⟨[ruleOf [("service", "ceph"), ("network", "storage"), ("state", "enabled")],
    ruleOf [("service", "ceph"), ("network", "storage_mgmt"), ("state", "disabled")]], true⟩]

theorem rulesDefault_conflict_rendered :
    ¬∀ rendered, rulesDefault (fun _ => true) sharedZoneHost sharedZoneRulesets = .ok rendered →
      NoConflicts rendered := by
  intro consistent
  have conflicting : ∃ rendered ∈
      (rulesDefault (fun _ => true) sharedZoneHost sharedZoneRulesets).toOption,
      ¬NoConflicts rendered := by
    decide
  obtain ⟨rendered, found, conflict⟩ := conflicting
  cases done : rulesDefault (fun _ => true) sharedZoneHost sharedZoneRulesets with
  | error failure =>
      rw [done] at found
      cases found
  | ok result =>
      rw [done] at found
      cases found
      exact conflict (consistent _ done)

end Firewall
