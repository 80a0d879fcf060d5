import Mathlib.Data.List.Chain
import Mathlib.Data.List.Perm.Basic
import Mathlib.Data.List.Nodup

/-!
Rules that rewrite one value in turn: when every order of the rules gives the same result,
for rules that always lead forward and for rules that assign a constant.
-/

namespace Library

variable {α σ : Type*}

def applyRule (rewrite : α → σ → Option σ) (state : σ) (rule : α) : σ :=
  (rewrite rule state).getD state

def applyRules (rewrite : α → σ → Option σ) (state : σ) (rules : List α) : σ :=
  rules.foldl (applyRule rewrite) state

def AlwaysYields (rewrite : α → σ → Option σ) (rules : List α) (start target : σ) : Prop :=
  ∀ order : List α, order.Perm rules → applyRules rewrite start order = target

theorem applyRules_cons (rewrite : α → σ → Option σ) (state : σ) (rule : α) (rules : List α) :
    applyRules rewrite state (rule :: rules) =
      applyRules rewrite (applyRule rewrite state rule) rules := rfl

theorem applyRules_append (rewrite : α → σ → Option σ) (state : σ) (first second : List α) :
    applyRules rewrite state (first ++ second) =
      applyRules rewrite (applyRules rewrite state first) second :=
  List.foldl_append

theorem applyRules_of_none {rewrite : α → σ → Option σ} {state : σ} {rules : List α}
    (idle : ∀ rule ∈ rules, rewrite rule state = none) : applyRules rewrite state rules = state := by
  induction rules with
  | nil => rfl
  | cons rule rules ih =>
      rw [List.forall_mem_cons] at idle
      rw [applyRules_cons, applyRule, idle.1]
      exact ih idle.2

/-- Whichever rule comes first reaches the target, and no other rule leaves it. -/
theorem alwaysYields_of_once {rewrite : α → σ → Option σ} {rules : List α} (distinct : rules.Nodup)
    {start target : σ} (found : ∃ rule ∈ rules, rewrite rule start ≠ none)
    (settles : ∀ rule ∈ rules, ∀ next, rewrite rule start = some next →
      next = target ∧ ∀ other ∈ rules, other ≠ rule → rewrite other target = none) :
    AlwaysYields rewrite rules start target := by
  obtain ⟨rule, member, applies⟩ := found
  intro order shuffled
  have once : order.Nodup := shuffled.nodup_iff.mpr distinct
  have listed : ∀ rule ∈ order, rule ∈ rules := fun _ => shuffled.mem_iff.mp
  have found : ∃ rule ∈ order, rewrite rule start ≠ none :=
    ⟨rule, shuffled.mem_iff.mpr member, applies⟩
  clear shuffled applies member
  induction order with
  | nil => simp at found
  | cons first order ih =>
      rw [List.nodup_cons] at once
      rw [List.forall_mem_cons] at listed
      rw [applyRules_cons, applyRule]
      cases here : rewrite first start with
      | none =>
          apply ih once.2 listed.2
          obtain ⟨rule, member, applies⟩ := found
          rcases List.mem_cons.mp member with same | later
          · subst same
            exact absurd here applies
          · exact ⟨rule, later, applies⟩
      | some next =>
          obtain ⟨reached, idle⟩ := settles first listed.1 next here
          subst reached
          apply applyRules_of_none
          intro other member
          apply idle other (listed.2 other member)
          intro same
          exact once.1 (same ▸ member)

section Forward

variable {rewrite : α → σ → Option σ} {rules : List α} {before : σ → σ → Prop}
  (irreflexive : ∀ state, ¬before state state)
  (transitive : ∀ first second third, before first second → before second third → before first third)
  (progress : ∀ rule ∈ rules, ∀ state next, rewrite rule state = some next → before state next)

include transitive in
theorem applyRules_forward
    (progress : ∀ rule ∈ rules, ∀ state next, rewrite rule state = some next → before state next)
    (state : σ) : (∀ rule ∈ rules, rewrite rule state = none) ∨
      before state (applyRules rewrite state rules) := by
  induction rules generalizing state with
  | nil => simp
  | cons rule rules ih =>
      rw [List.forall_mem_cons] at progress
      have later := ih progress.2
      rw [applyRules_cons, applyRule]
      cases here : rewrite rule state with
      | none =>
          rcases later state with idle | forward
          · left
            rw [List.forall_mem_cons]
            exact ⟨here, idle⟩
          · exact .inr forward
      | some next =>
          right
          have first := progress.1 state next here
          rcases later next with idle | forward
          · rw [Option.getD_some, applyRules_of_none idle]
            exact first
          · exact transitive state next _ first forward

include irreflexive transitive progress

theorem applyRules_eq_self_iff (state : σ) :
    applyRules rewrite state rules = state ↔ ∀ rule ∈ rules, rewrite rule state = none := by
  constructor
  · intro same
    rcases applyRules_forward transitive progress state with idle | forward
    · exact idle
    · rw [same] at forward
      exact absurd forward (irreflexive state)
  · exact applyRules_of_none

theorem alwaysYields_self_iff (state : σ) :
    AlwaysYields rewrite rules state state ↔ ∀ rule ∈ rules, rewrite rule state = none := by
  constructor
  · intro always
    have same := always rules (List.Perm.refl rules)
    exact (applyRules_eq_self_iff irreflexive transitive progress state).mp same
  · intro idle order shuffled
    exact applyRules_of_none fun rule member => idle rule (shuffled.mem_iff.mp member)

/-- A target with nothing between it and the start is reached by one rule, and by one only. -/
theorem alwaysYields_next_iff [DecidableEq α] (distinct : rules.Nodup) {start target : σ}
    (ahead : before start target) (adjacent : ∀ state, before start state → ¬before state target) :
    AlwaysYields rewrite rules start target ↔
      (∃ rule ∈ rules, rewrite rule start ≠ none) ∧
        ∀ rule ∈ rules, ∀ next, rewrite rule start = some next →
          next = target ∧ ∀ other ∈ rules, other ≠ rule → rewrite other target = none := by
  constructor
  · intro always
    constructor
    · by_contra none
      push Not at none
      have same := always rules (List.Perm.refl rules)
      rw [applyRules_of_none none] at same
      rw [same] at ahead
      exact irreflexive target ahead
    · intro rule member next applied
      have shuffled : (rule :: rules.erase rule).Perm rules := (List.perm_cons_erase member).symm
      have result := always _ shuffled
      have left : ∀ other ∈ rules.erase rule, ∀ state next, rewrite other state = some next →
          before state next := fun other listed => progress other (List.mem_of_mem_erase listed)
      rw [applyRules_cons, applyRule, applied, Option.getD_some] at result
      have here : next = target := by
        rcases applyRules_forward transitive left next with idle | forward
        · rw [applyRules_of_none idle] at result
          exact result
        · rw [result] at forward
          exact absurd forward (adjacent next (progress rule member start next applied))
      subst here
      refine ⟨rfl, ?_⟩
      have idle := (applyRules_eq_self_iff irreflexive transitive left next).mp result
      intro other listed different
      exact idle other ((List.mem_erase_of_ne different).mpr listed)
  · rintro ⟨found, settles⟩
    exact alwaysYields_of_once distinct found settles

end Forward

section Assignments

variable (applies : α → σ → Bool) (value : α → σ)

def assignment (rule : α) (state : σ) : Option σ :=
  if applies rule state then some (value rule) else none

/-- Rules that apply one after another from a state on. -/
def Chained : σ → List α → Prop
  | _, [] => True
  | state, rule :: path => applies rule state ∧ Chained (value rule) path

/-- The states that a path passes, the first one included. -/
def passed (state : σ) (path : List α) : List σ := state :: path.map value

variable {applies value}

theorem applyRule_assignment (state : σ) (rule : α) :
    applyRule (assignment applies value) state rule =
      if applies rule state then value rule else state := by
  unfold applyRule assignment
  split <;> rfl

theorem applyRules_ne {rules : List α} {target : σ} (wrong : ∀ rule ∈ rules, value rule ≠ target)
    {state : σ} (different : state ≠ target) :
    applyRules (assignment applies value) state rules ≠ target := by
  induction rules generalizing state with
  | nil => exact different
  | cons rule rules ih =>
      rw [List.forall_mem_cons] at wrong
      rw [applyRules_cons, applyRule_assignment]
      apply ih wrong.2
      split
      · exact wrong.1
      · exact different

theorem applyRules_target {rules : List α} {target : σ}
    (kept : ∀ rule ∈ rules, applies rule target → value rule = target) :
    applyRules (assignment applies value) target rules = target := by
  induction rules with
  | nil => rfl
  | cons rule rules ih =>
      rw [List.forall_mem_cons] at kept
      rw [applyRules_cons, applyRule_assignment]
      split
      · rename_i applied
        rw [kept.1 applied]
        exact ih kept.2
      · exact ih kept.2

/-- The rules of a list that apply when their turn comes. -/
def applied (applies : α → σ → Bool) (value : α → σ) : σ → List α → List α
  | _, [] => []
  | state, rule :: rules =>
      if applies rule state then rule :: applied applies value (value rule) rules
      else applied applies value state rules

variable (applies value) in
theorem applied_sublist (state : σ) (rules : List α) :
    (applied applies value state rules).Sublist rules := by
  induction rules generalizing state with
  | nil => exact List.Sublist.refl []
  | cons rule rules ih =>
      simp only [applied]
      split
      · exact (ih (value rule)).cons_cons rule
      · exact (ih state).cons rule

theorem applied_chained (state : σ) (rules : List α) :
    Chained applies value state (applied applies value state rules) := by
  induction rules generalizing state with
  | nil => trivial
  | cons rule rules ih =>
      simp only [applied]
      split
      · rename_i here
        exact ⟨here, ih (value rule)⟩
      · exact ih state

/-- Where the target is kept but not reached, the rules that lead to it have all missed. -/
theorem applied_of_ne {rules : List α} {target : σ}
    (kept : ∀ rule ∈ rules, applies rule target → value rule = target) {state : σ}
    (missed : applyRules (assignment applies value) state rules ≠ target) :
    (∀ rule ∈ applied applies value state rules, value rule ≠ target) ∧
      ∀ rule ∈ rules, value rule = target →
        ∃ stop ∈ passed value state (applied applies value state rules), ¬applies rule stop := by
  induction rules generalizing state with
  | nil => simp [applied]
  | cons rule rules ih =>
      rw [List.forall_mem_cons] at kept
      rw [applyRules_cons, applyRule_assignment] at missed
      by_cases here : applies rule state
      · rw [if_pos here] at missed
        obtain ⟨wrong, late⟩ := ih kept.2 missed
        have different : value rule ≠ target := by
          intro same
          rw [same] at missed
          exact missed (applyRules_target kept.2)
        simp only [applied, if_pos here]
        refine ⟨List.forall_mem_cons.mpr ⟨different, wrong⟩, ?_⟩
        intro other member right
        rcases List.mem_cons.mp member with same | later
        · exact absurd (same ▸ right) different
        · obtain ⟨stop, met, misses⟩ := late other later right
          exact ⟨stop, List.mem_cons_of_mem _ met, misses⟩
      · rw [if_neg here] at missed
        obtain ⟨wrong, late⟩ := ih kept.2 missed
        simp only [applied, if_neg here]
        refine ⟨wrong, ?_⟩
        intro other member right
        rcases List.mem_cons.mp member with same | later
        · exact ⟨state, List.mem_cons_self, same ▸ here⟩
        · exact late other later right

/-- An order that follows a path and takes each pending rule at a state where it misses. -/
def schedule (applies : α → σ → Bool) (value : α → σ) : σ → List α → List α → List α
  | state, pending, [] => pending.filter fun rule => !applies rule state
  | state, pending, rule :: path =>
      (pending.filter fun other => !applies other state) ++
        rule :: schedule applies value (value rule) (pending.filter fun other => applies other state) path

theorem schedule_perm {state : σ} {pending path : List α}
    (late : ∀ rule ∈ pending, ∃ stop ∈ passed value state path, ¬applies rule stop) :
    (schedule applies value state pending path).Perm (pending ++ path) := by
  induction path generalizing state pending with
  | nil =>
      have all : pending.filter (fun rule => !applies rule state) = pending := by
        apply List.filter_eq_self.mpr
        intro rule member
        obtain ⟨stop, met, misses⟩ := late rule member
        simp only [passed, List.map_nil, List.mem_singleton] at met
        simpa [met] using misses
      simp only [schedule, all, List.append_nil]
      exact List.Perm.refl pending
  | cons rule path ih =>
      let later := pending.filter fun other => applies other state
      let missing := pending.filter fun other => !applies other state
      have rest : (schedule applies value (value rule) later path).Perm (later ++ path) := by
        apply ih
        intro other member
        obtain ⟨listed, here⟩ := List.mem_filter.mp member
        obtain ⟨stop, met, misses⟩ := late other listed
        rcases List.mem_cons.mp met with same | further
        · exact absurd (same ▸ here) misses
        · exact ⟨stop, further, misses⟩
      have split : (missing ++ later).Perm pending := by
        exact (List.perm_append_comm).trans (List.filter_append_perm _ pending)
      have first : (missing ++ rule :: schedule applies value (value rule) later path).Perm
          (missing ++ rule :: (later ++ path)) := (rest.cons rule).append_left missing
      have second : (missing ++ rule :: (later ++ path)).Perm (missing ++ (later ++ rule :: path)) :=
        List.perm_middle.symm.append_left missing
      have third : (missing ++ (later ++ rule :: path)).Perm (pending ++ rule :: path) := by
        rw [← List.append_assoc]
        exact split.append_right _
      exact first.trans (second.trans third)

theorem applyRules_schedule {state target : σ} {pending path : List α}
    (chained : Chained applies value state path) (different : state ≠ target)
    (wrong : ∀ rule ∈ path, value rule ≠ target) :
    applyRules (assignment applies value) state (schedule applies value state pending path) ≠
      target := by
  have idle (stop : σ) (rules : List α) : ∀ rule ∈ rules.filter fun rule => !applies rule stop,
      assignment applies value rule stop = none := by
    intro rule member
    have misses := (List.mem_filter.mp member).2
    unfold assignment
    rw [if_neg (by simpa using misses)]
  induction path generalizing state pending with
  | nil =>
      rw [schedule, applyRules_of_none (idle state pending)]
      exact different
  | cons rule path ih =>
      rw [List.forall_mem_cons] at wrong
      rw [schedule, applyRules_append, applyRules_of_none (idle state pending), applyRules_cons,
        applyRule_assignment, if_pos chained.1]
      exact ih chained.2 wrong.1 wrong.2

theorem split_perm [DecidableEq α] [DecidableEq σ] {rules path : List α} {target : σ}
    (distinct : rules.Nodup) (once : path.Nodup) (listed : path ⊆ rules)
    (wrong : ∀ rule ∈ path, value rule ≠ target) :
    ((rules.filter fun rule => value rule = target) ++ path ++
      rules.filter fun rule => value rule ≠ target ∧ rule ∉ path).Perm rules := by
  have separate : ((rules.filter fun rule => value rule = target) ++ path ++
      rules.filter fun rule => value rule ≠ target ∧ rule ∉ path).Nodup := by
    rw [List.nodup_append, List.nodup_append]
    refine ⟨⟨distinct.filter _, once, ?_⟩, distinct.filter _, ?_⟩
    · intro rule member other inPath same
      subst same
      exact wrong rule inPath (by simpa using (List.mem_filter.mp member).2)
    · intro rule member other left same
      subst same
      have kept := (List.mem_filter.mp left).2
      simp only [decide_eq_true_eq] at kept
      rcases List.mem_append.mp member with right | inPath
      · exact kept.1 (by simpa using (List.mem_filter.mp right).2)
      · exact kept.2 inPath
  rw [List.perm_ext_iff_of_nodup separate distinct]
  intro rule
  simp only [List.mem_append, List.mem_filter, decide_eq_true_eq]
  constructor
  · rintro ((⟨member, _⟩ | inPath) | ⟨member, _⟩)
    · exact member
    · exact listed inPath
    · exact member
  · intro member
    by_cases right : value rule = target
    · exact .inl (.inl ⟨member, right⟩)
    · by_cases inPath : rule ∈ path
      · exact .inl (.inr inPath)
      · exact .inr ⟨member, right, inPath⟩

/-- Constants settle on a target when it is kept and every path of other constants leaves
some rule of the target applicable all along. -/
theorem alwaysYields_assignment_iff [DecidableEq α] [DecidableEq σ] {rules : List α}
    (distinct : rules.Nodup) (start target : σ) :
    AlwaysYields (assignment applies value) rules start target ↔
      (∀ rule ∈ rules, applies rule target → value rule = target) ∧
        (start = target ∨ ∀ path : List α, path.Nodup → path ⊆ rules →
          (∀ rule ∈ path, value rule ≠ target) → Chained applies value start path →
            ∃ rule ∈ rules, value rule = target ∧
              ∀ stop ∈ passed value start path, applies rule stop) := by
  constructor
  · intro always
    constructor
    · intro rule member applied
      by_contra wrong
      have shuffled : (rules.erase rule ++ [rule]).Perm rules :=
        List.perm_append_comm.trans (List.perm_cons_erase member).symm
      have result := always _ shuffled
      rw [applyRules_append, applyRules_cons, applyRule_assignment] at result
      split at result
      · exact wrong result
      · rename_i missed
        have same : applyRules (assignment applies value) start (rules.erase rule) = target := result
        rw [same] at missed
        exact missed applied
    · by_contra both
      rw [not_or] at both
      obtain ⟨different, escape⟩ := both
      push Not at escape
      obtain ⟨path, once, listed, wrong, chained, misses⟩ := escape
      let right := rules.filter fun rule => value rule = target
      let left := rules.filter fun rule => value rule ≠ target ∧ rule ∉ path
      have late : ∀ rule ∈ right, ∃ stop ∈ passed value start path, ¬applies rule stop := by
        intro rule member
        obtain ⟨inRules, same⟩ := List.mem_filter.mp member
        obtain ⟨stop, met, miss⟩ := misses rule inRules (by simpa using same)
        exact ⟨stop, met, miss⟩
      have shuffled : (schedule applies value start right path ++ left).Perm rules := by
        have whole := split_perm distinct once listed wrong
        exact ((schedule_perm late).append_right left).trans whole
      have result := always _ shuffled
      rw [applyRules_append] at result
      have never : ∀ rule ∈ left, value rule ≠ target := by
        intro rule member
        have kept := (List.mem_filter.mp member).2
        simp only [decide_eq_true_eq] at kept
        exact kept.1
      exact applyRules_ne never (applyRules_schedule chained different wrong) result
  · rintro ⟨kept, reaches⟩ order shuffled
    have keptInOrder : ∀ rule ∈ order, applies rule target → value rule = target :=
      fun rule member => kept rule (shuffled.mem_iff.mp member)
    rcases reaches with same | escape
    · rw [same]
      exact applyRules_target keptInOrder
    · by_contra missed
      obtain ⟨wrong, late⟩ := applied_of_ne keptInOrder missed
      have within := applied_sublist applies value start order
      have once : order.Nodup := shuffled.nodup_iff.mpr distinct
      obtain ⟨rule, member, right, always⟩ := escape _ (once.sublist within)
        (fun rule member => shuffled.mem_iff.mp (within.subset member)) wrong (applied_chained start order)
      obtain ⟨stop, met, misses⟩ := late rule (shuffled.mem_iff.mpr member) right
      exact misses (always stop met)

end Assignments

end Library
