import Mathlib.Data.List.Infix

/-!
Runs of a state machine whose steps can break a property: the property holds in
every state of a run exactly when no step of the run breaks it.
-/

namespace Library

variable {σ α : Type*} (step : σ → α → σ)

def runFrom (start : σ) (actions : List α) : σ := actions.foldl step start

/-- The property holds after every action of the run, and at its start. -/
def Throughout (property : σ → Prop) (start : σ) (actions : List α) : Prop :=
  ∀ past, past <+: actions → property (runFrom step start past)

def Along (condition : σ → α → Prop) (start : σ) (actions : List α) : Prop :=
  ∀ past action, past ++ [action] <+: actions → condition (runFrom step start past) action

variable {step}

theorem throughout_nil {property : σ → Prop} {start : σ} :
    Throughout step property start [] ↔ property start := by
  unfold Throughout
  simp [List.prefix_nil, runFrom]

theorem throughout_cons {property : σ → Prop} {start : σ} {action : α} {actions : List α} :
    Throughout step property start (action :: actions) ↔
      property start ∧ Throughout step property (step start action) actions := by
  constructor
  · intro all
    refine ⟨all [] List.nil_prefix, ?_⟩
    intro past early
    exact all (action :: past) (List.cons_prefix_cons.mpr ⟨rfl, early⟩)
  · rintro ⟨first, later⟩ past early
    cases past with
    | nil => exact first
    | cons other past =>
        obtain ⟨rfl, tail⟩ := List.cons_prefix_cons.mp early
        exact later past tail

theorem along_cons {condition : σ → α → Prop} {start : σ} {action : α} {actions : List α} :
    Along step condition start (action :: actions) ↔
      condition start action ∧ Along step condition (step start action) actions := by
  constructor
  · intro all
    refine ⟨all [] action (List.cons_prefix_cons.mpr ⟨rfl, List.nil_prefix⟩), ?_⟩
    intro past next early
    exact all (action :: past) next (List.cons_prefix_cons.mpr ⟨rfl, early⟩)
  · rintro ⟨first, later⟩ past next early
    cases past with
    | nil =>
        obtain ⟨rfl, _⟩ := List.cons_prefix_cons.mp early
        exact first
    | cons other past =>
        obtain ⟨rfl, tail⟩ := List.cons_prefix_cons.mp early
        exact later past next tail

/-- Where one step keeps the property exactly under a condition, so does a whole run. -/
theorem throughout_iff_along {invariant property : σ → Prop} {condition : σ → α → Prop}
    (preserved : ∀ state action, invariant state → invariant (step state action))
    (decides : ∀ state action, invariant state → property state →
      (property (step state action) ↔ condition state action))
    {start : σ} (initial : invariant start) (holds : property start) (actions : List α) :
    Throughout step property start actions ↔ Along step condition start actions := by
  induction actions generalizing start with
  | nil =>
      refine iff_of_true (throughout_nil.mpr holds) ?_
      intro past action early
      simp [List.prefix_nil] at early
  | cons action actions ih =>
      rw [throughout_cons, along_cons, ← decides start action initial holds]
      constructor
      · rintro ⟨_, later⟩
        have next := later [] List.nil_prefix
        exact ⟨next, (ih (preserved start action initial) next).mp later⟩
      · rintro ⟨next, later⟩
        exact ⟨holds, (ih (preserved start action initial) next).mpr later⟩

theorem along_nil {condition : σ → α → Prop} {start : σ} : Along step condition start [] := by
  intro past action early
  simp [List.prefix_nil] at early

instance decidableAlong {condition : σ → α → Prop} [∀ state action, Decidable (condition state action)]
    (start : σ) : (actions : List α) → Decidable (Along step condition start actions)
  | [] => .isTrue along_nil
  | action :: actions =>
      have : Decidable (Along step condition (step start action) actions) :=
        decidableAlong (step start action) actions
      decidable_of_iff
        (condition start action ∧ Along step condition (step start action) actions) along_cons.symm

section Progress

variable {invariant : σ → Prop} {condition : σ → α → Prop}
  (preserved : ∀ state action, invariant state → condition state action →
    invariant (step state action))

include preserved

/-- What every possible step keeps holds at the end of every possible run. -/
theorem invariant_runFrom {start : σ} (initial : invariant start) {actions : List α}
    (possible : Along step condition start actions) : invariant (runFrom step start actions) := by
  induction actions generalizing start with
  | nil => exact initial
  | cons action actions ih =>
      obtain ⟨now, later⟩ := along_cons.mp possible
      exact ih (preserved start action initial now) later

variable {rank : σ → Nat}
  (decreases : ∀ state action, invariant state → condition state action →
    rank (step state action) < rank state)

include decreases

theorem length_add_rank_le {start : σ} (initial : invariant start) {actions : List α}
    (possible : Along step condition start actions) :
    actions.length + rank (runFrom step start actions) ≤ rank start := by
  induction actions generalizing start with
  | nil => simp [runFrom]
  | cons action actions ih =>
      obtain ⟨now, later⟩ := along_cons.mp possible
      have rest := ih (preserved start action initial now) later
      have first := decreases start action initial now
      have same : runFrom step start (action :: actions) =
        runFrom step (step start action) actions := rfl
      rw [same, List.length_cons]
      omega

/-- Where only finished states have no possible step, every run can be finished. -/
theorem exists_completion {finished : σ → Prop}
    (progress : ∀ state, invariant state → ¬finished state → ∃ action, condition state action)
    {start : σ} (initial : invariant start) :
    ∃ actions, Along step condition start actions ∧ finished (runFrom step start actions) := by
  induction bound : rank start using Nat.strong_induction_on generalizing start with
  | _ bound ih =>
      by_cases done : finished start
      · exact ⟨[], along_nil, done⟩
      · obtain ⟨action, now⟩ := progress start initial done
        have lower := decreases start action initial now
        obtain ⟨actions, later, finishes⟩ :=
          ih (rank (step start action)) (by omega) (preserved start action initial now) rfl
        exact ⟨action :: actions, along_cons.mpr ⟨now, later⟩, finishes⟩

end Progress

end Library
