import Mathlib.Data.List.Basic

/-!
Jobs whose steps run one after another, each under a condition on how the steps before it have
ended. A job that fails or is cancelled still runs the steps whose conditions allow that.
-/

namespace Library

inductive Outcome
  | success
  | failure
  | cancelled
  deriving DecidableEq

/-- The status of a job once a step that ends so follows. -/
def Outcome.followedBy : Outcome → Outcome → Outcome
  | .success, next => next
  | .failure, .cancelled => .cancelled
  | .failure, _ => .failure
  | .cancelled, _ => .cancelled

/-- What a step's condition asks of the steps before it. -/
inductive Guard
  | success
  | notCancelled
  | always
  deriving DecidableEq

def Guard.allows : Guard → Outcome → Bool
  | .success, status => status = .success
  | .notCancelled, status => status ≠ .cancelled
  | .always, _ => true

structure Step (σ : Type*) where
  guard : Guard
  applies : σ → Bool
  continueOnError : Bool
  run : σ → σ × Outcome

structure Job (σ : Type*) where
  state : σ
  status : Outcome

variable {σ : Type*}

def Step.conclusion (step : Step σ) (outcome : Outcome) : Outcome :=
  if step.continueOnError && outcome = .failure then .success else outcome

def Job.allows (job : Job σ) (step : Step σ) : Bool :=
  step.guard.allows job.status && step.applies job.state

def Job.perform (job : Job σ) (step : Step σ) : Job σ :=
  if job.allows step then
    { state := (step.run job.state).1
      status := job.status.followedBy (step.conclusion (step.run job.state).2) }
  else job

@[irreducible] def Job.performAll (job : Job σ) (steps : List (Step σ)) : Job σ := steps.foldl Job.perform job

def Completes : List (Step σ) → σ → Prop
  | [], _ => True
  | step :: steps, state =>
      if step.applies state then
        step.conclusion (step.run state).2 = .success ∧ Completes steps (step.run state).1
      else Completes steps state

/-- The state once every step that applies has run. -/
def completed : List (Step σ) → σ → σ
  | [], state => state
  | step :: steps, state =>
      completed steps (if step.applies state then (step.run state).1 else state)

theorem Outcome.followedBy_success {status next : Outcome} :
    status.followedBy next = .success ↔ status = .success ∧ next = .success := by
  cases status <;> cases next <;> decide

/-- A check that fails where its condition holds. -/
theorem Outcome.check_success_iff (condition : Prop) [Decidable condition] :
    (if condition then Outcome.failure else .success) = .success ↔ ¬condition := by
  split
  · rename_i here
    simp [here]
  · rename_i elsewhere
    simp [elsewhere]

theorem Step.conclusion_strict {step : Step σ} (strict : step.continueOnError = false)
    (outcome : Outcome) : step.conclusion outcome = outcome := by
  simp [Step.conclusion, strict]

theorem Guard.allows_success (guard : Guard) : guard.allows .success = true := by
  cases guard <;> rfl

section Steps

variable {job : Job σ} {step : Step σ} {steps later : List (Step σ)}

theorem Job.performAll_nil : job.performAll [] = job := by
  simp [Job.performAll]

theorem Job.performAll_cons :
    job.performAll (step :: steps) = (job.perform step).performAll steps := by
  simp [Job.performAll]

theorem Job.performAll_append :
    job.performAll (steps ++ later) = (job.performAll steps).performAll later := by
  simp [Job.performAll]

theorem completed_append (state : σ) :
    completed (steps ++ later) state = completed later (completed steps state) := by
  induction steps generalizing state with
  | nil => rfl
  | cons step steps ih => exact ih _

theorem completes_append (state : σ) :
    Completes (steps ++ later) state ↔ Completes steps state ∧ Completes later (completed steps state) := by
  induction steps generalizing state with
  | nil => simp [Completes, completed]
  | cons step steps ih =>
      rw [List.cons_append]
      by_cases applies : step.applies state = true
      · simp [Completes, completed, applies, ih, and_assoc]
      · simp [Completes, completed, applies, ih]

theorem completes_unchanged {state : σ} (strict : step.continueOnError = false)
    (unchanged : (step.run state).1 = state) :
    Completes (step :: steps) state ↔
      (step.applies state = true → (step.run state).2 = .success) ∧ Completes steps state := by
  by_cases applies : step.applies state = true
  · simp [Completes, applies, unchanged, Step.conclusion_strict strict]
  · simp [Completes, applies]

theorem Job.perform_skipped (skipped : job.allows step = false) : job.perform step = job := by
  simp [Job.perform, skipped]

theorem Job.perform_status (successful : (job.perform step).status = .success) :
    job.status = .success := by
  unfold Job.perform at successful
  split at successful
  · exact (Outcome.followedBy_success.mp successful).1
  · exact successful

theorem Job.performAll_status (successful : (job.performAll steps).status = .success) :
    job.status = .success := by
  induction steps generalizing job with
  | nil => simpa [Job.performAll_nil] using successful
  | cons step steps ih =>
      rw [Job.performAll_cons] at successful
      exact Job.perform_status (ih successful)

/-- What each step keeps, a job keeps. -/
theorem Job.performAll_rule {holds : Job σ → Prop}
    (kept : ∀ step ∈ steps, ∀ job, holds job → holds (job.perform step)) (initial : holds job) :
    holds (job.performAll steps) := by
  induction steps generalizing job with
  | nil => simpa [Job.performAll_nil] using initial
  | cons step steps ih =>
      rw [Job.performAll_cons]
      apply ih
      · intro other member
        exact kept other (List.mem_cons_of_mem step member)
      · exact kept step List.mem_cons_self job initial

theorem Job.performAll_state {holds : σ → Prop}
    (kept : ∀ step ∈ steps, ∀ state, holds state → step.applies state → holds (step.run state).1)
    (initial : holds job.state) : holds (job.performAll steps).state := by
  have keptByJob : ∀ step ∈ steps, ∀ job : Job σ, holds job.state → holds (job.perform step).state := by
    intro step member job here
    unfold Job.perform
    split
    · rename_i allowed
      have applies : step.applies job.state = true := by
        simp only [Job.allows, Bool.and_eq_true] at allowed
        exact allowed.2
      exact kept step member job.state here applies
    · exact here
  exact Job.performAll_rule keptByJob initial

/-- Steps that want success do nothing once a step before them has not succeeded. -/
theorem Job.performAll_stopped (guarded : ∀ step ∈ steps, step.guard = .success)
    (stopped : job.status ≠ .success) : job.performAll steps = job := by
  induction steps with
  | nil => exact Job.performAll_nil
  | cons step steps ih =>
      have skipped : job.allows step = false := by
        simp [Job.allows, guarded step List.mem_cons_self, Guard.allows, stopped]
      rw [Job.performAll_cons, Job.perform_skipped skipped]
      exact ih fun other member => guarded other (List.mem_cons_of_mem step member)

theorem Job.perform_success (successful : job.status = .success) :
    job.perform step =
      if step.applies job.state then
        ⟨(step.run job.state).1, step.conclusion (step.run job.state).2⟩
      else job := by
  simp [Job.perform, Job.allows, successful, Guard.allows_success, Outcome.followedBy]

theorem Job.performAll_success_iff :
    (job.performAll steps).status = .success ↔ job.status = .success ∧ Completes steps job.state := by
  induction steps generalizing job with
  | nil => simp [Job.performAll_nil, Completes]
  | cons step steps ih =>
      rw [Job.performAll_cons, ih]
      by_cases successful : job.status = .success
      · rw [Job.perform_success successful]
        by_cases applies : step.applies job.state = true
        · simp [Completes, applies, successful]
        · simp [Completes, applies, successful]
      · have stopped : (job.perform step).status ≠ .success := fun later =>
          successful (Job.perform_status later)
        simp [successful, stopped]

theorem Job.performAll_completed (successful : (job.performAll steps).status = .success) :
    (job.performAll steps).state = completed steps job.state := by
  induction steps generalizing job with
  | nil => simp [Job.performAll_nil, completed]
  | cons step steps ih =>
      rw [Job.performAll_cons] at successful
      have first : (job.perform step).status = .success := Job.performAll_status successful
      rw [Job.performAll_cons, ih successful, Job.perform_success (Job.perform_status first)]
      by_cases applies : step.applies job.state = true <;> simp [completed, applies]

end Steps

end Library
