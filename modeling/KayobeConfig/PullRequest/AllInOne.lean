import Mathlib.Logic.Function.Basic
import KayobeConfig.Library.Workflow

/-!
The job of `stackhpc-all-in-one.yml`: it creates a machine, deploys OpenStack on it, upgrades it
if asked to, runs the tests and destroys the machine.
-/

namespace PullRequest

open Library

structure Scenario where
  osDistribution : String
  osRelease : String
  architecture : String
  neutronPlugin : String
  upgrade : Bool
  deriving DecidableEq

def Scenario.enableOctavia (scenario : Scenario) : Bool :=
  scenario.osDistribution = "rocky" && scenario.architecture = "x86_64" && !scenario.upgrade

def Scenario.upgradesHostOs (scenario : Scenario) : Bool :=
  scenario.upgrade && scenario.osRelease = "jammy"

inductive Suite
  | tempest
  | octavia
  | cloudTests
  deriving DecidableEq

def Suite.all : List Suite := [.tempest, .octavia, .cloudTests]

inductive Command
  | installDependencies
  | checkout
  | outputKayobeImage
  | testDocker
  | outputImageTag
  | outputImageName
  | installTerraform
  | initialiseTerraform
  | generateSshKeypair
  | generateClouds
  | generateTfvars
  | terraformPlan
  | terraformApply
  | terraformOutputs
  | writeOutputs
  | writeNetworkConfig
  | writeScenarioConfig
  | setSshKey
  | pullPreviousImage
  | pullCurrentImage
  | growroot
  | hostConfigure
  | generateOctaviaCertificates
  | pullContainerImages
  | serviceDeploy
  | registerAmphoraImage
  | configureResources
  | upgradeHostOs
  | deployLaterServices
  | upgradePrerequisites
  | stashConfig
  | checkoutCurrent
  | popConfig
  | hostUpgrade
  | reconfigureHost
  | pullOvercloudImages
  | serviceUpgrade
  | pruneImages
  | validateConfig
  | suite (suite : Suite)
  | diagnostics
  | uploadResults
  | destroy
  deriving DecidableEq

structure Environment where
  ends : Command → Outcome
  applies : Nat → Bool
  destroys : Nat → Bool
  pulls : Nat → Bool
  /-- The number of lines of the file of failed tests that a suite leaves, if it leaves one. -/
  failedTests : Suite → Option Nat

structure AllInOne extends Environment where
  scenario : Scenario
  kayobeImage : Option String

structure Progress where
  infrastructure : Bool
  applied : Option Outcome
  outcome : Suite → Option Outcome
  diagnosed : Option Outcome
  failedTests : Suite → Option Nat

def Progress.empty : Progress := ⟨false, none, fun _ => none, none, fun _ => none⟩

def Progress.created : Progress := ⟨true, some .success, fun _ => none, none, fun _ => none⟩

def Progress.record (progress : Progress) (suite : Suite) (outcome : Outcome) (lines : Option Nat) :
    Progress :=
  { progress with
    outcome := Function.update progress.outcome suite (some outcome)
    failedTests := Function.update progress.failedTests suite lines }

/-- The loop that creates the infrastructure. A failed `terraform destroy` ends it. -/
def terraformApply (applies destroys : Nat → Bool) : List Nat → Bool → Bool × Outcome
  | [], infrastructure => (infrastructure, .failure)
  | attempt :: attempts, _ =>
      if applies attempt then (true, .success)
      else if destroys attempt then terraformApply applies destroys attempts false
      else (true, .failure)

namespace AllInOne

variable (job : AllInOne)

def beforeApply : List (Command × Bool) :=
  [.installDependencies, .checkout, .outputKayobeImage, .testDocker, .outputImageTag,
    .outputImageName, .installTerraform, .initialiseTerraform, .generateSshKeypair, .generateClouds,
    .generateTfvars, .terraformPlan].map fun command => (command, true)

def beforePull (scenario : Scenario) : List (Command × Bool) :=
  [(.terraformOutputs, true), (.writeOutputs, true), (.writeNetworkConfig, true),
    (.writeScenarioConfig, true), (.setSshKey, true), (.pullPreviousImage, scenario.upgrade),
    (.pullCurrentImage, true), (.growroot, true), (.hostConfigure, true),
    (.generateOctaviaCertificates, scenario.enableOctavia)]

def beforeTests (scenario : Scenario) : List (Command × Bool) :=
  [(.serviceDeploy, true), (.registerAmphoraImage, scenario.enableOctavia),
    (.configureResources, true), (.upgradeHostOs, scenario.upgradesHostOs),
    (.deployLaterServices, scenario.upgradesHostOs), (.upgradePrerequisites, scenario.upgrade),
    (.stashConfig, scenario.upgrade), (.checkoutCurrent, scenario.upgrade),
    (.popConfig, scenario.upgrade), (.hostUpgrade, scenario.upgrade),
    (.reconfigureHost, scenario.upgrade), (.pullOvercloudImages, scenario.upgrade),
    (.serviceUpgrade, scenario.upgrade), (.pruneImages, scenario.upgrade), (.validateConfig, true)]

/-- Without an image there is nothing to pull. -/
def commandEnds (command : Command) : Outcome :=
  if command = .pullCurrentImage ∧ job.kayobeImage = none then .failure else job.ends command

section Steps

def command (entry : Command × Bool) : Step Progress where
  guard := .success
  applies := fun _ => entry.2
  continueOnError := false
  run := fun progress => (progress, job.commandEnds entry.1)

def applied : Bool × Outcome :=
  if job.ends .terraformApply = .cancelled then (true, .cancelled)
  else terraformApply job.applies job.destroys [1, 2, 3, 4, 5, 6] false

def apply : Step Progress where
  guard := .success
  applies := fun _ => true
  continueOnError := false
  run := fun progress =>
    ({ progress with infrastructure := job.applied.1, applied := some job.applied.2 }, job.applied.2)

def pulled : Outcome :=
  if job.ends .pullContainerImages = .cancelled then .cancelled
  else if [1, 2, 3].any job.pulls then .success else .failure

def pull : Step Progress where
  guard := .success
  applies := fun _ => true
  continueOnError := false
  run := fun progress => (progress, job.pulled)

def runSuite (suite : Suite) (applies continueOnError : Bool) : Step Progress where
  guard := .success
  applies := fun _ => applies
  continueOnError := continueOnError
  run := fun progress =>
    (progress.record suite (job.ends (.suite suite)) (job.failedTests suite), job.ends (.suite suite))

def diagnostics : Step Progress where
  guard := .notCancelled
  applies := fun progress => progress.applied = some .success
  continueOnError := false
  run := fun progress =>
    ({ progress with diagnosed := some (job.ends .diagnostics) }, job.ends .diagnostics)

def uploadResults : Step Progress where
  guard := .notCancelled
  applies := fun progress =>
    Suite.all.any (fun suite => progress.outcome suite = some .success) ||
      progress.diagnosed = some .success
  continueOnError := false
  run := fun progress => (progress, job.ends .uploadResults)

/-- A file that is absent has no lines to this step. -/
def failIfTestsFailed : Step Progress where
  guard := .success
  applies := fun _ => true
  continueOnError := false
  run := fun progress =>
    (progress,
      if ∃ suite ∈ Suite.all, (progress.failedTests suite).getD 0 ≠ 0 then .failure else .success)

def destroy : Step Progress where
  guard := .always
  applies := fun _ => true
  continueOnError := false
  run := fun progress =>
    (if job.ends .destroy = .success then { progress with infrastructure := false } else progress,
      job.ends .destroy)

def suites : List (Step Progress) :=
  [job.runSuite .tempest true false, job.runSuite .octavia job.scenario.enableOctavia false,
    job.runSuite .cloudTests true true]

def steps : List (Step Progress) :=
  beforeApply.map job.command ++ job.apply :: (beforePull job.scenario).map job.command ++
    job.pull :: (beforeTests job.scenario).map job.command ++ job.suites ++
    [job.diagnostics, job.uploadResults, failIfTestsFailed, job.destroy]

end Steps

def final : Job Progress := Job.performAll ⟨.empty, .success⟩ job.steps

/-- The infrastructure is there after an attempt, and what failed before it is destroyed. -/
def Creates (applies destroys : Nat → Bool) (attempts : List Nat) : Prop :=
  ∃ before attempt after, attempts = before ++ attempt :: after ∧ applies attempt = true ∧
    ∀ earlier ∈ before, applies earlier = true ∨ destroys earlier = true

def Passes (suite : Suite) : Prop := ∀ lines, job.failedTests suite = some lines → lines = 0

/-- Nothing that the job runs goes wrong, but for the cloud tests, which may fail to run. -/
structure AllWell : Prop where
  commands : ∀ entry ∈ beforeApply ++ beforePull job.scenario ++ beforeTests job.scenario,
    entry.2 = true → job.commandEnds entry.1 = .success
  created : job.ends .terraformApply ≠ .cancelled ∧
    Creates job.applies job.destroys [1, 2, 3, 4, 5, 6]
  pulled : job.ends .pullContainerImages ≠ .cancelled ∧
    ∃ attempt ∈ [1, 2, 3], job.pulls attempt = true
  tempest : job.ends (.suite .tempest) = .success ∧ job.Passes .tempest
  octavia : job.scenario.enableOctavia = true →
    job.ends (.suite .octavia) = .success ∧ job.Passes .octavia
  cloudTests : job.ends (.suite .cloudTests) ≠ .cancelled ∧ job.Passes .cloudTests
  reported : job.ends .diagnostics = .success ∧ job.ends .uploadResults = .success
  destroyed : job.ends .destroy = .success

section Completion

variable {job} {applies destroys : Nat → Bool} {progress : Progress}

theorem terraformApply_success_iff {attempts : List Nat} {infrastructure : Bool} :
    (terraformApply applies destroys attempts infrastructure).2 = .success ↔
      Creates applies destroys attempts := by
  induction attempts generalizing infrastructure with
  | nil => simp [terraformApply, Creates]
  | cons attempt attempts ih =>
      by_cases applied : applies attempt = true
      · rw [terraformApply, if_pos applied]
        exact iff_of_true rfl ⟨[], attempt, attempts, rfl, applied, by simp⟩
      · rw [terraformApply, if_neg applied]
        by_cases destroyed : destroys attempt = true
        · rw [if_pos destroyed, ih]
          constructor
          · rintro ⟨before, later, after, rfl, here, earlier⟩
            exact ⟨attempt :: before, later, after, rfl, here,
              List.forall_mem_cons.mpr ⟨.inr destroyed, earlier⟩⟩
          · rintro ⟨before, later, after, same, here, earlier⟩
            cases before with
            | nil =>
                cases same
                exact absurd here applied
            | cons first before =>
                cases same
                exact ⟨before, later, after, rfl, here, (List.forall_mem_cons.mp earlier).2⟩
        · rw [if_neg destroyed]
          refine iff_of_false (by decide) ?_
          rintro ⟨before, later, after, same, here, earlier⟩
          cases before with
          | nil =>
              cases same
              exact applied here
          | cons first before =>
              cases same
              exact (List.forall_mem_cons.mp earlier).1.elim applied destroyed

theorem terraformApply_created {attempts : List Nat} {infrastructure : Bool}
    (created : (terraformApply applies destroys attempts infrastructure).2 = .success) :
    (terraformApply applies destroys attempts infrastructure).1 = true := by
  induction attempts generalizing infrastructure with
  | nil => cases created
  | cons attempt attempts ih =>
      rw [terraformApply] at created ⊢
      split_ifs at created ⊢
      · rfl
      · exact ih created

theorem completes_commands (entries : List (Command × Bool)) :
    Completes (entries.map job.command) progress ↔
      ∀ entry ∈ entries, entry.2 = true → job.commandEnds entry.1 = .success := by
  induction entries with
  | nil => simp [Completes]
  | cons entry entries ih =>
      rw [List.map_cons, completes_unchanged rfl rfl, ih, List.forall_mem_cons]
      rfl

theorem completed_commands (entries : List (Command × Bool)) :
    completed (entries.map job.command) progress = progress := by
  induction entries with
  | nil => rfl
  | cons entry entries ih =>
      have same : (if (job.command entry).applies progress = true then
          ((job.command entry).run progress).1 else progress) = progress := by
        split <;> rfl
      rw [List.map_cons, completed, same, ih]

theorem applied_success_iff :
    job.applied.2 = .success ↔ job.ends .terraformApply ≠ .cancelled ∧
      Creates job.applies job.destroys [1, 2, 3, 4, 5, 6] := by
  unfold AllInOne.applied
  split
  · rename_i cancelled
    simp [cancelled]
  · rename_i ended
    rw [terraformApply_success_iff]
    simp [ended]

theorem pulled_success_iff :
    job.pulled = .success ↔ job.ends .pullContainerImages ≠ .cancelled ∧
      ∃ attempt ∈ [1, 2, 3], job.pulls attempt = true := by
  unfold AllInOne.pulled
  split
  · rename_i cancelled
    simp [cancelled]
  · rename_i ended
    rw [← List.any_eq_true]
    split <;> simp_all

theorem completes_suite (suite : Suite) (applies : Bool) (steps : List (Step Progress)) :
    Completes (job.runSuite suite applies false :: steps) progress ↔
      (applies = true → job.ends (.suite suite) = .success) ∧
        Completes steps (if applies = true then
          progress.record suite (job.ends (.suite suite)) (job.failedTests suite) else progress) := by
  cases applies with
  | false => simp [Completes, runSuite]
  | true => simp [Completes, runSuite, Step.conclusion]

theorem completes_suites :
    Completes job.suites progress ↔ job.ends (.suite .tempest) = .success ∧
      (job.scenario.enableOctavia = true → job.ends (.suite .octavia) = .success) ∧
        job.ends (.suite .cloudTests) ≠ .cancelled := by
  have tolerant (outcome : Outcome) :
      (job.runSuite .cloudTests true true).conclusion outcome = .success ↔ outcome ≠ .cancelled := by
    cases outcome <;> simp [Step.conclusion, runSuite]
  unfold suites
  rw [completes_suite, completes_suite, Completes, if_pos rfl, tolerant]
  simp [Completes, runSuite]

theorem completed_suites_applied :
    (completed job.suites progress).applied = progress.applied := by
  cases octavia : job.scenario.enableOctavia <;>
    simp [suites, completed, runSuite, octavia, Progress.record]

theorem completed_suites_tempest :
    (completed job.suites progress).outcome .tempest = some (job.ends (.suite .tempest)) := by
  cases octavia : job.scenario.enableOctavia <;>
    simp [suites, completed, runSuite, octavia, Progress.record]

theorem completed_suites_failedTests (fresh : progress.failedTests .octavia = none) (suite : Suite) :
    (completed job.suites progress).failedTests suite =
      if suite = .octavia ∧ job.scenario.enableOctavia = false then none
      else job.failedTests suite := by
  cases octavia : job.scenario.enableOctavia <;> cases suite <;>
    simp [suites, completed, runSuite, octavia, Progress.record, fresh]

theorem completes_closing (created : progress.applied = some .success)
    (tested : progress.outcome .tempest = some .success) :
    Completes [job.diagnostics, job.uploadResults, failIfTestsFailed, job.destroy] progress ↔
      (job.ends .diagnostics = .success ∧ job.ends .uploadResults = .success) ∧
      (∀ suite ∈ Suite.all, (progress.failedTests suite).getD 0 = 0) ∧
      job.ends .destroy = .success := by
  have diagnosed : job.diagnostics.applies progress = true := by
    simp [AllInOne.diagnostics, created]
  have uploads : job.uploadResults.applies (job.diagnostics.run progress).1 = true := by
    simp [AllInOne.uploadResults, AllInOne.diagnostics, Suite.all, tested]
  have checks : failIfTestsFailed.applies (job.diagnostics.run progress).1 = true := rfl
  have destroys : job.destroy.applies (job.diagnostics.run progress).1 = true := rfl
  have checked : (failIfTestsFailed.run (job.diagnostics.run progress).1).2 = .success ↔
      ∀ suite ∈ Suite.all, (progress.failedTests suite).getD 0 = 0 := by
    refine (Outcome.check_success_iff _).trans ?_
    simp [AllInOne.diagnostics]
  rw [Completes, if_pos diagnosed, Step.conclusion_strict rfl, completes_unchanged rfl rfl,
    completes_unchanged rfl rfl, checked, Completes, if_pos destroys, Step.conclusion_strict rfl]
  simp only [uploads, checks, true_imp_iff, Completes, and_true, and_assoc]
  rfl

theorem passes_iff (suite : Suite) : job.Passes suite ↔ (job.failedTests suite).getD 0 = 0 := by
  unfold Passes
  cases job.failedTests suite <;> simp

theorem apply_created (succeeded : job.applied.2 = .success) :
    (job.apply.run .empty).1 = .created := by
  have present : job.applied.1 = true := by
    unfold AllInOne.applied at succeeded ⊢
    split_ifs at succeeded ⊢ with cancelled
    exact terraformApply_created succeeded
  simp [AllInOne.apply, Progress.empty, Progress.created, present, succeeded]

theorem completes_apply (entries : List (Command × Bool)) :
    Completes (job.apply :: entries.map job.command) .empty ↔ job.applied.2 = .success ∧
      ∀ entry ∈ entries, entry.2 = true → job.commandEnds entry.1 = .success := by
  rw [Completes, if_pos (show job.apply.applies .empty = true from rfl), Step.conclusion_strict rfl,
    completes_commands]
  rfl

theorem completed_apply (entries : List (Command × Bool)) :
    completed (job.apply :: entries.map job.command) .empty = (job.apply.run .empty).1 := by
  rw [completed, completed_commands]
  rfl

theorem completes_pull (entries : List (Command × Bool)) :
    Completes (job.pull :: entries.map job.command) progress ↔ job.pulled = .success ∧
      ∀ entry ∈ entries, entry.2 = true → job.commandEnds entry.1 = .success := by
  have applies : job.pull.applies progress = true := rfl
  rw [completes_unchanged rfl rfl, completes_commands]
  simp only [applies, true_imp_iff]
  rfl

theorem completed_pull (entries : List (Command × Bool)) :
    completed (job.pull :: entries.map job.command) progress = progress := by
  rw [completed, completed_commands]
  rfl

theorem final_success_iff :
    job.final.status = .success ↔
      (∀ entry ∈ beforeApply, entry.2 = true → job.commandEnds entry.1 = .success) ∧
      (job.applied.2 = .success ∧
        ∀ entry ∈ beforePull job.scenario, entry.2 = true → job.commandEnds entry.1 = .success) ∧
      (job.pulled = .success ∧
        ∀ entry ∈ beforeTests job.scenario, entry.2 = true → job.commandEnds entry.1 = .success) ∧
      Completes job.suites (job.apply.run .empty).1 ∧
      Completes [job.diagnostics, job.uploadResults, failIfTestsFailed, job.destroy]
        (completed job.suites (job.apply.run .empty).1) := by
  unfold final steps
  rw [Job.performAll_success_iff]
  simp only [completes_append, completed_append, completed_commands, completes_commands,
    completes_apply, completed_apply, completes_pull, completed_pull, true_and, and_assoc]

theorem allWell_of_success (successful : job.final.status = .success) : job.AllWell := by
  rw [final_success_iff, applied_success_iff, pulled_success_iff] at successful
  obtain ⟨first, ⟨created, second⟩, ⟨pulled, third⟩, suites, closing⟩ := successful
  rw [apply_created (applied_success_iff.mpr created)] at suites closing
  obtain ⟨tempest, octavia, cloudTests⟩ := completes_suites.mp suites
  obtain ⟨reported, passes, destroyed⟩ := (completes_closing completed_suites_applied
    (by rw [completed_suites_tempest, tempest])).mp closing
  have passed (suite : Suite) (member : suite ∈ Suite.all)
      (runs : suite = .octavia → job.scenario.enableOctavia = true) : job.Passes suite := by
    have none := passes suite member
    rw [completed_suites_failedTests rfl, if_neg] at none
    · exact (passes_iff suite).mpr none
    · rintro ⟨same, disabled⟩
      simp [runs same] at disabled
  refine ⟨?_, created, pulled, ⟨tempest, passed .tempest (by decide) (by simp)⟩, fun enabled => ?_,
    ⟨cloudTests, passed .cloudTests (by decide) (by simp)⟩, reported, destroyed⟩
  · simp only [List.forall_mem_append]
    exact ⟨⟨first, second⟩, third⟩
  · exact ⟨octavia enabled, passed .octavia (by decide) fun _ => enabled⟩

theorem success_of_allWell (well : job.AllWell) : job.final.status = .success := by
  rw [final_success_iff, applied_success_iff, pulled_success_iff]
  have commands := well.commands
  simp only [List.forall_mem_append] at commands
  obtain ⟨⟨first, second⟩, third⟩ := commands
  rw [apply_created (applied_success_iff.mpr well.created)]
  refine ⟨first, ⟨well.created, second⟩, ⟨well.pulled, third⟩, ?_, ?_⟩
  · exact completes_suites.mpr
      ⟨well.tempest.1, fun enabled => (well.octavia enabled).1, well.cloudTests.1⟩
  · refine (completes_closing completed_suites_applied
      (by rw [completed_suites_tempest, well.tempest.1])).mpr ⟨well.reported, ?_, well.destroyed⟩
    intro suite _
    rw [completed_suites_failedTests rfl]
    split
    · rfl
    · rename_i runs
      rw [← passes_iff]
      cases suite with
      | tempest => exact well.tempest.2
      | octavia => exact (well.octavia (by simpa using runs)).2
      | cloudTests => exact well.cloudTests.2

/-- The job succeeds exactly where nothing that it runs goes wrong. -/
theorem all_in_one_succeeds_iff : job.final.status = .success ↔ job.AllWell :=
  ⟨allWell_of_success, success_of_allWell⟩

theorem perform_destroy (destroyed : job.ends .destroy = .success) (prior : Job Progress) :
    (prior.perform job.destroy).state.infrastructure = false := by
  simp [Job.perform, Job.allows, AllInOne.destroy, Guard.allows, destroyed]

/-- Whatever else goes wrong, a machine that is destroyed does not remain. -/
theorem infrastructure_destroyed (destroyed : job.ends .destroy = .success) :
    job.final.state.infrastructure = false := by
  unfold final steps
  rw [Job.performAll_append, Job.performAll_cons, Job.performAll_cons, Job.performAll_cons,
    Job.performAll_cons, Job.performAll_nil]
  exact perform_destroy destroyed _

end Completion

end AllInOne

end PullRequest
