import KayobeConfig.PullRequest.AllInOne

/-!
The checks of `stackhpc-pull-request.yml`. A job that is skipped counts as one that has passed, so
the jobs that are required to pass are skipped inside the workflows that the others call.
-/

namespace PullRequest

open Library

/-- How a job ends that is not cancelled. -/
inductive Conclusion
  | success
  | failure
  | skipped
  deriving DecidableEq

def Conclusion.of (succeeds : Bool) : Conclusion := if succeeds then .success else .failure

/-- `success()` of the jobs that a job needs. -/
def succeeded (needs : List Conclusion) : Bool := needs.all fun need => need = .success

/-- `failure()` of the jobs that a job needs, and those that they need. -/
def failed (ancestors : List Conclusion) : Bool := ancestors.any fun ancestor => ancestor = .failure

def aio : List String :=
  [".automation", ".automation.conf/config.sh", ".automation.conf/tempest/load-lists/default",
    ".automation.conf/tempest/load-lists/octavia",
    ".automation.conf/tempest/load-lists/octavia-smoke",
    ".automation.conf/tempest/load-lists/platform.2022.11-test-list.txt",
    ".automation.conf/tempest/load-lists/refstack-2019.11-test-list.txt",
    ".automation.conf/tempest/tempest-aio-octavia-smoke.overrides.conf",
    ".automation.conf/tempest/tempest-aio-octavia.overrides.conf",
    ".automation.conf/tempest/tempest-ci-aio-octavia-smoke.overrides.conf",
    ".automation.conf/tempest/tempest-ci-aio-octavia.overrides.conf",
    ".automation.conf/tempest/tempest-ci-aio.overrides.conf",
    ".github/workflows/stackhpc-all-in-one.yml",
    ".github/workflows/stackhpc-build-kayobe-image.yml",
    ".github/workflows/stackhpc-pull-request.yml", "etc/kayobe/*.yml",
    "etc/kayobe/ansible/tools/configure-aio-resources.yml",
    "etc/kayobe/ansible/tools/growroot.yml",
    "etc/kayobe/ansible/tools/stackhpc-cloud-tests.yml", "etc/kayobe/ansible/requirements.yml",
    "etc/kayobe/ansible/scripts/aio-init.sh", "etc/kayobe/ansible.cfg",
    "etc/kayobe/environments/ci-aio/**", "etc/kayobe/environments/aio/**",
    "etc/kayobe/inventory/**", "etc/kayobe/kolla/**", "kayobe-env", "requirements.txt",
    "terraform/aio/**"]

def checkTags : List String :=
  [".github/workflows/stackhpc-check-tags.yml", "etc/kayobe/kolla-image-tags.yml",
    "etc/kayobe/pulp.yml", "tools/kolla-images.py"]

def buildKayobeImage : List String := aio ++ checkTags

def ansibleVersions : List String := ["2.19", "2.20"]

def scenarios : List Scenario :=
  [⟨"ubuntu", "noble", "x86_64", "ovn", false⟩, ⟨"rocky", "10", "x86_64", "ovs", false⟩,
    ⟨"rocky", "10", "aarch64", "ovs", false⟩, ⟨"rocky", "10", "x86_64", "ovn", false⟩,
    ⟨"rocky", "10", "aarch64", "ovn", false⟩, ⟨"ubuntu", "noble", "x86_64", "ovn", true⟩,
    ⟨"rocky", "10", "x86_64", "ovn", true⟩, ⟨"rocky", "10", "x86_64", "ovs", true⟩]

/-- A run of the workflow for a pull request, with how its jobs end if they run. -/
structure Workflow where
  repository : String
  changedFiles : List String
  globMatches : String → String → Bool
  lints : String → Bool
  changesChecked : Bool
  imageBuilt : Bool
  kayobeImage : String
  tagsChecked : Bool
  environment : Scenario → Environment

namespace Workflow

variable (workflow : Workflow)

def upstream : Bool := workflow.repository = "stackhpc/stackhpc-kayobe-config"

def Touches (filter : List String) : Prop :=
  ∃ file ∈ workflow.changedFiles, ∃ pattern ∈ filter, workflow.globMatches pattern file = true

section Jobs

def lint : Conclusion :=
  if workflow.upstream then .of (ansibleVersions.all workflow.lints) else .skipped

def checkChanges : Conclusion :=
  if succeeded [workflow.lint] && workflow.upstream then .of workflow.changesChecked else .skipped

/-- An output of the job, which has none unless it has run. -/
def changed (filter : List String) : Bool :=
  workflow.checkChanges = .success &&
    workflow.changedFiles.any fun file => filter.any fun pattern => workflow.globMatches pattern file

/-- The check that the called workflow reports, if it is called. -/
def buildCheck : Option Conclusion :=
  if succeeded [workflow.checkChanges] && workflow.upstream then
    some (if workflow.changed buildKayobeImage then .of workflow.imageBuilt else .skipped)
  else none

/-- A call whose jobs are all skipped is skipped itself. -/
def build : Conclusion := workflow.buildCheck.getD .skipped

def builtImage : Option String :=
  if workflow.build = .success then some workflow.kayobeImage else none

def callsTests : Bool :=
  !failed [workflow.lint, workflow.checkChanges, workflow.build] && workflow.upstream

def tagsCheck : Option Conclusion :=
  if workflow.callsTests then
    some (if workflow.changed checkTags then .of workflow.tagsChecked else .skipped)
  else none

def deployment (scenario : Scenario) (kayobeImage : Option String) : AllInOne :=
  { workflow.environment scenario with scenario := scenario, kayobeImage := kayobeImage }

def allInOneCheck (scenario : Scenario) : Option Conclusion :=
  if workflow.callsTests then
    some (if workflow.changed aio then
      .of ((workflow.deployment scenario workflow.builtImage).final.status = .success) else .skipped)
  else none

def checks : List (Option Conclusion) :=
  workflow.buildCheck :: workflow.tagsCheck :: scenarios.map workflow.allInOneCheck

end Jobs

/-- A check that is not reported does not pass. -/
def Passes (check : Option Conclusion) : Prop := check = some .success ∨ check = some .skipped

section Checks

variable {workflow}

theorem passes_some_iff (ran : Prop) [Decidable ran] (succeeds : Bool) :
    Passes (some (if ran then .of succeeds else .skipped)) ↔ (ran → succeeds = true) := by
  by_cases here : ran
  · cases succeeds <;> simp [Passes, here, Conclusion.of]
  · simp [Passes, here]

theorem changed_iff (checked : workflow.checkChanges = .success) (filter : List String) :
    workflow.changed filter = true ↔ workflow.Touches filter := by
  simp [changed, checked, Touches]

structure Linted (workflow : Workflow) : Prop where
  upstream : workflow.upstream = true
  lints : ∀ version ∈ ansibleVersions, workflow.lints version = true
  changesChecked : workflow.changesChecked = true

theorem checkChanges_success_iff : workflow.checkChanges = .success ↔ workflow.Linted := by
  have lint : workflow.lint = .success ↔
      workflow.upstream = true ∧ ∀ version ∈ ansibleVersions, workflow.lints version = true := by
    rw [← List.all_eq_true]
    unfold Workflow.lint Conclusion.of
    split_ifs <;> simp_all
  have both : workflow.checkChanges = .success ↔
      (workflow.lint = .success ∧ workflow.upstream = true) ∧ workflow.changesChecked = true := by
    have runs : (succeeded [workflow.lint] && workflow.upstream) = true ↔
        workflow.lint = .success ∧ workflow.upstream = true := by simp [succeeded]
    unfold checkChanges Conclusion.of
    by_cases allowed : workflow.lint = .success ∧ workflow.upstream = true
    · rw [if_pos (runs.mpr allowed)]
      simp [allowed]
    · rw [if_neg (mt runs.mp allowed)]
      exact iff_of_false (by decide) fun both => allowed both.1
  rw [both, lint]
  exact ⟨fun all => ⟨all.1.2, all.1.1.2, all.2⟩,
    fun linted => ⟨⟨⟨linted.upstream, linted.lints⟩, linted.upstream⟩, linted.changesChecked⟩⟩

theorem lint_of_checkChanges (checked : workflow.checkChanges = .success) :
    workflow.lint = .success := by
  by_contra unlinted
  have stopped : succeeded [workflow.lint] = false := by simp [succeeded, unlinted]
  unfold checkChanges at checked
  rw [stopped] at checked
  cases checked

theorem buildCheck_unchecked (unchecked : workflow.checkChanges ≠ .success) :
    workflow.buildCheck = none := by
  simp [buildCheck, succeeded, unchecked]

theorem buildCheck_passes_iff (linted : workflow.Linted) :
    Passes workflow.buildCheck ↔
      (workflow.Touches buildKayobeImage → workflow.imageBuilt = true) := by
  have checked := checkChanges_success_iff.mpr linted
  have called : (succeeded [workflow.checkChanges] && workflow.upstream) = true := by
    simp [succeeded, checked, linted.upstream]
  unfold buildCheck
  rw [if_pos called, passes_some_iff, changed_iff checked]

theorem callsTests_of_build (linted : workflow.Linted) (passes : Passes workflow.buildCheck) :
    workflow.callsTests = true := by
  have checked := checkChanges_success_iff.mpr linted
  have lint := lint_of_checkChanges checked
  have build : workflow.build ≠ .failure := by
    unfold build
    rcases passes with success | skipped
    · simp [success]
    · simp [skipped]
  simp [callsTests, failed, checked, lint, build, linted.upstream]

theorem builtImage_of_aio (linted : workflow.Linted) (passes : Passes workflow.buildCheck)
    (touches : workflow.Touches aio) : workflow.builtImage = some workflow.kayobeImage := by
  have checked := checkChanges_success_iff.mpr linted
  have wider : workflow.Touches buildKayobeImage := by
    obtain ⟨file, changed, pattern, listed, matched⟩ := touches
    exact ⟨file, changed, pattern, List.mem_append_left checkTags listed, matched⟩
  have built := (buildCheck_passes_iff linted).mp passes wider
  have build : workflow.build = .success := by
    simp [build, buildCheck, succeeded, checked, linted.upstream, (changed_iff checked _).mpr wider,
      built, Conclusion.of]
  exact if_pos build

theorem tagsCheck_passes_iff (linted : workflow.Linted) (calls : workflow.callsTests = true) :
    Passes workflow.tagsCheck ↔ (workflow.Touches checkTags → workflow.tagsChecked = true) := by
  unfold tagsCheck
  rw [if_pos calls, passes_some_iff, changed_iff (checkChanges_success_iff.mpr linted)]

theorem allInOneCheck_passes_iff (linted : workflow.Linted) (passes : Passes workflow.buildCheck)
    (scenario : Scenario) :
    Passes (workflow.allInOneCheck scenario) ↔ (workflow.Touches aio →
      (workflow.deployment scenario (some workflow.kayobeImage)).AllWell) := by
  unfold allInOneCheck
  rw [if_pos (callsTests_of_build linted passes), passes_some_iff,
    changed_iff (checkChanges_success_iff.mpr linted), decide_eq_true_eq]
  refine forall_congr' fun touches => ?_
  rw [builtImage_of_aio linted passes touches]
  exact ⟨AllInOne.allWell_of_success, AllInOne.success_of_allWell⟩

/-- Every check passes exactly where the code is linted and its changes are known, and where these
ask for it, the image is built, its tags are checked, and each scenario is deployed and tested with
the image. -/
theorem checks_pass_iff :
    (∀ check ∈ workflow.checks, Passes check) ↔ workflow.Linted ∧
      (workflow.Touches buildKayobeImage → workflow.imageBuilt = true) ∧
      (workflow.Touches checkTags → workflow.tagsChecked = true) ∧
      (workflow.Touches aio → ∀ scenario ∈ scenarios,
        (workflow.deployment scenario (some workflow.kayobeImage)).AllWell) := by
  unfold checks
  rw [List.forall_mem_cons, List.forall_mem_cons, List.forall_mem_map]
  constructor
  · rintro ⟨build, tags, tests⟩
    have linted : workflow.Linted := by
      rw [← checkChanges_success_iff]
      by_contra unchecked
      rw [buildCheck_unchecked unchecked] at build
      rcases build with impossible | impossible <;> cases impossible
    have calls := callsTests_of_build linted build
    exact ⟨linted, (buildCheck_passes_iff linted).mp build,
      (tagsCheck_passes_iff linted calls).mp tags, fun touches scenario member =>
        (allInOneCheck_passes_iff linted build scenario).mp (tests scenario member) touches⟩
  · rintro ⟨linted, built, tags, tests⟩
    have build := (buildCheck_passes_iff linted).mpr built
    have calls := callsTests_of_build linted build
    refine ⟨build, (tagsCheck_passes_iff linted calls).mpr tags, fun scenario member => ?_⟩
    exact (allInOneCheck_passes_iff linted build scenario).mpr fun touches =>
      tests touches scenario member

end Checks

end Workflow

end PullRequest
