import KayobeConfig.ImageBuild.Safety

/-!
When the image build job succeeds: its commands and builds do, every image that is listed for the
scan is scanned, none has critical vulnerabilities that may not be pushed, and each is pushed.
-/

namespace ImageBuild

open Library ScanImages

namespace BuildJob

variable (job : BuildJob)

/-- The commands that the job runs under its inputs. -/
def tasks : List Task :=
  setupTasks ++ (if job.inputs.overcloud then [Task.copyBuildConfigs] else []) ++
    (if job.buildsSeed then [Task.copySeedLogs] else []) ++
    [Task.listBuiltImages, .waitForDatabase, .checkDependencies, .updateDatabase, .getImages] ++
    (if job.inputs.push then [Task.registryLogin] else []) ++ [Task.uploadArtifact] ++
    if job.distro.arch = "aarch64" then [Task.removeLocalImages] else []

structure AllWell : Prop where
  tasks : ∀ task ∈ job.tasks, job.ends task = .success
  overcloudBuilt : job.inputs.overcloud = true → job.overcloudBuild.outcome = .success
  seedBuilt : job.buildsSeed = true → job.seedBuild.outcome = .success
  stored : ∃ image ∈ job.storedImages, job.lists .built image = true
  finished : ∃ status, (job.scanState job.localImages).position = .exited status
  scanned : ∀ image ∈ job.listedImages, (job.recorded image).isSome
  passes : job.inputs.pushCritical = true ∨
    ∀ image ∈ job.listedImages, job.recorded image ≠ some .critical
  pushed : job.inputs.push = true → ∀ image ∈ job.listedImages,
    (⟨image, .pushed⟩ : Push) ∈ job.final.state.pushing.pushes

theorem conclusion_continued {step : Step Workspace} (continues : step.continueOnError = true)
    (outcome : Outcome) : step.conclusion outcome = .success ↔ outcome ≠ .cancelled := by
  cases outcome <;> simp [Step.conclusion, continues]

theorem completes_task (task : Task) (applies : Bool) (steps : List (Step Workspace))
    (workspace : Workspace) :
    Completes (job.task task applies :: steps) workspace ↔
      (applies = true → job.ends task = .success) ∧ Completes steps workspace := by
  rw [completes_unchanged rfl rfl]
  rfl

theorem completes_tasks (tasks : List Task) (steps : List (Step Workspace)) (workspace : Workspace) :
    Completes ((tasks.map fun task => job.task task true) ++ steps) workspace ↔
      (∀ task ∈ tasks, job.ends task = .success) ∧ Completes steps workspace := by
  induction tasks with
  | nil => simp
  | cons task tasks ih =>
      rw [List.map_cons, List.cons_append, completes_task, ih, List.forall_mem_cons]
      simp [and_assoc]

theorem completes_buildOvercloud (steps : List (Step Workspace)) (workspace : Workspace) :
    Completes (job.buildOvercloudImages :: steps) workspace ↔
      (job.inputs.overcloud = true → job.overcloudBuild.outcome ≠ .cancelled) ∧
        Completes steps (if job.inputs.overcloud then (job.buildOvercloudImages.run workspace).1
          else workspace) := by
  rw [Completes, conclusion_continued rfl]
  by_cases overcloud : job.inputs.overcloud = true <;> simp [buildOvercloudImages, overcloud]

theorem completes_buildSeed (steps : List (Step Workspace)) (workspace : Workspace) :
    Completes (job.buildSeedImages :: steps) workspace ↔
      (job.buildsSeed = true → job.seedBuild.outcome ≠ .cancelled) ∧
        Completes steps (if job.buildsSeed then (job.buildSeedImages.run workspace).1
          else workspace) := by
  rw [Completes, conclusion_continued rfl]
  by_cases seed : job.buildsSeed = true <;> simp [buildSeedImages, seed]

theorem completes_listing (workspace : Workspace) :
    Completes [job.getBuiltImages, failIfNoImages, job.task .waitForDatabase true] workspace ↔
      job.ends .listBuiltImages = .success ∧
        workspace.localImages.filter (job.lists .built) ≠ [] ∧
        job.ends .waitForDatabase = .success := by
  have listing : job.getBuiltImages.applies workspace = true := rfl
  have checking : failIfNoImages.applies (job.getBuiltImages.run workspace).1 = true := rfl
  rw [Completes, if_pos listing, Step.conclusion_strict rfl, Completes, if_pos checking,
    Step.conclusion_strict rfl]
  apply and_congr Iff.rfl
  apply and_congr
  · simp only [failIfNoImages, getBuiltImages]
    rw [Outcome.check_success_iff, ← List.length_pos_iff]
    omega
  · rw [completes_task]
    simp [Completes]

def built : Workspace := completed job.buildSteps job.purged

theorem built_eq : job.built =
    (job.getBuiltImages.run
      (let overcloud := if job.inputs.overcloud then (job.buildOvercloudImages.run job.purged).1
          else job.purged
        if job.buildsSeed then (job.buildSeedImages.run overcloud).1 else overcloud)).1 := by
  unfold built buildSteps
  rw [completed_tasks]
  by_cases overcloud : job.inputs.overcloud = true <;> by_cases seed : job.buildsSeed = true <;>
    simp [completed, task_kept, buildOvercloudImages, buildSeedImages, getBuiltImages,
      failIfNoImages, overcloud, seed]

theorem built_overcloudOutcome : job.built.overcloudOutcome =
    if job.inputs.overcloud then some job.overcloudBuild.outcome else none := by
  rw [built_eq]
  by_cases overcloud : job.inputs.overcloud = true <;> by_cases seed : job.buildsSeed = true <;>
    simp [buildOvercloudImages, buildSeedImages, getBuiltImages, withImages, purged,
      overcloud, seed]

theorem built_seedOutcome : job.built.seedOutcome =
    if job.buildsSeed then some job.seedBuild.outcome else none := by
  rw [built_eq]
  by_cases overcloud : job.inputs.overcloud = true <;> by_cases seed : job.buildsSeed = true <;>
    simp [buildOvercloudImages, buildSeedImages, getBuiltImages, withImages, purged,
      overcloud, seed]

theorem built_pushing : job.built.pushing = ⟨[], []⟩ := by
  rw [built_eq]
  by_cases overcloud : job.inputs.overcloud = true <;> by_cases seed : job.buildsSeed = true <;>
    simp [buildOvercloudImages, buildSeedImages, getBuiltImages, withImages, purged,
      overcloud, seed]

theorem completes_buildSteps :
    Completes job.buildSteps job.purged ↔
      (∀ task ∈ setupTasks, job.ends task = .success) ∧
      (job.inputs.overcloud = true → job.overcloudBuild.outcome ≠ .cancelled) ∧
      (job.inputs.overcloud = true → job.ends .copyBuildConfigs = .success) ∧
      (job.buildsSeed = true → job.seedBuild.outcome ≠ .cancelled) ∧
      (job.buildsSeed = true → job.ends .copySeedLogs = .success) ∧
      job.ends .listBuiltImages = .success ∧
      job.localImages.filter (job.lists .built) ≠ [] ∧ job.ends .waitForDatabase = .success := by
  have images : job.localImages = _ := congrArg Workspace.localImages job.built_eq
  rw [images]
  unfold buildSteps
  rw [completes_tasks, completes_buildOvercloud, completes_task, completes_buildSeed,
    completes_task, completes_listing]
  rfl

theorem completes_listSteps {workspace : Workspace} {output : ScanOutput}
    (moved : workspace.movedScanOutput = some output) : Completes job.listSteps workspace := by
  cases asked : job.inputs.push <;> cases critical : job.inputs.pushCritical <;>
    simp [listSteps, Completes, copyCleanImages, appendImages, asked, critical, moved,
      Step.conclusion]

theorem completes_reportSteps (workspace : Workspace) :
    Completes job.reportSteps workspace ↔
      job.ends .uploadArtifact = .success ∧
      (workspace.overcloudOutcome ≠ some .failure ∧ workspace.seedOutcome ≠ some .failure) ∧
      (job.inputs.push = true → workspace.pushing.pushFailedImages = []) ∧
      (job.inputs.pushCritical = true ∨ workspace.criticalImages = []) ∧
      (job.distro.arch = "aarch64" → job.ends .removeLocalImages = .success) := by
  have uploads : job.uploadOutput.applies workspace = true := rfl
  unfold reportSteps
  rw [Completes, if_pos uploads, Step.conclusion_strict rfl, completes_unchanged rfl rfl,
    completes_unchanged rfl rfl, completes_unchanged rfl rfl]
  apply and_congr Iff.rfl
  apply and_congr
  · simp [failWhenNotBuilt, uploadOutput, not_or]
  apply and_congr
  · simp only [failWhenNotPushed, uploadOutput]
    rw [Outcome.check_success_iff, List.length_pos_iff, not_not]
  apply and_congr
  · rw [failIfCritical_success]
    cases critical : job.inputs.pushCritical <;>
      simp [failIfCritical, uploadOutput, critical, Workspace.criticalImages]
  · by_cases remove : job.distro.arch = "aarch64" <;>
      simp [Completes, removeLocalImages, remove, Step.conclusion]

def scannedWorkspace : Workspace :=
  { job.built with imageScanOutput := none, movedScanOutput := some job.scanOutput }

def listedWorkspace : Workspace :=
  if job.inputs.push then
    { job.scannedWorkspace with pushAttemptImages := some job.attemptedImages }
  else job.scannedWorkspace

def pushed : Pushing × Outcome := pushImages job.answers job.attemptedImages ⟨[], []⟩

def pushedWorkspace : Workspace :=
  if job.inputs.push then { job.listedWorkspace with pushing := job.pushed.1 } else job.listedWorkspace

theorem completed_list (prepared : job.Prepared) :
    completed job.listSteps (completed job.scanSteps job.built) = job.listedWorkspace := by
  rw [completed_scanSteps job prepared]
  by_cases asked : job.inputs.push = true
  · rw [completed_listSteps job asked rfl, listedWorkspace, if_pos asked]
    rfl
  · rw [listedWorkspace, if_neg asked]
    simp only [Bool.not_eq_true] at asked
    simp [listSteps, completed, copyCleanImages, appendImages, asked]
    rfl

theorem completes_push_listed :
    Completes [job.pushBuiltImages] job.listedWorkspace ↔
      (job.inputs.push = true → job.ends .registryLogin = .success ∧ job.pushed.2 = .success) := by
  by_cases asked : job.inputs.push = true
  · have nothing : job.listedWorkspace.pushing = ⟨[], []⟩ := by
      simpa [listedWorkspace, scannedWorkspace, asked] using job.built_pushing
    have listed : job.listedWorkspace.pushAttemptImages = some job.attemptedImages := by
      simp [listedWorkspace, asked]
    by_cases login : job.ends .registryLogin = .success <;>
      simp [Completes, pushBuiltImages, asked, login, listed, nothing, pushed, Step.conclusion]
  · simp [Completes, pushBuiltImages, asked]

theorem completed_push (login : job.inputs.push = true → job.ends .registryLogin = .success) :
    completed [job.pushBuiltImages] job.listedWorkspace = job.pushedWorkspace := by
  by_cases asked : job.inputs.push = true
  · have nothing : job.listedWorkspace.pushing = ⟨[], []⟩ := by
      simpa [listedWorkspace, scannedWorkspace, asked] using job.built_pushing
    have listed : job.listedWorkspace.pushAttemptImages = some job.attemptedImages := by
      simp [listedWorkspace, asked]
    simp [completed, pushBuiltImages, pushedWorkspace, asked, login asked, listed, nothing, pushed]
  · simp [completed, pushBuiltImages, pushedWorkspace, asked]

theorem final_success_iff :
    job.final.status = .success ↔
      Completes job.buildSteps job.purged ∧
      (job.Prepared ∧ (job.scanState job.localImages).position = .exited 0 ∧
        (job.inputs.pushCritical = true ∨ job.scanOutput.criticalImages = [])) ∧
      (job.inputs.push = true → job.ends .registryLogin = .success ∧ job.pushed.2 = .success) ∧
      Completes job.reportSteps job.pushedWorkspace := by
  unfold final
  rw [Job.performAll_success_iff]
  unfold steps
  simp only [completes_append, completed_append, true_and, and_assoc]
  apply and_congr Iff.rfl
  rw [show completed job.buildSteps job.purged = job.built from rfl, completes_scanSteps, and_assoc,
    and_assoc]
  apply and_congr_right
  intro prepared
  have moved : (completed job.scanSteps job.built).movedScanOutput =
      some (job.scanState job.built.localImages).output := by
    rw [completed_scanSteps job prepared]
  rw [completed_list job prepared, completes_push_listed, and_iff_right (completes_listSteps job moved)]
  apply and_congr Iff.rfl
  apply and_congr Iff.rfl
  apply and_congr_right
  intro reached
  rw [completed_push job fun asked => (reached asked).1]

/-- Every image of the list is pushed exactly where the loop ends and leaves no failed image. -/
theorem pushed_all_iff (distinct : job.attemptedImages.Nodup) :
    (∀ image ∈ job.attemptedImages, (⟨image, .pushed⟩ : Push) ∈ job.pushed.1.pushes) ↔
      job.pushed.2 = .success ∧ job.pushed.1.pushFailedImages = [] := by
  obtain ⟨pushes, all⟩ := pushImages_all job.answers distinct ⟨[], []⟩
  have known : job.pushed.1.pushes = pushes := by
    rw [pushed, all.extends_pushes, List.nil_append]
  rw [known]
  constructor
  · intro everywhere
    have ends : job.pushed.2 = .success := by
      by_contra unfinished
      obtain ⟨image, member, missing⟩ := all.unfinished unfinished
      exact missing (everywhere image member)
    refine ⟨ends, ?_⟩
    rw [pushed, all.recorded ends, List.nil_append, List.filter_eq_nil_iff]
    intro image member
    simp [everywhere image member]
  · rintro ⟨ends, none⟩ image member
    rw [pushed, all.recorded ends, List.nil_append, List.filter_eq_nil_iff] at none
    simpa using none image member

theorem pushedWorkspace_reports :
    Completes job.reportSteps job.pushedWorkspace ↔
      job.ends .uploadArtifact = .success ∧
      (¬(job.inputs.overcloud = true ∧ job.overcloudBuild.outcome = .failure) ∧
        ¬(job.buildsSeed = true ∧ job.seedBuild.outcome = .failure)) ∧
      (job.inputs.push = true → job.pushed.1.pushFailedImages = []) ∧
      (job.inputs.pushCritical = true ∨ job.scanOutput.criticalImages = []) ∧
      (job.distro.arch = "aarch64" → job.ends .removeLocalImages = .success) := by
  have overcloud : job.pushedWorkspace.overcloudOutcome = job.built.overcloudOutcome := by
    by_cases asked : job.inputs.push = true <;>
      simp [pushedWorkspace, listedWorkspace, scannedWorkspace, asked]
  have seed : job.pushedWorkspace.seedOutcome = job.built.seedOutcome := by
    by_cases asked : job.inputs.push = true <;>
      simp [pushedWorkspace, listedWorkspace, scannedWorkspace, asked]
  have critical : job.pushedWorkspace.criticalImages = job.scanOutput.criticalImages := by
    by_cases asked : job.inputs.push = true <;>
      simp [pushedWorkspace, listedWorkspace, scannedWorkspace, Workspace.criticalImages, asked]
  rw [completes_reportSteps, overcloud, seed, critical, built_overcloudOutcome, built_seedOutcome]
  apply and_congr Iff.rfl
  apply and_congr
  · by_cases overcloud : job.inputs.overcloud = true <;> by_cases seed : job.buildsSeed = true <;>
      simp [overcloud, seed]
  apply and_congr
  · apply imp_congr_right
    intro asked
    simp [pushedWorkspace, asked]
  · rfl

theorem forall_mem_optional {condition : Prop} [Decidable condition] {holds : Task → Prop}
    {optional : Task} :
    (∀ task ∈ (if condition then [optional] else []), holds task) ↔ (condition → holds optional) := by
  by_cases here : condition <;> simp [here]

theorem forall_tasks_iff (holds : Task → Prop) :
    (∀ task ∈ job.tasks, holds task) ↔
      (∀ task ∈ setupTasks, holds task) ∧
      (job.inputs.overcloud = true → holds .copyBuildConfigs) ∧
      (job.buildsSeed = true → holds .copySeedLogs) ∧
      (holds .listBuiltImages ∧ holds .waitForDatabase ∧ holds .checkDependencies ∧
        holds .updateDatabase ∧ holds .getImages) ∧
      (job.inputs.push = true → holds .registryLogin) ∧ holds .uploadArtifact ∧
      (job.distro.arch = "aarch64" → holds .removeLocalImages) := by
  unfold tasks
  simp only [List.forall_mem_append, forall_mem_optional, List.forall_mem_singleton, and_assoc]
  simp only [List.forall_mem_cons, List.not_mem_nil, false_imp_iff, implies_true, and_true, and_assoc]

theorem stored_iff : job.localImages.filter (job.lists .built) ≠ [] ↔
    ∃ image ∈ job.storedImages, job.lists .built image = true := by
  rw [ne_eq, List.filter_eq_nil_iff]
  simp only [mem_localImages, not_forall, not_not, exists_prop]

theorem scanned_iff {status : Nat} (finished : (job.scanState job.localImages).position = .exited status) :
    status = 0 ↔ ∀ image ∈ job.listedImages, (job.recorded image).isSome := by
  have run := job.possible (job.scanSetup job.localImages)
  rw [exited_zero_iff run finished]
  simp only [mem_scanSetup]
  apply forall_congr'
  intro image
  apply imp_congr_right
  intro _
  rw [Option.isSome_iff_ne_none]
  exact not_congr (result_none_iff _ _).symm

theorem allWell_of_success (successful : job.final.status = .success) : job.AllWell := by
  obtain ⟨built, ⟨⟨dependencies, database, listing⟩, exited, passes⟩, pushes, reports⟩ :=
    (job.final_success_iff).mp successful
  obtain ⟨setup, overcloudEnds, configs, seedEnds, logs, listBuilt, nonempty, waits⟩ :=
    (job.completes_buildSteps).mp built
  obtain ⟨upload, ⟨overcloudBuilt, seedBuilt⟩, noneFailed, _, removes⟩ :=
    (job.pushedWorkspace_reports).mp reports
  refine ⟨?_, ?_, ?_, ?_, ⟨0, exited⟩, ?_, ?_, ?_⟩
  · rw [forall_tasks_iff]
    exact ⟨setup, configs, logs, ⟨listBuilt, waits, dependencies, database, listing⟩,
      fun asked => (pushes asked).1, upload, removes⟩
  · intro overcloud
    cases outcome : job.overcloudBuild.outcome with
    | success => rfl
    | failure => exact absurd ⟨overcloud, outcome⟩ overcloudBuilt
    | cancelled => exact absurd outcome (overcloudEnds overcloud)
  · intro seed
    cases outcome : job.seedBuild.outcome with
    | success => rfl
    | failure => exact absurd ⟨seed, outcome⟩ seedBuilt
    | cancelled => exact absurd outcome (seedEnds seed)
  · exact job.stored_iff.mp nonempty
  · exact fun image listed => recorded_isSome exited listed
  · rw [← criticalImages_eq_nil exited]
    exact passes
  · intro asked image listed
    have successfulPush : job.afterPush.status = .success := by
      rw [final_eq] at successful
      exact Job.performAll_status successful
    have pushing := job.afterPush_pushing asked (Job.perform_status successfulPush)
    rw [if_pos (pushes asked).1] at pushing
    have attempted : image ∈ job.attemptedImages := by
      rw [mem_attemptedImages exited]
      refine ⟨listed, ?_⟩
      intro critical
      rw [criticalImages_eq_nil exited] at passes
      exact passes.resolve_right fun none => none image listed critical
    rw [pushing]
    exact (job.pushed_all_iff (attemptedImages_nodup exited)).mpr
      ⟨(pushes asked).2, noneFailed asked⟩ image attempted

theorem success_of_allWell (well : job.AllWell) : job.final.status = .success := by
  obtain ⟨status, finished⟩ := well.finished
  have zero : status = 0 := (job.scanned_iff finished).mpr well.scanned
  subst zero
  have tasks := (job.forall_tasks_iff _).mp well.tasks
  obtain ⟨setup, configs, logs, ⟨listBuilt, waits, prepared⟩, login, upload, removes⟩ := tasks
  have passes : job.inputs.pushCritical = true ∨ job.scanOutput.criticalImages = [] := by
    rw [criticalImages_eq_nil finished]
    exact well.passes
  have pushed (asked : job.inputs.push = true) :
      job.pushed.2 = .success ∧ job.pushed.1.pushFailedImages = [] := by
    rw [← job.pushed_all_iff (attemptedImages_nodup finished)]
    intro image attempted
    have listed := ((mem_attemptedImages finished image).mp attempted).1
    have member := well.pushed asked image listed
    rcases job.pushing_cases with nothing | ⟨_, pushing⟩
    · simp [nothing] at member
    · rw [pushing] at member
      exact member
  rw [final_success_iff, completes_buildSteps, pushedWorkspace_reports]
  refine ⟨⟨setup, ?_, configs, ?_, logs, listBuilt, ?_, waits⟩, ⟨prepared, finished, passes⟩,
    fun asked => ⟨login asked, (pushed asked).1⟩, upload, ⟨?_, ?_⟩, fun asked => (pushed asked).2,
    passes, removes⟩
  · intro overcloud
    simp [well.overcloudBuilt overcloud]
  · intro seed
    simp [well.seedBuilt seed]
  · exact job.stored_iff.mpr well.stored
  · rintro ⟨overcloud, failed⟩
    simp [well.overcloudBuilt overcloud] at failed
  · rintro ⟨seed, failed⟩
    simp [well.seedBuilt seed] at failed

section Successful

variable {job} (successful : job.final.status = .success)

include successful

theorem final_artifact (asked : job.inputs.push = true) :
    job.final.state.artifact = some job.attemptedImages := by
  obtain ⟨_, ⟨prepared, _, _⟩, pushes, reports⟩ := (job.final_success_iff).mp successful
  have upload := ((job.pushedWorkspace_reports).mp reports).1
  have state : job.final.state = completed job.reportSteps job.pushedWorkspace := by
    have all := Job.performAll_completed successful
    unfold steps at all
    rw [completed_append, completed_append, completed_append, completed_append] at all
    rw [← completed_push job fun asked => (pushes asked).1, ← completed_list job prepared]
    exact all
  have attempted : job.pushedWorkspace.pushAttemptImages = some job.attemptedImages := by
    simp [pushedWorkspace, listedWorkspace, asked]
  rw [state]
  simp [reportSteps, completed, uploadOutput, upload, attempted, failWhenNotBuilt,
    failWhenNotPushed, failIfCritical, removeLocalImages]
  split_ifs <;> rfl

theorem mem_attemptedImages_of_success (image : String) :
    image ∈ job.attemptedImages ↔ image ∈ job.listedImages := by
  obtain ⟨_, ⟨_, exited, passes⟩, _, _⟩ := (job.final_success_iff).mp successful
  rw [mem_attemptedImages exited]
  constructor
  · exact And.left
  · intro listed
    refine ⟨listed, ?_⟩
    intro critical
    rw [criticalImages_eq_nil exited] at passes
    exact passes.resolve_right fun none => none image listed critical

theorem mem_pushedImages_of_success (asked : job.inputs.push = true) (image : String) :
    image ∈ job.pushedImages ↔ image ∈ job.listedImages := by
  unfold pushedImages
  rw [List.mem_map]
  constructor
  · rintro ⟨push, member, rfl⟩
    exact (job.mayPush_of_push (List.mem_of_mem_filter member)).listed
  · intro listed
    have pushed := (job.allWell_of_success successful).pushed asked image listed
    exact ⟨⟨image, .pushed⟩, List.mem_filter.mpr ⟨pushed, rfl⟩, rfl⟩

end Successful

end BuildJob

end ImageBuild
