import KayobeConfig.ImageBuild.Job

/-!
What the image build job pushes, wherever it fails or is cancelled and in whatever order its
scans run, and when it succeeds.
-/

namespace ScanImages

open Library

variable {setup : Setup} {events : List Event}

/-- After a scan of all images, the lists hold what each image's own scan has come to. -/
theorem mem_images_iff (run : setup.Run events) (exited : (setup.after events).position = .exited 0)
    (image : String) (category : Category) :
    image ∈ (setup.after events).output.images category ↔
      image ∈ setup.images ∧
        (setup.scans image).result (scanImageScript setup.generateSbom image) = some category := by
  have sound := sound_after run
  obtain ⟨reached, _⟩ := exited_zero run exited
  obtain ⟨_, quiet, _⟩ := exited_known run exited
  have listed := (sound.filed image).listed category
  rw [← List.count_pos_iff, listed]
  by_cases member : image ∈ setup.images
  · have started := started_of_pending run reached member
    obtain ⟨result, waited, ended⟩ := ended_of_started run quiet started
    have course := sound.course image
    rw [ended] at course
    have known : result = (setup.scans image).result (scanImageScript setup.generateSbom image) := course
    rw [ended, known]
    simp only [Phase.result, Option.some.injEq, member, true_and]
    split
    · rename_i here
      exact iff_of_true Nat.one_pos here
    · rename_i elsewhere
      exact iff_of_false (Nat.lt_irrefl 0) elsewhere
  · have idle := (sound.placed.idle_iff image).mpr (.inl member)
    rw [idle]
    simp [Phase.result, member]

end ScanImages

namespace ImageBuild

open Library ScanImages

namespace BuildJob

variable (job : BuildJob)

/-- The list that the image's own scan puts it on, or none where that scan fails. -/
def recorded (image : String) : Option Category :=
  (job.scans image).result (scanImageScript job.inputs.sbom image)

def localImages : List String := (completed job.buildSteps job.purged).localImages

def scanOutput : ScanOutput := (job.scanState job.localImages).output

def attemptedImages : List String :=
  job.scanOutput.images .clean ++ job.scanOutput.images .high ++
    if job.inputs.pushCritical then job.scanOutput.images .critical else []

structure Pushes : Prop where
  asked : job.inputs.push = true
  scanned : (job.scanState job.localImages).position = .exited 0
  passes : job.inputs.pushCritical = true ∨ job.scanOutput.criticalImages = []

theorem task_kept (task : Task) (applies : Bool) (workspace : Workspace) :
    (if (job.task task applies).applies workspace then ((job.task task applies).run workspace).1
      else workspace) = workspace := by
  split <;> rfl

theorem completed_tasks (tasks : List Task) (steps : List (Step Workspace)) (workspace : Workspace) :
    completed ((tasks.map fun task => job.task task true) ++ steps) workspace =
      completed steps workspace := by
  induction tasks with
  | nil => rfl
  | cons task tasks ih =>
      rw [List.map_cons, List.cons_append, completed, task_kept]
      exact ih

theorem mem_localImages (image : String) : image ∈ job.localImages ↔ image ∈ job.storedImages := by
  unfold localImages buildSteps storedImages builtImages
  rw [completed_tasks]
  by_cases overcloud : job.inputs.overcloud = true <;> by_cases seed : job.buildsSeed = true <;>
    simp [completed, task_kept, buildOvercloudImages, buildSeedImages, getBuiltImages, failIfNoImages,
      withImages, purged, overcloud, seed, or_assoc]

theorem mem_scanSetup (image : String) :
    image ∈ (job.scanSetup job.localImages).images ↔ image ∈ job.listedImages := by
  have scanned : image ∈ (job.scanSetup job.localImages).images ↔
      image ∈ (unique job.localImages).filter (job.lists .scanned) :=
    (job.getImages_perm _).mem_iff
  rw [scanned, listedImages, List.mem_filter, List.mem_filter, mem_unique, mem_localImages]

theorem pushing_kept {steps : List (Step Workspace)}
    (kept : ∀ step ∈ steps, ∀ workspace, (step.run workspace).1.pushing = workspace.pushing)
    (before : Job Workspace) : (before.performAll steps).state.pushing = before.state.pushing := by
  have step : ∀ step ∈ steps, ∀ workspace : Workspace, workspace.pushing = before.state.pushing →
      step.applies workspace → (step.run workspace).1.pushing = before.state.pushing := by
    intro step member workspace here _
    rw [kept step member workspace, here]
  exact Job.performAll_state step rfl

theorem scanBuiltImages_pushing (workspace : Workspace) :
    (job.scanBuiltImages.run workspace).1.pushing = workspace.pushing := by
  simp only [scanBuiltImages]
  split_ifs <;> rfl

theorem moveScanLogs_pushing (workspace : Workspace) :
    (moveScanLogs.run workspace).1.pushing = workspace.pushing := by
  simp only [moveScanLogs]
  split <;> rfl

theorem copyCleanImages_pushing (workspace : Workspace) :
    (job.copyCleanImages.run workspace).1.pushing = workspace.pushing := by
  simp only [copyCleanImages]
  split <;> rfl

theorem appendImages_pushing (category : Category) (applies : Bool) (workspace : Workspace) :
    ((appendImages category applies).run workspace).1.pushing = workspace.pushing := by
  simp only [appendImages]
  split <;> rfl

theorem buildSteps_pushing : ∀ step ∈ job.buildSteps, ∀ workspace,
    (step.run workspace).1.pushing = workspace.pushing := by
  unfold buildSteps
  rw [List.forall_mem_append]
  constructor
  · simp [task]
  · simp [task, buildOvercloudImages, buildSeedImages, getBuiltImages, failIfNoImages, withImages]

theorem scanSteps_pushing : ∀ step ∈ job.scanSteps, ∀ workspace,
    (step.run workspace).1.pushing = workspace.pushing := by
  simp [scanSteps, scanBuiltImages_pushing, moveScanLogs_pushing, failIfCritical]

theorem listSteps_pushing : ∀ step ∈ job.listSteps, ∀ workspace,
    (step.run workspace).1.pushing = workspace.pushing := by
  simp [listSteps, copyCleanImages_pushing, appendImages_pushing]

theorem reportSteps_pushing : ∀ step ∈ job.reportSteps, ∀ workspace,
    (step.run workspace).1.pushing = workspace.pushing := by
  simp [reportSteps, uploadOutput, failWhenNotBuilt, failWhenNotPushed, failIfCritical,
    removeLocalImages]

theorem scanOutcome_success_iff (images : List String) :
    job.scanOutcome images = .success ↔ (job.scanState images).position = .exited 0 := by
  unfold scanOutcome
  split
  · rename_i zero
    simp [zero]
  · rename_i status nonzero exited
    simp only [reduceCtorEq, false_iff, exited, Position.exited.injEq]
    rintro rfl
    exact nonzero rfl
  · rename_i zero other
    simp only [reduceCtorEq, false_iff]
    exact zero

/-- The commands of the scan script that come before the scans succeed. -/
def Prepared : Prop :=
  job.ends .checkDependencies = .success ∧ job.ends .updateDatabase = .success ∧
    job.ends .getImages = .success

theorem scanBuiltImages_success {workspace : Workspace} :
    (job.scanBuiltImages.run workspace).2 = .success ↔
      job.Prepared ∧ (job.scanState workspace.localImages).position = .exited 0 := by
  unfold Prepared
  rw [← scanOutcome_success_iff]
  simp only [scanBuiltImages]
  split_ifs with dependencies database listing <;> simp_all

theorem scanBuiltImages_output {workspace : Workspace} (prepared : job.Prepared) :
    (job.scanBuiltImages.run workspace).1 =
      { workspace with imageScanOutput := some (job.scanState workspace.localImages).output } := by
  obtain ⟨dependencies, database, listing⟩ := prepared
  simp [scanBuiltImages, dependencies, database, listing]

theorem failIfCritical_success (guard : Guard) (workspace : Workspace) :
    ((job.failIfCritical guard).run workspace).2 = .success ↔ workspace.criticalImages = [] := by
  simp only [failIfCritical]
  rw [Outcome.check_success_iff, List.length_pos_iff, not_not]

theorem completes_scanSteps {workspace : Workspace} :
    Completes job.scanSteps workspace ↔
      job.Prepared ∧ (job.scanState workspace.localImages).position = .exited 0 ∧
        (job.inputs.pushCritical = true ∨
          (job.scanState workspace.localImages).output.criticalImages = []) := by
  have scanStep : (job.scanBuiltImages.applies workspace) = true := rfl
  unfold scanSteps
  rw [Completes, if_pos scanStep, Step.conclusion_strict rfl, scanBuiltImages_success, and_assoc]
  apply and_congr_right
  intro prepared
  apply and_congr_right
  intro _
  rw [scanBuiltImages_output job prepared]
  have moved (output : ScanOutput) :
      Completes [moveScanLogs, job.failIfCritical .success]
        { workspace with imageScanOutput := some output } ↔
      Completes [job.failIfCritical .success]
        { workspace with imageScanOutput := none, movedScanOutput := some output } := by
    have moves : (moveScanLogs.applies { workspace with imageScanOutput := some output }) = true := rfl
    rw [Completes, if_pos moves]
    exact and_iff_right rfl
  rw [moved, Completes, Step.conclusion_strict rfl, failIfCritical_success]
  cases critical : job.inputs.pushCritical with
  | true => simp [Completes, failIfCritical, critical]
  | false => simp [Completes, failIfCritical, critical, Workspace.criticalImages]

theorem completed_scanSteps {workspace : Workspace} (prepared : job.Prepared) :
    completed job.scanSteps workspace =
      { workspace with
        imageScanOutput := none
        movedScanOutput := some (job.scanState workspace.localImages).output } := by
  have scanStep : (job.scanBuiltImages.applies workspace) = true := rfl
  unfold scanSteps
  rw [completed, if_pos scanStep, scanBuiltImages_output job prepared]
  simp [completed, moveScanLogs, failIfCritical]

theorem completed_listSteps {workspace : Workspace} {output : ScanOutput}
    (asked : job.inputs.push = true) (moved : workspace.movedScanOutput = some output) :
    completed job.listSteps workspace =
      { workspace with
        pushAttemptImages := some (output.images .clean ++ output.images .high ++
          if job.inputs.pushCritical then output.images .critical else []) } := by
  cases critical : job.inputs.pushCritical with
  | true => simp [listSteps, completed, copyCleanImages, appendImages, asked, moved, critical,
      ScanOutput.images]
  | false => simp [listSteps, completed, copyCleanImages, appendImages, asked, moved, critical,
      ScanOutput.images]

def afterBuild : Job Workspace := (⟨job.purged, .success⟩ : Job Workspace).performAll job.buildSteps

def afterScan : Job Workspace := job.afterBuild.performAll job.scanSteps

def afterList : Job Workspace := job.afterScan.performAll job.listSteps

def afterPush : Job Workspace := job.afterList.perform job.pushBuiltImages

theorem final_eq : job.final = job.afterPush.performAll job.reportSteps := by
  unfold final steps afterPush afterList afterScan afterBuild
  simp only [Job.performAll_append, Job.performAll_cons, Job.performAll_nil]

theorem afterScan_scanned (successful : job.afterScan.status = .success) :
    (job.Prepared ∧ (job.scanState job.localImages).position = .exited 0 ∧
      (job.inputs.pushCritical = true ∨ job.scanOutput.criticalImages = [])) ∧
        job.afterScan.state.movedScanOutput = some job.scanOutput := by
  obtain ⟨built, completes⟩ := Job.performAll_success_iff.mp successful
  have images : job.afterBuild.state.localImages = job.localImages :=
    congrArg Workspace.localImages (Job.performAll_completed built)
  have scanned := (completes_scanSteps job).mp completes
  have state : job.afterScan.state = completed job.scanSteps job.afterBuild.state :=
    Job.performAll_completed successful
  rw [images] at scanned
  refine ⟨scanned, ?_⟩
  rw [state, completed_scanSteps job scanned.1, images]
  rfl

theorem afterList_listed (asked : job.inputs.push = true)
    (successful : job.afterList.status = .success) :
    job.afterList.state.pushAttemptImages = some job.attemptedImages := by
  have scanned := (job.afterScan_scanned (Job.performAll_status successful)).2
  have state : job.afterList.state = completed job.listSteps job.afterScan.state :=
    Job.performAll_completed successful
  rw [state, completed_listSteps job asked scanned]
  rfl

theorem afterList_pushing : job.afterList.state.pushing = ⟨[], []⟩ := by
  have built : job.afterBuild.state.pushing = ⟨[], []⟩ := by
    have kept := pushing_kept job.buildSteps_pushing { state := job.purged, status := .success }
    exact kept
  have scanned := pushing_kept job.scanSteps_pushing job.afterBuild
  have listed := pushing_kept job.listSteps_pushing job.afterScan
  exact listed.trans (scanned.trans built)

theorem final_pushing : job.final.state.pushing = job.afterPush.state.pushing := by
  rw [final_eq]
  exact pushing_kept job.reportSteps_pushing job.afterPush

theorem afterPush_pushing (asked : job.inputs.push = true) (successful : job.afterList.status = .success) :
    job.final.state.pushing =
      if job.ends .registryLogin = .success then
        (pushImages job.answers job.attemptedImages ⟨[], []⟩).1 else ⟨[], []⟩ := by
  have applies : job.pushBuiltImages.applies job.afterList.state = true := asked
  rw [final_pushing]
  unfold afterPush
  rw [Job.perform_success successful, if_pos applies]
  by_cases login : job.ends .registryLogin = .success
  · simp [pushBuiltImages, job.afterList_listed asked successful, job.afterList_pushing, login]
  · simp [pushBuiltImages, job.afterList_pushing, login]

/-- The job pushes nothing, or it has passed the scans and runs the loop over the lists. -/
theorem pushing_cases :
    job.final.state.pushing = ⟨[], []⟩ ∨
      (job.Pushes ∧
        job.final.state.pushing = (pushImages job.answers job.attemptedImages ⟨[], []⟩).1) := by
  by_cases allowed : job.afterList.allows job.pushBuiltImages = true
  · simp only [Job.allows, pushBuiltImages, Guard.allows, Bool.and_eq_true, decide_eq_true_eq] at allowed
    obtain ⟨successful, asked⟩ := allowed
    have scanned := (job.afterScan_scanned (Job.performAll_status successful)).1
    rw [job.afterPush_pushing asked successful]
    split_ifs with login
    · exact .inr ⟨⟨asked, scanned.2.1, scanned.2.2⟩, rfl⟩
    · exact .inl rfl
  · have skipped : job.afterPush = job.afterList :=
      Job.perform_skipped (Bool.eq_false_iff.mpr allowed)
    rw [final_pushing, skipped]
    exact .inl job.afterList_pushing

section Scanned

variable {job} (exited : (job.scanState job.localImages).position = .exited 0)

include exited

theorem mem_scanOutput (image : String) (category : Category) :
    image ∈ job.scanOutput.images category ↔
      image ∈ job.listedImages ∧ job.recorded image = some category := by
  have run := job.possible (job.scanSetup job.localImages)
  have listed := mem_images_iff run exited image category
  rw [mem_scanSetup] at listed
  exact listed

theorem recorded_isSome {image : String} (member : image ∈ job.listedImages) :
    (job.recorded image).isSome := by
  have run := job.possible (job.scanSetup job.localImages)
  have complete := scannedImages_perm run exited
  rw [← mem_scanSetup] at member
  have listed : image ∈ job.scanOutput.images .clean ++ job.scanOutput.images .high ++
      job.scanOutput.images .critical := complete.mem_iff.mpr member
  simp only [List.mem_append, mem_scanOutput exited] at listed
  rcases listed with (⟨_, known⟩ | ⟨_, known⟩) | ⟨_, known⟩ <;> simp [known]

theorem attemptedImages_nodup : job.attemptedImages.Nodup := by
  have run := job.possible (job.scanSetup job.localImages)
  have distinct : (job.scanState job.localImages).scannedImages.Nodup :=
    (scannedImages_perm run exited).nodup_iff.mpr (job.scanSetup job.localImages).distinct
  have sublist : job.attemptedImages.Sublist (job.scanState job.localImages).scannedImages := by
    unfold attemptedImages
    apply List.Sublist.append (List.Sublist.refl _)
    split
    · exact List.Sublist.refl _
    · exact List.nil_sublist _
  exact distinct.sublist sublist

theorem mem_attemptedImages (image : String) :
    image ∈ job.attemptedImages ↔
      image ∈ job.listedImages ∧
        (job.recorded image = some .critical → job.inputs.pushCritical = true) := by
  have known (listed : image ∈ job.listedImages) :=
    Option.isSome_iff_exists.mp (recorded_isSome exited listed)
  unfold attemptedImages
  cases allowed : job.inputs.pushCritical with
  | true =>
      simp only [if_true, List.mem_append, mem_scanOutput exited]
      constructor
      · rintro ((⟨listed, _⟩ | ⟨listed, _⟩) | ⟨listed, _⟩) <;> exact ⟨listed, fun _ => trivial⟩
      · rintro ⟨listed, _⟩
        obtain ⟨category, known⟩ := known listed
        cases category <;> simp [listed, known]
  | false =>
      simp only [List.mem_append, mem_scanOutput exited]
      constructor
      · rintro ((⟨listed, known⟩ | ⟨listed, known⟩) | none)
        · exact ⟨listed, by simp [known]⟩
        · exact ⟨listed, by simp [known]⟩
        · simp at none
      · rintro ⟨listed, notCritical⟩
        obtain ⟨category, known⟩ := known listed
        cases category with
        | clean => exact .inl (.inl ⟨listed, known⟩)
        | high => exact .inl (.inr ⟨listed, known⟩)
        | critical => exact absurd (notCritical known) (by decide)

theorem criticalImages_eq_nil :
    job.scanOutput.criticalImages = [] ↔
      ∀ image ∈ job.listedImages, job.recorded image ≠ some .critical := by
  rw [List.eq_nil_iff_forall_not_mem]
  have recorded := mem_scanOutput exited
  constructor
  · intro none image listed known
    exact none image ((recorded image .critical).mpr ⟨listed, known⟩)
  · intro none image member
    obtain ⟨listed, known⟩ := (recorded image .critical).mp member
    exact none image listed known

end Scanned

/-- What must hold for the job to push an image. -/
structure MayPush (image : String) : Prop where
  asked : job.inputs.push = true
  listed : image ∈ job.listedImages
  scanned : ∀ other ∈ job.listedImages, (job.recorded other).isSome
  passes : job.inputs.pushCritical = true ∨
    ∀ other ∈ job.listedImages, job.recorded other ≠ some .critical

theorem pushes_pushedAll (reached : job.Pushes)
    (pushing : job.final.state.pushing = (pushImages job.answers job.attemptedImages ⟨[], []⟩).1) :
    PushedAll job.attemptedImages ⟨[], []⟩ (pushImages job.answers job.attemptedImages ⟨[], []⟩)
      job.final.state.pushing.pushes := by
  have distinct := attemptedImages_nodup reached.scanned
  obtain ⟨pushes, all⟩ := pushImages_all job.answers distinct ⟨[], []⟩
  have known : job.final.state.pushing.pushes = pushes := by
    rw [pushing, all.extends_pushes, List.nil_append]
  rwa [known]

theorem mayPush_of_push {push : Push} (member : push ∈ job.final.state.pushing.pushes) :
    job.MayPush push.image := by
  rcases job.pushing_cases with nothing | ⟨reached, pushing⟩
  · simp [nothing] at member
  · have all := job.pushes_pushedAll reached pushing
    have attempted := (mem_attemptedImages reached.scanned push.image).mp (all.listed push member)
    refine ⟨reached.asked, attempted.1, fun other listed => recorded_isSome reached.scanned listed, ?_⟩
    rw [← criticalImages_eq_nil reached.scanned]
    exact reached.passes

end BuildJob

end ImageBuild
