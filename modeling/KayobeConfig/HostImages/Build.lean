import KayobeConfig.HostImages.Versions
import KayobeConfig.Library.Workflow

/-!
The jobs of `overcloud-host-image-build.yml`. Each builds the selected images of its
architecture, uploads what it has built, and at its end triggers the update of their tags.
-/

namespace HostImages

open Library

structure Inputs where
  rocky10 : Bool
  rocky10Aarch64 : Bool
  ubuntuNoble : Bool
  smsLab : Bool
  createSkcPr : Bool
  deriving DecidableEq

def Inputs.selects (inputs : Inputs) : HostImage → Bool
  | .rocky10 => inputs.rocky10
  | .rocky10Aarch64 => inputs.rocky10Aarch64
  | .ubuntuNoble => inputs.ubuntuNoble

def validateInputs (inputs : Inputs) : Bool :=
  (inputs.rocky10 || inputs.rocky10Aarch64 || inputs.ubuntuNoble) &&
    (!inputs.rocky10Aarch64 || inputs.smsLab)

inductive Destination
  | currentCloud
  | otherCloud
  | ark
  deriving DecidableEq

/-- There is one cloud with runners for `aarch64`. -/
def HostImage.destinations : HostImage → List Destination
  | .rocky10 | .ubuntuNoble => [.currentCloud, .otherCloud, .ark]
  | .rocky10Aarch64 => [.currentCloud, .ark]

inductive Command
  | displayTag
  | checkout
  | installDependencies
  | startSsh
  | installKayobe
  | installTerraform
  | initialiseTerraform
  | generateSshKeypair
  | generateClouds
  | generateTfvars
  | terraformPlan
  | terraformApply
  | terraformOutputs
  | writeOutputs
  | writeNetworkConfig
  | writeInterfaceConfig
  | manageSshKeys
  | bootstrapControlHost
  | configureSeed
  | installBuilderDependencies
  | createHttpbootVolume
  | build (image : HostImage)
  | showLastErrorLogs (image : HostImage)
  | upload (image : HostImage) (destination : Destination)
  | copyLogs
  | uploadLogs
  | destroy
  | triggerUpdate
  | displayLink
  deriving DecidableEq

def setupCommands : List Command :=
  [.displayTag, .checkout, .installDependencies, .startSsh, .installKayobe, .installTerraform,
    .initialiseTerraform, .generateSshKeypair, .generateClouds, .generateTfvars, .terraformPlan,
    .terraformApply, .terraformOutputs, .writeOutputs, .writeNetworkConfig, .writeInterfaceConfig,
    .manageSshKeys, .bootstrapControlHost, .configureSeed, .installBuilderDependencies,
    .createHttpbootVolume]

inductive BuildJob
  | x86
  | aarch64
  deriving DecidableEq

def BuildJob.images : BuildJob → List HostImage
  | .x86 => [.rocky10, .ubuntuNoble]
  | .aarch64 => [.rocky10Aarch64]

structure Workflow where
  inputs : Inputs
  hostImageTag : List Char
  ends : Command → Outcome

structure Progress where
  outcome : HostImage → Option Outcome
  uploaded : List (HostImage × Destination)
  dispatched : Option (HostImage → List Char)

def Progress.empty : Progress := ⟨fun _ => none, [], none⟩

namespace Workflow

variable (workflow : Workflow)

/-- The tag that the update of the tags is given for an image, empty for none. -/
def dispatchedTags (job : BuildJob) (image : HostImage) : List Char :=
  if image ∈ job.images ∧ workflow.inputs.selects image = true then workflow.hostImageTag else []

section Steps

def command (command : Command) (guard : Guard) (continueOnError : Bool) : Step Progress where
  guard := guard
  applies := fun _ => true
  continueOnError := continueOnError
  run := fun progress => (progress, workflow.ends command)

def build (image : HostImage) : Step Progress where
  guard := .success
  applies := fun _ => workflow.inputs.selects image
  continueOnError := true
  run := fun progress =>
    ({ progress with
        outcome := fun other =>
          if other = image then some (workflow.ends (.build image)) else progress.outcome other },
      workflow.ends (.build image))

def showLastErrorLogs (image : HostImage) : Step Progress where
  guard := .success
  applies := fun progress => progress.outcome image = some .failure
  continueOnError := true
  run := fun progress => (progress, workflow.ends (.showLastErrorLogs image))

def upload (image : HostImage) (destination : Destination) : Step Progress where
  guard := .success
  applies := fun progress =>
    workflow.inputs.selects image && progress.outcome image = some .success
  continueOnError := false
  run := fun progress =>
    (if workflow.ends (.upload image destination) = .success then
      { progress with uploaded := progress.uploaded ++ [(image, destination)] } else progress,
      workflow.ends (.upload image destination))

def failIfBuildsFailed (images : List HostImage) : Step Progress where
  guard := .success
  applies := fun progress => images.any fun image => progress.outcome image = some .failure
  continueOnError := false
  run := fun progress => (progress, .failure)

def triggerUpdate (job : BuildJob) : Step Progress where
  guard := .success
  applies := fun _ => workflow.inputs.createSkcPr
  continueOnError := false
  run := fun progress =>
    (if workflow.ends .triggerUpdate = .success then
      { progress with dispatched := some (workflow.dispatchedTags job) } else progress,
      workflow.ends .triggerUpdate)

def displayLink : Step Progress where
  guard := .success
  applies := fun _ => workflow.inputs.createSkcPr
  continueOnError := false
  run := fun progress => (progress, workflow.ends .displayLink)

def imageSteps (image : HostImage) : List (Step Progress) :=
  workflow.build image :: workflow.showLastErrorLogs image ::
    image.destinations.map (workflow.upload image)

def buildSteps (images : List HostImage) : List (Step Progress) :=
  setupCommands.map (fun command => workflow.command command .success false) ++
    images.flatMap workflow.imageSteps

def closingSteps (images : List HostImage) : List (Step Progress) :=
  [workflow.command .copyLogs .always true, failIfBuildsFailed images,
    workflow.command .uploadLogs .always false, workflow.command .destroy .always false]

def steps (job : BuildJob) : List (Step Progress) :=
  workflow.buildSteps job.images ++ workflow.closingSteps job.images ++
    [workflow.triggerUpdate job, workflow.displayLink]

end Steps

/-- A job that the inputs leave out or reject does not run. -/
def final (job : BuildJob) : Job Progress :=
  if validateInputs workflow.inputs = true ∧ job.images.any workflow.inputs.selects = true then
    Job.performAll ⟨.empty, .success⟩ (workflow.steps job)
  else ⟨.empty, .success⟩

section Completion

/-- What becomes of an image that is selected: it is built and uploaded, or it is not built. -/
structure Handled (image : HostImage) : Prop where
  build : workflow.ends (.build image) ≠ .cancelled
  logs : workflow.ends (.build image) = .failure →
    workflow.ends (.showLastErrorLogs image) ≠ .cancelled
  uploads : workflow.ends (.build image) = .success →
    ∀ destination ∈ image.destinations, workflow.ends (.upload image destination) = .success

theorem conclusion_tolerant {step : Step Progress} (tolerant : step.continueOnError = true)
    (outcome : Outcome) : step.conclusion outcome = .success ↔ outcome ≠ .cancelled := by
  cases outcome <;> simp [Step.conclusion, tolerant]

theorem completes_command (command : Command) (guard : Guard) (steps : List (Step Progress))
    (progress : Progress) :
    Completes (workflow.command command guard false :: steps) progress ↔
      workflow.ends command = .success ∧ Completes steps progress := by
  rw [completes_unchanged rfl rfl]
  simp [Workflow.command]

theorem completes_commands (commands : List Command) (progress : Progress) :
    Completes (commands.map fun command => workflow.command command .success false) progress ↔
      ∀ command ∈ commands, workflow.ends command = .success := by
  induction commands with
  | nil => simp [Completes]
  | cons command commands ih => rw [List.map_cons, completes_command, ih, List.forall_mem_cons]

theorem completed_commands (commands : List Command) (progress : Progress) :
    completed (commands.map fun command => workflow.command command .success false) progress =
      progress := by
  induction commands with
  | nil => rfl
  | cons command commands ih =>
      rw [List.map_cons, completed]
      simpa [Workflow.command] using ih

variable {workflow} {image : HostImage} {progress : Progress}

theorem completes_uploads (selected : workflow.inputs.selects image = true)
    (built : progress.outcome image = some .success) (destinations : List Destination) :
    Completes (destinations.map (workflow.upload image)) progress ↔
      ∀ destination ∈ destinations, workflow.ends (.upload image destination) = .success := by
  induction destinations generalizing progress with
  | nil => simp [Completes]
  | cons destination destinations ih =>
      have applies : (workflow.upload image destination).applies progress = true := by
        simp [Workflow.upload, selected, built]
      have still : ((workflow.upload image destination).run progress).1.outcome image =
          some .success := by
        simp only [Workflow.upload]
        split <;> exact built
      rw [List.map_cons, Completes, if_pos applies, Step.conclusion_strict rfl, ih still,
        List.forall_mem_cons]
      rfl

theorem completes_noUploads (unbuilt : progress.outcome image ≠ some .success)
    (destinations : List Destination) :
    Completes (destinations.map (workflow.upload image)) progress := by
  induction destinations with
  | nil => trivial
  | cons destination destinations ih =>
      have skipped : ¬(workflow.upload image destination).applies progress = true := by
        simp [Workflow.upload, unbuilt]
      rw [List.map_cons, Completes, if_neg skipped]
      exact ih

theorem completed_uploads (destinations : List Destination) :
    (completed (destinations.map (workflow.upload image)) progress).outcome = progress.outcome := by
  induction destinations generalizing progress with
  | nil => rfl
  | cons destination destinations ih =>
      rw [List.map_cons, completed, ih]
      split
      · simp only [Workflow.upload]
        split <;> rfl
      · rfl

theorem completes_logs (outcome : progress.outcome image ≠ some .failure)
    (steps : List (Step Progress)) :
    Completes (workflow.showLastErrorLogs image :: steps) progress ↔ Completes steps progress := by
  have skipped : ¬(workflow.showLastErrorLogs image).applies progress = true := by
    simp [Workflow.showLastErrorLogs, outcome]
  rw [Completes, if_neg skipped]

theorem completes_failure (outcome : progress.outcome image = some .failure)
    (steps : List (Step Progress)) :
    Completes (workflow.showLastErrorLogs image :: steps) progress ↔
      workflow.ends (.showLastErrorLogs image) ≠ .cancelled ∧ Completes steps progress := by
  have applies : (workflow.showLastErrorLogs image).applies progress = true := by
    simp [Workflow.showLastErrorLogs, outcome]
  rw [Completes, if_pos applies, conclusion_tolerant rfl]
  rfl

theorem completes_image (fresh : progress.outcome image = none) :
    Completes (workflow.imageSteps image) progress ↔
      (workflow.inputs.selects image = true → workflow.Handled image) := by
  unfold imageSteps
  by_cases selected : workflow.inputs.selects image = true
  · have applies : (workflow.build image).applies progress = true := selected
    have ended : ((workflow.build image).run progress).2 = workflow.ends (.build image) := rfl
    have outcome : ((workflow.build image).run progress).1.outcome image =
        some (workflow.ends (.build image)) := by simp [Workflow.build]
    rw [Completes, if_pos applies, conclusion_tolerant rfl, ended]
    generalize ((workflow.build image).run progress).1 = built at outcome
    cases ends : workflow.ends (.build image) with
    | success =>
        rw [ends] at outcome
        rw [completes_logs (by simp [outcome]), completes_uploads selected outcome]
        constructor
        · rintro ⟨_, uploaded⟩ _
          exact ⟨by simp [ends], fun failed => by simp [ends] at failed, fun _ => uploaded⟩
        · intro handled
          exact ⟨by decide, (handled selected).uploads ends⟩
    | failure =>
        rw [ends] at outcome
        rw [completes_failure outcome]
        constructor
        · rintro ⟨_, shown, _⟩ _
          exact ⟨by simp [ends], fun _ => shown, fun succeeded => by simp [ends] at succeeded⟩
        · intro handled
          exact ⟨by decide, (handled selected).logs ends, completes_noUploads (by simp [outcome]) _⟩
    | cancelled =>
        constructor
        · rintro ⟨impossible, _⟩
          exact absurd rfl impossible
        · intro handled
          exact absurd ends (handled selected).build
  · have skipped : ¬(workflow.build image).applies progress = true := selected
    rw [Completes, if_neg skipped, completes_logs (by simp [fresh])]
    exact iff_of_true (completes_noUploads (by simp [fresh]) _) fun chosen => absurd chosen selected

theorem completed_image (other : HostImage) :
    (completed (workflow.imageSteps image) progress).outcome other =
      if other = image ∧ workflow.inputs.selects image = true then some (workflow.ends (.build image))
      else progress.outcome other := by
  unfold imageSteps
  rw [completed, completed, completed_uploads]
  have logs : ∀ built : Progress, (if (workflow.showLastErrorLogs image).applies built = true then
      ((workflow.showLastErrorLogs image).run built).1 else built) = built := by
    intro built
    split <;> rfl
  rw [logs]
  by_cases selected : workflow.inputs.selects image = true
  · simp [Workflow.build, selected]
  · simp [Workflow.build, selected]

theorem completed_images (images : List HostImage) (other : HostImage) :
    (completed (images.flatMap workflow.imageSteps) progress).outcome other =
      if other ∈ images ∧ workflow.inputs.selects other = true then
        some (workflow.ends (.build other))
      else progress.outcome other := by
  induction images generalizing progress with
  | nil => simp [completed]
  | cons image images ih =>
      rw [List.flatMap_cons, completed_append, ih, completed_image]
      by_cases same : other = image
      · subst same
        by_cases selected : workflow.inputs.selects other = true <;> simp [selected]
      · simp [same]

theorem completes_images {images : List HostImage} (distinct : images.Nodup)
    (fresh : ∀ image ∈ images, progress.outcome image = none) :
    Completes (images.flatMap workflow.imageSteps) progress ↔
      ∀ image ∈ images, workflow.inputs.selects image = true → workflow.Handled image := by
  induction images generalizing progress with
  | nil => simp [Completes]
  | cons image images ih =>
      obtain ⟨absent, distinct⟩ := List.nodup_cons.mp distinct
      obtain ⟨here, later⟩ := List.forall_mem_cons.mp fresh
      have untouched : ∀ other ∈ images,
          (completed (workflow.imageSteps image) progress).outcome other = none := by
        intro other member
        have different : other ≠ image := fun same => absent (same ▸ member)
        rw [completed_image, if_neg fun both => different both.1]
        exact later other member
      rw [List.flatMap_cons, completes_append, completes_image here, ih distinct untouched,
        List.forall_mem_cons]

/-- Everything before the update of the tags succeeds, and every selected image is built and
uploaded wherever it belongs. -/
structure Delivers (workflow : Workflow) (job : BuildJob) : Prop where
  valid : validateInputs workflow.inputs = true
  selects : job.images.any workflow.inputs.selects = true
  setup : ∀ command ∈ setupCommands, workflow.ends command = .success
  built : ∀ image ∈ job.images, workflow.inputs.selects image = true →
    workflow.ends (.build image) = .success
  uploaded : ∀ image ∈ job.images, workflow.inputs.selects image = true →
    ∀ destination ∈ image.destinations, workflow.ends (.upload image destination) = .success
  closed : workflow.ends .copyLogs ≠ .cancelled ∧ workflow.ends .uploadLogs = .success ∧
    workflow.ends .destroy = .success

theorem images_nodup (job : BuildJob) : job.images.Nodup := by
  cases job <;> decide

theorem completes_closing (images : List HostImage) :
    Completes (workflow.closingSteps images) progress ↔
      workflow.ends .copyLogs ≠ .cancelled ∧
      (∀ image ∈ images, progress.outcome image ≠ some .failure) ∧
      workflow.ends .uploadLogs = .success ∧ workflow.ends .destroy = .success := by
  unfold closingSteps
  have applies : (workflow.command .copyLogs .always true).applies progress = true := rfl
  rw [Completes, if_pos applies, conclusion_tolerant rfl, completes_unchanged rfl rfl,
    completes_command, completes_command]
  simp [Workflow.command, failIfBuildsFailed, Completes]

theorem completes_before_trigger (job : BuildJob) (valid : validateInputs workflow.inputs = true)
    (selects : job.images.any workflow.inputs.selects = true) :
    Completes (workflow.buildSteps job.images ++ workflow.closingSteps job.images) .empty ↔
      workflow.Delivers job := by
  have outcome : ∀ image ∈ job.images,
      (completed (workflow.buildSteps job.images) .empty).outcome image =
        if workflow.inputs.selects image = true then some (workflow.ends (.build image))
        else none := by
    intro image member
    unfold buildSteps
    rw [completed_append, completed_commands, completed_images]
    simp [member, Progress.empty]
  rw [completes_append, completes_closing]
  unfold buildSteps at outcome ⊢
  rw [completes_append, completes_commands, completed_commands,
    completes_images (images_nodup job) fun _ _ => rfl]
  constructor
  · rintro ⟨⟨setup, handled⟩, logs, unfailed, closed⟩
    have built : ∀ image ∈ job.images, workflow.inputs.selects image = true →
        workflow.ends (.build image) = .success := by
      intro image member selected
      have ended := unfailed image member
      rw [outcome image member, if_pos selected] at ended
      have uncancelled := (handled image member selected).build
      cases ends : workflow.ends (.build image) with
      | success => rfl
      | failure => exact absurd (by rw [ends]) ended
      | cancelled => exact absurd ends uncancelled
    exact ⟨valid, selects, setup, built, fun image member selected =>
      (handled image member selected).uploads (built image member selected), logs, closed⟩
  · intro delivers
    refine ⟨⟨delivers.setup, fun image member selected => ?_⟩, delivers.closed.1, ?_,
      delivers.closed.2⟩
    · have built := delivers.built image member selected
      exact ⟨by simp [built], by simp [built], fun _ => delivers.uploaded image member selected⟩
    · intro image member
      rw [outcome image member]
      split
      · rename_i selected
        simp [delivers.built image member selected]
      · simp

theorem dispatched_before_trigger (images : List HostImage) :
    (Job.performAll ⟨.empty, .success⟩
      (workflow.buildSteps images ++ workflow.closingSteps images)).state.dispatched = none := by
  have kept : ∀ step ∈ workflow.buildSteps images ++ workflow.closingSteps images,
      ∀ progress : Progress, progress.dispatched = none → step.applies progress = true →
        (step.run progress).1.dispatched = none := by
    intro step member progress undispatched _
    unfold buildSteps closingSteps at member
    simp only [List.mem_append, List.mem_map, List.mem_flatMap, List.mem_cons, List.not_mem_nil,
      or_false] at member
    rcases member with (⟨command, _, rfl⟩ | ⟨image, _, among⟩) | rfl | rfl | rfl | rfl
    · exact undispatched
    · unfold imageSteps at among
      simp only [List.mem_cons, List.mem_map] at among
      rcases among with rfl | rfl | ⟨destination, _, rfl⟩
      · exact undispatched
      · exact undispatched
      · simp only [Workflow.upload]
        split <;> exact undispatched
    · exact undispatched
    · exact undispatched
    · exact undispatched
    · exact undispatched
  exact Job.performAll_state kept rfl

theorem dispatched_trigger {prior : Job Progress} (undispatched : prior.state.dispatched = none)
    (job : BuildJob) (tags : HostImage → List Char) :
    (prior.performAll [workflow.triggerUpdate job, workflow.displayLink]).state.dispatched =
        some tags ↔
      prior.status = .success ∧ workflow.inputs.createSkcPr = true ∧
        workflow.ends .triggerUpdate = .success ∧ tags = workflow.dispatchedTags job := by
  by_cases successful : prior.status = .success
  · have last : ∀ job : Job Progress, (job.perform workflow.displayLink).state = job.state := by
      intro job
      unfold Job.perform
      split <;> rfl
    rw [Job.performAll_cons, Job.performAll_cons, Job.performAll_nil, last,
      Job.perform_success successful]
    by_cases asked : workflow.inputs.createSkcPr = true
    · by_cases triggered : workflow.ends .triggerUpdate = .success
      · simp [triggerUpdate, asked, triggered, successful, eq_comm]
      · simp [triggerUpdate, asked, triggered, undispatched]
    · simp [triggerUpdate, asked, undispatched]
  · have guarded : ∀ step ∈ [workflow.triggerUpdate job, workflow.displayLink],
        step.guard = .success := by
      simp [triggerUpdate, displayLink]
    rw [Job.performAll_stopped guarded successful, undispatched]
    simp [successful]

theorem runs_of_dispatched {job : BuildJob} {tags : HostImage → List Char}
    (dispatched : (workflow.final job).state.dispatched = some tags) :
    validateInputs workflow.inputs = true ∧ job.images.any workflow.inputs.selects = true := by
  by_contra skipped
  unfold final at dispatched
  rw [if_neg skipped] at dispatched
  cases dispatched

theorem dispatched_of_runs {job : BuildJob} (valid : validateInputs workflow.inputs = true)
    (selects : job.images.any workflow.inputs.selects = true) (tags : HostImage → List Char) :
    (workflow.final job).state.dispatched = some tags ↔
      workflow.Delivers job ∧ workflow.inputs.createSkcPr = true ∧
        workflow.ends .triggerUpdate = .success ∧ tags = workflow.dispatchedTags job := by
  unfold final steps
  rw [if_pos ⟨valid, selects⟩, Job.performAll_append,
    dispatched_trigger (dispatched_before_trigger job.images), Job.performAll_success_iff,
    completes_before_trigger job valid selects]
  simp

/-- The update of the tags is triggered exactly where everything before it has succeeded, with
the tag of the workflow for the images that it has built and uploaded. -/
theorem dispatched_iff (job : BuildJob) (tags : HostImage → List Char) :
    (workflow.final job).state.dispatched = some tags ↔
      workflow.Delivers job ∧ workflow.inputs.createSkcPr = true ∧
        workflow.ends .triggerUpdate = .success ∧ tags = workflow.dispatchedTags job := by
  constructor
  · intro dispatched
    obtain ⟨valid, selects⟩ := runs_of_dispatched dispatched
    exact (dispatched_of_runs valid selects tags).mp dispatched
  · rintro ⟨delivers, rest⟩
    exact (dispatched_of_runs delivers.valid delivers.selects tags).mpr ⟨delivers, rest⟩

end Completion

end Workflow

end HostImages
