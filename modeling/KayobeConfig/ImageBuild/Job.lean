import KayobeConfig.ImageBuild.Pushing
import KayobeConfig.ScanImages.Accounting

/-!
The `container-image-build` job of the container image workflow: the images of one distribution
are built, scanned by `tools/scan-images.sh` and pushed.
-/

namespace ImageBuild

open Library ScanImages

structure Inputs where
  overcloud : Bool
  seed : Bool
  rockyLinux10 : Bool
  ubuntuNoble : Bool
  push : Bool
  sbom : Bool
  pushCritical : Bool
  deriving DecidableEq

structure Distro where
  name : String
  release : String
  arch : String
  deriving DecidableEq

def validateInputs (inputs : Inputs) : Bool :=
  (inputs.rockyLinux10 || inputs.ubuntuNoble) && (inputs.overcloud || inputs.seed)

def generateBuildMatrix (inputs : Inputs) : List Distro :=
  (if inputs.rockyLinux10 then
    [⟨"rocky", "10", "amd64"⟩] ++ if inputs.overcloud then [⟨"rocky", "10", "aarch64"⟩] else []
  else []) ++ if inputs.ubuntuNoble then [⟨"ubuntu", "noble", "amd64"⟩] else []

inductive Task
  | purgeWorkspace
  | installDependencies
  | checkout
  | testDocker
  | installGrypeAndSyft
  | startDatabaseDownload
  | installYq
  | installKayobe
  | installDockerSdk
  | getKollaTag
  | configureSeed
  | createLogsDirectory
  | copyBuildConfigs
  | copySeedLogs
  | listBuiltImages
  | waitForDatabase
  | checkDependencies
  | updateDatabase
  | getImages
  | registryLogin
  | uploadArtifact
  | removeLocalImages
  deriving DecidableEq

structure Build where
  images : List String
  outcome : Outcome

/-- The two times that `docker image ls` lists the images with the tag. -/
inductive Listing
  | built
  | scanned
  deriving DecidableEq

/-- A run of the job. The docker store of the runner may hold images of an earlier attempt. Where
a listing fails it shows fewer images, which no step notices. -/
structure BuildJob where
  inputs : Inputs
  distro : Distro
  openstackRelease : String
  datetimeTag : String
  ends : Task → Outcome
  store : List String
  lists : Listing → String → Bool
  overcloudBuild : Build
  seedBuild : Build
  sizes : String → Nat
  scans : String → Scan
  interleaving : Setup → List Event
  possible : ∀ setup : Setup, setup.Run (interleaving setup)
  answers : Nat → PushResult

structure Workspace where
  localImages : List String
  overcloudOutcome : Option Outcome
  seedOutcome : Option Outcome
  containerImages : List String
  imageScanOutput : Option ScanOutput
  movedScanOutput : Option ScanOutput
  pushAttemptImages : Option (List String)
  pushing : Pushing
  artifact : Option (List String)

/-- The images with critical vulnerabilities. Where there is no such file, `wc` prints nothing
and the comparison fails as it does for an empty file. -/
def Workspace.criticalImages (workspace : Workspace) : List String :=
  (workspace.movedScanOutput.map ScanOutput.criticalImages).getD []

namespace BuildJob

variable (job : BuildJob)

def kollaTag : String :=
  job.openstackRelease ++ "-" ++ job.distro.name ++ "-" ++ job.distro.release ++ "-" ++ job.datetimeTag

def overcloudTag : String :=
  if job.distro.name = "rocky" then job.kollaTag ++ "-" ++ job.distro.arch else job.kollaTag

def reference (name tag : String) : String := "ark.stackhpc.com/stackhpc-dev/" ++ name ++ ":" ++ tag

def buildsSeed : Bool := job.inputs.seed && job.distro.arch = "amd64"

def purged : Workspace where
  localImages := job.store
  overcloudOutcome := none
  seedOutcome := none
  containerImages := []
  imageScanOutput := none
  movedScanOutput := none
  pushAttemptImages := none
  pushing := ⟨[], []⟩
  artifact := none

def withImages (names : List String) (tag : String) (workspace : Workspace) : Workspace :=
  { workspace with
    localImages := unique (workspace.localImages ++ names.map fun name => reference name tag) }

/-- `get_images`: the largest image first, and of two that are as large the later name. One that
cannot be inspected is as if it were empty. -/
def getImages (images : List String) : List String :=
  (images.filter (job.lists .scanned)).mergeSort fun first second =>
    job.sizes second < job.sizes first ∨ job.sizes second = job.sizes first ∧ second ≤ first

theorem getImages_perm (images : List String) :
    (job.getImages images).Perm (images.filter (job.lists .scanned)) :=
  List.mergeSort_perm _ _

def scanSetup (images : List String) : Setup where
  images := job.getImages (unique images)
  scanParallelism := 4
  generateSbom := job.inputs.sbom
  scans := job.scans
  distinct := (job.getImages_perm (unique images)).nodup_iff.mpr ((unique_nodup images).filter _)
  parallel := Nat.succ_pos 3

def scanState (images : List String) : System :=
  (job.scanSetup images).after (job.interleaving (job.scanSetup images))

/-- The exit status of the loop that starts the scans, or none while it has not exited. -/
def scanOutcome (images : List String) : Outcome :=
  match (job.scanState images).position with
  | .exited 0 => .success
  | .exited _ => .failure
  | _ => .cancelled

section Steps

def task (task : Task) (applies : Bool) : Step Workspace where
  guard := .success
  applies := fun _ => applies
  continueOnError := false
  run := fun workspace => (workspace, job.ends task)

def buildOvercloudImages : Step Workspace where
  guard := .success
  applies := fun _ => job.inputs.overcloud
  continueOnError := true
  run := fun workspace =>
    ({ withImages job.overcloudBuild.images job.overcloudTag workspace with
        overcloudOutcome := some job.overcloudBuild.outcome }, job.overcloudBuild.outcome)

def buildSeedImages : Step Workspace where
  guard := .success
  applies := fun _ => job.buildsSeed
  continueOnError := true
  run := fun workspace =>
    ({ withImages job.seedBuild.images job.kollaTag workspace with
        seedOutcome := some job.seedBuild.outcome }, job.seedBuild.outcome)

def getBuiltImages : Step Workspace where
  guard := .success
  applies := fun _ => true
  continueOnError := false
  run := fun workspace =>
    ({ workspace with containerImages := workspace.localImages.filter (job.lists .built) },
      job.ends .listBuiltImages)

/-- The list has a line for its head, and one for each image. -/
def failIfNoImages : Step Workspace where
  guard := .success
  applies := fun _ => true
  continueOnError := false
  run := fun workspace =>
    (workspace, if workspace.containerImages.length + 1 ≤ 1 then .failure else .success)

def scanBuiltImages : Step Workspace where
  guard := .success
  applies := fun _ => true
  continueOnError := false
  run := fun workspace =>
    let prepared := { workspace with imageScanOutput := some ⟨[], [], []⟩ }
    if job.ends .checkDependencies ≠ .success then (workspace, job.ends .checkDependencies)
    else if job.ends .updateDatabase ≠ .success then (prepared, job.ends .updateDatabase)
    -- Within `$(get_images …)` errexit is off, so the status is that of the last `cat`.
    else if job.ends .getImages ≠ .success then (prepared, job.ends .getImages)
    else
      ({ workspace with imageScanOutput := some (job.scanState workspace.localImages).output },
        job.scanOutcome workspace.localImages)

def moveScanLogs : Step Workspace where
  guard := .notCancelled
  applies := fun _ => true
  continueOnError := false
  run := fun workspace =>
    match workspace.imageScanOutput with
    | none => (workspace, .failure)
    | some output =>
        ({ workspace with imageScanOutput := none, movedScanOutput := some output }, .success)

def failIfCritical (guard : Guard) : Step Workspace where
  guard := guard
  applies := fun _ => !job.inputs.pushCritical
  continueOnError := false
  run := fun workspace =>
    (workspace, if 0 < workspace.criticalImages.length then .failure else .success)

def copyCleanImages : Step Workspace where
  guard := .success
  applies := fun _ => job.inputs.push
  continueOnError := false
  run := fun workspace =>
    match workspace.movedScanOutput with
    | none => (workspace, .failure)
    | some output => ({ workspace with pushAttemptImages := some output.cleanImages }, .success)

/-- `cat file >> push-attempt-images.txt`, which creates the list in any case. -/
def appendImages (category : Category) (applies : Bool) : Step Workspace where
  guard := .success
  applies := fun _ => applies
  continueOnError := false
  run := fun workspace =>
    let listed := workspace.pushAttemptImages.getD []
    match workspace.movedScanOutput with
    | none => ({ workspace with pushAttemptImages := some listed }, .failure)
    | some output =>
        ({ workspace with pushAttemptImages := some (listed ++ output.images category) }, .success)

def pushBuiltImages : Step Workspace where
  guard := .success
  applies := fun _ => job.inputs.push
  continueOnError := false
  run := fun workspace =>
    if job.ends .registryLogin ≠ .success then (workspace, job.ends .registryLogin)
    else
      match workspace.pushAttemptImages with
      | none => (workspace, .failure)
      | some images =>
          let pushed := pushImages job.answers images workspace.pushing
          ({ workspace with pushing := pushed.1 }, pushed.2)

def uploadOutput : Step Workspace where
  guard := .notCancelled
  applies := fun _ => true
  continueOnError := false
  run := fun workspace =>
    ({ workspace with
        artifact := if job.ends .uploadArtifact = .success then workspace.pushAttemptImages else none },
      job.ends .uploadArtifact)

def failWhenNotBuilt : Step Workspace where
  guard := .success
  applies := fun workspace =>
    workspace.overcloudOutcome = some .failure || workspace.seedOutcome = some .failure
  continueOnError := false
  run := fun workspace => (workspace, .failure)

def failWhenNotPushed : Step Workspace where
  guard := .notCancelled
  applies := fun _ => job.inputs.push
  continueOnError := false
  run := fun workspace =>
    (workspace, if 0 < workspace.pushing.pushFailedImages.length then .failure else .success)

def removeLocalImages : Step Workspace where
  guard := .always
  applies := fun _ => job.distro.arch = "aarch64"
  continueOnError := false
  run := fun workspace => ({ workspace with localImages := [] }, job.ends .removeLocalImages)

def setupTasks : List Task :=
  [.purgeWorkspace, .installDependencies, .checkout, .testDocker, .installGrypeAndSyft,
    .startDatabaseDownload, .installYq, .installKayobe, .installDockerSdk, .getKollaTag,
    .configureSeed, .createLogsDirectory]

def buildSteps : List (Step Workspace) :=
  (setupTasks.map fun task => job.task task true) ++
    [job.buildOvercloudImages, job.task .copyBuildConfigs job.inputs.overcloud,
      job.buildSeedImages, job.task .copySeedLogs job.buildsSeed,
      job.getBuiltImages, failIfNoImages, job.task .waitForDatabase true]

def scanSteps : List (Step Workspace) :=
  [job.scanBuiltImages, moveScanLogs, job.failIfCritical .success]

def listSteps : List (Step Workspace) :=
  [job.copyCleanImages, appendImages .high job.inputs.push,
    appendImages .critical (job.inputs.push && job.inputs.pushCritical)]

def reportSteps : List (Step Workspace) :=
  [job.uploadOutput, failWhenNotBuilt, job.failWhenNotPushed, job.failIfCritical .notCancelled,
    job.removeLocalImages]

def steps : List (Step Workspace) :=
  job.buildSteps ++ job.scanSteps ++ job.listSteps ++ [job.pushBuiltImages] ++ job.reportSteps

end Steps

def final : Job Workspace := (⟨job.purged, .success⟩ : Job Workspace).performAll job.steps

def builtImages : List String :=
  (if job.inputs.overcloud then
    job.overcloudBuild.images.map fun name => reference name job.overcloudTag else []) ++
    if job.buildsSeed then job.seedBuild.images.map fun name => reference name job.kollaTag else []

/-- The images under the tag, whether this job has built them or an earlier attempt. -/
def storedImages : List String := job.store ++ job.builtImages

def listedImages : List String := job.storedImages.filter (job.lists .scanned)

def pushedImages : List String :=
  (job.final.state.pushing.pushes.filter fun push => push.result.landed).map Push.image

end BuildJob

end ImageBuild
