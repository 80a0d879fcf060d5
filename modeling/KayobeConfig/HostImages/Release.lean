import KayobeConfig.Artifacts.Release
import KayobeConfig.HostImages.Build

/-!
The release of host images from end to end: what the build workflow builds is what a seed
downloads under the version that the update of the tags has written, once it is promoted.
-/

namespace HostImages

open Library Artifacts

structure Deployment where
  openstackRelease : String
  osDistribution : String
  osRelease : String
  hostImageArch : String
  deriving DecidableEq

def Deployment.isAarch64 (deployment : Deployment) : Bool :=
  deployment.osDistribution = "rocky" && deployment.hostImageArch = "aarch64"

def Deployment.versionName (deployment : Deployment) : String :=
  "stackhpc_" ++ deployment.osDistribution ++ "_" ++ deployment.osRelease ++
    "_overcloud_host_image_version" ++ if deployment.isAarch64 then "_aarch64" else ""

/-- The path of the image below the content of Pulp. -/
def Deployment.imagePath (deployment : Deployment) (version : String) : String :=
  "kayobe-images/" ++ deployment.openstackRelease ++ "/" ++ deployment.osDistribution ++ "/" ++
    deployment.osRelease ++ (if deployment.isAarch64 then "/aarch64" else "") ++ "/" ++ version ++
    "/" ++ "overcloud-" ++ deployment.osDistribution ++ "-" ++ deployment.osRelease ++ ".qcow2"

def HostImage.deployment (openstackRelease : String) : HostImage → Deployment
  | .rocky10 => ⟨openstackRelease, "rocky", "10", "amd64"⟩
  | .rocky10Aarch64 => ⟨openstackRelease, "rocky", "10", "aarch64"⟩
  | .ubuntuNoble => ⟨openstackRelease, "ubuntu", "noble", "amd64"⟩

/-- The variables that the workflows give to the playbooks for an image. -/
def HostImage.artifact (openstackRelease tag : String) : HostImage → Artifact
  | .rocky10 => .of "kayobe-images" openstackRelease "rocky" "10" tag
  | .rocky10Aarch64 =>
      ⟨"kayobe-images-" ++ openstackRelease ++ "-rocky-10-aarch64",
        "kayobe-images/" ++ openstackRelease ++ "/rocky/10/aarch64", tag⟩
  | .ubuntuNoble => .of "kayobe-images" openstackRelease "ubuntu" "noble" tag

def HostImage.fileName : HostImage → String
  | .rocky10 | .rocky10Aarch64 => "overcloud-rocky-10.qcow2"
  | .ubuntuNoble => "overcloud-ubuntu-noble.qcow2"

/-- The run that promotes an image, with the tag that it reads from the versions file. -/
def promotion (openstackRelease : String) (image : HostImage) (lines : Lines) : Run :=
  .of (image.artifact openstackRelease (String.ofList (imageTag image lines))) .promote

theorem deployment_versionName (openstackRelease : String) (image : HostImage) :
    (image.deployment openstackRelease).versionName = image.versionName := by
  cases image <;> rfl

theorem deployment_isAarch64 (openstackRelease : String) (image : HostImage) :
    (image.deployment openstackRelease).isAarch64 = decide (image = .rocky10Aarch64) := by
  cases image <;> rfl

theorem deployment_imagePath (openstackRelease tag : String) (image : HostImage) :
    (image.deployment openstackRelease).imagePath tag =
      (image.artifact openstackRelease tag).basePath ++ "/" ++ image.fileName := by
  apply String.toList_injective
  unfold Deployment.imagePath Artifact.basePath
  rw [deployment_isAarch64]
  cases image with
  | rocky10 => simp [HostImage.deployment, HostImage.artifact, Artifact.of, HostImage.fileName]
  | rocky10Aarch64 => simp [HostImage.deployment, HostImage.artifact, HostImage.fileName]
  | ubuntuNoble => simp [HostImage.deployment, HostImage.artifact, Artifact.of, HostImage.fileName]

/-- What a configuration gets for an image: the promoted file, and the checksum of this file. -/
structure Downloads {σ : Type} (modules : Modules σ) (sha256 : String → String)
    (openstackRelease : String) (image : HostImage) (lines : Lines) (content : String)
    (server : σ) : Prop where
  served : ∃ version name distribution files,
    lookupVariable (image.deployment openstackRelease).versionName lines = some version ∧
    modules.distributions server name = some distribution ∧
    distribution.contentGuard = "release" ∧
    (image.deployment openstackRelease).imagePath (String.ofList version) =
      distribution.basePath ++ "/" ++ image.fileName ∧
    modules.serves server distribution = some files ∧ files image.fileName = some content ∧
    files (checksumName image.fileName) = some (checksumContent sha256 image.fileName content)

section Delivery

variable {σ : Type} {modules : Modules σ} {sha256 : String → String} {workflow : Workflow}
  {job : BuildJob} {openstackRelease : String} {content : HostImage → String}
  {upload : HostImage → Nat} {promote : Nat} {start : World σ} {events : List Event}
  {lines merged : Lines} {tags : HostImage → List Char}

/-- The runs of the playbooks: the upload of each selected image is the only one under its tag,
and all others are promotions of it. -/
structure Runs (modules : Modules σ) (workflow : Workflow) (job : BuildJob)
    (openstackRelease : String) (content : HostImage → String) (upload : HostImage → Nat)
    (start : World σ) : Prop where
  fresh : ∀ index, ∃ artifact playbook, start.runs index = .of artifact playbook
  uploads : ∀ image ∈ job.images, workflow.inputs.selects image = true →
    start.runs (upload image) =
      .of (image.artifact openstackRelease (String.ofList workflow.hostImageTag))
        (.upload [(image.fileName, content image)] true)
  others : ∀ image ∈ job.images, workflow.inputs.selects image = true → ∀ index ≠ upload image,
    (start.runs index).artifact.distributionName =
        (image.artifact openstackRelease (String.ofList workflow.hostImageTag)).distributionName →
      start.runs index =
        .of (image.artifact openstackRelease (String.ofList workflow.hostImageTag)) .promote
  unborn : ∀ image ∈ job.images, workflow.inputs.selects image = true →
    modules.distributions start.server
      (image.artifact openstackRelease (String.ofList workflow.hostImageTag)).distributionName = none

/-- Once a job has triggered the update of the tags, and the update is merged, each of its images
that is promoted from the merged file is the one that configurations with this file download. -/
theorem host_image_released (documented : modules.Documented) (plain : Plain workflow.hostImageTag)
    (nonempty : workflow.hostImageTag ≠ [])
    (dispatched : (workflow.final job).state.dispatched = some tags)
    (assigned : ∀ image, ∃ value, Assigned image value lines)
    (merges : merged = updateTags tags HostImage.all lines)
    (runs : Runs modules workflow job openstackRelease content upload start)
    (exclusive : Along (step modules sha256) Exclusive start events) {final : World σ}
    (ends : final = runFrom (step modules sha256) start events)
    (uploaded : ∀ image, workflow.ends (.upload image .ark) = .success →
      (final.runs (upload image)).Completed)
    {image : HostImage} (member : image ∈ job.images)
    (selected : workflow.inputs.selects image = true)
    (promotes : start.runs promote = promotion openstackRelease image merged)
    (promoted : (final.runs promote).Completed) :
    Downloads modules sha256 openstackRelease image merged (content image) final.server := by
  obtain ⟨valid, selects⟩ := Workflow.runs_of_dispatched dispatched
  obtain ⟨delivers, _, _, rfl⟩ := (Workflow.dispatched_of_runs valid selects tags).mp dispatched
  let tag := workflow.hostImageTag
  have given : workflow.dispatchedTags job image = tag := if_pos ⟨member, selected⟩
  have allPlain : ∀ other, Plain (workflow.dispatchedTags job other) := by
    intro other
    unfold Workflow.dispatchedTags
    split
    · exact plain
    · exact fun char impossible => by cases impossible
  obtain ⟨value, here⟩ := assigned image
  have written : Assigned image (' ' :: tag) merged := by
    have updated := here.updateTags_given allPlain (mem_all image) (by rw [given]; exact nonempty)
    rwa [given, ← merges] at updated
  have version :
      lookupVariable (image.deployment openstackRelease).versionName merged = some tag := by
    rw [deployment_versionName]
    exact written.lookupVariable plain
  have arkRun : (final.runs (upload image)).Completed := by
    apply uploaded
    exact delivers.uploaded image member selected .ark (by cases image <;> decide)
  have ledger : Ledger modules sha256 (image.artifact openstackRelease (String.ofList tag))
      (upload image) [(image.fileName, content image)] true final := by
    rw [ends]
    exact Ledger.run documented (.start runs.fresh (runs.uploads image member selected)
      (runs.others image member selected) (runs.unborn image member selected)) exclusive
  unfold promotion at promotes
  rw [written.imageTag_tag plain nonempty] at promotes
  obtain ⟨sameArtifact, samePlaybook, _⟩ := runs_runFrom documented sha256 start events promote
  rw [← ends, promotes] at sameArtifact samePlaybook
  obtain ⟨distribution, found, release⟩ := ledger.released ⟨sameArtifact, samePlaybook⟩ promoted
  have contents := (ledger.served distribution found).2
  obtain ⟨files, serves, holds⟩ := contents.holds
  refine ⟨tag, _, distribution, files, version, found, release, ?_, serves, ?_, ?_⟩
  · rw [deployment_imagePath, contents.basePath]
  · exact holds.artifact image.fileName (content image) rfl
  · exact holds.checksum rfl image.fileName (content image) rfl

end Delivery

def noble : Workflow where
  inputs := ⟨false, false, true, true, true⟩
  hostImageTag := nobleTag
  ends
    | .upload .rocky10 _ | .upload .rocky10Aarch64 _ => .failure
    | _ => .success

def nobleArtifact : Artifact := HostImage.ubuntuNoble.artifact "2026.1" (String.ofList nobleTag)

def nobleWorld : World Server where
  server := .empty
  runs index :=
    .of nobleArtifact
      (if index = 0 then .upload [(HostImage.ubuntuNoble.fileName, "QFI")] true else .promote)

def nobleEvents : List Event := List.replicate 8 (.advance 0) ++ List.replicate 3 (.advance 1)

theorem noble_delivers : noble.Delivers .x86 where
  valid := rfl
  selects := rfl
  setup := by decide
  built _ _ _ := rfl
  uploaded
    | .ubuntuNoble, _, _, _, _ => rfl
  closed := by decide

theorem noble_dispatchedTags : noble.dispatchedTags .x86 = nobleTags := by
  funext image
  cases image <;> rfl

theorem host_image_released_noble :
    Downloads serverModules (fun content => content ++ "#") "2026.1" .ubuntuNoble
      (updateTags nobleTags HostImage.all versionsFile) "QFI"
      (runFrom (step serverModules fun content => content ++ "#") nobleWorld nobleEvents).server := by
  have dispatched : (noble.final .x86).state.dispatched = some nobleTags :=
    (Workflow.dispatched_of_runs rfl rfl nobleTags).mpr
      ⟨noble_delivers, rfl, rfl, noble_dispatchedTags.symm⟩
  have fresh : ∀ index, ∃ artifact playbook, nobleWorld.runs index = .of artifact playbook :=
    fun index => ⟨_, _, rfl⟩
  have alone : ∀ index ≠ 0, (nobleWorld.runs index).playbook = .promote := by
    intro index other
    simp [nobleWorld, Run.of, other]
  have runs : Runs serverModules noble .x86 "2026.1" (fun _ => "QFI") (fun _ => 0) nobleWorld := by
    have only : ∀ image, noble.inputs.selects image = true → image = .ubuntuNoble := by
      intro image selected
      cases image <;> first | rfl | cases selected
    refine ⟨fresh, ?_, ?_, fun _ _ _ => rfl⟩
    · intro image _ selected
      rw [only image selected]
      rfl
    · intro image _ selected index later _
      rw [only image selected]
      simp [nobleWorld, later, nobleArtifact, noble]
  have promotes : nobleWorld.runs 1 =
      promotion "2026.1" .ubuntuNoble (updateTags nobleTags HostImage.all versionsFile) := by
    obtain ⟨value, assigned⟩ := versionsFile_assigned .ubuntuNoble
    have written : Assigned .ubuntuNoble (' ' :: nobleTag)
        (updateTags nobleTags HostImage.all versionsFile) :=
      assigned.updateTags_given nobleTags_plain (mem_all _) nobleTag_ne_nil
    unfold promotion
    rw [written.imageTag_tag nobleTag_plain nobleTag_ne_nil]
    rfl
  have uploaded : ∀ image, noble.ends (.upload image .ark) = .success →
      ((runFrom (step serverModules fun content => content ++ "#") nobleWorld nobleEvents).runs
        0).Completed := by
    intro _ _
    decide
  exact host_image_released serverModules_documented nobleTag_plain nobleTag_ne_nil dispatched
    versionsFile_assigned rfl runs
    (exclusive_of_alone serverModules_documented fresh alone nobleEvents) rfl uploaded (by decide) rfl
    promotes (by decide)

end HostImages
