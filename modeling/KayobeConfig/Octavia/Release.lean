import KayobeConfig.Artifacts.Release
import KayobeConfig.Octavia.Recovery

/-!
The release of amphora images from end to end: what `octavia-amphora-image-register.yml` registers
under a version is what was uploaded to Pulp under this version and promoted there.
-/

namespace Octavia

open Library

def amphoraFile : String := "amphora-x64-haproxy.qcow2"

/-- The variables that the workflows give to the playbooks of the artifact. -/
def amphoraArtifact (openstackRelease imageTag : String) : Artifacts.Artifact :=
  ⟨"amphora-images-" ++ openstackRelease, "amphora-images/" ++ openstackRelease, imageTag⟩

/-- The path from which `pulp-amphora-image-download.yml` downloads a version. -/
def imagePath (openstackRelease version : String) : String :=
  "amphora-images/" ++ openstackRelease ++ "/" ++ version ++ "/" ++ amphoraFile

/-- A distribution serves its files below its base path. -/
def Serves {σ : Type} (modules : Artifacts.Modules σ) (server : σ) (path content : String) : Prop :=
  ∃ name distribution files file, modules.distributions server name = some distribution ∧
    modules.serves server distribution = some files ∧
    path = distribution.basePath ++ "/" ++ file ∧ files file = some content

/-- Pulp accepts no distribution whose base path is below the one of another. -/
def Separate {σ : Type} (modules : Artifacts.Modules σ) (server : σ) : Prop :=
  ∀ name other first second, modules.distributions server name = some first →
    modules.distributions server other = some second →
      (first.basePath ++ "/").toList <+: (second.basePath ++ "/").toList → name = other

theorem imagePath_eq (openstackRelease version : String) :
    imagePath openstackRelease version =
      (amphoraArtifact openstackRelease version).basePath ++ "/" ++ amphoraFile := rfl

theorem Separate.serves {σ : Type} {modules : Artifacts.Modules σ} {server : σ}
    {path content name file : String} {distribution : Artifacts.Distribution}
    {files : Artifacts.Files} (separate : Separate modules server)
    (serves : Serves modules server path content)
    (found : modules.distributions server name = some distribution)
    (published : modules.serves server distribution = some files)
    (below : path = distribution.basePath ++ "/" ++ file) : files file = some content := by
  obtain ⟨other, second, otherFiles, otherFile, alsoFound, alsoPublished, alsoBelow, publishes⟩ := serves
  have paths : (distribution.basePath ++ "/").toList ++ file.toList =
      (second.basePath ++ "/").toList ++ otherFile.toList := by
    rw [← String.toList_append, ← String.toList_append, ← below, alsoBelow]
  have same : name = other := by
    rcases List.prefix_or_prefix_of_prefix (List.prefix_append _ _)
      (paths ▸ List.prefix_append _ file.toList) with longer | shorter
    · exact (separate other name second distribution alsoFound found longer).symm
    · exact separate name other distribution second found alsoFound shorter
  have sameDistribution : distribution = second := by
    rw [same, alsoFound] at found
    exact (Option.some.inj found).symm
  rw [sameDistribution] at paths published
  have sameFile : file = otherFile := String.toList_injective (List.append_cancel_left paths)
  rw [Option.some.inj (published.symm.trans alsoPublished), sameFile]
  exact publishes

/-- One run uploads the image under its tag, all others of this name promote it, and one of these
has completed. -/
structure Published {σ : Type} (modules : Artifacts.Modules σ) (sha256 : String → String)
    (artifact : Artifacts.Artifact) (content : String) (start published : Artifacts.World σ) : Prop where
  fresh : ∀ index, ∃ artifact playbook, start.runs index = .of artifact playbook
  uploads : ∃ upload, start.runs upload = .of artifact (.upload [(amphoraFile, content)] true) ∧
    ∀ index ≠ upload,
      (start.runs index).artifact.distributionName = artifact.distributionName →
        start.runs index = .of artifact .promote
  unborn : modules.distributions start.server artifact.distributionName = none
  runs : ∃ events, Along (Artifacts.step modules sha256) Artifacts.Exclusive start events ∧
    published = runFrom (Artifacts.step modules sha256) start events
  promoted : ∃ promote, start.runs promote = .of artifact .promote ∧
    (published.runs promote).Completed

theorem Published.distribution {σ : Type} {modules : Artifacts.Modules σ} {sha256 : String → String}
    {artifact : Artifacts.Artifact} {content : String} {start published : Artifacts.World σ}
    (documented : modules.Documented)
    (publishes : Published modules sha256 artifact content start published) :
    ∃ distribution files,
      modules.distributions published.server artifact.distributionName = some distribution ∧
      distribution.basePath = artifact.basePath ∧ distribution.contentGuard = "release" ∧
      modules.serves published.server distribution = some files ∧ files amphoraFile = some content := by
  obtain ⟨upload, uploads, others⟩ := publishes.uploads
  obtain ⟨events, exclusive, ends⟩ := publishes.runs
  obtain ⟨promote, promotes, promoted⟩ := publishes.promoted
  have ledger : Artifacts.Ledger modules sha256 artifact upload [(amphoraFile, content)] true
      published := by
    rw [ends]
    exact Artifacts.Ledger.run documented
      (.start publishes.fresh uploads others publishes.unborn) exclusive
  obtain ⟨sameArtifact, samePlaybook, _⟩ :=
    Artifacts.runs_runFrom documented sha256 start events promote
  rw [← ends, promotes] at sameArtifact samePlaybook
  obtain ⟨distribution, found, release⟩ := ledger.released ⟨sameArtifact, samePlaybook⟩ promoted
  have contents := (ledger.served distribution found).2
  obtain ⟨files, serves, holds⟩ := contents.holds
  exact ⟨distribution, files, found, contents.basePath, release, serves,
    holds.artifact amphoraFile content rfl⟩

section Delivery

variable {σ : Type} {modules : Artifacts.Modules σ} {sha256 md5 : String → String}
  {update : List Image → Option (List Image)}
  {openstackRelease version content fetched : String} {uploading published : Artifacts.World σ}
  {start begun final : World} {past events : List Event} {settings : Settings}

/-- Once a version is promoted, a run that downloads it and completes leaves Octavia with an image
of the data that was uploaded, under the one name, whatever happened in Glance before. -/
theorem amphora_image_released (documented : modules.Documented)
    (publishes : Published modules sha256 (amphoraArtifact openstackRelease version) content uploading
      published) (separate : Separate modules published.server) (orderly : Orderly start.images)
    (idle : start.run.todo = [])
    (possible : Along (step md5 update) Possible start (past ++ .start settings :: events))
    (ongoing : ∀ event ∈ events, event.ongoing = true)
    (ends : final = runFrom (step md5 update) start (past ++ .start settings :: events))
    (completed : final.run.Completed) (downloads : settings.downloadAmphoraFromArk = true)
    (response : settings.response = .content fetched)
    (serves : Serves modules published.server (imagePath openstackRelease version) fetched) :
    (∃ distribution, modules.distributions published.server
        (amphoraArtifact openstackRelease version).distributionName = some distribution ∧
      distribution.contentGuard = "release") ∧
    ∃ image, chosen final.images = some image ∧ image.checksum = some (md5 content) ∧
      final.images.filter Image.named = [image] := by
  obtain ⟨distribution, files, found, basePath, release, published, holds⟩ :=
    publishes.distribution documented
  have below : imagePath openstackRelease version = distribution.basePath ++ "/" ++ amphoraFile := by
    rw [basePath]
    exact imagePath_eq openstackRelease version
  have same : fetched = content :=
    Option.some.inj ((separate.serves serves found published below).symm.trans holds)
  obtain ⟨underway, fetches⟩ := final_underway orderly idle possible rfl ends ongoing
  obtain ⟨registers, registered⟩ := registered_of_completed underway fetches completed
  have downloaded : download settings
      (runFrom (step md5 update) start past).file = some fetched := by
    unfold download
    rw [downloads, response]
  have data : registers = content :=
    (Option.some.inj (registered.fetched.symm.trans downloaded)).trans same
  rw [← data]
  exact ⟨⟨distribution, found, release⟩, registered.chosen⟩

end Delivery

def released : Artifacts.World Artifacts.Server :=
  runFrom (Artifacts.step Artifacts.serverModules md5Of) Artifacts.amphoraWorld Artifacts.amphoraEvents

theorem released_published : Published Artifacts.serverModules md5Of
    (amphoraArtifact "2026.1" "2026.1-20261103T134107") "QFI" Artifacts.amphoraWorld released := by
  have alone : ∀ index ≠ 0, (Artifacts.amphoraWorld.runs index).playbook = .promote := by
    intro index other
    simp [Artifacts.amphoraWorld, Artifacts.Run.of, other]
  refine ⟨fun index => ⟨_, _, rfl⟩, ⟨0, rfl, ?_⟩, rfl, ⟨Artifacts.amphoraEvents, ?_, rfl⟩,
    ⟨1, rfl, ?_⟩⟩
  · intro index other _
    simp [Artifacts.amphoraWorld, Artifacts.amphoraImage, amphoraArtifact, other]
  · exact Artifacts.exclusive_of_alone Artifacts.serverModules_documented (fun index => ⟨_, _, rfl⟩)
      alone Artifacts.amphoraEvents
  · decide

theorem released_only {name : String} {distribution : Artifacts.Distribution}
    (found : released.server.distributions name = some distribution) :
    name = Artifacts.amphoraImage.distributionName := by
  by_contra other
  have absent : released.server.distributions name = none :=
    (Function.update_of_ne other _ _).trans (Function.update_of_ne other _ _)
  rw [absent] at found
  cases found

theorem amphora_image_released_amphora :
    let settings := { octaviaSettings with response := .content "QFI" }
    let final := runFrom (step md5Of fun _ => none) amphoraStart
      (brokenRun ++ .start settings :: List.replicate 9 .advance)
    ∃ image, chosen final.images = some image ∧ image.checksum = some "QFI#" := by
  have documented := Artifacts.serverModules_documented
  have separate : Separate Artifacts.serverModules released.server := by
    intro name other first second found also _
    rw [released_only found, released_only also]
  have serves : Serves Artifacts.serverModules released.server
      (imagePath "2026.1" "2026.1-20261103T134107") "QFI" := by
    obtain ⟨distribution, files, found, basePath, _, served, holds⟩ :=
      released_published.distribution documented
    exact ⟨_, distribution, files, amphoraFile, found, served, by rw [basePath, imagePath_eq], holds⟩
  have possible : Along (step md5Of fun _ => none) Possible amphoraStart (brokenRun ++
    .start { octaviaSettings with response := .content "QFI" } :: List.replicate 9 .advance) := by
    decide
  obtain ⟨_, image, chooses, checksum, _⟩ := amphora_image_released documented released_published
    separate amphoraStart_orderly rfl possible (by decide) rfl (by decide) rfl rfl serves
  exact ⟨image, chooses, checksum⟩

end Octavia
