import KayobeConfig.ImageBuild.Success
import KayobeConfig.Library.Text
import KayobeConfig.ScanImages.Triage

/-!
The whole container image workflow: the matrix of build jobs, and the manifests that
`tools/multiarch-manifests.sh` creates from the images they have pushed.
-/

namespace ImageBuild

open Library ScanImages

/-- What `sed -n` prints for one line: the text before an architecture at its end. -/
def stripArch (image : String) : Option String :=
  ((image.toList.dropSuffix? "-amd64".toList).orElse fun _ =>
    image.toList.dropSuffix? "-aarch64".toList).map String.ofList

def manifestImages (images : List String) : List String :=
  uniqueSorted ((uniqueSorted images).filterMap stripArch)

def archImages (inspect : String → Bool) (base : String) : List String :=
  (["amd64", "aarch64"].map fun arch => base ++ "-" ++ arch).filter inspect

/-- The loop of the script under errexit: the manifests it creates, and whether it reaches its end. -/
def createManifests (inspect create : String → Bool) : List String → List (String × List String) × Bool
  | [] => ([], true)
  | base :: bases =>
      let sources := archImages inspect base
      if sources = [] then createManifests inspect create bases
      else if create base then
        let rest := createManifests inspect create bases
        ((base, sources) :: rest.1, rest.2)
      else ([], false)

def rocky (arch : String) : Distro := ⟨"rocky", "10", arch⟩

def ubuntu : Distro := ⟨"ubuntu", "noble", "amd64"⟩

inductive BuildJob.Names (job : BuildJob) (image : String) : Prop
  | overcloud (name : String) (builds : job.inputs.overcloud = true)
      (tagged : image = BuildJob.reference name job.overcloudTag)
  | seed (name : String) (builds : job.buildsSeed = true)
      (tagged : image = BuildJob.reference name job.kollaTag)

/-- The tag is new, so what the store holds under it was built by an earlier attempt. -/
structure Configured (inputs : Inputs) (openstackRelease datetimeTag : String) (distro : Distro)
    (job : BuildJob) : Prop where
  inputs : job.inputs = inputs
  distro : job.distro = distro
  openstackRelease : job.openstackRelease = openstackRelease
  datetimeTag : job.datetimeTag = datetimeTag
  attempts : ∀ image ∈ job.store, job.Names image

/-- A run of the workflow. The branch name has no colon, and the tag is a date and a time. -/
structure Workflow where
  inputs : Inputs
  openstackRelease : String
  datetimeTag : String
  jobs : Distro → BuildJob
  configured : ∀ distro, Configured inputs openstackRelease datetimeTag distro (jobs distro)
  branch : ':' ∉ openstackRelease.toList
  dated : ∀ char ∈ datetimeTag.toList, char.isDigit ∨ char = 'T'

namespace Workflow

variable (workflow : Workflow)

def matrix : List BuildJob :=
  if validateInputs workflow.inputs then (generateBuildMatrix workflow.inputs).map workflow.jobs else []

/-- The condition of the job, and of the jobs that it needs. -/
def createsManifests : Bool :=
  validateInputs workflow.inputs && workflow.inputs.push && workflow.inputs.rockyLinux10 &&
    workflow.matrix.all fun job => job.final.status = .success

def allPushedImages : List String := workflow.matrix.flatMap fun job => job.final.state.artifact.getD []

def registry (present : List String) : List String :=
  present ++ workflow.matrix.flatMap BuildJob.pushedImages

def manifests (inspect create : String → Bool) : List (String × List String) × Bool :=
  createManifests inspect create (manifestImages workflow.allPushedImages)

def rockyTag : String :=
  workflow.openstackRelease ++ "-rocky-10-" ++ workflow.datetimeTag

def delivers (arch name : String) : Bool :=
  workflow.inputs.overcloud &&
    BuildJob.reference name (workflow.rockyTag ++ "-" ++ arch) ∈
      (workflow.jobs (rocky arch)).listedImages

def archReferences (name : String) : List String :=
  (["amd64", "aarch64"].filter fun arch => workflow.delivers arch name).map fun arch =>
    BuildJob.reference name (workflow.rockyTag ++ "-" ++ arch)

end Workflow

section Suffixes

theorem dropSuffix?_some {text suffix rest : List Char} :
    text.dropSuffix? suffix = some rest ↔ text = rest ++ suffix := by
  rw [List.dropSuffix?_eq_some_iff]
  constructor
  · rintro ⟨other, joined, same⟩
    rw [joined, eq_of_beq same]
  · intro joined
    exact ⟨suffix, joined, BEq.rfl⟩

theorem stripArch_some {image base : String} :
    stripArch image = some base ↔ ∃ arch ∈ ["amd64", "aarch64"], image = base ++ "-" ++ arch := by
  have amd : (base ++ "-" ++ "amd64").toList = base.toList ++ "-amd64".toList := by
    simp [String.toList_append]
  have arm : (base ++ "-" ++ "aarch64").toList = base.toList ++ "-aarch64".toList := by
    simp [String.toList_append]
  have listed : (∃ arch ∈ ["amd64", "aarch64"], image = base ++ "-" ++ arch) ↔
      image.toList = base.toList ++ "-amd64".toList ∨ image.toList = base.toList ++ "-aarch64".toList := by
    rw [← amd, ← arm, String.toList_inj, String.toList_inj]
    simp
  rw [listed]
  unfold stripArch
  cases first : image.toList.dropSuffix? "-amd64".toList with
  | some rest =>
      have ends := dropSuffix?_some.mp first
      -- No text ends in both.
      have other : image.toList ≠ base.toList ++ "-aarch64".toList := by
        intro both
        rw [ends] at both
        have longer : "-amd64".toList <:+ base.toList ++ "-aarch64".toList := ⟨rest, both⟩
        have shorter : "-aarch64".toList <:+ base.toList ++ "-aarch64".toList := List.suffix_append _ _
        have nested := List.suffix_of_suffix_length_le longer shorter (by decide)
        exact absurd nested (by decide)
      rw [ends] at other
      simp only [Option.orElse_some, Option.map_some, Option.some.injEq, ends, other, or_false,
        List.append_cancel_right_eq]
      constructor
      · rintro rfl
        simp
      · rintro rfl
        simp
  | none =>
      have notAmd : image.toList ≠ base.toList ++ "-amd64".toList := by
        intro ends
        rw [dropSuffix?_some.mpr ends] at first
        simp at first
      simp only [Option.orElse_none, Option.map_eq_some_iff, notAmd, false_or]
      rw [← dropSuffix?_some]
      constructor
      · rintro ⟨rest, found, rfl⟩
        simpa using found
      · intro found
        exact ⟨base.toList, found, by simp⟩

end Suffixes

theorem mem_manifestImages {images : List String} {base : String} :
    base ∈ manifestImages images ↔
      ∃ arch ∈ ["amd64", "aarch64"], base ++ "-" ++ arch ∈ images := by
  unfold manifestImages
  rw [mem_uniqueSorted, List.mem_filterMap]
  simp only [mem_uniqueSorted, stripArch_some]
  constructor
  · rintro ⟨image, member, arch, known, rfl⟩
    exact ⟨arch, known, member⟩
  · rintro ⟨arch, known, member⟩
    exact ⟨_, member, arch, known, rfl⟩

theorem uniqueSorted_nodup (texts : List String) : (uniqueSorted texts).Nodup :=
  (List.perm_insertionSort _ _).nodup_iff.mpr (unique_nodup texts)

/-- What the loop creates, whether or not it reaches its end. -/
theorem createManifests_sound (inspect create : String → Bool) (bases : List String) :
    (((createManifests inspect create bases).1.map Prod.fst).Sublist bases) ∧
      ∀ base sources, (base, sources) ∈ (createManifests inspect create bases).1 →
        sources = archImages inspect base ∧ sources ≠ [] := by
  induction bases with
  | nil => simp [createManifests]
  | cons base bases ih =>
      obtain ⟨sublist, sound⟩ := ih
      by_cases none : archImages inspect base = []
      · simp only [createManifests, none, if_true]
        exact ⟨sublist.cons base, sound⟩
      · by_cases creates : create base = true
        · simp only [createManifests, none, if_false, creates, if_true, List.map_cons]
          refine ⟨sublist.cons_cons base, ?_⟩
          intro other sources member
          rcases List.mem_cons.mp member with same | member
          · obtain ⟨rfl, rfl⟩ := Prod.mk.inj same
            exact ⟨rfl, none⟩
          · exact sound other sources member
        · simp [createManifests, none, creates]

theorem createManifests_complete {inspect create : String → Bool} {bases : List String}
    (completed : (createManifests inspect create bases).2 = true) (base : String) (member : base ∈ bases)
    (sourced : archImages inspect base ≠ []) :
    (base, archImages inspect base) ∈ (createManifests inspect create bases).1 := by
  induction bases with
  | nil => simp at member
  | cons first bases ih =>
      by_cases none : archImages inspect first = []
      · simp only [createManifests, none, if_true] at completed ⊢
        rcases List.mem_cons.mp member with rfl | member
        · exact absurd none sourced
        · exact ih completed member
      · by_cases creates : create first = true
        · simp only [createManifests, none, if_false, creates, if_true] at completed ⊢
          rcases List.mem_cons.mp member with rfl | member
          · exact List.mem_cons_self
          · exact List.mem_cons_of_mem _ (ih completed member)
        · simp [createManifests, none, creates] at completed

section References

open BuildJob

theorem append_cons_unique {separator : Char} {first second before after : List Char}
    (firstFree : separator ∉ second) (secondFree : separator ∉ after)
    (same : first ++ separator :: second = before ++ separator :: after) :
    first = before ∧ second = after := by
  have reversed := congrArg List.reverse same
  simp only [List.reverse_append, List.reverse_cons, List.append_assoc, List.singleton_append] at reversed
  have parts := congrArg (splitFirst separator) reversed
  rw [splitFirst_append (by simpa using firstFree), splitFirst_append (by simpa using secondFree)] at parts
  simp only [Option.some.injEq, Prod.mk.injEq, List.reverse_inj] at parts
  exact ⟨parts.2, parts.1⟩

theorem reference_inj {name other tag otherTag : String} (plain : ':' ∉ tag.toList)
    (otherPlain : ':' ∉ otherTag.toList) (same : reference name tag = reference other otherTag) :
    name = other ∧ tag = otherTag := by
  have texts := congrArg String.toList same
  have parts (name tag : String) : (reference name tag).toList =
      ("ark.stackhpc.com/stackhpc-dev/".toList ++ name.toList) ++ ':' :: tag.toList := by
    have colon : ":".toList = [':'] := rfl
    unfold reference
    rw [String.toList_append, String.toList_append, String.toList_append, colon, List.append_assoc _ [':']]
    rfl
  rw [parts, parts] at texts
  obtain ⟨names, tags⟩ := append_cons_unique plain otherPlain texts
  exact ⟨String.toList_inj.mp (List.append_cancel_left names), String.toList_inj.mp tags⟩

end References

theorem split_arch {base other arch last : String} (archPlain : '-' ∉ arch.toList)
    (lastPlain : '-' ∉ last.toList) (same : base ++ "-" ++ arch = other ++ "-" ++ last) :
    base = other ∧ arch = last := by
  have texts := congrArg String.toList same
  have dash : "-".toList = ['-'] := rfl
  simp only [String.toList_append, dash, List.append_assoc, List.singleton_append] at texts
  obtain ⟨first, second⟩ := append_cons_unique archPlain lastPlain texts
  exact ⟨String.toList_inj.mp first, String.toList_inj.mp second⟩

theorem reference_suffix (name tag suffix : String) :
    BuildJob.reference name (tag ++ "-" ++ suffix) = BuildJob.reference name tag ++ "-" ++ suffix := by
  unfold BuildJob.reference
  generalize "ark.stackhpc.com/stackhpc-dev/" ++ name ++ ":" = stem
  rw [← String.append_assoc, ← String.append_assoc]

namespace Workflow

variable (workflow : Workflow)

def ubuntuTag : String :=
  workflow.openstackRelease ++ "-ubuntu-noble-" ++ workflow.datetimeTag

theorem datetime_plain {char : Char} (member : char ∈ workflow.datetimeTag.toList) :
    char ≠ ':' ∧ char ≠ '-' ∧ char ≠ 'a' := by
  rcases workflow.dated char member with digit | rfl
  · refine ⟨?_, ?_, ?_⟩ <;> rintro rfl <;> revert digit <;> decide
  · decide

theorem datetime_not_arch {arch : String} (known : arch ∈ ["amd64", "aarch64"]) :
    arch ≠ workflow.datetimeTag := by
  rintro rfl
  have letter : 'a' ∈ workflow.datetimeTag.toList := by
    simp only [List.mem_cons, List.not_mem_nil, or_false] at known
    rcases known with named | named <;> rw [named] <;> decide
  exact (workflow.datetime_plain letter).2.2 rfl

theorem rockyTag_plain : ':' ∉ workflow.rockyTag.toList := by
  have datetime : ':' ∉ workflow.datetimeTag.toList := fun member =>
    (workflow.datetime_plain member).1 rfl
  simp [rockyTag, String.toList_append, workflow.branch, datetime]

theorem archTag_plain {arch : String} (known : arch ∈ ["amd64", "aarch64"]) :
    ':' ∉ (workflow.rockyTag ++ "-" ++ arch).toList ∧ '-' ∉ arch.toList := by
  simp only [List.mem_cons, List.not_mem_nil, or_false] at known
  rcases known with rfl | rfl <;> simp [String.toList_append, workflow.rockyTag_plain]

/-- No image without an architecture in its tag is read as one with it. -/
theorem dated_not_arch {name tag base arch : String} (known : arch ∈ ["amd64", "aarch64"])
    (dated : tag = workflow.rockyTag ∨ tag = workflow.ubuntuTag) :
    BuildJob.reference name tag ≠ base ++ "-" ++ arch := by
  have plain : '-' ∉ workflow.datetimeTag.toList := fun member =>
    (workflow.datetime_plain member).2.1 rfl
  have ends : ∃ stem, BuildJob.reference name tag = stem ++ "-" ++ workflow.datetimeTag := by
    rcases dated with rfl | rfl
    · refine ⟨BuildJob.reference name (workflow.openstackRelease ++ "-rocky-10"), ?_⟩
      have joined : "-rocky-10-" = "-rocky-10" ++ "-" := rfl
      rw [← reference_suffix, rockyTag, joined, ← String.append_assoc]
    · refine ⟨BuildJob.reference name (workflow.openstackRelease ++ "-ubuntu-noble"), ?_⟩
      have joined : "-ubuntu-noble-" = "-ubuntu-noble" ++ "-" := rfl
      rw [← reference_suffix, ubuntuTag, joined, ← String.append_assoc]
  obtain ⟨stem, ends⟩ := ends
  intro same
  rw [ends] at same
  have parts := split_arch plain (workflow.archTag_plain known).2 same
  exact workflow.datetime_not_arch known parts.2.symm

theorem reference_arch {name base arch last : String} (known : arch ∈ ["amd64", "aarch64"])
    (lastKnown : last ∈ ["amd64", "aarch64"])
    (same : BuildJob.reference name (workflow.rockyTag ++ "-" ++ last) = base ++ "-" ++ arch) :
    base = BuildJob.reference name workflow.rockyTag ∧ arch = last := by
  rw [reference_suffix] at same
  have parts := split_arch (workflow.archTag_plain lastKnown).2 (workflow.archTag_plain known).2 same
  exact ⟨parts.1.symm, parts.2.symm⟩

theorem kollaTag_rocky (arch : String) :
    (workflow.jobs (rocky arch)).kollaTag = workflow.rockyTag := by
  have known := workflow.configured (rocky arch)
  have joined : "-rocky-10-" = "-" ++ "rocky" ++ "-" ++ "10" ++ "-" := rfl
  rw [BuildJob.kollaTag, known.distro, known.openstackRelease, known.datetimeTag, rockyTag, joined]
  simp only [rocky, ← String.append_assoc]

theorem overcloudTag_rocky (arch : String) :
    (workflow.jobs (rocky arch)).overcloudTag = workflow.rockyTag ++ "-" ++ arch := by
  have known := workflow.configured (rocky arch)
  rw [BuildJob.overcloudTag, kollaTag_rocky, known.distro]
  simp [rocky]

theorem kollaTag_ubuntu : (workflow.jobs ubuntu).kollaTag = workflow.ubuntuTag := by
  have known := workflow.configured ubuntu
  have joined : "-ubuntu-noble-" = "-" ++ "ubuntu" ++ "-" ++ "noble" ++ "-" := rfl
  rw [BuildJob.kollaTag, known.distro, known.openstackRelease, known.datetimeTag, ubuntuTag, joined]
  simp only [ubuntu, ← String.append_assoc]

theorem overcloudTag_ubuntu : (workflow.jobs ubuntu).overcloudTag = workflow.ubuntuTag := by
  have known := workflow.configured ubuntu
  rw [BuildJob.overcloudTag, kollaTag_ubuntu, known.distro]
  simp [ubuntu]

theorem mem_matrix (valid : validateInputs workflow.inputs = true)
    (asked : workflow.inputs.rockyLinux10 = true) (job : BuildJob) :
    job ∈ workflow.matrix ↔
      job = workflow.jobs (rocky "amd64") ∨
      (workflow.inputs.overcloud = true ∧ job = workflow.jobs (rocky "aarch64")) ∨
      (workflow.inputs.ubuntuNoble = true ∧ job = workflow.jobs ubuntu) := by
  unfold matrix generateBuildMatrix
  rw [if_pos valid, if_pos asked]
  cases overcloud : workflow.inputs.overcloud <;> cases noble : workflow.inputs.ubuntuNoble <;>
    simp [rocky, ubuntu]

inductive Listed (image : String) : Prop
  | overcloud (name arch : String) (known : arch ∈ ["amd64", "aarch64"])
      (delivers : workflow.delivers arch name = true)
      (tagged : image = BuildJob.reference name (workflow.rockyTag ++ "-" ++ arch))
  | dated (name tag : String) (dated : tag = workflow.rockyTag ∨ tag = workflow.ubuntuTag)
      (tagged : image = BuildJob.reference name tag)

theorem names_of_stored (distro : Distro) {image : String}
    (stored : image ∈ (workflow.jobs distro).storedImages) : (workflow.jobs distro).Names image := by
  rcases List.mem_append.mp stored with left | built
  · exact (workflow.configured distro).attempts image left
  · unfold BuildJob.builtImages at built
    rcases List.mem_append.mp built with built | built
    · split at built
      · rename_i overcloud
        obtain ⟨name, _, rfl⟩ := List.mem_map.mp built
        exact .overcloud name overcloud rfl
      · simp at built
    · split at built
      · rename_i seed
        obtain ⟨name, _, rfl⟩ := List.mem_map.mp built
        exact .seed name seed rfl
      · simp at built

theorem listed_rocky {arch image : String} (known : arch ∈ ["amd64", "aarch64"])
    (listed : image ∈ (workflow.jobs (rocky arch)).listedImages) : workflow.Listed image := by
  have configured := workflow.configured (rocky arch)
  cases workflow.names_of_stored (rocky arch) (List.mem_of_mem_filter listed) with
  | overcloud name builds tagged =>
      rw [overcloudTag_rocky] at tagged
      rw [configured.inputs] at builds
      rw [tagged] at listed
      exact .overcloud name arch known (by simp [delivers, builds, listed]) tagged
  | seed name _ tagged =>
      rw [kollaTag_rocky] at tagged
      exact .dated name workflow.rockyTag (.inl rfl) tagged

theorem listed_ubuntu {image : String} (listed : image ∈ (workflow.jobs ubuntu).listedImages) :
    workflow.Listed image := by
  cases workflow.names_of_stored ubuntu (List.mem_of_mem_filter listed) with
  | overcloud name _ tagged =>
      rw [overcloudTag_ubuntu] at tagged
      exact .dated name workflow.ubuntuTag (.inr rfl) tagged
  | seed name _ tagged =>
      rw [kollaTag_ubuntu] at tagged
      exact .dated name workflow.ubuntuTag (.inr rfl) tagged

section Matrix

variable {workflow} (valid : validateInputs workflow.inputs = true)
  (asked : workflow.inputs.rockyLinux10 = true)

include valid asked

theorem listed_of_matrix {job : BuildJob} (member : job ∈ workflow.matrix) {image : String}
    (listed : image ∈ job.listedImages) : workflow.Listed image := by
  rcases (workflow.mem_matrix valid asked job).mp member with rfl | ⟨_, rfl⟩ | ⟨_, rfl⟩
  · exact workflow.listed_rocky (by decide) listed
  · exact workflow.listed_rocky (by decide) listed
  · exact workflow.listed_ubuntu listed

theorem exists_listed_iff {name arch : String} (known : arch ∈ ["amd64", "aarch64"]) :
    (∃ job ∈ workflow.matrix,
        BuildJob.reference name (workflow.rockyTag ++ "-" ++ arch) ∈ job.listedImages) ↔
      workflow.delivers arch name = true := by
  constructor
  · rintro ⟨job, member, listed⟩
    cases listed_of_matrix valid asked member listed with
    | overcloud other last lastKnown delivers tagged =>
        obtain ⟨rfl, tags⟩ := reference_inj (workflow.archTag_plain known).1
          (workflow.archTag_plain lastKnown).1 tagged
        have same := split_arch (workflow.archTag_plain known).2 (workflow.archTag_plain lastKnown).2 tags
        rw [same.2]
        exact delivers
    | dated other tag dated tagged =>
        rw [reference_suffix] at tagged
        exact absurd tagged.symm (workflow.dated_not_arch known dated)
  · intro delivers
    simp only [Workflow.delivers, Bool.and_eq_true, decide_eq_true_eq] at delivers
    obtain ⟨overcloud, listed⟩ := delivers
    refine ⟨workflow.jobs (rocky arch), ?_, listed⟩
    rw [workflow.mem_matrix valid asked]
    simp only [List.mem_cons, List.not_mem_nil, or_false] at known
    rcases known with rfl | rfl
    · exact .inl rfl
    · exact .inr (.inl ⟨overcloud, rfl⟩)

end Matrix

/-- The manifests hold what the jobs of this run have scanned and pushed, each image once. -/
structure ExactManifests (result : List (String × List String) × Bool) : Prop where
  once : (result.1.map Prod.fst).Nodup
  sound : ∀ base sources, (base, sources) ∈ result.1 →
    ∃ name, base = BuildJob.reference name workflow.rockyTag ∧
      sources = workflow.archReferences name ∧ sources ≠ []
  complete : result.2 = true → ∀ name, workflow.archReferences name ≠ [] →
    (BuildJob.reference name workflow.rockyTag, workflow.archReferences name) ∈ result.1
  scanned : ∀ base sources, (base, sources) ∈ result.1 →
    ∀ source ∈ sources, ∃ job ∈ workflow.matrix, job.MayPush source

theorem createsManifests_iff :
    workflow.createsManifests = true ↔
      validateInputs workflow.inputs = true ∧ workflow.inputs.push = true ∧
        workflow.inputs.rockyLinux10 = true ∧ ∀ job ∈ workflow.matrix, job.final.status = .success := by
  simp [createsManifests, and_assoc]

theorem matrix_inputs {job : BuildJob} (member : job ∈ workflow.matrix) :
    job.inputs = workflow.inputs := by
  unfold matrix at member
  split at member
  · obtain ⟨distro, _, rfl⟩ := List.mem_map.mp member
    exact (workflow.configured distro).inputs
  · simp at member

section Manifests

variable {workflow} (creates : workflow.createsManifests = true)

include creates

theorem mem_allPushedImages (image : String) :
    image ∈ workflow.allPushedImages ↔ ∃ job ∈ workflow.matrix, image ∈ job.listedImages := by
  obtain ⟨_, asked, _, successful⟩ := workflow.createsManifests_iff.mp creates
  unfold allPushedImages
  rw [List.mem_flatMap]
  apply exists_congr
  intro job
  apply and_congr_right
  intro member
  have push : job.inputs.push = true := by
    rw [workflow.matrix_inputs member]
    exact asked
  rw [BuildJob.final_artifact (successful job member) push, Option.getD_some]
  exact BuildJob.mem_attemptedImages_of_success (successful job member) image

theorem mem_registry (present : List String) (image : String) :
    image ∈ workflow.registry present ↔
      image ∈ present ∨ ∃ job ∈ workflow.matrix, image ∈ job.listedImages := by
  obtain ⟨_, asked, _, successful⟩ := workflow.createsManifests_iff.mp creates
  unfold registry
  rw [List.mem_append, List.mem_flatMap]
  apply or_congr Iff.rfl
  apply exists_congr
  intro job
  apply and_congr_right
  intro member
  have push : job.inputs.push = true := by
    rw [workflow.matrix_inputs member]
    exact asked
  exact BuildJob.mem_pushedImages_of_success (successful job member) push image

theorem manifestImages_iff (base : String) :
    base ∈ manifestImages workflow.allPushedImages ↔
      ∃ name, base = BuildJob.reference name workflow.rockyTag ∧ workflow.archReferences name ≠ [] := by
  obtain ⟨valid, _, asked, _⟩ := workflow.createsManifests_iff.mp creates
  rw [mem_manifestImages]
  simp only [mem_allPushedImages creates]
  constructor
  · rintro ⟨arch, known, job, member, listed⟩
    cases listed_of_matrix valid asked member listed with
    | overcloud name last lastKnown delivers tagged =>
        obtain ⟨rfl, rfl⟩ := workflow.reference_arch known lastKnown tagged.symm
        refine ⟨name, rfl, ?_⟩
        unfold archReferences
        rw [ne_eq, List.map_eq_nil_iff, List.filter_eq_nil_iff]
        exact fun none => none arch known delivers
    | dated name tag dated tagged => exact absurd tagged.symm (workflow.dated_not_arch known dated)
  · rintro ⟨name, rfl, sourced⟩
    obtain ⟨source, member⟩ := List.exists_mem_of_ne_nil _ sourced
    unfold archReferences at member
    obtain ⟨arch, listed, rfl⟩ := List.mem_map.mp member
    obtain ⟨known, delivers⟩ := List.mem_filter.mp listed
    obtain ⟨job, inMatrix, scanned⟩ := (exists_listed_iff valid asked known).mpr delivers
    rw [reference_suffix] at scanned
    exact ⟨arch, known, job, inMatrix, scanned⟩

theorem archImages_eq {present : List String}
    (fresh : ∀ name, ∀ arch ∈ ["amd64", "aarch64"],
      BuildJob.reference name (workflow.rockyTag ++ "-" ++ arch) ∉ present)
    {inspect : String → Bool}
    (inspected : ∀ image, inspect image = true ↔ image ∈ workflow.registry present) (name : String) :
    archImages inspect (BuildJob.reference name workflow.rockyTag) = workflow.archReferences name := by
  obtain ⟨valid, _, asked, _⟩ := workflow.createsManifests_iff.mp creates
  unfold archImages archReferences
  rw [List.filter_map]
  simp only [reference_suffix]
  congr 1
  apply List.filter_congr
  intro arch known
  rw [Bool.eq_iff_iff, Function.comp_apply, inspected, mem_registry creates, ← reference_suffix,
    or_iff_right (fresh name arch known)]
  exact exists_listed_iff valid asked known

/-- Where no older image has this run's tag, the manifests are those of what its jobs have pushed. -/
theorem manifests_exact {present : List String}
    (fresh : ∀ name, ∀ arch ∈ ["amd64", "aarch64"],
      BuildJob.reference name (workflow.rockyTag ++ "-" ++ arch) ∉ present)
    {inspect : String → Bool}
    (inspected : ∀ image, inspect image = true ↔ image ∈ workflow.registry present)
    (create : String → Bool) : workflow.ExactManifests (workflow.manifests inspect create) := by
  obtain ⟨valid, push, asked, successful⟩ := workflow.createsManifests_iff.mp creates
  obtain ⟨sublist, sound⟩ := createManifests_sound inspect create
    (manifestImages workflow.allPushedImages)
  have exact : ∀ base sources, (base, sources) ∈ (workflow.manifests inspect create).1 →
      ∃ name, base = BuildJob.reference name workflow.rockyTag ∧
        sources = workflow.archReferences name ∧ sources ≠ [] := by
    intro base sources member
    have listed : base ∈ manifestImages workflow.allPushedImages :=
      sublist.subset (List.mem_map.mpr ⟨(base, sources), member, rfl⟩)
    obtain ⟨name, rfl, _⟩ := (manifestImages_iff creates base).mp listed
    have sourced := sound _ sources member
    rw [archImages_eq creates fresh inspected] at sourced
    exact ⟨name, rfl, sourced⟩
  refine ⟨(uniqueSorted_nodup _).sublist sublist, exact, ?_, ?_⟩
  · intro completed name sourced
    have listed := (manifestImages_iff creates _).mpr ⟨name, rfl, sourced⟩
    have created := createManifests_complete completed _ listed (by
      rw [archImages_eq creates fresh inspected]
      exact sourced)
    rw [archImages_eq creates fresh inspected] at created
    exact created
  · intro base sources member source listed
    obtain ⟨name, rfl, rfl, _⟩ := exact base sources member
    unfold archReferences at listed
    obtain ⟨arch, filtered, rfl⟩ := List.mem_map.mp listed
    obtain ⟨known, delivers⟩ := List.mem_filter.mp filtered
    obtain ⟨job, inMatrix, scanned⟩ := (exists_listed_iff valid asked known).mpr delivers
    have pushed : job.inputs.push = true := by
      rw [workflow.matrix_inputs inMatrix]
      exact push
    have well := job.allWell_of_success (successful job inMatrix)
    exact ⟨job, inMatrix, pushed, scanned, well.scanned, well.passes⟩

end Manifests

end Workflow

instance decidableRun (setup : Setup) (events : List Event) : Decidable (setup.Run events) :=
  decidableAlong setup.start events

def cleanScan : Scan where
  errors := fun _ => false
  exitCode := 0
  report := []
  testErrors := fun _ => false
  misread := fun _ => none

/-- One image is built for both architectures, and its scans find nothing. -/
def novaJob (distro : Distro) : BuildJob where
  inputs := ⟨true, false, true, false, true, false, false⟩
  distro := distro
  openstackRelease := "2025.1"
  datetimeTag := "20260101T000000"
  ends := fun _ => .success
  store := []
  lists := fun _ _ => true
  overcloudBuild := ⟨["nova-api"], .success⟩
  seedBuild := ⟨[], .success⟩
  sizes := fun _ => 0
  scans := fun _ => cleanScan
  interleaving := fun setup =>
    let events := setup.images.flatMap fun image =>
      [.count 0, .check, .start image, .endLoop] ++ List.replicate 12 (.scan image) ++
        [.record image, .wait, .report]
    if setup.Run events then events else []
  possible := by
    intro setup
    dsimp only
    split
    · rename_i run
      exact run
    · exact along_nil
  answers := fun _ => .pushed

def novaWorkflow : Workflow where
  inputs := ⟨true, false, true, false, true, false, false⟩
  openstackRelease := "2025.1"
  datetimeTag := "20260101T000000"
  jobs := novaJob
  configured := fun _ => ⟨rfl, rfl, rfl, rfl, by simp [novaJob]⟩
  branch := by decide
  dated := by simp

theorem novaWorkflow_manifests :
    novaWorkflow.ExactManifests
        (novaWorkflow.manifests (fun image => image ∈ novaWorkflow.registry []) fun _ => true) ∧
      novaWorkflow.manifests (fun image => image ∈ novaWorkflow.registry []) (fun _ => true) =
        ([("ark.stackhpc.com/stackhpc-dev/nova-api:2025.1-rocky-10-20260101T000000",
          ["ark.stackhpc.com/stackhpc-dev/nova-api:2025.1-rocky-10-20260101T000000-amd64",
            "ark.stackhpc.com/stackhpc-dev/nova-api:2025.1-rocky-10-20260101T000000-aarch64"])], true) := by
  have creates : novaWorkflow.createsManifests = true := by decide +kernel
  have fresh : ∀ name, ∀ arch ∈ ["amd64", "aarch64"],
      BuildJob.reference name (novaWorkflow.rockyTag ++ "-" ++ arch) ∉ ([] : List String) := by
    simp
  have inspected : ∀ image, decide (image ∈ novaWorkflow.registry []) = true ↔
      image ∈ novaWorkflow.registry [] := by
    simp
  exact ⟨Workflow.manifests_exact creates fresh inspected fun _ => true, by decide +kernel⟩

end ImageBuild
