import KayobeConfig.KollaImages.Listing

/-!
`check_tags`: the tags of each image are looked up in the container registry, with three tries
for each image. Tags that pass all checks of the script can be deployed.
-/

namespace KollaImages

open Library

inductive CheckTagsError
  | noSkopeo
  | unresolved (error : PyError)
  | unlisted (image : String)

/-- How the calls of `skopeo list-tags` for an image end, by number. None stands for an exception. -/
abbrev Skopeo := String → Nat → Option (List String)

/-- `for _ in range(3)` with its `break` and its `else`. -/
def listTags (skopeo : Skopeo) (image : String) : Option (List String) :=
  (List.range 3).findSome? (skopeo image)

def checkImageTags (skopeo : Skopeo) (missing : List (String × List String))
    (entry : String × List String) : Except CheckTagsError (List (String × List String)) :=
  match listTags skopeo entry.1 with
  | none => .error (.unlisted entry.1)
  | some arkTags =>
      let missingTags := entry.2.filter fun tag => tag ∉ arkTags
      .ok (if missingTags = [] then missing else missing ++ [(entry.1, missingTags)])

/-- The missing tags by image, with which the script exits when there are any. -/
def checkTags (hasSkopeo : Bool) (skopeo : Skopeo) (images : List String)
    (unbuildableImages : Dict String (List String)) (baseDistros : List String)
    (tags : KollaImageTags) : Except CheckTagsError (List (String × List String)) :=
  if hasSkopeo then
    match getTags images unbuildableImages baseDistros tags with
    | .error error => .error (.unresolved error)
    | .ok imageTags => imageTags.entries.foldlM (checkImageTags skopeo) []
  else .error .noSkopeo

def missingEntry (skopeo : Skopeo) (entry : String × List String) : Option (String × List String) :=
  let missingTags := entry.2.filter fun tag => tag ∉ (listTags skopeo entry.1).getD []
  if missingTags = [] then none else some (entry.1, missingTags)

theorem checkImageTags_ok_iff {skopeo : Skopeo} {missing result : List (String × List String)}
    {entry : String × List String} :
    checkImageTags skopeo missing entry = .ok result ↔
      (listTags skopeo entry.1).isSome ∧
        result = missing ++ (missingEntry skopeo entry).toList := by
  unfold checkImageTags missingEntry
  cases listed : listTags skopeo entry.1 with
  | none => simp
  | some arkTags =>
      simp only [Option.isSome_some, true_and, Option.getD_some, Except.ok.injEq]
      by_cases none : (entry.2.filter fun tag => decide (tag ∉ arkTags)) = []
      · rw [if_pos none, if_pos none, Option.toList_none, List.append_nil]
        exact eq_comm
      · rw [if_neg none, if_neg none]
        exact eq_comm

theorem checkTags_loop {skopeo : Skopeo} {entries missing result : List (String × List String)} :
    entries.foldlM (checkImageTags skopeo) missing = .ok result ↔
      (∀ entry ∈ entries, (listTags skopeo entry.1).isSome) ∧
        result = missing ++ entries.filterMap (missingEntry skopeo) := by
  induction entries generalizing missing with
  | nil =>
      constructor
      · intro same
        cases same
        simp
      · rintro ⟨_, rfl⟩
        simp [pure, Except.pure]
  | cons entry entries ih =>
      rw [List.foldlM_cons, except_bind_ok]
      simp only [checkImageTags_ok_iff, ih]
      constructor
      · rintro ⟨next, ⟨listed, rfl⟩, rest, rfl⟩
        refine ⟨List.forall_mem_cons.mpr ⟨listed, rest⟩, ?_⟩
        cases found : missingEntry skopeo entry <;> simp [found]
      · rintro ⟨all, rfl⟩
        obtain ⟨listed, rest⟩ := List.forall_mem_cons.mp all
        refine ⟨_, ⟨listed, rfl⟩, rest, ?_⟩
        cases found : missingEntry skopeo entry <;> simp [found]

theorem missingEntry_some {skopeo : Skopeo} {entry reported : String × List String} :
    missingEntry skopeo entry = some reported ↔
      reported = (entry.1, entry.2.filter fun tag => tag ∉ (listTags skopeo entry.1).getD []) ∧
        reported.2 ≠ [] := by
  unfold missingEntry
  dsimp only
  split
  · rename_i none
    constructor
    · intro impossible
      cases impossible
    · rintro ⟨rfl, some⟩
      exact absurd none some
  · rename_i some
    constructor
    · intro same
      cases same
      exact ⟨rfl, some⟩
    · rintro ⟨rfl, _⟩
      rfl

section Registry

variable {images baseDistros : List String} {unbuildableImages : Dict String (List String)}
  {tags : KollaImageTags} {skopeo : Skopeo}

/-- The image is deployed under the tag on one of the distros. -/
def Deploys (images baseDistros : List String) (unbuildableImages : Dict String (List String))
    (tags : KollaImageTags) (image tag : String) : Prop :=
  image ∈ images ∧ ∃ baseDistro ∈ baseDistros, ¬Unbuildable unbuildableImages baseDistro image ∧
    ∃ container ∈ getContainers image, getTag tags baseDistro container = .ok tag

theorem ListsTags.deploys_iff {imageTags : Dict String (List String)}
    (lists : ListsTags images unbuildableImages baseDistros tags imageTags) (image tag : String) :
    (∃ found, (image, found) ∈ imageTags.entries ∧ tag ∈ found) ↔
      Deploys images baseDistros unbuildableImages tags image tag := by
  simp only [Dict.mem_entries_iff]
  constructor
  · rintro ⟨found, present, member⟩
    refine ⟨?_, (lists.exactly image found present tag).mp member⟩
    by_contra unlisted
    rw [(lists.absent image).mpr fun member => absurd member unlisted] at present
    cases present
  · rintro ⟨member, baseDistro, requested, buildable, resolves⟩
    cases present : imageTags.get? image with
    | none => exact absurd ((lists.absent image).mp present member baseDistro requested) buildable
    | some found =>
        exact ⟨found, rfl, (lists.exactly image found present tag).mpr
          ⟨baseDistro, requested, buildable, resolves⟩⟩

theorem ListsTags.requested_iff {imageTags : Dict String (List String)}
    (lists : ListsTags images unbuildableImages baseDistros tags imageTags) (image : String) :
    (∃ found, (image, found) ∈ imageTags.entries) ↔
      image ∈ images ∧ ∃ baseDistro ∈ baseDistros, ¬Unbuildable unbuildableImages baseDistro image := by
  have absent := lists.absent image
  simp only [Dict.mem_entries_iff]
  rw [← Option.ne_none_iff_exists', ne_eq, absent]
  push Not
  rfl

/-- What a run of `check_tags` that has resolved every tag and found skopeo comes to. -/
structure ChecksTags (skopeo : Skopeo) (images baseDistros : List String)
    (unbuildableImages : Dict String (List String)) (tags : KollaImageTags)
    (result : Except CheckTagsError (List (String × List String))) : Prop where
  returns : (∃ missing, result = .ok missing) ↔
    ∀ image ∈ images, (∃ baseDistro ∈ baseDistros, ¬Unbuildable unbuildableImages baseDistro image) →
      ∃ i < 3, (skopeo image i).isSome
  missing : ∀ missing, result = .ok missing → ∀ image tag,
    (∃ found, (image, found) ∈ missing ∧ tag ∈ found) ↔
      Deploys images baseDistros unbuildableImages tags image tag ∧
        ∃ arkTags, listTags skopeo image = some arkTags ∧ tag ∉ arkTags
  nonempty : ∀ missing, result = .ok missing → ∀ entry ∈ missing, entry.2 ≠ []

theorem listTags_isSome (image : String) :
    (listTags skopeo image).isSome ↔ ∃ i < 3, (skopeo image i).isSome := by
  unfold listTags
  rw [List.findSome?_isSome_iff]
  simp only [List.mem_range]

theorem checkTags_ok_iff {imageTags : Dict String (List String)}
    (computed : getTags images unbuildableImages baseDistros tags = .ok imageTags)
    (missing : List (String × List String)) :
    checkTags true skopeo images unbuildableImages baseDistros tags = .ok missing ↔
      (∀ entry ∈ imageTags.entries, (listTags skopeo entry.1).isSome) ∧
        missing = imageTags.entries.filterMap (missingEntry skopeo) := by
  simp only [checkTags, if_true, computed]
  exact checkTags_loop

theorem checkTags_resolved {hasSkopeo : Bool} {missing : List (String × List String)}
    (checked : checkTags hasSkopeo skopeo images unbuildableImages baseDistros tags = .ok missing) :
    hasSkopeo = true ∧
      ∃ imageTags, getTags images unbuildableImages baseDistros tags = .ok imageTags := by
  unfold checkTags at checked
  split at checked
  · rename_i installed
    cases computed : getTags images unbuildableImages baseDistros tags with
    | error error => simp [computed] at checked
    | ok imageTags => exact ⟨installed, imageTags, rfl⟩
  · cases checked

/-- Where nothing is missing, every tag that is deployed is listed. -/
theorem listTags_deployed {hasSkopeo : Bool}
    (checked : checkTags hasSkopeo skopeo images unbuildableImages baseDistros tags = .ok [])
    {image tag : String} (deploys : Deploys images baseDistros unbuildableImages tags image tag) :
    ∃ arkTags, listTags skopeo image = some arkTags ∧ tag ∈ arkTags := by
  obtain ⟨rfl, imageTags, computed⟩ := checkTags_resolved checked
  have lists := getTags_listsTags computed
  obtain ⟨answered, none⟩ := (checkTags_ok_iff computed []).mp checked
  obtain ⟨found, present, member⟩ := (lists.deploys_iff image tag).mpr deploys
  obtain ⟨arkTags, known⟩ := Option.isSome_iff_exists.mp (answered _ present)
  refine ⟨arkTags, known, ?_⟩
  by_contra absent
  have kept : tag ∈ found.filter fun tag => tag ∉ (listTags skopeo image).getD [] := by
    simp [known, member, absent]
  have reported : missingEntry skopeo (image, found) =
      some (image, found.filter fun tag => tag ∉ (listTags skopeo image).getD []) :=
    missingEntry_some.mpr ⟨rfl, List.ne_nil_of_mem kept⟩
  have among := List.mem_filterMap.mpr ⟨(image, found), present, reported⟩
  rw [← none] at among
  cases among

theorem checkTags_exact (skopeo : Skopeo) {imageTags : Dict String (List String)}
    (computed : getTags images unbuildableImages baseDistros tags = .ok imageTags) :
    ChecksTags skopeo images baseDistros unbuildableImages tags
      (checkTags true skopeo images unbuildableImages baseDistros tags) := by
  have lists := getTags_listsTags computed
  have loop (missing : List (String × List String)) :
      checkTags true skopeo images unbuildableImages baseDistros tags = .ok missing ↔
        (∀ entry ∈ imageTags.entries, (listTags skopeo entry.1).isSome) ∧
          missing = imageTags.entries.filterMap (missingEntry skopeo) :=
    checkTags_ok_iff computed missing
  refine ⟨?_, ?_, ?_⟩
  · simp only [loop, exists_and_left, exists_eq, and_true, ← listTags_isSome]
    constructor
    · intro all image member buildable
      obtain ⟨found, present⟩ := (lists.requested_iff image).mpr ⟨member, buildable⟩
      exact all (image, found) present
    · rintro all ⟨image, found⟩ present
      obtain ⟨member, buildable⟩ := (lists.requested_iff image).mp ⟨found, present⟩
      exact all image member buildable
  · intro missing returned image tag
    obtain ⟨answered, rfl⟩ := (loop missing).mp returned
    rw [← lists.deploys_iff]
    simp only [List.mem_filterMap, missingEntry_some]
    constructor
    · rintro ⟨reported, ⟨⟨name, found⟩, present, same, _⟩, member⟩
      obtain ⟨rfl, rfl⟩ := Prod.mk.inj same
      obtain ⟨arkTags, known⟩ := Option.isSome_iff_exists.mp (answered _ present)
      simp only [known, Option.getD_some, List.mem_filter, decide_eq_true_eq] at member
      exact ⟨⟨found, present, member.1⟩, arkTags, known, member.2⟩
    · rintro ⟨⟨found, present, member⟩, arkTags, known, absent⟩
      have kept : tag ∈ found.filter fun tag => tag ∉ (listTags skopeo image).getD [] := by
        simp [known, member, absent]
      exact ⟨_, ⟨(image, found), present, rfl, List.ne_nil_of_mem kept⟩, kept⟩
  · intro missing returned entry member
    obtain ⟨_, rfl⟩ := (loop missing).mp returned
    obtain ⟨_, _, reported⟩ := List.mem_filterMap.mp member
    exact (missingEntry_some.mp reported).2

section Deployment

variable {hierarchy : TagHierarchy} {openstackRelease baseDistro : String}

/-- The printed variables give a container the tag that `get_tags` lists for its image. -/
theorem Accepted.deploys (accepted : Accepted hierarchy tags openstackRelease baseDistro)
    {lines : List TagVarLine} (printed : listTagVars tags = .ok lines) {container : String}
    (member : container ∈ hierarchy.parents.keys)
    (proper : ∀ entry ∈ containerToPrefixVarExceptions, ¬ProperStart entry.1 container) :
    ∃ tag, Evaluates lines tags hierarchy baseDistro container tag ∧
      getTag tags baseDistro container = .ok tag := by
  cases own : lookupTag tags baseDistro container with
  | some tag => exact ⟨tag, evaluates_own printed own, getTag_own accepted.valid own⟩
  | none =>
      cases exception : containerToPrefixVarExceptions.lookup container with
      | some prefixVar => exact deployed_exception accepted printed member exception own
      | none =>
          refine deployed_plain accepted printed member ?_ own
          intro entry among start
          refine proper entry among ⟨?_, start⟩
          rintro rfl
          rw [List.lookup_eq_none_iff] at exception
          simpa using exception entry among

/-- Tags that `validate`, `check_hierarchy`, `check_image_map` and `check_tags` accept are in the
registry under the image of every container that is deployed with them. -/
theorem checked_tags_deployable (related : checkHierarchy hierarchy = .ok [])
    (valid : validate openstackRelease tags = [])
    (known : ∀ tagVar ∈ tags.keys, tagVar = "openstack" ∨ tagVar ∈ hierarchy.parents.keys)
    (listed : ∀ baseDistro ∈ baseDistros, (lookupTag tags baseDistro "openstack").isSome)
    {imageMap : Dict String String} (mapped : checkImageMap images imageMap = .ok [])
    {hasSkopeo : Bool}
    (checked : checkTags hasSkopeo skopeo images unbuildableImages baseDistros tags = .ok [])
    {registry : String → List String}
    (truthful : ∀ image i found, skopeo image i = some found → ∀ tag ∈ found, tag ∈ registry image) :
    ∃ lines, listTagVars tags = .ok lines ∧ ∀ baseDistro ∈ baseDistros, ∀ container image,
      imageMap.get? container = some image → image ∈ images →
      ¬Unbuildable unbuildableImages baseDistro image → container ∈ hierarchy.parents.keys →
      (∀ entry ∈ containerToPrefixVarExceptions, ¬ProperStart entry.1 container) →
      ∃ tag, Evaluates lines tags hierarchy baseDistro container tag ∧ tag ∈ registry image := by
  obtain ⟨lines, printed⟩ := listTagVars_total (validate_rooted valid)
  refine ⟨lines, printed, ?_⟩
  intro baseDistro requested container image uses member buildable inHierarchy proper
  have accepted : Accepted hierarchy tags openstackRelease baseDistro :=
    ⟨related, valid, known, listed baseDistro requested⟩
  obtain ⟨tag, evaluates, resolved⟩ := accepted.deploys printed inHierarchy proper
  refine ⟨tag, evaluates, ?_⟩
  have deploys : Deploys images baseDistros unbuildableImages tags image tag :=
    ⟨member, baseDistro, requested, buildable, container,
      checkImageMap_container mapped uses member, resolved⟩
  obtain ⟨arkTags, found, present⟩ := listTags_deployed checked deploys
  obtain ⟨i, _, answer⟩ := List.exists_of_findSome?_eq_some found
  exact truthful image i arkTags answer tag present

end Deployment

end Registry

def novaSkopeo : Skopeo := fun _ i =>
  if i = 0 then none else some ["2025.1-rocky-10-20260101T000000", "2025.1-rocky-10-20260303T000000"]

def novaComputeMap : Dict String String :=
  ⟨[("nova_compute", "nova-compute"), ("neutron_eswitchd", "neutron-mlnx-agent")], by decide⟩

def rockyUnbuildable : Dict String (List String) := ⟨[("rocky-10", [])], by decide⟩

theorem checkTags_exact_nova :
    ChecksTags novaSkopeo ["nova-compute"] ["rocky-10"] rockyUnbuildable novaTags
      (checkTags true novaSkopeo ["nova-compute"] rockyUnbuildable ["rocky-10"] novaTags) := by
  have listed : ∀ baseDistro ∈ ["rocky-10"], (lookupTag novaTags baseDistro "openstack").isSome := by
    decide
  have entries : ∀ baseDistro ∈ ["rocky-10"], (rockyUnbuildable.get? baseDistro).isSome := by decide
  obtain ⟨imageTags, computed⟩ := getTags_total ["nova-compute"] listed entries
  exact checkTags_exact novaSkopeo computed

theorem checked_tags_deployable_eswitchd :
    ∃ lines, listTagVars novaTags = .ok lines ∧
      ∃ tag, Evaluates lines novaTags novaHierarchy "rocky-10" "neutron_eswitchd" tag ∧
        tag ∈ ["2025.1-rocky-10-20260101T000000", "2025.1-rocky-10-20260303T000000"] := by
  have truthful : ∀ image i found, novaSkopeo image i = some found → ∀ tag ∈ found,
      tag ∈ ["2025.1-rocky-10-20260101T000000", "2025.1-rocky-10-20260303T000000"] := by
    intro image i found answer tag member
    unfold novaSkopeo at answer
    split at answer
    · cases answer
    · cases answer
      exact member
  have listed : ∀ baseDistro ∈ ["rocky-10"], (lookupTag novaTags baseDistro "openstack").isSome := by
    decide
  have mapped : checkImageMap ["nova-compute", "neutron-mlnx-agent"] novaComputeMap = .ok [] := rfl
  have checked : checkTags true novaSkopeo ["nova-compute", "neutron-mlnx-agent"] rockyUnbuildable
      ["rocky-10"] novaTags = .ok [] := rfl
  obtain ⟨lines, printed, deployable⟩ :=
    checked_tags_deployable novaTags_accepted.checked novaTags_accepted.valid novaTags_accepted.known
      listed mapped checked truthful
  exact ⟨lines, printed, deployable "rocky-10" (by decide) "neutron_eswitchd" "neutron-mlnx-agent" rfl
    (by decide) (by unfold Unbuildable; decide) (by decide) (by unfold ProperStart; decide)⟩

end KollaImages
