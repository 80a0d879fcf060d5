import Mathlib.Data.Finset.Dedup
import KayobeConfig.KollaImages.Resolution

/-!
The tags `get_tags` lists for each image, and the container repositories that
`pulp.yml` builds from them. The invariant of the three loops relates the
dictionary to the (distro, image, container) requests made so far.
-/

namespace KollaImages

open Library

abbrev Request := String × String × String

/-- A request's tag is recorded under its image, and nothing else is recorded. -/
structure Records (tags : KollaImageTags) (requests : List Request)
    (imageTags : Dict String (List String)) : Prop where
  absent : ∀ image, imageTags.get? image = none ↔ ∀ request ∈ requests, request.2.1 ≠ image
  unique : ∀ image found, imageTags.get? image = some found → found.Nodup
  exactly : ∀ image found, imageTags.get? image = some found → ∀ tag,
    tag ∈ found ↔ ∃ request ∈ requests, request.2.1 = image ∧
      getTag tags request.1 request.2.2 = .ok tag

theorem records_empty (tags : KollaImageTags) : Records tags [] Dict.empty := by
  constructor <;> simp

theorem firstByTagKey_lists {tags : KollaImageTags} {baseDistro : String} (name : String)
    (listed : (lookupTag tags baseDistro "openstack").isSome) :
    ∃ parent tag, firstByTagKey tags (some baseDistro) name = .ok parent ∧
      lookupTag tags baseDistro parent = some tag := by
  obtain ⟨root, rootTag⟩ := Option.isSome_iff_exists.mp listed
  obtain ⟨distros, present, _⟩ := Option.bind_eq_some_iff.mp rootTag
  have rooted : "openstack" ∈ tags.keys := Dict.mem_keys_of_get? present
  obtain ⟨first, rest, sorted⟩ :=
    sortedBy_nonempty (tagKey tags (some baseDistro) name) rooted
  obtain ⟨member, least⟩ := sortedBy_least _ sorted
  have atRoot := least "openstack" rooted
  rw [tagKey_openstack] at atRoot
  have searched : firstByTagKey tags (some baseDistro) name = .ok first := by
    simp [firstByTagKey, sorted]
  rcases candidate_of_tagKey member atRoot with isRoot | ⟨candidate, _⟩
  · subst first
    exact ⟨"openstack", root, searched, rootTag⟩
  · obtain ⟨tag, own⟩ := Option.isSome_iff_exists.mp candidate.2.2
    exact ⟨first, tag, searched, own⟩

/-- A search that can fall back to `openstack` finds a tag, whatever the other entries are. -/
theorem getTag_total {tags : KollaImageTags} {baseDistro : String}
    (listed : (lookupTag tags baseDistro "openstack").isSome) (container : String) :
    ∃ tag, getTag tags baseDistro container = .ok tag := by
  have fallback : ∃ tag, getParentTag tags baseDistro container = .ok tag := by
    have search (name : String) (computed : getParentTagName tags (some baseDistro) container =
        firstByTagKey tags (some baseDistro) name) :
        ∃ tag, getParentTag tags baseDistro container = .ok tag := by
      obtain ⟨parent, tag, searched, own⟩ := firstByTagKey_lists name listed
      exact ⟨tag, except_bind_ok.mpr ⟨parent, computed.trans searched, by simp [own]⟩⟩
    cases exception : containerToPrefixVarExceptions.lookup container with
    | none => exact search container (by simp [getParentTagName, exception])
    | some prefixVar =>
        by_cases direct : ((tags.get? prefixVar).isSome &&
            listsDistro tags (some baseDistro) prefixVar) = true
        · obtain ⟨tag, own⟩ := Option.isSome_iff_exists.mp (Bool.and_eq_true_iff.mp direct).2
          have computed : getParentTagName tags (some baseDistro) container = .ok prefixVar := by
            simp only [getParentTagName, exception, direct, if_true]
          have own' : lookupTag tags baseDistro prefixVar = some tag := own
          exact ⟨tag, except_bind_ok.mpr ⟨prefixVar, computed, by simp [own']⟩⟩
        · exact search prefixVar (by simp only [getParentTagName, exception, direct]; rfl)
  cases own : lookupTag tags baseDistro container with
  | none => simpa [getTag, own] using fallback
  | some tag =>
      by_cases empty : tag = ""
      · simpa [getTag, own, empty] using fallback
      · exact ⟨tag, by simp [getTag, own, empty]⟩

theorem Records.current {tags : KollaImageTags} {requests : List Request}
    {imageTags : Dict String (List String)} (records : Records tags requests imageTags)
    (image : String) :
    ((imageTags.get? image).getD []).Nodup ∧ ∀ tag, tag ∈ (imageTags.get? image).getD [] ↔
      ∃ request ∈ requests, request.2.1 = image ∧ getTag tags request.1 request.2.2 = .ok tag := by
  cases present : imageTags.get? image with
  | some found => exact ⟨records.unique image found present, records.exactly image found present⟩
  | none =>
      refine ⟨List.nodup_nil, ?_⟩
      intro tag
      simp only [Option.getD_none, List.not_mem_nil, false_iff]
      rintro ⟨request, member, same, _⟩
      exact (records.absent image).mp present request member same

theorem Records.extend {tags : KollaImageTags} {requests : List Request}
    {imageTags next : Dict String (List String)} (records : Records tags requests imageTags)
    {request : Request} {tag : String} (resolved : getTag tags request.1 request.2.2 = .ok tag)
    (lookup : ∀ image, next.get? image = if image = request.2.1 then
      some (appendNew ((imageTags.get? image).getD []) tag) else imageTags.get? image) :
    Records tags (requests ++ [request]) next := by
  refine ⟨?_, ?_, ?_⟩
  · intro image
    rw [lookup]
    by_cases same : image = request.2.1
    · simp only [same, if_true, reduceCtorEq, false_iff]
      exact fun none => none request (by simp) rfl
    · simp only [same, if_false, records.absent, List.forall_mem_append, List.forall_mem_singleton]
      exact ⟨fun none => ⟨none, Ne.symm same⟩, And.left⟩
  · intro image found present
    rw [lookup] at present
    split at present
    · cases present
      exact appendNew_nodup (records.current image).1 tag
    · exact records.unique image found present
  · intro image found present other
    rw [lookup] at present
    simp only [List.mem_append, List.mem_singleton, or_and_right, exists_or, exists_eq_left]
    split at present
    · rename_i same
      cases present
      rw [mem_appendNew, (records.current image).2]
      simp [same, resolved, eq_comm]
    · rename_i different
      rw [records.exactly image found present]
      simp [Ne.symm different]

theorem getTagsContainer_records {tags : KollaImageTags} {requests : List Request}
    {imageTags next : Dict String (List String)} (records : Records tags requests imageTags)
    {baseDistro image container : String}
    (added : getTagsContainer tags baseDistro image imageTags container = .ok next) :
    Records tags (requests ++ [(baseDistro, image, container)]) next := by
  obtain ⟨tag, resolved, same⟩ := except_bind_ok.mp added
  cases same
  apply records.extend resolved
  intro other
  by_cases same : other = image <;> simp [same]

def Unbuildable (unbuildableImages : Dict String (List String)) (baseDistro image : String) : Prop :=
  ∃ unbuildable, unbuildableImages.get? baseDistro = some unbuildable ∧ image ∈ unbuildable

def imageRequests (unbuildable : List String) (baseDistro image : String) : List Request :=
  if image ∈ unbuildable then []
  else (getContainers image).map fun container => (baseDistro, image, container)

def distroRequests (images : List String) (unbuildableImages : Dict String (List String))
    (baseDistro : String) : List Request :=
  images.flatMap (imageRequests ((unbuildableImages.get? baseDistro).getD []) baseDistro)

theorem getTagsImage_records {tags : KollaImageTags} {requests : List Request}
    {imageTags next : Dict String (List String)} (records : Records tags requests imageTags)
    {unbuildableImages : Dict String (List String)} {baseDistro image : String}
    (added : getTagsImage tags unbuildableImages baseDistro imageTags image = .ok next) :
    Records tags
      (requests ++ imageRequests ((unbuildableImages.get? baseDistro).getD []) baseDistro image)
      next := by
  unfold getTagsImage at added
  cases entry : unbuildableImages.get? baseDistro with
  | none => simp [entry] at added
  | some unbuildable =>
      simp only [entry] at added
      simp only [Option.getD_some, imageRequests]
      split at added
      · cases added
        rename_i skipped
        simpa [skipped] using records
      · rename_i buildable
        have looped := foldlM_finished
          (fun finished state => Records tags
            (requests ++ finished.map fun container => (baseDistro, image, container)) state)
          (fun finished container state next stepped kept => by
            simpa using getTagsContainer_records kept stepped)
          [] (by simpa using records) added
        simpa [buildable] using looped

theorem getTags_records {images baseDistros : List String}
    {unbuildableImages : Dict String (List String)} {tags : KollaImageTags}
    {imageTags : Dict String (List String)}
    (computed : getTags images unbuildableImages baseDistros tags = .ok imageTags) :
    Records tags (baseDistros.flatMap (distroRequests images unbuildableImages)) imageTags := by
  have looped := foldlM_finished
    (fun finished state =>
      Records tags (finished.flatMap (distroRequests images unbuildableImages)) state)
    (fun finished baseDistro state next stepped kept => by
      have inner := foldlM_finished
        (fun handled state => Records tags
          (finished.flatMap (distroRequests images unbuildableImages) ++
            handled.flatMap
              (imageRequests ((unbuildableImages.get? baseDistro).getD []) baseDistro)) state)
        (fun handled image state next stepped kept => by
          simpa using getTagsImage_records kept stepped)
        [] (by simpa using kept) stepped
      simpa [distroRequests] using inner)
    [] (by simpa using records_empty tags) computed
  simpa using looped

theorem getTags_entries {images baseDistros : List String}
    {unbuildableImages : Dict String (List String)} {tags : KollaImageTags}
    {imageTags : Dict String (List String)}
    (computed : getTags images unbuildableImages baseDistros tags = .ok imageTags) :
    ∀ baseDistro ∈ baseDistros, ∀ image ∈ images, (unbuildableImages.get? baseDistro).isSome := by
  intro baseDistro requested image member
  obtain ⟨_, _, inner⟩ := foldlM_stepped computed baseDistro requested
  obtain ⟨_, _, added⟩ := foldlM_stepped inner image member
  unfold getTagsImage at added
  cases entry : unbuildableImages.get? baseDistro with
  | none => simp [entry] at added
  | some unbuildable => rfl

theorem getTags_total (images : List String) {baseDistros : List String}
    {unbuildableImages : Dict String (List String)} {tags : KollaImageTags}
    (listed : ∀ baseDistro ∈ baseDistros, (lookupTag tags baseDistro "openstack").isSome)
    (entries : ∀ baseDistro ∈ baseDistros, (unbuildableImages.get? baseDistro).isSome) :
    Succeeds (getTags images unbuildableImages baseDistros tags) := by
  refine foldlM_total (fun baseDistro requested imageTags => ?_) Dict.empty
  refine foldlM_total (fun image _ imageTags => ?_) imageTags
  obtain ⟨unbuildable, entry⟩ := Option.isSome_iff_exists.mp (entries baseDistro requested)
  simp only [getTagsImage, entry]
  split
  · exact ⟨imageTags, rfl⟩
  · refine foldlM_total (fun container _ _ => ?_) imageTags
    exact succeeds_bind_pure.mpr (getTag_total (listed baseDistro requested) container)

theorem mem_imageRequests (unbuildable : List String) (baseDistro image : String)
    (request : Request) :
    request ∈ imageRequests unbuildable baseDistro image ↔
      image ∉ unbuildable ∧ request.1 = baseDistro ∧ request.2.1 = image ∧
        request.2.2 ∈ getContainers image := by
  obtain ⟨distro, listedImage, container⟩ := request
  unfold imageRequests
  split
  · simp_all
  · rename_i buildable
    simp only [List.mem_map, Prod.mk.injEq, buildable, not_false_eq_true, true_and]
    constructor
    · rintro ⟨_, member, rfl, rfl, rfl⟩
      exact ⟨rfl, rfl, member⟩
    · rintro ⟨rfl, rfl, member⟩
      exact ⟨container, member, rfl, rfl, rfl⟩

theorem mem_requests {images baseDistros : List String}
    {unbuildableImages : Dict String (List String)}
    (entries : ∀ baseDistro ∈ baseDistros, ∀ image ∈ images, (unbuildableImages.get? baseDistro).isSome)
    (request : Request) :
    request ∈ baseDistros.flatMap (distroRequests images unbuildableImages) ↔
      request.1 ∈ baseDistros ∧ request.2.1 ∈ images ∧
        ¬Unbuildable unbuildableImages request.1 request.2.1 ∧
        request.2.2 ∈ getContainers request.2.1 := by
  simp only [List.mem_flatMap, distroRequests, mem_imageRequests]
  constructor
  · rintro ⟨_, member, _, listed, buildable, rfl, rfl, container⟩
    refine ⟨member, listed, ?_, container⟩
    rintro ⟨unbuildable, entry, blocked⟩
    simp [entry, blocked] at buildable
  · rintro ⟨member, listed, buildable, container⟩
    refine ⟨_, member, _, listed, ?_, rfl, rfl, container⟩
    obtain ⟨unbuildable, entry⟩ := Option.isSome_iff_exists.mp (entries request.1 member _ listed)
    intro blocked
    exact buildable ⟨unbuildable, entry, by simpa [entry] using blocked⟩

theorem getContainers_nonempty (image : String) : ∃ container, container ∈ getContainers image := by
  have exceptions : ∀ entry ∈ imageToContainersExceptions, entry.2 ≠ [] := by decide
  cases exception : imageToContainersExceptions.lookup image with
  | none => exact ⟨replaceChar '-' '_' image, by simp [getContainers, exception]⟩
  | some containers =>
      obtain ⟨before, after, split, _⟩ := List.lookup_eq_some_iff.mp exception
      obtain ⟨container, member⟩ :=
        List.exists_mem_of_ne_nil _ (exceptions (image, containers) (by simp [split]))
      exact ⟨container, by simpa [getContainers, exception] using member⟩

structure ListsTags (images : List String) (unbuildableImages : Dict String (List String))
    (baseDistros : List String) (tags : KollaImageTags) (imageTags : Dict String (List String)) :
    Prop where
  absent : ∀ image, imageTags.get? image = none ↔ image ∈ images →
    ∀ baseDistro ∈ baseDistros, Unbuildable unbuildableImages baseDistro image
  unique : ∀ image found, imageTags.get? image = some found → found.Nodup
  exactly : ∀ image found, imageTags.get? image = some found → ∀ tag,
    tag ∈ found ↔ ∃ baseDistro ∈ baseDistros, ¬Unbuildable unbuildableImages baseDistro image ∧
      ∃ container ∈ getContainers image, getTag tags baseDistro container = .ok tag

theorem getTags_listsTags {images baseDistros : List String}
    {unbuildableImages : Dict String (List String)} {tags : KollaImageTags}
    {imageTags : Dict String (List String)}
    (computed : getTags images unbuildableImages baseDistros tags = .ok imageTags) :
    ListsTags images unbuildableImages baseDistros tags imageTags := by
  have records := getTags_records computed
  have entries := getTags_entries computed
  have absent (image : String) : imageTags.get? image = none ↔ image ∈ images →
      ∀ baseDistro ∈ baseDistros, Unbuildable unbuildableImages baseDistro image := by
    rw [records.absent]
    constructor
    · intro none member baseDistro requested
      by_contra buildable
      obtain ⟨container, uses⟩ := getContainers_nonempty image
      exact none (baseDistro, image, container)
        ((mem_requests entries _).mpr ⟨requested, member, buildable, uses⟩) rfl
    · rintro blocked request requested rfl
      obtain ⟨distro, member, buildable, _⟩ := (mem_requests entries request).mp requested
      exact buildable (blocked member request.1 distro)
  refine ⟨absent, records.unique, ?_⟩
  intro image found present tag
  have member : image ∈ images := by
    by_contra unlisted
    rw [(absent image).mpr fun member => absurd member unlisted] at present
    cases present
  rw [records.exactly image found present]
  constructor
  · rintro ⟨request, requested, rfl, resolved⟩
    obtain ⟨distro, _, buildable, container⟩ := (mem_requests entries request).mp requested
    exact ⟨request.1, distro, buildable, request.2.2, container, resolved⟩
  · rintro ⟨baseDistro, distro, buildable, container, uses, resolved⟩
    exact ⟨(baseDistro, image, container),
      (mem_requests entries _).mpr ⟨distro, member, buildable, uses⟩, rfl, resolved⟩

theorem ListsTags.reordered {images images' baseDistros baseDistros' : List String}
    {unbuildableImages : Dict String (List String)} {tags : KollaImageTags}
    {imageTags imageTags' : Dict String (List String)} (sameImages : images'.Perm images)
    (sameDistros : baseDistros'.Perm baseDistros)
    (lists : ListsTags images unbuildableImages baseDistros tags imageTags)
    (lists' : ListsTags images' unbuildableImages baseDistros' tags imageTags') (image : String) :
    (imageTags'.get? image).map List.toFinset = (imageTags.get? image).map List.toFinset := by
  have absent : imageTags'.get? image = none ↔ imageTags.get? image = none := by
    rw [lists'.absent, lists.absent, sameImages.mem_iff]
    simp only [sameDistros.mem_iff]
  cases present : imageTags.get? image with
  | none => rw [absent.mpr present]
  | some found =>
      cases present' : imageTags'.get? image with
      | none => simp [absent.mp present'] at present
      | some found' =>
          simp only [Option.map_some, Option.some.injEq]
          ext tag
          rw [List.mem_toFinset, List.mem_toFinset, lists.exactly image found present,
            lists'.exactly image found' present']
          simp only [sameDistros.mem_iff]

theorem checkImageMap_container {images : List String} {imageMap : Dict String String}
    (accepted : checkImageMap images imageMap = .ok []) {container image : String}
    (uses : imageMap.get? container = some image) (member : image ∈ images) :
    container ∈ getContainers image := by
  simp only [checkImageMap] at accepted
  split at accepted
  · cases accepted
  · by_contra unknown
    have reported := List.filter_eq_nil_iff.mp (Except.ok.inj accepted) (container, image)
      (List.mem_filter.mpr ⟨(Dict.mem_entries_iff _ _ _).mpr uses, by simpa using member⟩)
    simp [unknown] at reported

def containerRepos (kollaDockerNamespace : String) (filteredImages : List String)
    (unbuildableImages : Dict String (List String)) (imageTags : Dict String (List String))
    (baseDistro : String) : List (String × Option (List String)) :=
  (filteredImages.filter fun image =>
    image ∉ (unbuildableImages.get? baseDistro).getD []).map fun image =>
      (kollaDockerNamespace ++ "/" ++ image, imageTags.get? image)

theorem getTags_exact_and_covering (images baseDistros : List String)
    (unbuildableImages : Dict String (List String)) (tags : KollaImageTags)
    (listed : ∀ baseDistro ∈ baseDistros, (lookupTag tags baseDistro "openstack").isSome)
    (entries : ∀ baseDistro ∈ baseDistros, (unbuildableImages.get? baseDistro).isSome) :
    ∃ imageTags, getTags images unbuildableImages baseDistros tags = .ok imageTags ∧
      ListsTags images unbuildableImages baseDistros tags imageTags ∧
      (∀ images' baseDistros', images'.Perm images → baseDistros'.Perm baseDistros →
        ∃ imageTags', getTags images' unbuildableImages baseDistros' tags = .ok imageTags' ∧
          ∀ image, (imageTags'.get? image).map List.toFinset =
            (imageTags.get? image).map List.toFinset) ∧
      ∀ imageMap, checkImageMap images imageMap = .ok [] → ∀ baseDistro ∈ baseDistros,
        ∀ container image, imageMap.get? container = some image → image ∈ images →
          ¬Unbuildable unbuildableImages baseDistro image →
          ∃ tag found, getTag tags baseDistro container = .ok tag ∧
            imageTags.get? image = some found ∧ tag ∈ found ∧
            ∀ kollaDockerNamespace filteredImages, image ∈ filteredImages →
              (kollaDockerNamespace ++ "/" ++ image, some found) ∈
                containerRepos kollaDockerNamespace filteredImages unbuildableImages imageTags
                  baseDistro := by
  obtain ⟨imageTags, computed⟩ := getTags_total images listed entries
  have lists := getTags_listsTags computed
  refine ⟨imageTags, computed, lists, ?_, ?_⟩
  · intro images' baseDistros' sameImages sameDistros
    obtain ⟨imageTags', computed'⟩ := getTags_total images'
      (fun baseDistro member => listed baseDistro (sameDistros.mem_iff.mp member))
      (fun baseDistro member => entries baseDistro (sameDistros.mem_iff.mp member))
    exact ⟨imageTags', computed',
      lists.reordered sameImages sameDistros (getTags_listsTags computed')⟩
  · intro imageMap accepted baseDistro requested container image uses member buildable
    obtain ⟨tag, resolved⟩ := getTag_total (listed baseDistro requested) container
    cases present : imageTags.get? image with
    | none => exact absurd ((lists.absent image).mp present member baseDistro requested) buildable
    | some found =>
        refine ⟨tag, found, resolved, rfl, ?_, ?_⟩
        · exact (lists.exactly image found present tag).mpr ⟨baseDistro, requested, buildable,
            container, checkImageMap_container accepted uses member, resolved⟩
        · intro kollaDockerNamespace filteredImages kept
          obtain ⟨unbuildable, entry⟩ := Option.isSome_iff_exists.mp (entries baseDistro requested)
          have unblocked : image ∉ unbuildable := fun blocked => buildable ⟨_, entry, blocked⟩
          exact List.mem_map.mpr ⟨image, by simp [kept, entry, unblocked], by rw [present]⟩

def novaUnbuildable : Dict String (List String) :=
  ⟨[("rocky-10", ["nova-compute"]), ("ubuntu-noble", [])], by decide⟩

def proxyMap : Dict String String :=
  ⟨[("glance_tls_proxy", "haproxy"), ("nova_compute", "nova-compute")], by decide⟩

theorem getTags_exact_and_covering_haproxy :
    ∃ imageTags tag found, getTags ["haproxy", "nova-compute"] novaUnbuildable
        ["rocky-10", "ubuntu-noble"] novaTags = .ok imageTags ∧
      ListsTags ["haproxy", "nova-compute"] novaUnbuildable
        ["rocky-10", "ubuntu-noble"] novaTags imageTags ∧
      getTag novaTags "rocky-10" "glance_tls_proxy" = .ok tag ∧
      imageTags.get? "haproxy" = some found ∧ tag ∈ found := by
  obtain ⟨imageTags, computed, lists, _, covers⟩ := getTags_exact_and_covering
    ["haproxy", "nova-compute"] ["rocky-10", "ubuntu-noble"] novaUnbuildable novaTags
    (by decide) (by decide)
  have accepted : checkImageMap ["haproxy", "nova-compute"] proxyMap = .ok [] := by decide
  have buildable : ¬Unbuildable novaUnbuildable "rocky-10" "haproxy" := by
    rintro ⟨unbuildable, entry, blocked⟩
    cases entry
    exact absurd blocked (by decide)
  obtain ⟨tag, found, resolved, present, member, _⟩ := covers proxyMap accepted "rocky-10"
    (by decide) "glance_tls_proxy" "haproxy" rfl (by decide) buildable
  exact ⟨imageTags, tag, found, computed, lists, resolved, present, member⟩

end KollaImages
