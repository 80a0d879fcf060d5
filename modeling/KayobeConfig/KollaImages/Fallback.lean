import KayobeConfig.KollaImages.Grammar
import KayobeConfig.KollaImages.Listing

/-!
When the tags of a validated map resolve. `validate` asks for the default entry
`openstack`, not for the distros it lists, so a search that ends there can fail.
-/

namespace KollaImages

open Library

variable {tags : KollaImageTags} {baseDistro container : String}

def prefixVarOf (container : String) : String :=
  (containerToPrefixVarExceptions.lookup container).getD container

abbrev Lists (tags : KollaImageTags) (baseDistro tag : String) : Prop :=
  (lookupTag tags baseDistro tag).isSome

inductive Resolvable (tags : KollaImageTags) (baseDistro container : String) : Prop
  | own {tag} : lookupTag tags baseDistro container = some tag → tag ≠ "" →
      Resolvable tags baseDistro container
  | exception {prefixVar} : containerToPrefixVarExceptions.lookup container = some prefixVar →
      Lists tags baseDistro prefixVar → Resolvable tags baseDistro container
  | above {tag} : Lists tags baseDistro tag → ProperStart tag (prefixVarOf container) →
      Resolvable tags baseDistro container
  | default : Lists tags baseDistro "openstack" → Resolvable tags baseDistro container

theorem Returns.rooted {re : Re} {gitreview : List String} (returned : Returns re gitreview tags) :
    Rooted tags := by
  obtain ⟨release, read, _⟩ := except_bind_ok.mp returned
  have passes := ((returns_iff tags read).mp returned).2
  exact ⟨passes.default, fun tagVar member => beforeEnd_nonempty rfl (passes.keys tagVar member)⟩

theorem candidate_lists {tag : String} (candidate : tag ∈ candidates tags (some baseDistro)) :
    Lists tags baseDistro tag :=
  candidate.2.2

theorem lists_candidate {tag : String} (lists : Lists tags baseDistro tag) (notRoot : tag ≠ "openstack") :
    tag ∈ candidates tags (some baseDistro) := by
  obtain ⟨found, listed⟩ := Option.isSome_iff_exists.mp lists
  obtain ⟨distros, present, _⟩ := Option.bind_eq_some_iff.mp listed
  exact ⟨Dict.mem_keys_of_get? present, notRoot, lists⟩

theorem getParentTag_succeeds {parent : String}
    (named : getParentTagName tags (some baseDistro) container = .ok parent) :
    Succeeds (getParentTag tags baseDistro container) ↔ Lists tags baseDistro parent := by
  unfold getParentTag Lists
  rw [named, ok_bind]
  cases lookupTag tags baseDistro parent with
  | none => simp [Succeeds]
  | some tag => simp [Succeeds]

theorem search_succeeds (rooted : Rooted tags) {prefixVar : String}
    (searched : getParentTagName tags (some baseDistro) container =
      firstByTagKey tags (some baseDistro) prefixVar) :
    Succeeds (getParentTag tags baseDistro container) ↔
      Lists tags baseDistro "openstack" ∨
        ∃ tag, Lists tags baseDistro tag ∧ ProperStart tag prefixVar := by
  obtain ⟨parent, found, outcome⟩ := firstByTagKey_spec rooted (some baseDistro) prefixVar
  rw [getParentTag_succeeds (searched.trans found)]
  rcases outcome with ⟨rfl, none⟩ | ⟨candidate, above, _⟩
  · constructor
    · exact Or.inl
    · rintro (root | ⟨tag, lists, above⟩)
      · exact root
      · by_cases isRoot : tag = "openstack"
        · rwa [← isRoot]
        · exact absurd above (none tag (lists_candidate lists isRoot))
  · exact ⟨fun lists => Or.inr ⟨parent, lists, above⟩, fun _ => candidate_lists candidate⟩

theorem parent_resolvable (rooted : Rooted tags)
    (own : ∀ tag, lookupTag tags baseDistro container = some tag → tag = "") :
    Succeeds (getParentTag tags baseDistro container) ↔ Resolvable tags baseDistro container := by
  have viaSearch (searched : getParentTagName tags (some baseDistro) container =
        firstByTagKey tags (some baseDistro) (prefixVarOf container))
      (unlisted : ∀ prefixVar, containerToPrefixVarExceptions.lookup container = some prefixVar →
        ¬Lists tags baseDistro prefixVar) :
      Succeeds (getParentTag tags baseDistro container) ↔ Resolvable tags baseDistro container := by
    rw [search_succeeds rooted searched]
    constructor
    · rintro (root | ⟨tag, lists, above⟩)
      · exact .default root
      · exact .above lists above
    · rintro (⟨listed, nonempty⟩ | ⟨exception, lists⟩ | ⟨lists, above⟩ | root)
      · exact absurd (own _ listed) nonempty
      · exact absurd lists (unlisted _ exception)
      · exact Or.inr ⟨_, lists, above⟩
      · exact Or.inl root
  cases exception : containerToPrefixVarExceptions.lookup container with
  | none =>
      refine viaSearch ?_ ?_
      · simp [getParentTagName, prefixVarOf, exception]
      · simp [exception]
  | some prefixVar =>
      by_cases lists : Lists tags baseDistro prefixVar
      · have present : (tags.get? prefixVar).isSome := by
          obtain ⟨tag, listed⟩ := Option.isSome_iff_exists.mp lists
          obtain ⟨distros, present, _⟩ := Option.bind_eq_some_iff.mp listed
          simp [present]
        have direct : getParentTagName tags (some baseDistro) container = .ok prefixVar := by
          have listed : listsDistro tags (some baseDistro) prefixVar = true := lists
          simp [getParentTagName, exception, present, listed]
        rw [getParentTag_succeeds direct]
        exact ⟨fun _ => .exception exception lists, fun _ => lists⟩
      · refine viaSearch ?_ ?_
        · have unlisted : listsDistro tags (some baseDistro) prefixVar = false :=
            Bool.eq_false_iff.mpr lists
          simp [getParentTagName, prefixVarOf, exception, unlisted]
        · intro other same
          rw [exception] at same
          cases same
          exact lists

theorem getTag_succeeds (rooted : Rooted tags) (baseDistro container : String) :
    Succeeds (getTag tags baseDistro container) ↔ Resolvable tags baseDistro container := by
  unfold getTag
  cases listed : lookupTag tags baseDistro container with
  | none => exact parent_resolvable rooted (by simp [listed])
  | some tag =>
      by_cases empty : tag = ""
      · simp only [empty, ne_eq, not_true_eq_false, if_false]
        exact parent_resolvable rooted (by simp [listed, empty])
      · simp only [ne_eq, empty, not_false_iff, if_true]
        exact ⟨fun _ => .own listed empty, fun _ => ⟨tag, rfl⟩⟩

theorem getTags_succeeds (rooted : Rooted tags) (images baseDistros : List String)
    (unbuildableImages : Dict String (List String))
    (entries : ∀ baseDistro ∈ baseDistros, (unbuildableImages.get? baseDistro).isSome) :
    Succeeds (getTags images unbuildableImages baseDistros tags) ↔
      ∀ baseDistro ∈ baseDistros, ∀ image ∈ images, ¬Unbuildable unbuildableImages baseDistro image →
        ∀ container ∈ getContainers image, Resolvable tags baseDistro container := by
  refine succeeds_foldlM baseDistros (fun baseDistro listed imageTags => ?_) Dict.empty
  refine succeeds_foldlM images (fun image _ imageTags => ?_) imageTags
  obtain ⟨unbuildable, entry⟩ := Option.isSome_iff_exists.mp (entries baseDistro listed)
  unfold getTagsImage Unbuildable
  simp only [entry, Option.some.injEq, exists_eq_left']
  split
  · rename_i skipped
    exact ⟨fun _ buildable => absurd skipped buildable, fun _ => ⟨imageTags, rfl⟩⟩
  · rename_i buildable
    have looped : Succeeds ((getContainers image).foldlM (getTagsContainer tags baseDistro image)
        imageTags) ↔ ∀ container ∈ getContainers image, Resolvable tags baseDistro container :=
      succeeds_foldlM (getContainers image) (fun container _ _ =>
        succeeds_bind_pure.trans (getTag_succeeds rooted baseDistro container)) imageTags
    rw [looped]
    exact ⟨fun resolvable _ => resolvable, fun resolvable => resolvable buildable⟩

theorem getTags_returns_iff (re : Re) (gitreview : List String) (tags : KollaImageTags)
    (images baseDistros : List String) (unbuildableImages : Dict String (List String))
    (returned : Returns re gitreview tags)
    (entries : ∀ baseDistro ∈ baseDistros, (unbuildableImages.get? baseDistro).isSome) :
    (∃ imageTags, getTags images unbuildableImages baseDistros tags = .ok imageTags) ↔
      ∀ baseDistro ∈ baseDistros, ∀ image ∈ images, ¬Unbuildable unbuildableImages baseDistro image →
        ∀ container ∈ getContainers image, Resolvable tags baseDistro container :=
  getTags_succeeds returned.rooted images baseDistros unbuildableImages entries

def rockyTags : KollaImageTags := openstackTags "2026.1-rocky-10-20260101T000000"

theorem rockyTags_returns : Returns (fun _ => none) gitreviewLines rockyTags := by
  have accepted : validate "2026.1" rockyTags = [] := by decide +kernel
  exact (validateErrors_dotted _ rockyTags gitreview_release (by decide)).trans
    (congrArg Except.ok accepted)

theorem getTags_keyError : Returns (fun _ => none) gitreviewLines rockyTags ∧
    ¬∃ imageTags, getTags ["haproxy"] (Dict.empty.set "ubuntu-noble" []) ["ubuntu-noble"] rockyTags =
      .ok imageTags := by
  refine ⟨rockyTags_returns, ?_⟩
  intro returned
  have failed : (getTags ["haproxy"] (Dict.empty.set "ubuntu-noble" []) ["ubuntu-noble"]
      rockyTags).isOk = false := by
    decide +kernel
  rw [succeeds_iff_isOk.mp returned] at failed
  cases failed

theorem getTags_returns_iff_rocky :
    ∃ imageTags, getTags ["haproxy"] (Dict.empty.set "rocky-10" []) ["rocky-10"] rockyTags =
      .ok imageTags := by
  refine (getTags_returns_iff (fun _ => none) gitreviewLines rockyTags ["haproxy"] ["rocky-10"] _
    rockyTags_returns (by decide)).mpr ?_
  intro baseDistro listed image _ _ container _
  rw [List.mem_singleton.mp listed]
  exact .default rfl

end KollaImages
