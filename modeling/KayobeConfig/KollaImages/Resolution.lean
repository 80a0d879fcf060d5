import KayobeConfig.Library.Loops
import KayobeConfig.Library.Nearest
import KayobeConfig.KollaImages.Tags

/-!
The tag a container is deployed with and the tag its image is synced under. Both
resolvers inherit from the nearest prefix that sets a tag for the distro:
`get_tag` searches `kolla_image_tags` once, while the variables in `globals.yml`
and in Kolla Ansible are walked one `default()` at a time.
-/

namespace KollaImages

open Library

/-- The prefix order of tag variables, which ignores underscores as the script does. -/
def ProperStart (start text : String) : Prop := start ≠ text ∧ start.toList <+: text.toList

instance : IsTrans String ProperStart where
  trans first second third left right := by
    refine ⟨?_, left.2.trans right.2⟩
    rintro rfl
    exact left.1 (String.toList_inj.mp
      (left.2.eq_of_length (Nat.le_antisymm left.2.length_le right.2.length_le)))

instance : Std.Irrefl ProperStart where
  irrefl _ same := same.1 rfl

theorem ProperStart.length_lt {start text : String} (proper : ProperStart start text) :
    start.toList.length < text.toList.length := by
  apply Nat.lt_of_le_of_ne proper.2.length_le
  intro same
  exact proper.1 (String.toList_inj.mp (proper.2.eq_of_length same))

def candidates (tags : KollaImageTags) (baseDistro : Option String) : Set String :=
  {tag | tag ∈ tags.keys ∧ tag ≠ "openstack" ∧ listsDistro tags baseDistro tag = true}

structure Rooted (tags : KollaImageTags) : Prop where
  root : "openstack" ∈ tags.keys
  named : ∀ tag ∈ tags.keys, tag ≠ ""

theorem tagKey_openstack (tags : KollaImageTags) (baseDistro : Option String) (prefixVar : String) :
    tagKey tags baseDistro prefixVar "openstack" = 0 := by
  simp [tagKey]

theorem tagKey_candidate {tags : KollaImageTags} {baseDistro : Option String}
    {prefixVar tag : String} (candidate : tag ∈ candidates tags baseDistro)
    (above : ProperStart tag prefixVar) :
    tagKey tags baseDistro prefixVar tag = -(tag.length : Int) := by
  simp [tagKey, candidate.2.1, above.1, candidate.2.2, startswith_iff, above.2]

theorem candidate_of_tagKey {tags : KollaImageTags} {baseDistro : Option String}
    {prefixVar tag : String} (member : tag ∈ tags.keys)
    (low : tagKey tags baseDistro prefixVar tag ≤ 0) :
    tag = "openstack" ∨ tag ∈ candidates tags baseDistro ∧ ProperStart tag prefixVar := by
  simp only [tagKey, startswith_iff] at low
  split at low
  · rename_i isRoot
    exact Or.inl isRoot
  · rename_i notRoot
    split at low
    · rename_i matched
      exact Or.inr ⟨⟨member, notRoot, matched.2.2⟩, matched.1, matched.2.1⟩
    · omega

/-- The search returns the nearest candidate above the variable, and `openstack` when
no candidate is above it. -/
theorem firstByTagKey_spec {tags : KollaImageTags} (rooted : Rooted tags)
    (baseDistro : Option String) (prefixVar : String) :
    ∃ parent, firstByTagKey tags baseDistro prefixVar = .ok parent ∧
      (parent = "openstack" ∧ (∀ tag ∈ candidates tags baseDistro, ¬ProperStart tag prefixVar) ∨
        IsNearest ProperStart (candidates tags baseDistro) prefixVar parent) := by
  obtain ⟨first, rest, sorted⟩ :=
    sortedBy_nonempty (tagKey tags baseDistro prefixVar) rooted.root
  obtain ⟨member, least⟩ := sortedBy_least _ sorted
  have atRoot := least "openstack" rooted.root
  rw [tagKey_openstack] at atRoot
  refine ⟨first, by simp [firstByTagKey, sorted], ?_⟩
  rcases candidate_of_tagKey member atRoot with isRoot | ⟨candidate, above⟩
  · left
    refine ⟨isRoot, ?_⟩
    intro tag candidate above
    have lower := least tag candidate.1
    rw [isRoot, tagKey_openstack, tagKey_candidate candidate above] at lower
    have positive : tag.length ≠ 0 := by
      simpa [String.length_eq_zero_iff] using rooted.named tag candidate.1
    omega
  · right
    refine ⟨candidate, above, ?_⟩
    intro other otherCandidate otherAbove
    have lower := least other otherCandidate.1
    rw [tagKey_candidate candidate above, tagKey_candidate otherCandidate otherAbove] at lower
    have shorter : other.toList.length ≤ first.toList.length := by
      simp only [String.length_toList]
      omega
    by_cases same : other = first
    · exact Or.inl same
    · exact Or.inr ⟨same, List.prefix_of_prefix_length_le otherAbove.2 above.2 shorter⟩

/-- The tag a variable sets itself. `openstack` is the root of the search, not part of it. -/
def ownTag (tags : KollaImageTags) (baseDistro tag : String) : Option String :=
  if tag = "openstack" then none else lookupTag tags baseDistro tag

theorem valued_ownTag (tags : KollaImageTags) (baseDistro : String) :
    valued (ownTag tags baseDistro) = candidates tags (some baseDistro) := by
  ext tag
  by_cases isRoot : tag = "openstack"
  · simp [valued, ownTag, candidates, isRoot]
  · simp only [valued, ownTag, candidates, isRoot, lookupTag, listsDistro, Set.mem_ofPred_eq,
      if_false, Dict.mem_keys]
    cases tags.get? tag <;> simp [isRoot]

theorem firstByTagKey_inherits {tags : KollaImageTags} (rooted : Rooted tags)
    {baseDistro root : String} (name : String) (listed : lookupTag tags baseDistro "openstack" = some root)
    (absent : ownTag tags baseDistro name = none) :
    ∃ parent found, firstByTagKey tags (some baseDistro) name = .ok parent ∧
      lookupTag tags baseDistro parent = some found ∧
      Inherits ProperStart (ownTag tags baseDistro) root name found := by
  obtain ⟨parent, searched, outcome⟩ := firstByTagKey_spec rooted (some baseDistro) name
  rw [← valued_ownTag] at outcome
  rcases outcome with ⟨isRoot, none⟩ | nearest
  · subst parent
    exact ⟨"openstack", root, searched, listed, Or.inr ⟨absent, Or.inr ⟨none, rfl⟩⟩⟩
  · obtain ⟨found, own⟩ := Option.isSome_iff_exists.mp nearest.1
    have looked : lookupTag tags baseDistro parent = some found := by
      simp only [ownTag] at own
      split at own
      · simp at own
      · exact own
    exact ⟨parent, found, searched, looked, Or.inr ⟨absent, Or.inl ⟨parent, nearest, own⟩⟩⟩

/-- A variable that neither is an exception nor extends the name of one. -/
def Plain (tag : String) : Prop :=
  ∀ entry ∈ containerToPrefixVarExceptions, ¬entry.1.toList <+: tag.toList

theorem Plain.not_exception {tag : String} (plain : Plain tag) :
    containerToPrefixVarExceptions.lookup tag = none := by
  rw [List.lookup_eq_none_iff]
  intro entry member
  have different : tag ≠ entry.1 := by
    rintro rfl
    exact plain entry member (List.prefix_refl _)
  simpa using different

theorem Plain.of_properStart {start text : String} (plain : Plain text)
    (proper : ProperStart start text) : Plain start :=
  fun entry member extended => plain entry member (extended.trans proper.2)

theorem exceptionTarget_plain {container prefixVar : String}
    (exception : containerToPrefixVarExceptions.lookup container = some prefixVar) :
    Plain prefixVar := by
  have targets : ∀ entry ∈ containerToPrefixVarExceptions, Plain entry.2 := by
    unfold Plain
    decide
  obtain ⟨before, after, split, _⟩ := List.lookup_eq_some_iff.mp exception
  exact targets (container, prefixVar) (by simp [split])

/-- The tag `globals.yml` deploys: a printed line yields its own tag or falls back to the
variable in its `default()`, any other variable to its parent in Kolla Ansible. -/
def evalTagVar (lines : List TagVarLine) (tags : KollaImageTags) (hierarchy : TagHierarchy)
    (baseDistro : String) : Nat → String → Option String
  | 0, _ => none
  | fuel + 1, tagVar =>
      match lines.find? fun line => line.tagVar = tagVar with
      | some line =>
          match lookupTag tags baseDistro tagVar with
          | some tag => some tag
          | none => line.parent.bind (evalTagVar lines tags hierarchy baseDistro fuel)
      | none =>
          (hierarchy.parents.get? tagVar).bind (evalTagVar lines tags hierarchy baseDistro fuel)

/-- Tags and hierarchy that both checks accept, and a distro that every lookup can fall back to. -/
structure Accepted (hierarchy : TagHierarchy) (tags : KollaImageTags)
    (openstackRelease baseDistro : String) : Prop where
  checked : checkHierarchy hierarchy = .ok []
  valid : validate openstackRelease tags = []
  known : ∀ tagVar ∈ tags.keys, tagVar = "openstack" ∨ tagVar ∈ hierarchy.parents.keys
  listed : (lookupTag tags baseDistro "openstack").isSome

theorem validate_entry {openstackRelease : String} {tags : KollaImageTags}
    (valid : validate openstackRelease tags = []) {tagVar : String} {distros : Dict String String}
    (found : tags.get? tagVar = some distros) :
    tagVarRe tagVar = true ∧ ∀ baseDistro tag, distros.get? baseDistro = some tag →
      baseDistro ∈ supportedBaseDistros ∧ tagRe openstackRelease baseDistro tag = true := by
  simp only [validate, List.append_eq_nil_iff, List.flatMap_eq_nil_iff] at valid
  have entry := valid.2 (tagVar, distros) ((Dict.mem_entries_iff _ _ _).mpr found)
  simp only [validateTagVar, List.append_eq_nil_iff, List.flatMap_eq_nil_iff] at entry
  constructor
  · simpa using entry.1
  · intro baseDistro tag listed
    have checked := entry.2 (baseDistro, tag) ((Dict.mem_entries_iff _ _ _).mpr listed)
    simp only [validateTag] at checked
    split at checked
    · simp at checked
    · rename_i supported
      split at checked
      · simp at checked
      · rename_i matched
        exact ⟨by simpa using supported, by simpa using matched⟩

theorem validate_rooted {openstackRelease : String} {tags : KollaImageTags}
    (valid : validate openstackRelease tags = []) : Rooted tags := by
  constructor
  · rw [Dict.mem_keys]
    simp only [validate, List.append_eq_nil_iff] at valid
    simpa [Option.isSome_iff_ne_none] using valid.1
  · intro tag member
    obtain ⟨distros, found⟩ := Dict.exists_of_mem_keys member
    exact beforeEnd_nonempty rfl (validate_entry valid found).1

theorem validate_tag_nonempty {openstackRelease baseDistro tagVar tag : String}
    {tags : KollaImageTags} (valid : validate openstackRelease tags = [])
    (found : lookupTag tags baseDistro tagVar = some tag) : tag ≠ "" := by
  obtain ⟨distros, present, listed⟩ := Option.bind_eq_some_iff.mp found
  have matched := ((validate_entry valid present).2 baseDistro tag listed).2
  apply beforeEnd_nonempty _ matched
  rw [matchAtoms_nil]
  simp [literal]

theorem hierarchyTags_keys (hierarchy : TagHierarchy) (tagVar : String) :
    tagVar ∈ (hierarchyTags hierarchy).keys ↔
      tagVar = "openstack" ∨ tagVar ∈ hierarchy.parents.keys := by
  simp only [hierarchyTags, Dict.mem_keys_set]
  simp [Dict.keys]

theorem hierarchyTags_rooted (hierarchy : TagHierarchy) : Rooted (hierarchyTags hierarchy) := by
  constructor
  · rw [hierarchyTags_keys]
    exact Or.inl rfl
  · intro tag member
    rcases (hierarchyTags_keys hierarchy tag).mp member with isRoot | named
    · simp [isRoot]
    · exact hierarchy.named tag named

theorem checkHierarchy_parent {hierarchy : TagHierarchy}
    (checked : checkHierarchy hierarchy = .ok []) {tagVar : String}
    (member : tagVar ∈ hierarchy.parents.keys) :
    ∃ parent, hierarchy.parents.get? tagVar = some parent ∧
      getParentTagName (hierarchyTags hierarchy) none tagVar = .ok parent := by
  obtain ⟨expected, present⟩ := Dict.exists_of_mem_keys member
  refine ⟨expected, present, ?_⟩
  unfold checkHierarchy at checked
  obtain ⟨found, mapped, accepted⟩ := except_bind_ok.mp checked
  have related := (mapM_ok_iff _ _ _).mp mapped
  obtain ⟨error, reported, step⟩ :=
    forall₂_exists related ((Dict.mem_entries_iff _ _ _).mpr present)
  obtain ⟨parent, computed, same⟩ := except_bind_ok.mp step
  cases same
  have agrees : ¬parent ≠ expected := by
    intro differs
    have kept : (tagVar, parent, expected) ∈
        found.filter fun error => error.2.1 ≠ error.2.2 := by
      simpa [reported] using differs
    have empty : found.filter (fun error => error.2.1 ≠ error.2.2) = [] := by
      simpa using Except.ok.inj accepted
    rw [empty] at kept
    exact absurd kept List.not_mem_nil
  rw [computed, not_not.mp agrees]

theorem candidates_none (tags : KollaImageTags) (tag : String) :
    tag ∈ candidates tags none ↔ tag ∈ tags.keys ∧ tag ≠ "openstack" := by
  simp [candidates, listsDistro]

structure Covers (hierarchy : TagHierarchy) (tags : KollaImageTags) (baseDistro : String)
    (source : KollaImageTags) : Prop where
  rooted : Rooted source
  covers : candidates tags (some baseDistro) ⊆ candidates source none
  within : ∀ tag ∈ candidates source none, tag ∈ hierarchy.parents.keys

section Deployment

variable {hierarchy : TagHierarchy} {tags : KollaImageTags} {openstackRelease baseDistro : String}

theorem Accepted.covers_tags (accepted : Accepted hierarchy tags openstackRelease baseDistro) :
    Covers hierarchy tags baseDistro tags := by
  refine ⟨validate_rooted accepted.valid, ?_, ?_⟩
  · intro tag candidate
    exact (candidates_none tags tag).mpr ⟨candidate.1, candidate.2.1⟩
  · intro tag candidate
    have facts := (candidates_none tags tag).mp candidate
    exact (accepted.known tag facts.1).resolve_left facts.2

theorem Accepted.covers_hierarchy (accepted : Accepted hierarchy tags openstackRelease baseDistro) :
    Covers hierarchy tags baseDistro (hierarchyTags hierarchy) := by
  refine ⟨hierarchyTags_rooted hierarchy, ?_, ?_⟩
  · intro tag candidate
    rw [candidates_none, hierarchyTags_keys]
    exact ⟨accepted.known tag candidate.1, candidate.2.1⟩
  · intro tag candidate
    have facts := (candidates_none _ tag).mp candidate
    exact ((hierarchyTags_keys hierarchy tag).mp facts.1).resolve_left facts.2

theorem tagVarLine_tagVar {tagVar : String} {line : TagVarLine}
    (printed : tagVarLine tags tagVar = .ok line) : line.tagVar = tagVar := by
  unfold tagVarLine at printed
  split at printed
  · cases printed
    rfl
  · obtain ⟨parent, _, same⟩ := except_bind_ok.mp printed
    cases same
    rfl

theorem find_tagVarLine {tagVars : List String} {lines : List TagVarLine}
    (printed : List.Forall₂ (fun tagVar line => tagVarLine tags tagVar = .ok line) tagVars lines)
    (tagVar : String) :
    (tagVar ∈ tagVars ∧ ∃ line, (lines.find? fun line => line.tagVar = tagVar) = some line ∧
        tagVarLine tags tagVar = .ok line) ∨
      (tagVar ∉ tagVars ∧ (lines.find? fun line => line.tagVar = tagVar) = none) := by
  induction printed with
  | nil => simp
  | @cons first line rest lines head _ ih =>
      have named := tagVarLine_tagVar head
      by_cases same : first = tagVar
      · subst tagVar
        exact Or.inl ⟨by simp, line, by simp [named], head⟩
      · have skipped : ¬line.tagVar = tagVar := by rwa [named]
        simpa [skipped, Ne.symm same] using ih

theorem evalTagVar_step (accepted : Accepted hierarchy tags openstackRelease baseDistro)
    {lines : List TagVarLine} (printed : listTagVars tags = .ok lines) {tagVar : String}
    (member : tagVar ∈ hierarchy.parents.keys) (absent : lookupTag tags baseDistro tagVar = none) :
    ∃ source parent, Covers hierarchy tags baseDistro source ∧
      getParentTagName source none tagVar = .ok parent ∧
      ∀ fuel, evalTagVar lines tags hierarchy baseDistro (fuel + 1) tagVar =
        evalTagVar lines tags hierarchy baseDistro fuel parent := by
  have notRoot : tagVar ≠ "openstack" := by
    rintro rfl
    exact hierarchy.rootless member
  rcases find_tagVarLine ((mapM_ok_iff _ _ _).mp printed) tagVar with
    ⟨_, line, found, head⟩ | ⟨_, missing⟩
  · simp only [tagVarLine, notRoot, if_false] at head
    obtain ⟨parent, computed, same⟩ := except_bind_ok.mp head
    cases same
    refine ⟨tags, parent, accepted.covers_tags, computed, ?_⟩
    intro fuel
    simp [evalTagVar, found, absent]
  · obtain ⟨parent, present, computed⟩ := checkHierarchy_parent accepted.checked member
    refine ⟨hierarchyTags hierarchy, parent, accepted.covers_hierarchy, computed, ?_⟩
    intro fuel
    simp [evalTagVar, missing, present]

theorem getParentTagName_total (rooted : Rooted tags) (distro : Option String) (container : String) :
    ∃ parent, getParentTagName tags distro container = .ok parent := by
  simp only [getParentTagName]
  split
  · split
    · exact ⟨_, rfl⟩
    · obtain ⟨parent, searched, _⟩ := firstByTagKey_spec rooted distro _
      exact ⟨parent, searched⟩
  · obtain ⟨parent, searched, _⟩ := firstByTagKey_spec rooted distro container
    exact ⟨parent, searched⟩

theorem listTagVars_total (rooted : Rooted tags) : ∃ lines, listTagVars tags = .ok lines := by
  apply mapM_total
  intro tagVar _
  unfold tagVarLine
  split
  · exact ⟨_, rfl⟩
  · obtain ⟨parent, computed⟩ := getParentTagName_total rooted none tagVar
    exact ⟨_, except_bind_ok.mpr ⟨parent, computed, rfl⟩⟩

def Evaluates (lines : List TagVarLine) (tags : KollaImageTags) (hierarchy : TagHierarchy)
    (baseDistro tagVar found : String) : Prop :=
  ∃ fuel, ∀ more, fuel ≤ more → evalTagVar lines tags hierarchy baseDistro more tagVar = some found

theorem Evaluates.of_parent {lines : List TagVarLine} {tagVar parent found : String}
    (step : ∀ fuel, evalTagVar lines tags hierarchy baseDistro (fuel + 1) tagVar =
      evalTagVar lines tags hierarchy baseDistro fuel parent)
    (evaluates : Evaluates lines tags hierarchy baseDistro parent found) :
    Evaluates lines tags hierarchy baseDistro tagVar found := by
  obtain ⟨fuel, done⟩ := evaluates
  refine ⟨fuel + 1, ?_⟩
  intro more enough
  obtain ⟨rest, rfl⟩ : ∃ rest, more = rest + 1 := ⟨more - 1, by omega⟩
  rw [step, done rest (by omega)]

theorem evaluates_own {lines : List TagVarLine} (printed : listTagVars tags = .ok lines)
    {tagVar found : String} (own : lookupTag tags baseDistro tagVar = some found) :
    Evaluates lines tags hierarchy baseDistro tagVar found := by
  refine ⟨1, ?_⟩
  intro more enough
  obtain ⟨rest, rfl⟩ : ∃ rest, more = rest + 1 := ⟨more - 1, by omega⟩
  rcases find_tagVarLine ((mapM_ok_iff _ _ _).mp printed) tagVar with
    ⟨_, line, listed, _⟩ | ⟨missing, _⟩
  · simp [evalTagVar, listed, own]
  · obtain ⟨distros, present, _⟩ := Option.bind_eq_some_iff.mp own
    exact absurd (Dict.mem_keys_of_get? present) missing

theorem evaluates_search {lines : List TagVarLine} (printed : listTagVars tags = .ok lines)
    {source : KollaImageTags} {root name parent : String}
    (covers : Covers hierarchy tags baseDistro source)
    (listed : lookupTag tags baseDistro "openstack" = some root)
    (absent : ownTag tags baseDistro name = none)
    (searched : firstByTagKey source none name = .ok parent)
    (shorter : ∀ start, ProperStart start name → start ∈ hierarchy.parents.keys →
      ∃ found, Walk ProperStart (ownTag tags baseDistro) root start found ∧
        Evaluates lines tags hierarchy baseDistro start found) :
    ∃ found, Walk ProperStart (ownTag tags baseDistro) root name found ∧
      Evaluates lines tags hierarchy baseDistro parent found := by
  obtain ⟨first, computed, outcome⟩ := firstByTagKey_spec covers.rooted none name
  rw [searched] at computed
  cases computed
  have included : valued (ownTag tags baseDistro) ⊆ candidates source none := by
    rw [valued_ownTag]
    exact covers.covers
  rcases outcome with ⟨isRoot, none⟩ | nearest
  · subst parent
    exact ⟨root, Walk.top _ absent included none, evaluates_own printed listed⟩
  · obtain ⟨found, walk, evaluates⟩ :=
      shorter parent nearest.2.1 (covers.within parent nearest.1)
    exact ⟨found, Walk.up _ absent included nearest walk, evaluates⟩

theorem evaluates_walk (accepted : Accepted hierarchy tags openstackRelease baseDistro)
    {lines : List TagVarLine} (printed : listTagVars tags = .ok lines) {root : String}
    (listed : lookupTag tags baseDistro "openstack" = some root) :
    ∀ size tagVar, tagVar.toList.length = size → Plain tagVar →
      tagVar ∈ hierarchy.parents.keys →
      ∃ found, Walk ProperStart (ownTag tags baseDistro) root tagVar found ∧
        Evaluates lines tags hierarchy baseDistro tagVar found := by
  -- Every parent but `openstack` is a proper start of the variable, so lengths decrease.
  intro size
  induction size using Nat.strongRecOn with
  | ind size ih =>
      intro tagVar measured plain member
      have notRoot : tagVar ≠ "openstack" := by
        rintro rfl
        exact hierarchy.rootless member
      cases own : lookupTag tags baseDistro tagVar with
      | some found =>
          exact ⟨found, Walk.here (by simp [ownTag, notRoot, own]), evaluates_own printed own⟩
      | none =>
          obtain ⟨source, parent, covers, computed, step⟩ :=
            evalTagVar_step accepted printed member own
          simp only [getParentTagName, plain.not_exception] at computed
          have absent : ownTag tags baseDistro tagVar = none := by simp [ownTag, notRoot, own]
          obtain ⟨found, walk, evaluates⟩ := evaluates_search printed covers listed absent computed
            (fun start proper => ih start.toList.length (measured ▸ proper.length_lt) start rfl
              (plain.of_properStart proper))
          exact ⟨found, walk, evaluates.of_parent step⟩

/-- An exception is evaluated as its target, or as the parent of a target that neither
listing has. -/
theorem evaluates_exception (accepted : Accepted hierarchy tags openstackRelease baseDistro)
    {lines : List TagVarLine} (printed : listTagVars tags = .ok lines)
    {source : KollaImageTags} {root container prefixVar parent : String}
    (covers : Covers hierarchy tags baseDistro source)
    (listed : lookupTag tags baseDistro "openstack" = some root)
    (exception : containerToPrefixVarExceptions.lookup container = some prefixVar)
    (notRoot : prefixVar ≠ "openstack")
    (computed : getParentTagName source none container = .ok parent) :
    ∃ found, Walk ProperStart (ownTag tags baseDistro) root prefixVar found ∧
      Evaluates lines tags hierarchy baseDistro parent found := by
  have plain := exceptionTarget_plain exception
  simp only [getParentTagName, exception] at computed
  split at computed
  · rename_i present
    cases computed
    have candidate : prefixVar ∈ candidates source none := by
      rw [candidates_none, Dict.mem_keys]
      exact ⟨(Bool.and_eq_true_iff.mp present).1, notRoot⟩
    exact evaluates_walk accepted printed listed _ prefixVar rfl plain
      (covers.within prefixVar candidate)
  · rename_i missing
    have absent : ownTag tags baseDistro prefixVar = none := by
      by_contra valuedTag
      have candidate : prefixVar ∈ valued (ownTag tags baseDistro) :=
        Option.isSome_iff_ne_none.mpr valuedTag
      rw [valued_ownTag] at candidate
      have present := (covers.covers candidate).1
      rw [Dict.mem_keys] at present
      exact missing (by simp [present, listsDistro])
    exact evaluates_search printed covers listed absent computed
      (fun start proper => evaluates_walk accepted printed listed _ start rfl
        (plain.of_properStart proper))

theorem getTag_own {container tag : String} (valid : validate openstackRelease tags = [])
    (own : lookupTag tags baseDistro container = some tag) :
    getTag tags baseDistro container = .ok tag := by
  simp [getTag, own, validate_tag_nonempty valid own]

theorem getTag_of_parent {container parent tag : String}
    (absent : lookupTag tags baseDistro container = none)
    (computed : getParentTagName tags (some baseDistro) container = .ok parent)
    (own : lookupTag tags baseDistro parent = some tag) :
    getTag tags baseDistro container = .ok tag := by
  simp only [getTag, absent, getParentTag]
  exact except_bind_ok.mpr ⟨parent, computed, by simp [own]⟩

theorem getTag_inherits (rooted : Rooted tags) {root container name : String}
    (listed : lookupTag tags baseDistro "openstack" = some root)
    (absent : lookupTag tags baseDistro container = none)
    (start : containerToPrefixVarExceptions.lookup container = some name ∧ name ≠ "openstack" ∨
      containerToPrefixVarExceptions.lookup container = none ∧ name = container) :
    ∃ found, getTag tags baseDistro container = .ok found ∧
      Inherits ProperStart (ownTag tags baseDistro) root name found := by
  rcases start with ⟨exception, notRoot⟩ | ⟨plain, rfl⟩
  · cases own : lookupTag tags baseDistro name with
    | some found =>
        refine ⟨found, getTag_of_parent absent ?_ own, Or.inl (by simp [ownTag, notRoot, own])⟩
        have present : (tags.get? name).isSome = true := by
          obtain ⟨distros, present, _⟩ := Option.bind_eq_some_iff.mp own
          simp [present]
        have lists : listsDistro tags (some baseDistro) name = true := by
          simpa [listsDistro, lookupTag] using congrArg Option.isSome own
        simp [getParentTagName, exception, present, lists]
    | none =>
        obtain ⟨parent, found, searched, own', inherits⟩ := firstByTagKey_inherits rooted name
          listed (by simp [ownTag, own])
        refine ⟨found, getTag_of_parent absent ?_ own', inherits⟩
        have unlisted : listsDistro tags (some baseDistro) name = false := by
          simpa [listsDistro, lookupTag] using congrArg Option.isSome own
        simp [getParentTagName, exception, unlisted, searched]
  · obtain ⟨parent, found, searched, own, inherits⟩ := firstByTagKey_inherits rooted name
      listed (by simp [ownTag, absent])
    refine ⟨found, getTag_of_parent absent ?_ own, inherits⟩
    simp [getParentTagName, plain, searched]

theorem deployed_plain (accepted : Accepted hierarchy tags openstackRelease baseDistro)
    {lines : List TagVarLine} (printed : listTagVars tags = .ok lines) {container : String}
    (member : container ∈ hierarchy.parents.keys) (plain : Plain container)
    (absent : lookupTag tags baseDistro container = none) :
    ∃ tag, Evaluates lines tags hierarchy baseDistro container tag ∧
      getTag tags baseDistro container = .ok tag := by
  obtain ⟨root, listed⟩ := Option.isSome_iff_exists.mp accepted.listed
  obtain ⟨tag, walk, evaluates⟩ :=
    evaluates_walk accepted printed listed _ container rfl plain member
  obtain ⟨found, synced, inherits⟩ := getTag_inherits (validate_rooted accepted.valid) listed absent
    (Or.inr ⟨plain.not_exception, rfl⟩)
  refine ⟨tag, evaluates, ?_⟩
  rw [synced, inherits.unique walk.inherits]

theorem getParentTagName_root {source : KollaImageTags} {distro : Option String}
    {container : String}
    (exception : containerToPrefixVarExceptions.lookup container = some "openstack")
    (present : "openstack" ∈ source.keys) (lists : listsDistro source distro "openstack" = true) :
    getParentTagName source distro container = .ok "openstack" := by
  have found := (Dict.mem_keys _ _).mp present
  simp [getParentTagName, exception, found, lists]

theorem deployed_exception (accepted : Accepted hierarchy tags openstackRelease baseDistro)
    {lines : List TagVarLine} (printed : listTagVars tags = .ok lines) {container prefixVar : String}
    (member : container ∈ hierarchy.parents.keys)
    (exception : containerToPrefixVarExceptions.lookup container = some prefixVar)
    (absent : lookupTag tags baseDistro container = none) :
    ∃ tag, Evaluates lines tags hierarchy baseDistro container tag ∧
      getTag tags baseDistro container = .ok tag := by
  have rooted := validate_rooted accepted.valid
  obtain ⟨root, listed⟩ := Option.isSome_iff_exists.mp accepted.listed
  obtain ⟨source, parent, covers, computed, step⟩ := evalTagVar_step accepted printed member absent
  by_cases toRoot : prefixVar = "openstack"
  · subst prefixVar
    have lists : listsDistro tags (some baseDistro) "openstack" = true := by
      simpa [listsDistro, lookupTag] using congrArg Option.isSome listed
    rw [getParentTagName_root exception covers.rooted.root rfl] at computed
    cases computed
    exact ⟨root, (evaluates_own printed listed).of_parent step,
      getTag_of_parent absent (getParentTagName_root exception rooted.root lists) listed⟩
  · obtain ⟨tag, walk, evaluates⟩ :=
      evaluates_exception accepted printed covers listed exception toRoot computed
    obtain ⟨found, synced, inherits⟩ := getTag_inherits rooted listed absent
      (Or.inl ⟨exception, toRoot⟩)
    refine ⟨tag, evaluates.of_parent step, ?_⟩
    rw [synced, inherits.unique walk.inherits]

theorem deployedTag_eq_syncedTag (accepted : Accepted hierarchy tags openstackRelease baseDistro)
    {container : String} (member : container ∈ hierarchy.parents.keys)
    (proper : ∀ entry ∈ containerToPrefixVarExceptions, ¬ProperStart entry.1 container) :
    ∃ lines tag, listTagVars tags = .ok lines ∧
      Evaluates lines tags hierarchy baseDistro container tag ∧
      getTag tags baseDistro container = .ok tag := by
  obtain ⟨lines, printed⟩ := listTagVars_total (validate_rooted accepted.valid)
  cases own : lookupTag tags baseDistro container with
  | some tag =>
      exact ⟨lines, tag, printed, evaluates_own printed own, getTag_own accepted.valid own⟩
  | none =>
      cases exception : containerToPrefixVarExceptions.lookup container with
      | none =>
          have plain : Plain container := by
            intro entry among start
            apply proper entry among
            refine ⟨?_, start⟩
            rintro rfl
            rw [List.lookup_eq_none_iff] at exception
            simpa using exception entry among
          obtain ⟨tag, deployed⟩ := deployed_plain accepted printed member plain own
          exact ⟨lines, tag, printed, deployed⟩
      | some prefixVar =>
          obtain ⟨tag, deployed⟩ := deployed_exception accepted printed member exception own
          exact ⟨lines, tag, printed, deployed⟩

end Deployment

def novaHierarchy : TagHierarchy where
  parents := ⟨[("nova", "openstack"), ("nova_compute", "nova"), ("nova_compute_ironic", "nova"),
    ("neutron", "openstack"), ("neutron_mlnx_agent", "neutron"),
    ("neutron_eswitchd", "neutron_mlnx_agent")], by decide⟩
  named := by decide
  rootless := by decide

def novaTags : KollaImageTags :=
  ⟨[("openstack", ⟨[("rocky-10", "2025.1-rocky-10-20260101T000000"),
      ("ubuntu-noble", "2025.1-ubuntu-noble-20260101T000000")], by decide⟩),
    ("nova", ⟨[("ubuntu-noble", "2025.1-ubuntu-noble-20260202T000000")], by decide⟩),
    ("neutron", ⟨[("rocky-10", "2025.1-rocky-10-20260303T000000")], by decide⟩)], by decide⟩

theorem novaTags_accepted : Accepted novaHierarchy novaTags "2025.1" "rocky-10" :=
  ⟨rfl, by decide, by decide, by decide⟩

theorem deployedTag_eq_syncedTag_eswitchd :
    ∃ lines tag, listTagVars novaTags = .ok lines ∧
      Evaluates lines novaTags novaHierarchy "rocky-10" "neutron_eswitchd" tag ∧
      getTag novaTags "rocky-10" "neutron_eswitchd" = .ok tag :=
  deployedTag_eq_syncedTag novaTags_accepted (by decide)
    (by unfold ProperStart; decide)

end KollaImages
