import KayobeConfig.Library.Text

/-!
The lines of `pulp-host-image-versions.yml`: `update-overcloud-host-image-tags.yml` rewrites
them with `sed`, and the workflows that use the images read them with `grep` and `awk`.
-/

namespace HostImages

open Library

inductive HostImage
  | rocky10
  | rocky10Aarch64
  | ubuntuNoble
  deriving DecidableEq

def HostImage.all : List HostImage := [.rocky10, .rocky10Aarch64, .ubuntuNoble]

def HostImage.versionName : HostImage → String
  | .rocky10 => "stackhpc_rocky_10_overcloud_host_image_version"
  | .rocky10Aarch64 => "stackhpc_rocky_10_overcloud_host_image_version_aarch64"
  | .ubuntuNoble => "stackhpc_ubuntu_noble_overcloud_host_image_version"

def HostImage.pattern (image : HostImage) : List Char := (image.versionName ++ ":").toList

abbrev Lines := List (List Char)

def isBlank (char : Char) : Bool := char = ' ' || char = '\t'

def fields (line : List Char) : List (List Char) :=
  (line.splitOnP isBlank).filter fun field => !field.isEmpty

/-- `sed` on tags whose characters have no meaning to it. -/
def updateTag (image : HostImage) (tag : List Char) (lines : Lines) : Lines :=
  lines.map fun line =>
    if image.pattern <+: line then image.pattern ++ ' ' :: tag else line

def updateTags (tags : HostImage → List Char) (images : List HostImage) (lines : Lines) : Lines :=
  images.foldl
    (fun lines image => if tags image = [] then lines else updateTag image (tags image) lines) lines

def matched (image : HostImage) (line : List Char) : List (List Char) :=
  if image.pattern <:+: line then (fields line)[1]?.toList else []

/-- `echo` prints the words that it is given with blanks between them. -/
def imageTag (image : HostImage) (lines : Lines) : List Char :=
  [' '].intercalate (lines.flatMap (matched image))

def isPlain (char : Char) : Bool := char.isAlphanum || char = '.' || char = '-'

def Plain (tag : List Char) : Prop := ∀ char ∈ tag, isPlain char = true

/-- The value of a variable of the file. The last of its lines counts. -/
def lookupVariable (name : String) (lines : Lines) : Option (List Char) :=
  let pattern := (name ++ ":").toList
  (lines.reverse.find? (pattern.isPrefixOf ·)).map fun line =>
    stripOf isBlank (line.drop pattern.length)

/-- The name of the image is on one line, which starts with it and goes on with the value. -/
def Assigned (image : HostImage) (value : List Char) (lines : Lines) : Prop :=
  ∃ before after, lines = before ++ (image.pattern ++ value) :: after ∧
    ∀ line ∈ before ++ after, ¬image.pattern <:+: line

section Patterns

variable {image other : HostImage} {tag line : List Char}

theorem mem_all (image : HostImage) : image ∈ HostImage.all := by
  cases image <;> decide

theorem pattern_unblank (image : HostImage) : ∀ char ∈ image.pattern, isBlank char = false := by
  have all : image.pattern.all (!isBlank ·) = true := by
    cases image <;> decide +kernel
  simpa using all

theorem pattern_infix_iff : other.pattern <:+: image.pattern ↔ other = image := by
  constructor
  · intro inside
    by_contra different
    cases other <;> cases image <;> first | exact different rfl | (revert inside; decide +kernel)
  · rintro rfl
    exact List.infix_refl _

theorem colon_mem_pattern (image : HostImage) : ':' ∈ image.pattern := by
  simp [HostImage.pattern]

theorem plain_of_all (all : tag.all isPlain = true) : Plain tag :=
  List.all_eq_true.mp all

theorem Plain.not_mem (plain : Plain tag) {char : Char} (special : isPlain char = false) :
    char ∉ tag := by
  intro member
  rw [plain char member] at special
  cases special

theorem not_infix_rewritten (different : other ≠ image) (plain : Plain tag) :
    ¬other.pattern <:+: image.pattern ++ ' ' :: tag := by
  have unblank : ' ' ∉ other.pattern := by
    intro member
    exact absurd (pattern_unblank other ' ' member) (by decide)
  rw [infix_append_separator unblank, pattern_infix_iff]
  rintro (same | inside)
  · exact different same
  · exact plain.not_mem (by decide) (inside.subset (colon_mem_pattern other))

theorem prefixes_same (first : image.pattern <+: line) (second : other.pattern <+: line) :
    image = other := by
  rcases List.prefix_or_prefix_of_prefix first second with within | within
  · exact pattern_infix_iff.mp within.isInfix
  · exact (pattern_infix_iff.mp within.isInfix).symm

theorem Plain.unblank (plain : Plain tag) {char : Char} (member : char ∈ tag) :
    isBlank char = false := by
  by_contra blank
  rw [Bool.not_eq_false] at blank
  have special : isPlain char = false := by
    rcases (by simpa [isBlank] using blank : char = ' ' ∨ char = '\t') with rfl | rfl <;> decide
  exact plain.not_mem special member

theorem fields_rewritten (plain : Plain tag) (nonempty : tag ≠ []) :
    fields (image.pattern ++ ' ' :: tag) = [image.pattern, tag] := by
  have noBlank : ∀ char ∈ tag, isBlank char = false := fun _ member => plain.unblank member
  have name : image.pattern ≠ [] := List.ne_nil_of_mem (colon_mem_pattern image)
  unfold fields
  rw [List.splitOnP_append_cons _ _ (by decide), List.splitOnP_eq_singleton noBlank,
    List.splitOnP_eq_singleton (pattern_unblank image)]
  simp [name, nonempty]

end Patterns

section Updates

variable {image other : HostImage} {tag value : List Char} {lines : Lines}

theorem updateTag_append (before after : Lines) :
    updateTag image tag (before ++ after) = updateTag image tag before ++ updateTag image tag after :=
  List.map_append

theorem updateTag_unmatched (others : ∀ line ∈ lines, ¬image.pattern <:+: line) :
    updateTag image tag lines = lines := by
  have kept : ∀ line ∈ lines,
      (if image.pattern <+: line then image.pattern ++ ' ' :: tag else line) = id line := by
    intro line member
    exact if_neg fun starts => others line member starts.isInfix
  unfold updateTag
  rw [List.map_congr_left kept, List.map_id]

/-- An update rewrites the one line of its image. -/
theorem Assigned.update_same (assigned : Assigned image value lines) :
    Assigned image (' ' :: tag) (updateTag image tag lines) := by
  obtain ⟨before, after, rfl, others⟩ := assigned
  have earlier : updateTag image tag before = before :=
    updateTag_unmatched fun line member => others line (List.mem_append_left after member)
  have later : updateTag image tag after = after :=
    updateTag_unmatched fun line member => others line (List.mem_append_right before member)
  refine ⟨before, after, ?_, others⟩
  unfold updateTag at earlier later ⊢
  rw [List.map_append, List.map_cons, earlier, later, if_pos (List.prefix_append image.pattern value)]

theorem Assigned.update_other (assigned : Assigned other value lines) (different : other ≠ image)
    (plain : Plain tag) : Assigned other value (updateTag image tag lines) := by
  obtain ⟨before, after, rfl, others⟩ := assigned
  have kept : ¬image.pattern <+: other.pattern ++ value := by
    intro starts
    exact different (prefixes_same (List.prefix_append other.pattern value) starts)
  refine ⟨updateTag image tag before, updateTag image tag after, ?_, ?_⟩
  · unfold updateTag
    rw [List.map_append, List.map_cons, if_neg kept]
  · intro line member
    rw [← updateTag_append, updateTag, List.mem_map] at member
    obtain ⟨old, among, rfl⟩ := member
    split
    · exact not_infix_rewritten different plain
    · exact others old among

/-- After the updates, the images that are given a tag have it, and the others what they had. -/
theorem Assigned.updateTags {tags : HostImage → List Char} (plain : ∀ image, Plain (tags image))
    (assigned : Assigned image value lines) (images : List HostImage) :
    Assigned image (if image ∈ images ∧ tags image ≠ [] then ' ' :: tags image else value)
      (updateTags tags images lines) := by
  induction images generalizing lines value with
  | nil => simpa [HostImages.updateTags] using assigned
  | cons first images ih =>
      unfold HostImages.updateTags at ih ⊢
      rw [List.foldl_cons]
      by_cases absent : tags first = []
      · rw [if_pos absent]
        have rest := ih assigned
        by_cases same : image = first
        · subst same
          simpa [absent] using rest
        · simpa [same] using rest
      · rw [if_neg absent]
        by_cases same : image = first
        · subst same
          have updated : Assigned image (' ' :: tags image) (updateTag image (tags image) lines) :=
            assigned.update_same
          simpa [absent] using ih updated
        · have kept : Assigned image value (updateTag first (tags first) lines) :=
            assigned.update_other same (plain first)
          simpa [same] using ih kept

theorem Assigned.updateTags_given {tags : HostImage → List Char} (plain : ∀ image, Plain (tags image))
    (assigned : Assigned image value lines) {images : List HostImage} (member : image ∈ images)
    (nonempty : tags image ≠ []) :
    Assigned image (' ' :: tags image) (HostImages.updateTags tags images lines) := by
  have updated := assigned.updateTags plain images
  rwa [if_pos ⟨member, nonempty⟩] at updated

end Updates

section Reading

variable {image : HostImage} {tag value : List Char} {lines : Lines}

theorem flatMap_unmatched (others : ∀ line ∈ lines, ¬image.pattern <:+: line) :
    lines.flatMap (matched image) = [] := by
  rw [List.flatMap_eq_nil_iff]
  intro line member
  exact if_neg (others line member)

theorem Assigned.imageTag (assigned : Assigned image value lines) :
    imageTag image lines = ((fields (image.pattern ++ value))[1]?).getD [] := by
  obtain ⟨before, after, rfl, others⟩ := assigned
  have earlier : before.flatMap (matched image) = [] :=
    flatMap_unmatched fun line member => others line (List.mem_append_left after member)
  have later : after.flatMap (matched image) = [] :=
    flatMap_unmatched fun line member => others line (List.mem_append_right before member)
  have here : matched image (image.pattern ++ value) = (fields (image.pattern ++ value))[1]?.toList :=
    if_pos (List.prefix_append image.pattern value).isInfix
  unfold HostImages.imageTag
  rw [List.flatMap_append, List.flatMap_cons, earlier, later, here]
  cases (fields (image.pattern ++ value))[1]? with
  | none => rfl
  | some field => simp

theorem Assigned.imageTag_tag (assigned : Assigned image (' ' :: tag) lines) (plain : Plain tag)
    (nonempty : tag ≠ []) : HostImages.imageTag image lines = tag := by
  rw [assigned.imageTag, fields_rewritten plain nonempty]
  rfl

theorem Assigned.lookupVariable (assigned : Assigned image (' ' :: tag) lines) (plain : Plain tag) :
    lookupVariable image.versionName lines = some tag := by
  obtain ⟨before, after, rfl, others⟩ := assigned
  have later : after.reverse.find? (image.pattern.isPrefixOf ·) = none := by
    rw [List.find?_eq_none]
    intro line member starts
    have among : line ∈ before ++ after := List.mem_append_right before (List.mem_reverse.mp member)
    exact others line among (List.isPrefixOf_iff_prefix.mp starts).isInfix
  have here : image.pattern.isPrefixOf (image.pattern ++ ' ' :: tag) = true :=
    List.isPrefixOf_iff_prefix.mpr (List.prefix_append _ _)
  have trimmed : Trimmed isBlank tag :=
    ⟨fun char first => plain.unblank (List.mem_of_mem_head? first),
      fun char last => plain.unblank (List.mem_of_mem_getLast? last)⟩
  have stripped : stripOf isBlank (' ' :: tag) = tag := stripOf_eq_self trimmed
  have same : (image.versionName ++ ":").toList = image.pattern := rfl
  unfold HostImages.lookupVariable
  simp only [same]
  rw [List.reverse_append, List.reverse_cons, List.append_assoc, List.find?_append, later,
    Option.none_or, List.singleton_append, List.find?_cons_of_pos here, Option.map_some,
    List.drop_left, stripped]

/-- The tags that the updates are given are the ones that are read afterwards, and the other
images keep theirs. -/
theorem imageTag_updateTags {tags : HostImage → List Char} (plain : ∀ image, Plain (tags image))
    {lines : Lines} (assigned : ∀ image, ∃ value, Assigned image value lines)
    (images : List HostImage) (image : HostImage) :
    imageTag image (updateTags tags images lines) =
      if image ∈ images ∧ tags image ≠ [] then tags image else imageTag image lines := by
  obtain ⟨value, here⟩ := assigned image
  have updated := here.updateTags plain images
  split
  · rename_i given
    rw [if_pos given] at updated
    exact updated.imageTag_tag (plain image) given.2
  · rename_i absent
    rw [if_neg absent] at updated
    rw [updated.imageTag, here.imageTag]

def comments : Lines :=
  ["---".toList, "# Overcloud host image versioning tags".toList,
    "# These images must be in SMS, since they are used by our AIO CI runners".toList]

def currentTag : List Char := "2026.1-20261103T134107".toList

def assignment (image : HostImage) : List Char := image.pattern ++ ' ' :: currentTag

def versionsFile : Lines := comments ++ HostImage.all.map assignment

theorem currentTag_plain : Plain currentTag :=
  plain_of_all (by decide +kernel)

theorem versionsFile_assigned (image : HostImage) : ∃ value, Assigned image value versionsFile := by
  have commented : ∀ line ∈ comments, ¬image.pattern <:+: line := by
    intro line member inside
    have colonless : ∀ line ∈ comments, ':' ∉ line := by decide +kernel
    exact colonless line member (inside.subset (colon_mem_pattern image))
  have others : ∀ other ≠ image, ¬image.pattern <:+: assignment other := fun other different =>
    not_infix_rewritten (Ne.symm different) currentTag_plain
  refine ⟨' ' :: currentTag, ?_⟩
  cases image with
  | rocky10 =>
      refine ⟨comments, [assignment .rocky10Aarch64, assignment .ubuntuNoble], ?_, ?_⟩
      · simp [versionsFile, HostImage.all, assignment]
      · simp only [List.forall_mem_append, List.forall_mem_cons, List.not_mem_nil, false_imp_iff,
          implies_true, and_true]
        exact ⟨commented, others .rocky10Aarch64 (by decide), others .ubuntuNoble (by decide)⟩
  | rocky10Aarch64 =>
      refine ⟨comments ++ [assignment .rocky10], [assignment .ubuntuNoble], ?_, ?_⟩
      · simp [versionsFile, HostImage.all, assignment]
      · simp only [List.forall_mem_append, List.forall_mem_cons, List.not_mem_nil, false_imp_iff,
          implies_true, and_true]
        exact ⟨⟨commented, others .rocky10 (by decide)⟩, others .ubuntuNoble (by decide)⟩
  | ubuntuNoble =>
      refine ⟨comments ++ [assignment .rocky10, assignment .rocky10Aarch64], [], ?_, ?_⟩
      · simp [versionsFile, HostImage.all, assignment]
      · simp only [List.forall_mem_append, List.forall_mem_cons, List.not_mem_nil, false_imp_iff,
          implies_true, and_true]
        exact ⟨commented, others .rocky10 (by decide), others .rocky10Aarch64 (by decide)⟩

def nobleTag : List Char := "2026.1-20270101T000000".toList

def nobleTags (image : HostImage) : List Char := if image = .ubuntuNoble then nobleTag else []

theorem nobleTag_plain : Plain nobleTag :=
  plain_of_all (by decide +kernel)

theorem nobleTags_plain (image : HostImage) : Plain (nobleTags image) := by
  unfold nobleTags
  split
  · exact nobleTag_plain
  · exact fun char impossible => by cases impossible

theorem nobleTag_ne_nil : nobleTag ≠ [] := by
  decide +kernel

theorem imageTag_updateTags_noble :
    imageTag .ubuntuNoble (updateTags nobleTags HostImage.all versionsFile) = nobleTag ∧
      imageTag .rocky10 (updateTags nobleTags HostImage.all versionsFile) =
        imageTag .rocky10 versionsFile := by
  have noble : nobleTags .ubuntuNoble = nobleTag := if_pos rfl
  have rocky : nobleTags .rocky10 = [] := if_neg (by decide)
  have read := imageTag_updateTags nobleTags_plain versionsFile_assigned HostImage.all
  constructor
  · rw [read, noble, if_pos ⟨mem_all _, nobleTag_ne_nil⟩]
  · rw [read, rocky, if_neg fun given => given.2 rfl]

end Reading

end HostImages
