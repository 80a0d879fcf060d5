import KayobeConfig.ScanImages.Parallel
import KayobeConfig.ScanImages.Triage

/-!
The vulnerabilities that `allowed-vulnerabilities.yml` allows for an image: the configuration
that the script writes of them for Grype, and the list that it puts the image on.
-/

namespace ScanImages

open Library

/-- The lists of the file, with their items as `yq` prints them. -/
abbrev AllowedVulnerabilities := Dict String (List String)

def listName (name : List Char) : String :=
  String.ofList (name ++ "_allowed_vulnerabilities".toList)

/-- A list that the file does not have prints nothing. -/
def yqItems (file : AllowedVulnerabilities) (name : List Char) : List Char :=
  ((file.get? (listName name)).getD []).flatMap fun item => item.toList ++ ['\n']

def isShellBlank (char : Char) : Bool := char = ' ' || char = '\t' || char = '\n'

def shellWords (text : List Char) : List String :=
  ((text.splitOnP isShellBlank).filter fun word => !word.isEmpty).map String.ofList

def globalName : List Char := "global".toList

def familyName (imagename : List Char) : List Char := imagename.takeWhile fun char => char ≠ '_'

def allowedWords (file : AllowedVulnerabilities) (imagename : List Char) : List String :=
  shellWords (yqItems file globalName) ++
    (if familyName imagename ≠ imagename then shellWords (yqItems file (familyName imagename))
      else []) ++
    shellWords (yqItems file imagename)

def configHeader : List Char := "ignore:".toList

def ruleStart : List Char := "  - vulnerability: ".toList

def ruleLine (word : String) : List Char := ruleStart ++ word.toList

def grypeConfig (file : AllowedVulnerabilities) (imagename : List Char) : List Char :=
  configHeader ++ '\n' ::
    (uniqueSorted (allowedWords file imagename)).flatMap fun word => ruleLine word ++ ['\n']

/-- The rules that Grype reads from a file with the list `ignore`. -/
def ruleOfLine (line : List Char) : Option String :=
  if ruleStart <+: line then some (String.ofList (line.drop ruleStart.length)) else none

def ignoreRules (config : List Char) : Option (List String) :=
  match config.splitOn '\n' with
  | [] => none
  | first :: lines =>
      if first = configHeader then (lines.filter fun line => !line.isEmpty).mapM ruleOfLine else none

/-- The exit code and the report of Grype under a configuration. -/
abbrev Grype := List Char → Nat × List Match

def severe (entry : Match) : Bool := severityIs "high" entry || severityIs "critical" entry

/-- What Grype does with the matches that have a fix, under `--only-fixed` and `--fail-on high`. -/
structure Grype.Documented (grype : Grype) (found : List Match) (names : Match → String → Bool) :
    Prop where
  reports : ∀ config rules, ignoreRules config = some rules →
    (grype config).2 = found.filter fun entry => !rules.any (names entry)
  exits : ∀ config rules, ignoreRules config = some rules →
    (grype config).1 = if (grype config).2.any severe then 2 else 0

def scanAllowing (grype : Grype) (file : AllowedVulnerabilities) (image : String)
    (output : ScanOutput) : Option ScanOutput :=
  let result := grype (grypeConfig file (imagename image))
  scanImage image result.1 result.2 output

structure VulnerabilityId (id : String) : Prop where
  starts : startswith id "CVE-" ∨ startswith id "GHSA-"
  chars : ∀ char ∈ id.toList, (char.isAlphanum || char = '-') = true

def AllowedVulnerabilities.WellFormed (file : AllowedVulnerabilities) : Prop :=
  ∀ name items, file.get? name = some items → ∀ item ∈ items, VulnerabilityId item

def Lists (file : AllowedVulnerabilities) (name : List Char) (id : String) : Prop :=
  ∃ items, file.get? (listName name) = some items ∧ id ∈ items

/-- What the file allows for an image: for all images, for its family, or for itself. -/
inductive Allows (file : AllowedVulnerabilities) (imagename : List Char) (id : String) : Prop
  | everywhere : Lists file globalName id → Allows file imagename id
  | family (family rest : List Char) : imagename = family ++ '_' :: rest → '_' ∉ family →
      Lists file family id → Allows file imagename id
  | image : Lists file imagename id → Allows file imagename id

section Words

variable {file : AllowedVulnerabilities} {name : List Char} {id : String}

theorem VulnerabilityId.not_blank (isId : VulnerabilityId id) {char : Char}
    (member : char ∈ id.toList) :
    isShellBlank char = false := by
  by_contra blank
  have listed := isId.chars char member
  rw [Bool.not_eq_false] at blank
  rcases (by simpa [isShellBlank] using blank : (char = ' ' ∨ char = '\t') ∨ char = '\n') with
    (rfl | rfl) | rfl <;> exact absurd listed (by decide)

theorem VulnerabilityId.nonempty (isId : VulnerabilityId id) : id.toList ≠ [] := by
  intro none
  rcases isId.starts with starts | starts <;>
  · rw [startswith_iff, none, List.prefix_nil] at starts
    exact absurd starts (by decide)

theorem shellWords_lines {items : List String} (ids : ∀ item ∈ items, VulnerabilityId item) :
    shellWords (items.flatMap fun item => item.toList ++ ['\n']) = items := by
  induction items with
  | nil => rfl
  | cons item items ih =>
      obtain ⟨isId, rest⟩ := List.forall_mem_cons.mp ids
      have unbroken : ∀ char ∈ item.toList, isShellBlank char = false :=
        fun _ member => isId.not_blank member
      have later := ih rest
      unfold shellWords at later ⊢
      rw [List.flatMap_cons, List.append_assoc, List.singleton_append,
        List.splitOnP_append_cons _ _ (by decide), List.splitOnP_eq_singleton unbroken,
        List.singleton_append, List.filter_cons_of_pos (by simp [isId.nonempty]), List.map_cons,
        later, String.ofList_toList]

theorem mem_yqItems (wellFormed : file.WellFormed) :
    id ∈ shellWords (yqItems file name) ↔ Lists file name id := by
  unfold yqItems Lists
  cases found : file.get? (listName name) with
  | none => simp [shellWords]
  | some items =>
      rw [Option.getD_some, shellWords_lines fun item => wellFormed _ items found item]
      simp

theorem familyName_append {family rest : List Char} (first : '_' ∉ family) :
    familyName (family ++ '_' :: rest) = family := by
  have kept : ∀ char ∈ family, decide (char ≠ '_') = true := by
    intro char member
    exact decide_eq_true fun same => first (same ▸ member)
  unfold familyName
  rw [List.takeWhile_append_of_pos kept, List.takeWhile_cons_of_neg (by decide), List.append_nil]

theorem familyName_self (single : '_' ∉ name) : familyName name = name := by
  unfold familyName
  rw [List.takeWhile_eq_self_iff]
  intro char member
  exact decide_eq_true fun same => single (same ▸ member)

theorem mem_allowedWords (wellFormed : file.WellFormed) :
    id ∈ allowedWords file name ↔ Allows file name id := by
  have lists (other : List Char) : id ∈ shellWords (yqItems file other) ↔ Lists file other id :=
    mem_yqItems wellFormed
  unfold allowedWords
  rw [List.mem_append, List.mem_append, lists, lists]
  constructor
  · rintro ((everywhere | family) | image)
    · exact .everywhere everywhere
    · split at family
      · rename_i shorter
        rw [lists] at family
        have separated : '_' ∈ name := by
          by_contra single
          exact shorter (familyName_self single)
        obtain ⟨start, rest, rfl, first⟩ := List.eq_append_cons_of_mem separated
        rw [familyName_append first] at family
        exact .family start rest rfl first family
      · cases family
    · exact .image image
  · intro allows
    cases allows with
    | everywhere everywhere => exact .inl (.inl everywhere)
    | family start rest same first family =>
        have shorter : familyName name ≠ name := by
          rw [same, familyName_append first]
          simp
        rw [if_pos shorter, lists, same, familyName_append first]
        exact .inl (.inr family)
    | image image => exact .inr image

end Words

section Configuration

variable {file : AllowedVulnerabilities} {name : List Char}

theorem Allows.isId (wellFormed : file.WellFormed) {id : String} (allows : Allows file name id) :
    VulnerabilityId id := by
  have listed (other : List Char) (lists : Lists file other id) : VulnerabilityId id := by
    obtain ⟨items, found, member⟩ := lists
    exact wellFormed _ items found id member
  cases allows with
  | everywhere lists => exact listed _ lists
  | family start rest _ _ lists => exact listed _ lists
  | image lists => exact listed _ lists

theorem ruleLine_ne_nil (word : String) : ruleLine word ≠ [] := by
  unfold ruleLine
  exact List.append_ne_nil_of_left_ne_nil (by decide) _

theorem VulnerabilityId.ruleLine_whole {word : String} (isId : VulnerabilityId word) :
    '\n' ∉ ruleLine word := by
  intro broken
  rcases List.mem_append.mp broken with start | inside
  · exact absurd start (by decide +kernel)
  · exact absurd (isId.not_blank inside) (by decide)

theorem mapM_ruleOfLine (rules : List String) :
    (rules.map ruleLine).mapM ruleOfLine = some rules := by
  induction rules with
  | nil => rfl
  | cons rule rules ih =>
      have read : ruleOfLine (ruleLine rule) = some rule := by
        unfold ruleOfLine ruleLine
        rw [if_pos (List.prefix_append _ _), List.drop_left, String.ofList_toList]
      rw [List.map_cons, List.mapM_cons, read, ih]
      rfl

theorem Allows.mono {wider : AllowedVulnerabilities} {id : String}
    (more : ∀ name id, Lists file name id → Lists wider name id) (allows : Allows file name id) :
    Allows wider name id := by
  cases allows with
  | everywhere lists => exact .everywhere (more _ _ lists)
  | family start rest same first lists => exact .family start rest same first (more _ _ lists)
  | image lists => exact .image (more _ _ lists)

theorem ignoreRules_grypeConfig (wellFormed : file.WellFormed) :
    ignoreRules (grypeConfig file name) = some (uniqueSorted (allowedWords file name)) := by
  have ids : ∀ word ∈ uniqueSorted (allowedWords file name), VulnerabilityId word := by
    intro word member
    rw [mem_uniqueSorted, mem_allowedWords wellFormed] at member
    exact member.isId wellFormed
  unfold grypeConfig
  generalize uniqueSorted (allowedWords file name) = rules at ids
  have whole : ∀ line ∈ configHeader :: rules.map ruleLine, '\n' ∉ line := by
    intro line member
    rcases List.mem_cons.mp member with rfl | written
    · decide +kernel
    · obtain ⟨word, among, rfl⟩ := List.mem_map.mp written
      exact (ids word among).ruleLine_whole
  have text : (configHeader ++ '\n' :: rules.flatMap fun word => ruleLine word ++ ['\n']) =
      (configHeader :: rules.map ruleLine).flatMap fun line => line ++ ['\n'] := by
    simp [List.flatMap_map]
  have kept : (rules.map ruleLine ++ [[]]).filter (fun line => !line.isEmpty) =
      rules.map ruleLine := by
    rw [List.filter_append, List.filter_eq_self.mpr]
    · simp
    · simp [ruleLine_ne_nil]
  unfold ignoreRules
  rw [text, splitOn_lines whole, List.cons_append]
  dsimp only
  rw [if_pos rfl, kept, mapM_ruleOfLine]

end Configuration

section Recording

variable {report : List Match} {keeps : Match → Bool}

def Category.level : Category → Nat
  | .clean => 0
  | .high => 1
  | .critical => 2

theorem recorded_eq_clean_iff (report : List Match) :
    recorded report = .clean ↔ selectedMatches report = [] := by
  unfold recorded
  split_ifs with none critical
  · exact iff_of_true rfl none
  · exact iff_of_false (by decide) none
  · exact iff_of_false (by decide) none

theorem selectedMatches_filter (report : List Match) (keeps : Match → Bool) :
    selectedMatches (report.filter keeps) = (selectedMatches report).filter keeps := by
  unfold selectedMatches
  rw [List.filter_filter, List.filter_filter]
  exact List.filter_congr fun entry _ => Bool.and_comm _ _

/-- Where all matches of an id go or stay, the first that stays was the first before. -/
theorem firstOfId_filter
    (byId : ∀ first second : Match, first.id = second.id → keeps first = keeps second)
    {entry : Match} (kept : keeps entry = true) :
    FirstOfId (report.filter keeps) entry ↔ FirstOfId report entry := by
  have same (other : Match) :
      (keeps other = true ∧ decide (other.id = entry.id) = true) = (other.id = entry.id) := by
    by_cases sameId : other.id = entry.id
    · simp [sameId, byId other entry sameId, kept]
    · simp [sameId]
  unfold FirstOfId
  rw [selectedMatches_filter, List.find?_filter]
  simp only [same]

theorem showsWord_of_filter
    (byId : ∀ first second : Match, first.id = second.id → keeps first = keeps second)
    (shows : ShowsWord (report.filter keeps)) : ShowsWord report := by
  obtain ⟨entry, selected, texts⟩ := shows
  rw [selectedMatches_filter, List.mem_filter] at selected
  rw [firstOfId_filter byId selected.2] at texts
  exact ⟨entry, selected.1, texts⟩

theorem critical_of_filter
    (byId : ∀ first second : Match, first.id = second.id → keeps first = keeps second)
    (mentioned : critical <:+: generateSummaryCsv (report.filter keeps)) :
    critical <:+: generateSummaryCsv report := by
  rw [mentions_summary] at mentioned ⊢
  refine mentioned.imp ?_ (showsWord_of_filter byId)
  rintro ⟨entry, selected, first, isCritical⟩
  rw [selectedMatches_filter, List.mem_filter] at selected
  exact ⟨entry, selected.1, (firstOfId_filter byId selected.2).mp first, isCritical⟩

theorem recorded_filter_le
    (byId : ∀ first second : Match, first.id = second.id → keeps first = keeps second) :
    (recorded (report.filter keeps)).level ≤ (recorded report).level := by
  by_cases clean : selectedMatches (report.filter keeps) = []
  · rw [(recorded_eq_clean_iff _).mpr clean]
    exact Nat.zero_le _
  · have selected : selectedMatches report ≠ [] := by
      intro none
      rw [selectedMatches_filter, none] at clean
      exact clean rfl
    unfold recorded
    rw [if_neg clean, if_neg selected]
    split_ifs with kept mentioned mentioned
    · exact Nat.le_refl _
    · exact absurd (critical_of_filter byId kept) mentioned
    · decide
    · exact Nat.le_refl _

end Recording

section Scanning

variable {report : List Match} {grype : Grype} {found : List Match} {names : Match → String → Bool}
  {file : AllowedVulnerabilities} {image : String} {output : ScanOutput}

/-- The matches that no rule of the configuration names. -/
def unallowed (file : AllowedVulnerabilities) (imagename : List Char)
    (names : Match → String → Bool) (found : List Match) : List Match :=
  found.filter fun entry => !(uniqueSorted (allowedWords file imagename)).any (names entry)

theorem any_names_iff (wellFormed : file.WellFormed) (imagename : List Char) (entry : Match) :
    (uniqueSorted (allowedWords file imagename)).any (names entry) = true ↔
      ∃ id, Allows file imagename id ∧ names entry id = true := by
  simp only [List.any_eq_true, mem_uniqueSorted, mem_allowedWords wellFormed]

theorem selectedMatches_eq_nil_of_not_severe (mild : ¬report.any severe = true) :
    selectedMatches report = [] := by
  rw [List.eq_nil_iff_forall_not_mem]
  intro entry selected
  obtain ⟨member, levels, _⟩ := (mem_selectedMatches report entry).mp selected
  exact mild (List.any_eq_true.mpr ⟨entry, member, by simpa [severe] using levels⟩)

theorem scanAllowing_recorded (documented : grype.Documented found names)
    (wellFormed : file.WellFormed) :
    scanAllowing grype file image output =
      some (output.record image (recorded (unallowed file (imagename image) names found))) := by
  have rules : ignoreRules (grypeConfig file (imagename image)) =
      some (uniqueSorted (allowedWords file (imagename image))) :=
    ignoreRules_grypeConfig wellFormed
  have reports := documented.reports _ _ rules
  have exits := documented.exits _ _ rules
  unfold scanAllowing
  dsimp only
  rw [exits, reports]
  change scanImage image (if (unallowed file (imagename image) names found).any severe then 2 else 0)
    (unallowed file (imagename image) names found) output = _
  split
  · exact scanImage_recorded image _ output
  · rename_i mild
    rw [(recorded_eq_clean_iff _).mpr (selectedMatches_eq_nil_of_not_severe mild)]
    rfl

/-- An image is recorded as clean exactly where each high or critical match that has a fix, outside
kernel packages, is allowed. -/
theorem clean_iff_allowed (documented : grype.Documented found names)
    (wellFormed : file.WellFormed) :
    scanAllowing grype file image output = some (output.record image .clean) ↔
      ∀ entry ∈ selectedMatches found,
        ∃ id, Allows file (imagename image) id ∧ names entry id = true := by
  rw [scanAllowing_recorded documented wellFormed, Option.some.injEq,
    (record_injective image output).eq_iff, recorded_eq_clean_iff]
  unfold unallowed
  rw [selectedMatches_filter, List.filter_eq_nil_iff]
  simp only [Bool.not_eq_true', Bool.not_eq_false, any_names_iff wellFormed]

/-- Where a rule names all matches of an id or none, to allow more never makes an image worse. -/
theorem allowing_more_le (documented : grype.Documented found names)
    (byId : ∀ first second : Match, first.id = second.id → names first = names second)
    {wider : AllowedVulnerabilities} (wellFormed : file.WellFormed) (widerFormed : wider.WellFormed)
    (more : ∀ name id, Lists file name id → Lists wider name id) :
    ∃ before after : Category,
      scanAllowing grype file image output = some (output.record image before) ∧
      scanAllowing grype wider image output = some (output.record image after) ∧
      after.level ≤ before.level := by
  let keeps (entry : Match) : Bool :=
    !(uniqueSorted (allowedWords wider (imagename image))).any (names entry)
  have sameId : ∀ first second : Match, first.id = second.id → keeps first = keeps second := by
    intro first second same
    simp only [keeps, byId first second same]
  have narrowed : unallowed wider (imagename image) names found =
      (unallowed file (imagename image) names found).filter keeps := by
    unfold unallowed
    rw [List.filter_filter]
    refine List.filter_congr fun entry _ => ?_
    cases named : (uniqueSorted (allowedWords file (imagename image))).any (names entry) with
    | false => simp [keeps]
    | true =>
        obtain ⟨id, allows, named⟩ := (any_names_iff wellFormed _ entry).mp named
        have also := (any_names_iff widerFormed _ entry).mpr ⟨id, allows.mono more, named⟩
        simp [also]
  refine ⟨_, _, scanAllowing_recorded documented wellFormed,
    scanAllowing_recorded documented widerFormed, ?_⟩
  rw [narrowed]
  exact recorded_filter_le sameId

end Scanning

/-- A scanner that finds the same matches every time, and whose rules name them by their ids. -/
def idGrype (found : List Match) : Grype := fun config =>
  match ignoreRules config with
  | none => (1, [])
  | some rules =>
      let report := found.filter fun entry => !rules.any fun rule => decide (entry.id = rule)
      (if report.any severe then 2 else 0, report)

theorem idGrype_documented (found : List Match) :
    (idGrype found).Documented found fun entry rule => decide (entry.id = rule) := by
  constructor
  · intro config rules read
    unfold idGrype
    rw [read]
  · intro config rules read
    unfold idGrype
    rw [read]

def bifrostMatches : List Match :=
  [{ id := "CVE-2024-24790", severity := "Critical", fixVersions := ["1.21.11"],
      dataSource := none, artifactName := "stdlib", artifactType := "go-module", purl := none,
      paths := ["/usr/bin/podman"] },
    { id := "CVE-2024-36971", severity := "High", fixVersions := ["5.14.0-427"],
      dataSource := none, artifactName := "kernel-headers", artifactType := "rpm", purl := none,
      paths := [] }]

def globalAllowed : AllowedVulnerabilities :=
  ⟨[("global_allowed_vulnerabilities", ["CVE-2026-56857"])], by decide⟩

def bifrostAllowed : AllowedVulnerabilities :=
  ⟨[("global_allowed_vulnerabilities", ["CVE-2026-56857"]),
    ("bifrost_deploy_allowed_vulnerabilities", ["CVE-2024-24790"])], by decide⟩

def bifrostImage : String := "ark.stackhpc.com/stackhpc-dev/bifrost-deploy:2026.1-rocky-10"

theorem bifrostAllowed_wellFormed : bifrostAllowed.WellFormed := by
  intro name items found item member
  rw [← Dict.mem_entries_iff] at found
  simp only [bifrostAllowed, List.mem_cons, Prod.mk.injEq, List.not_mem_nil, or_false] at found
  rcases found with ⟨rfl, rfl⟩ | ⟨rfl, rfl⟩
  · rw [List.mem_singleton] at member
    subst member
    exact ⟨by decide, List.all_eq_true.mp (by decide +kernel)⟩
  · rw [List.mem_singleton] at member
    subst member
    exact ⟨by decide, List.all_eq_true.mp (by decide +kernel)⟩

theorem clean_iff_allowed_bifrost :
    scanAllowing (idGrype bifrostMatches) bifrostAllowed bifrostImage ⟨[], [], []⟩ =
      some ⟨[bifrostImage], [], []⟩ := by
  refine (clean_iff_allowed (idGrype_documented bifrostMatches) bifrostAllowed_wellFormed).mpr ?_
  intro entry selected
  obtain ⟨member, _, outside⟩ := (mem_selectedMatches _ _).mp selected
  simp only [bifrostMatches, List.mem_cons, List.not_mem_nil, or_false] at member
  rcases member with rfl | rfl
  · refine ⟨"CVE-2024-24790", .image ⟨["CVE-2024-24790"], ?_, List.mem_singleton.mpr rfl⟩, ?_⟩
    · decide +kernel
    · exact decide_eq_true rfl
  · exact absurd outside (by decide +kernel)

theorem globalAllowed_wellFormed : globalAllowed.WellFormed := by
  intro name items found
  apply bifrostAllowed_wellFormed name items
  rw [← Dict.mem_entries_iff] at found ⊢
  exact List.mem_cons.mpr (.inl (List.mem_singleton.mp found))

theorem allowing_more_le_bifrost :
    ∃ before after : Category,
      scanAllowing (idGrype bifrostMatches) globalAllowed bifrostImage ⟨[], [], []⟩ =
        some (ScanOutput.record ⟨[], [], []⟩ bifrostImage before) ∧
      scanAllowing (idGrype bifrostMatches) bifrostAllowed bifrostImage ⟨[], [], []⟩ =
        some (ScanOutput.record ⟨[], [], []⟩ bifrostImage after) ∧
      after.level ≤ before.level := by
  refine allowing_more_le (idGrype_documented bifrostMatches) ?_ globalAllowed_wellFormed
    bifrostAllowed_wellFormed ?_
  · intro first second same
    rw [same]
  · rintro name id ⟨items, found, member⟩
    refine ⟨items, ?_, member⟩
    rw [← Dict.mem_entries_iff] at found ⊢
    exact List.mem_cons.mpr (.inl (List.mem_singleton.mp found))

end ScanImages
