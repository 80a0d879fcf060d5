import KayobeConfig.ScanImages.Summary

/-!
Which list an image is put on. The script looks for a word in the whole summary, and
the summary has the severity of the first match of each vulnerability only.
-/

namespace ScanImages

open Library

/-- The list on which the report's worst match outside kernel packages puts an image. -/
def triage (report : List Match) : Category :=
  if ∃ entry ∈ report, nonKernel entry ∧ severityIs "critical" entry then .critical
  else if ∃ entry ∈ report, nonKernel entry ∧ severityIs "high" entry then .high
  else .clean

def Mentions (text : String) : Prop := critical <:+: text.toList

def FirstOfId (report : List Match) (entry : Match) : Prop :=
  (selectedMatches report).find? (fun other => other.id = entry.id) = some entry

def OriginMentions (first : Match) : Prop :=
  (∃ purl ∈ first.purl, Mentions purl) ∨ (∃ version ∈ first.fixVersions, Mentions version) ∨
    ∃ url ∈ first.dataSource, Mentions url

/-- The word is in some text of the summary other than a severity. -/
def ShowsWord (report : List Match) : Prop :=
  ∃ entry ∈ selectedMatches report,
    Mentions entry.artifactName ∨ (∃ path, some path ∈ entry.paths ∧ Mentions path) ∨
      Mentions entry.id ∨ FirstOfId report entry ∧ OriginMentions entry

theorem critical_nonempty : critical ≠ [] := by decide

theorem critical_oneLine : '\n' ∉ critical := by decide

theorem grepCount_pos {word : List Char} (nonempty : word ≠ []) (oneLine : '\n' ∉ word)
    (text : List Char) : 0 < grepCount word text ↔ word <:+: text := by
  unfold grepCount
  have joined : ['\n'].intercalate (text.splitOn '\n') = text := List.intercalate_splitOn '\n'
  rw [List.countP_pos_iff]
  simp only [decide_eq_true_eq]
  rw [← infix_intercalate nonempty oneLine, joined]

theorem infix_rows {word : List Char} (nonempty : word ≠ []) (oneLine : '\n' ∉ word)
    (groups : List (List Match)) :
    (word <:+: groups.flatMap fun group => csvLine (summaryFields group) ++ ['\n']) ↔
      ∃ group ∈ groups, word <:+: csvLine (summaryFields group) := by
  induction groups with
  | nil => simp [nonempty]
  | cons group groups ih =>
      rw [List.flatMap_cons, List.append_assoc, List.singleton_append,
        infix_append_separator oneLine, ih]
      exact (List.exists_mem_cons_iff (fun group => word <:+: csvLine (summaryFields group)) group
        groups).symm

theorem mentions_joinTexts (texts : List String) :
    Mentions (joinTexts texts) ↔ ∃ text ∈ texts, Mentions text := by
  unfold Mentions joinTexts
  rw [String.toList_ofList, infix_intercalate critical_nonempty (by decide)]
  simp

theorem mem_uniqueSorted (texts : List String) (text : String) :
    text ∈ uniqueSorted texts ↔ text ∈ texts := by
  unfold uniqueSorted
  rw [mem_sortedBy, mem_unique]

theorem mem_selectedMatches (report : List Match) (entry : Match) :
    entry ∈ selectedMatches report ↔ entry ∈ report ∧
      (severityIs "high" entry ∨ severityIs "critical" entry) ∧ nonKernel entry := by
  simp [selectedMatches, List.mem_filter]

theorem mentions_severity {entry : Match} (level : String)
    (isLevel : severityIs level entry = true) :
    Mentions (asciiUpper entry.severity) ↔ critical <:+: level.toList.map Char.toUpper := by
  unfold Mentions asciiUpper
  rw [String.toList_ofList]
  unfold severityIs beforeEnd at isLevel
  simp only [Bool.or_eq_true, Bool.and_eq_true, beq_iff_eq] at isLevel
  -- The pattern also accepts a severity with a newline at its end.
  rcases isLevel with whole | ⟨newline, front⟩
  · rw [whole]
  · have wordless : ¬critical <:+: [] := by decide
    rw [← List.dropLast_append_getLast? '\n' newline, List.map_append, front]
    exact (infix_append_separator critical_oneLine _ []).trans (or_iff_left wordless)

theorem mentions_names (group : List Match) :
    Mentions (joinTexts (uniqueSorted (group.map Match.artifactName))) ↔
      ∃ entry ∈ group, Mentions entry.artifactName := by
  rw [mentions_joinTexts]
  simp only [mem_uniqueSorted, List.mem_map, exists_exists_and_eq_and]

theorem mentions_paths (group : List Match) :
    Mentions (joinTexts (uniqueSorted (group.flatMap fun entry => entry.paths.reduceOption))) ↔
      ∃ entry ∈ group, ∃ path, some path ∈ entry.paths ∧ Mentions path := by
  rw [mentions_joinTexts]
  simp only [mem_uniqueSorted, List.mem_flatMap, List.reduceOption_mem_iff]
  constructor
  · rintro ⟨path, ⟨entry, member, located⟩, mentioned⟩
    exact ⟨entry, member, path, located, mentioned⟩
  · rintro ⟨entry, member, path, located, mentioned⟩
    exact ⟨path, ⟨entry, member, located⟩, mentioned⟩

def RowMentions (first : Match) : Prop :=
  Mentions first.id ∨ OriginMentions first ∨ Mentions (asciiUpper first.severity)

theorem mentions_fields {group : List Match} {first : Match} (heads : group.head? = some first) :
    critical <:+: csvLine (summaryFields group) ↔
      (∃ entry ∈ group, Mentions entry.artifactName ∨
        ∃ path, some path ∈ entry.paths ∧ Mentions path) ∨ RowMentions first := by
  have names := mentions_names group
  have paths := mentions_paths group
  have versions := mentions_joinTexts first.fixVersions
  unfold Mentions at names paths versions
  rw [infix_csvLine critical_nonempty (by decide) (by decide)]
  unfold summaryFields RowMentions OriginMentions Mentions
  rw [heads]
  simp only [List.exists_mem_cons_iff, List.not_mem_nil, false_and, exists_false, or_false,
    Option.bind_some, Option.map_some, Option.getD_some, Option.mem_some_iff,
    exists_eq_left', names, paths, versions, exists_or, and_or_left, or_assoc]
  exact or_congr_right (or_congr_right or_left_comm)

theorem mem_groupById {entries group : List Match} :
    group ∈ groupById entries ↔
      ∃ entry ∈ entries, (entries.filter fun other => other.id = entry.id) = group := by
  unfold groupById
  simp [mem_uniqueSorted]

theorem groupById_eq_nil {entries : List Match} : groupById entries = [] ↔ entries = [] := by
  unfold groupById
  rw [List.map_eq_nil_iff, List.eq_nil_iff_forall_not_mem, List.eq_nil_iff_forall_not_mem]
  simp [mem_uniqueSorted]

theorem firstOfId_exists {report : List Match} {entry : Match}
    (selected : entry ∈ selectedMatches report) :
    ∃ first ∈ selectedMatches report, first.id = entry.id ∧ FirstOfId report first := by
  have present : ((selectedMatches report).find? fun other => other.id = entry.id).isSome :=
    List.find?_isSome.mpr ⟨entry, selected, by simp⟩
  obtain ⟨first, found⟩ := Option.isSome_iff_exists.mp present
  have same : first.id = entry.id := by simpa using List.find?_some found
  refine ⟨first, List.mem_of_find?_eq_some found, same, ?_⟩
  unfold FirstOfId
  rw [same]
  exact found

theorem head?_group {report : List Match} {first : Match} (firstOfId : FirstOfId report first) :
    ((selectedMatches report).filter fun other => other.id = first.id).head? = some first := by
  rw [List.head?_filter]
  exact firstOfId

theorem mentions_firstSeverity {report : List Match} {entry : Match}
    (selected : entry ∈ selectedMatches report) :
    Mentions (asciiUpper entry.severity) ↔ severityIs "critical" entry := by
  obtain ⟨_, levels, _⟩ := (mem_selectedMatches report entry).mp selected
  by_cases isCritical : severityIs "critical" entry = true
  · have word := mentions_severity "critical" isCritical
    exact iff_of_true (word.mpr (by decide)) isCritical
  · have isHigh := levels.resolve_right isCritical
    have word := mentions_severity "high" isHigh
    exact iff_of_false (fun mentioned => absurd (word.mp mentioned) (by decide)) isCritical

theorem mentions_groups (report : List Match) :
    (∃ group ∈ groupById (selectedMatches report), critical <:+: csvLine (summaryFields group)) ↔
      ∃ entry ∈ selectedMatches report, ∃ first ∈ selectedMatches report,
        FirstOfId report first ∧ first.id = entry.id ∧
          ((Mentions entry.artifactName ∨ ∃ path, some path ∈ entry.paths ∧ Mentions path) ∨
            RowMentions first) := by
  constructor
  · rintro ⟨group, grouped, mentioned⟩
    obtain ⟨entry, selected, rfl⟩ := mem_groupById.mp grouped
    obtain ⟨first, firstSelected, sameId, firstOfId⟩ := firstOfId_exists selected
    rw [← sameId] at mentioned
    rcases (mentions_fields (head?_group firstOfId)).mp mentioned with
      ⟨shown, member, texts⟩ | row
    · obtain ⟨shownSelected, shownId⟩ := List.mem_filter.mp member
      have shownId : shown.id = first.id := by simpa using shownId
      exact ⟨shown, shownSelected, first, firstSelected, firstOfId, shownId.symm, Or.inl texts⟩
    · exact ⟨entry, selected, first, firstSelected, firstOfId, sameId, Or.inr row⟩
  · rintro ⟨entry, selected, first, _, firstOfId, sameId, texts⟩
    refine ⟨_, mem_groupById.mpr ⟨entry, selected, rfl⟩, ?_⟩
    rw [← sameId]
    apply (mentions_fields (head?_group firstOfId)).mpr
    refine texts.imp_left fun texts => ⟨entry, ?_, texts⟩
    exact List.mem_filter.mpr ⟨selected, by simp [sameId]⟩

theorem mentions_summary (report : List Match) :
    critical <:+: generateSummaryCsv report ↔
      (∃ entry ∈ selectedMatches report, FirstOfId report entry ∧ severityIs "critical" entry) ∨
        ShowsWord report := by
  have headerless : ¬critical <:+: summaryHeader.toList := by decide +kernel
  unfold generateSummaryCsv summaryRows
  rw [infix_append_separator critical_oneLine, or_iff_right headerless,
    infix_rows critical_nonempty critical_oneLine, mentions_groups]
  constructor
  · rintro ⟨entry, selected, first, firstSelected, firstOfId, _,
      (name | path) | inId | origin | severity⟩
    · exact Or.inr ⟨entry, selected, Or.inl name⟩
    · exact Or.inr ⟨entry, selected, Or.inr (Or.inl path)⟩
    · exact Or.inr ⟨first, firstSelected, Or.inr (Or.inr (Or.inl inId))⟩
    · exact Or.inr ⟨first, firstSelected, Or.inr (Or.inr (Or.inr ⟨firstOfId, origin⟩))⟩
    · have isCritical := (mentions_firstSeverity firstSelected).mp severity
      exact Or.inl ⟨first, firstSelected, firstOfId, isCritical⟩
  · rintro (⟨first, selected, firstOfId, isCritical⟩ | ⟨entry, selected, texts⟩)
    · have severity := (mentions_firstSeverity selected).mpr isCritical
      exact ⟨first, selected, first, selected, firstOfId, rfl, Or.inr (Or.inr (Or.inr severity))⟩
    · obtain ⟨first, firstSelected, sameId, firstOfId⟩ := firstOfId_exists selected
      rcases texts with name | path | inId | ⟨entryFirst, origin⟩
      · exact ⟨entry, selected, first, firstSelected, firstOfId, sameId, Or.inl (Or.inl name)⟩
      · exact ⟨entry, selected, first, firstSelected, firstOfId, sameId, Or.inl (Or.inr path)⟩
      · rw [← sameId] at inId
        exact ⟨entry, selected, first, firstSelected, firstOfId, sameId, Or.inr (Or.inl inId)⟩
      · exact ⟨entry, selected, entry, selected, entryFirst, rfl, Or.inr (Or.inr (Or.inl origin))⟩

theorem afterFirstLine_summary (report : List Match) :
    afterFirstLine (generateSummaryCsv report) = summaryRows report := by
  unfold afterFirstLine generateSummaryCsv
  rw [splitFirst_append (by decide)]
  rfl

theorem summaryRows_count_eq_zero (report : List Match) :
    (summaryRows report).count '\n' = 0 ↔ selectedMatches report = [] := by
  rw [← groupById_eq_nil, List.count_eq_zero, List.eq_nil_iff_forall_not_mem]
  unfold summaryRows
  simp [List.mem_flatMap]

def recorded (report : List Match) : Category :=
  if selectedMatches report = [] then .clean
  else if critical <:+: generateSummaryCsv report then .critical else .high

theorem scanImage_recorded (image : String) (report : List Match) (output : ScanOutput) :
    scanImage image 2 report output = some (output.record image (recorded report)) := by
  unfold scanImage recorded categoriseImage
  have counted := grepCount_pos critical_nonempty critical_oneLine (generateSummaryCsv report)
  simp only [afterFirstLine_summary, summaryRows_count_eq_zero, gt_iff_lt, counted]
  split_ifs <;> first | rfl | contradiction

theorem record_injective (image : String) (output : ScanOutput) :
    Function.Injective (output.record image) := by
  intro category other same
  cases category <;> cases other <;>
    simp_all [ScanOutput.record, ScanOutput.mk.injEq]

theorem exists_critical (report : List Match) :
    (∃ entry ∈ report, nonKernel entry ∧ severityIs "critical" entry) ↔
      ∃ entry ∈ selectedMatches report, severityIs "critical" entry := by
  simp only [mem_selectedMatches]
  constructor
  · rintro ⟨entry, member, outside, isCritical⟩
    exact ⟨entry, ⟨member, Or.inr isCritical, outside⟩, isCritical⟩
  · rintro ⟨entry, ⟨member, _, outside⟩, isCritical⟩
    exact ⟨entry, member, outside, isCritical⟩

theorem triage_eq (report : List Match) :
    triage report =
      if selectedMatches report = [] then .clean
      else if ∃ entry ∈ selectedMatches report, severityIs "critical" entry then .critical
      else .high := by
  unfold triage
  simp only [exists_critical]
  by_cases none : selectedMatches report = []
  · have outside : ¬∃ entry ∈ report, nonKernel entry ∧ severityIs "high" entry := by
      rintro ⟨entry, member, outside, isHigh⟩
      have selected := (mem_selectedMatches report entry).mpr ⟨member, Or.inl isHigh, outside⟩
      simp [none] at selected
    rw [if_pos none, if_neg outside, if_neg (by simp [none])]
  · rw [if_neg none]
    split
    · rfl
    · rename_i noCritical
      obtain ⟨entry, selected⟩ := List.exists_mem_of_ne_nil _ none
      obtain ⟨member, levels, outside⟩ := (mem_selectedMatches report entry).mp selected
      have isHigh := levels.resolve_right fun isCritical => noCritical ⟨entry, selected, isCritical⟩
      exact if_pos ⟨entry, member, outside, isHigh⟩

theorem scanImage_triage_iff (image : String) (report : List Match) (output : ScanOutput) :
    scanImage image 2 report output = some (output.record image (triage report)) ↔
      ((∃ entry ∈ selectedMatches report, severityIs "critical" entry) →
        (∃ entry ∈ selectedMatches report, FirstOfId report entry ∧ severityIs "critical" entry) ∨
          ShowsWord report) ∧
      (ShowsWord report → ∃ entry ∈ selectedMatches report, severityIs "critical" entry) := by
  rw [scanImage_recorded, Option.some.injEq, (record_injective image output).eq_iff, triage_eq]
  unfold recorded
  have inSummary := mentions_summary report
  by_cases none : selectedMatches report = []
  · have wordless : ¬ShowsWord report := by
      rintro ⟨entry, selected, _⟩
      simp [none] at selected
    simp [none, wordless]
  · have dropFirst (found : ∃ entry ∈ selectedMatches report, FirstOfId report entry ∧
        severityIs "critical" entry) : ∃ entry ∈ selectedMatches report, severityIs "critical" entry := by
      obtain ⟨entry, selected, _, isCritical⟩ := found
      exact ⟨entry, selected, isCritical⟩
    rw [if_neg none, if_neg none]
    split_ifs with shown isCritical isCritical
    · exact iff_of_true rfl ⟨fun _ => inSummary.mp shown, fun _ => isCritical⟩
    · refine iff_of_false (by decide) fun condition => isCritical ?_
      exact (inSummary.mp shown).elim dropFirst condition.2
    · refine iff_of_false (by decide) fun condition => shown ?_
      exact inSummary.mpr (condition.1 isCritical)
    · exact iff_of_true rfl ⟨fun found => absurd found isCritical,
        fun word => absurd (inSummary.mpr (Or.inr word)) shown⟩

def mixedReport : List Match :=
  [{ id := "CVE-2024-6119", severity := "High", fixVersions := ["3.0.7-28"], dataSource := none,
      artifactName := "openssl", artifactType := "rpm", purl := none, paths := [] },
    { id := "CVE-2024-6119", severity := "Critical", fixVersions := ["3.0.7-28"],
      dataSource := none, artifactName := "openssl-libs", artifactType := "rpm", purl := none,
      paths := [] }]

theorem scanImage_mixedReport :
    triage mixedReport = .critical ∧
      scanImage "nova-api" 2 mixedReport ⟨[], [], []⟩ = some ⟨[], ["nova-api"], []⟩ := by
  decide +kernel

end ScanImages
