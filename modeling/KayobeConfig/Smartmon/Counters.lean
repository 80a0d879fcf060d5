import KayobeConfig.Smartmon.Robustness

/-!
Which NVMe counters are exported. The health log stands in for pySMART only where the
attribute is absent, while pySMART's own value is exported only where it is a number.
-/

namespace Smartmon

open Library

variable {R : PyRuntime}

def counters : List String := ["data_units_read", "data_units_written"] ++ nvmeHealthMetrics

def numberOf (value : PyValue R.Float) : Option R.Float := (floatOfNumber value).bind Except.toOption

def coerced (value : PyValue R.Float) : Option R.Float := (coerceNumeric value).toOption.join

def nvmeAnswer (device : Device R) (smartctl : List String → Response R) : Response R :=
  smartctl (smartctlCommand (canonicalDevicePath device.name) (device.interface.getD "") ["-x"])

def healthLogOf : Response R → List (String × PyValue R.Float)
  | .json (.dict entries) => dictOrEmpty (fieldValue entries "nvme_smart_health_information_log")
  | _ => []

/-- The number of a counter, of which pySMART's has priority. -/
def knownNumber (device : Device R) (healthLog : List (String × PyValue R.Float)) (key : String) :
    Option R.Float :=
  (((attrValues device).get? key).bind numberOf).or (coerced (healthValue healthLog key))

def named (lines : List (MetricLine R)) (key : String) : List (MetricLine R) :=
  lines.filter fun line => line.name = "smartmon_" ++ key

def counterLines (device : Device R) (key : String) (number : Option R.Float) :
    List (MetricLine R) :=
  number.toList.map (nvmeLine device ("smartmon_" ++ key))

/-- Both producers return, and their lines for the counter are the one it should have. -/
def ExportedOnce (ratings : Dict String R.Float) (device : Device R)
    (smartctl : List String → Response R) (key : String) : Prop :=
  ∃ attributes nvme, parseIfAttributes device = .ok attributes ∧
    collectNvmeMetrics ratings device smartctl = .ok nvme ∧
    named (attributes ++ nvme) key =
      counterLines device key (knownNumber device (healthLogOf (nvmeAnswer device smartctl)) key)

/-- Where pySMART has a value that is not a number, the health log has no number either. -/
def NoNumberHidden (device : Device R) (healthLog : List (String × PyValue R.Float))
    (key : String) : Prop :=
  ∀ value, (attrValues device).get? key = some value →
    (numberOf value).isSome ∨ coerced (healthValue healthLog key) = none

def attrLine (device : Device R) (attr : String × PyValue R.Float) : Option (MetricLine R) :=
  if camelToSnake R attr.1 ∈ smartmonAttrs then
    (numberOf attr.2).map (nvmeLine device ("smartmon_" ++ camelToSnake R attr.1))
  else none

/-- The lines of a counter that the NVMe collector adds. -/
def addedLines (device : Device R) (healthLog : List (String × PyValue R.Float)) (key : String) :
    List (MetricLine R) :=
  if ((attrValues device).get? key).isSome then []
  else counterLines device key (coerced (healthValue healthLog key))

theorem named_append (lines others : List (MetricLine R)) (key : String) :
    named (lines ++ others) key = named lines key ++ named others key :=
  List.filter_append ..

theorem named_counterLines (device : Device R) (key other : String) (number : Option R.Float) :
    named (counterLines device other number) key =
      if other = key then counterLines device key number else [] := by
  unfold named counterLines
  cases number with
  | none => simp
  | some value =>
      by_cases same : other = key
      · simp [same, nvmeLine, diskLine]
      · simp [same, nvmeLine, diskLine, String.append_right_inj]

theorem addedLines_named (device : Device R) (healthLog : List (String × PyValue R.Float))
    (key other : String) :
    named (addedLines device healthLog key) other =
      if key = other then addedLines device healthLog other else [] := by
  by_cases same : key = other
  · subst other
    rw [if_pos rfl]
    unfold addedLines
    split
    · rfl
    · rw [named_counterLines, if_pos rfl]
  · rw [if_neg same]
    unfold addedLines
    split
    · rfl
    · rw [named_counterLines, if_neg same]

theorem parseIfAttribute_ok {device : Device R} {attr : String × PyValue R.Float}
    {line : Option (MetricLine R)} (parsed : parseIfAttribute device attr = .ok line) :
    line = attrLine device attr := by
  unfold parseIfAttribute at parsed
  unfold attrLine numberOf
  dsimp only at parsed
  cases held : floatOfNumber attr.2 with
  | none =>
      rw [held] at parsed
      cases parsed
      simp
  | some converted =>
      simp only [held] at parsed
      split at parsed
      · rename_i listed
        obtain ⟨value, rfl, same⟩ := except_bind_ok.mp parsed
        cases same
        rw [if_pos listed]
        rfl
      · rename_i unlisted
        cases parsed
        rw [if_neg unlisted]

theorem parseIfAttributes_ok {device : Device R} {lines : List (MetricLine R)}
    (parsed : parseIfAttributes device = .ok lines) :
    lines = (publicAttributes device).filterMap (attrLine device) := by
  obtain ⟨found, mapped, same⟩ := except_bind_ok.mp parsed
  cases same
  have related := (mapM_ok_iff _ _ _).mp mapped
  clear mapped parsed
  generalize publicAttributes device = attrs at related ⊢
  induction related with
  | nil => rfl
  | @cons attr line attrs found step _ ih =>
      rw [parseIfAttribute_ok step, List.filterMap_cons]
      cases attrLine device attr with
      | none => exact ih
      | some line => exact congrArg (line :: ·) ih

theorem attrLine_lines (device : Device R) (attr : String × PyValue R.Float) :
    [attr].filterMap (attrLine device) = counterLines device (camelToSnake R attr.1)
      (if camelToSnake R attr.1 ∈ smartmonAttrs then numberOf attr.2 else none) := by
  unfold attrLine counterLines
  by_cases listed : camelToSnake R attr.1 ∈ smartmonAttrs
  · simp only [List.filterMap_cons, List.filterMap_nil, if_pos listed]
    cases numberOf attr.2 <;> rfl
  · simp [listed]

theorem named_attrLines (device : Device R) (attrs : List (String × PyValue R.Float))
    (distinct : (attrs.map fun attr => camelToSnake R attr.1).Nodup) {key : String}
    (listed : key ∈ smartmonAttrs) :
    named (attrs.filterMap (attrLine device)) key = counterLines device key
      (((attrs.foldl (fun values attr => values.set (camelToSnake R attr.1) attr.2)
        Dict.empty).get? key).bind numberOf) := by
  induction attrs using List.reverseRecOn with
  | nil => rfl
  | append_singleton earlier last ih =>
      rw [List.map_append, List.nodup_append] at distinct
      rw [List.filterMap_append, named_append, ih distinct.1, attrLine_lines, named_counterLines,
        List.foldl_append, List.foldl_cons, List.foldl_nil, Dict.get?_set]
      by_cases same : camelToSnake R last.1 = key
      · have fresh : ∀ attr ∈ earlier, camelToSnake R attr.1 ≠ key := by
          intro attr member
          rw [← same]
          exact distinct.2.2 _ (List.mem_map_of_mem member) _ (by simp)
        rw [Dict.get?_foldl_set _ _ _ _ fresh, if_pos same, if_pos same.symm, same, if_pos listed]
        rfl
      · rw [if_neg same, if_neg (Ne.symm same), List.append_nil]

theorem numericValue_absent (source : PyValue R.Float) :
    numericValue [.none, source] = coerceNumeric source := by
  have missing : coerceNumeric (.none : PyValue R.Float) = .ok none := rfl
  simp only [numericValue, missing, ok_bind]
  cases coerceNumeric source with
  | error failure => rfl
  | ok number => cases number <;> rfl

theorem numericValue_single (source : PyValue R.Float) :
    numericValue [source] = coerceNumeric source := by
  simp only [numericValue]
  cases coerceNumeric source with
  | error failure => rfl
  | ok number => cases number <;> rfl

theorem coerced_of_ok {source : PyValue R.Float} {number : Option R.Float}
    (found : coerceNumeric source = .ok number) : coerced source = number := by
  unfold coerced
  rw [found]
  rfl

theorem dataUnitLines_added {device : Device R} {healthLog : List (String × PyValue R.Float)}
    {key terabytes : String} {lines : List (MetricLine R)}
    (collected : dataUnitLines device healthLog key terabytes = .ok lines) :
    ∃ converted, lines = addedLines device healthLog key ++ converted ∧
      ∀ line ∈ converted, line.name = terabytes := by
  obtain ⟨units, found, continued⟩ := except_bind_ok.mp collected
  unfold addedLines
  cases present : (attrValues device).get? key with
  | some value =>
      cases units with
      | none =>
          cases continued
          exact ⟨[], rfl, by simp⟩
      | some units =>
          simp only [present] at continued
          cases continued
          exact ⟨_, rfl, by simp [nvmeLine, diskLine]⟩
  | none =>
      have absent : attrValue device key = .none := by simp [attrValue, present]
      rw [absent, numericValue_absent] at found
      rw [coerced_of_ok found]
      cases units with
      | none =>
          cases continued
          exact ⟨[], rfl, by simp⟩
      | some units =>
          simp only [present] at continued
          cases continued
          exact ⟨_, rfl, by simp [nvmeLine, diskLine]⟩

theorem dataUnitLines_named {device : Device R} {healthLog : List (String × PyValue R.Float)}
    {key terabytes : String} {lines : List (MetricLine R)}
    (collected : dataUnitLines device healthLog key terabytes = .ok lines) {other : String}
    (differs : terabytes ≠ "smartmon_" ++ other) :
    named lines other = if key = other then addedLines device healthLog other else [] := by
  obtain ⟨converted, rfl, name⟩ := dataUnitLines_added collected
  have unnamed : named converted other = [] := by
    unfold named
    rw [List.filter_eq_nil_iff]
    intro line member
    simp [name line member, differs]
  rw [named_append, addedLines_named, unnamed, List.append_nil]

theorem healthLines_named {device : Device R} {healthLog : List (String × PyValue R.Float)}
    {key : String} {lines : List (MetricLine R)}
    (collected : healthLines device healthLog key = .ok lines) (other : String) :
    named lines other = if key = other then addedLines device healthLog other else [] := by
  have same : lines = addedLines device healthLog key := by
    unfold healthLines at collected
    unfold addedLines
    split at collected
    · rename_i present
      cases collected
      rw [if_pos present]
    · rename_i absent
      rw [if_neg absent]
      obtain ⟨number, found, continued⟩ := except_bind_ok.mp collected
      rw [numericValue_single] at found
      rw [coerced_of_ok found]
      cases number with
      | none =>
          cases continued
          rfl
      | some value =>
          cases continued
          rfl
  rw [same]
  exact addedLines_named device healthLog key other

theorem capacityLines_named (device : Device R) (totalCapacity unallocated : Option R.Float)
    (ratedDwpd : R.Float) {key : String} (counter : key ∈ counters) :
    named (capacityLines device totalCapacity unallocated ratedDwpd) key = [] := by
  have others : ∀ key ∈ counters, ∀ name ∈ ["smartmon_nvme_total_capacity_bytes",
      "smartmon_physical_size_bytes", "smartmon_nvme_rated_dwpd",
      "smartmon_nvme_unallocated_capacity_bytes"], name ≠ "smartmon_" ++ key := by
    decide
  have differs := others key counter
  simp only [List.forall_mem_cons] at differs
  obtain ⟨total, physical, rated, free, _⟩ := differs
  unfold named capacityLines
  cases totalCapacity <;> cases unallocated <;>
    simp [nvmeLine, diskLine, total, physical, rated, free]

theorem healthLines_flatten {device : Device R} {healthLog : List (String × PyValue R.Float)}
    {keys : List String} {found : List (List (MetricLine R))}
    (related : List.Forall₂ (fun key lines => healthLines device healthLog key = .ok lines) keys found)
    (other : String) :
    named found.flatten other =
      keys.flatMap fun key => if key = other then addedLines device healthLog other else [] := by
  induction related with
  | nil => rfl
  | @cons key lines keys found collected _ ih =>
      rw [List.flatten_cons, named_append, ih, healthLines_named collected, List.flatMap_cons]

theorem flatMap_only {α : Type} (keys : List String) (distinct : keys.Nodup) {key : String}
    (member : key ∈ keys) (lines : List α) :
    (keys.flatMap fun name => if name = key then lines else []) = lines := by
  induction keys with
  | nil => cases member
  | cons first rest ih =>
      rw [List.nodup_cons] at distinct
      rw [List.flatMap_cons]
      by_cases same : first = key
      · have absent : (rest.flatMap fun name => if name = key then lines else []) = [] := by
          rw [List.flatMap_eq_nil_iff]
          intro name among
          rw [if_neg]
          rintro rfl
          exact distinct.1 (same ▸ among)
        rw [if_pos same, absent, List.append_nil]
      · rw [if_neg same, List.nil_append]
        exact ih distinct.2 ((List.mem_cons.mp member).resolve_left (Ne.symm same))

theorem healthLogOf_answer {device : Device R} {smartctl : List String → Response R}
    {nvmeJson healthLog : PyValue R.Float}
    (answered : smartctlJson smartctl (canonicalDevicePath device.name) (device.interface.getD "")
      ["-x"] = .ok nvmeJson)
    (logged : dictGet nvmeJson "nvme_smart_health_information_log" .none = .ok healthLog) :
    dictOrEmpty healthLog = healthLogOf (nvmeAnswer device smartctl) := by
  unfold smartctlJson at answered
  unfold healthLogOf nvmeAnswer
  split at answered
  · cases answered
  · rename_i value response
    cases answered
    rw [response]
    cases nvmeJson with
    | dict entries =>
        cases logged
        rfl
    | _ => cases logged

theorem collectNvmeMetrics_named {ratings : Dict String R.Float} {device : Device R}
    {smartctl : List String → Response R} {lines : List (MetricLine R)}
    (collected : collectNvmeMetrics ratings device smartctl = .ok lines) {key : String}
    (counter : key ∈ counters) :
    named lines key = addedLines device (healthLogOf (nvmeAnswer device smartctl)) key := by
  have terabytes : ∀ key ∈ counters, "smartmon_nvme_terabytes_read_total" ≠ "smartmon_" ++ key ∧
      "smartmon_nvme_terabytes_written_total" ≠ "smartmon_" ++ key := by
    decide
  unfold collectNvmeMetrics at collected
  obtain ⟨nvmeJson, answered, collected⟩ := except_bind_ok.mp collected
  obtain ⟨modelName, _, collected⟩ := except_bind_ok.mp collected
  obtain ⟨healthLog, logged, collected⟩ := except_bind_ok.mp collected
  obtain ⟨userCapacity, _, collected⟩ := except_bind_ok.mp collected
  obtain ⟨namespaces, _, collected⟩ := except_bind_ok.mp collected
  obtain ⟨perNamespace, _, collected⟩ := except_bind_ok.mp collected
  obtain ⟨reportedCapacity, _, collected⟩ := except_bind_ok.mp collected
  obtain ⟨totalCapacity, _, collected⟩ := except_bind_ok.mp collected
  obtain ⟨reportedUnallocated, _, collected⟩ := except_bind_ok.mp collected
  obtain ⟨unallocated, _, collected⟩ := except_bind_ok.mp collected
  obtain ⟨dataRead, readLines, collected⟩ := except_bind_ok.mp collected
  obtain ⟨dataWritten, writtenLines, collected⟩ := except_bind_ok.mp collected
  obtain ⟨health, mapped, same⟩ := except_bind_ok.mp collected
  cases same
  have log := healthLogOf_answer answered logged
  rw [named_append, named_append, named_append, capacityLines_named _ _ _ _ counter,
    dataUnitLines_named readLines (terabytes key counter).1,
    dataUnitLines_named writtenLines (terabytes key counter).2,
    healthLines_flatten ((mapM_ok_iff _ _ _).mp mapped), log, List.nil_append]
  have only := flatMap_only counters (by decide) counter
    (addedLines device (healthLogOf (nvmeAnswer device smartctl)) key)
  unfold counters at only
  rw [List.flatMap_append, List.flatMap_cons, List.flatMap_singleton] at only
  exact only

theorem named_lines_iff {ratings : Dict String R.Float} {device : Device R}
    {smartctl : List String → Response R} {attributes nvme : List (MetricLine R)}
    (distinct : ((publicAttributes device).map fun attr => camelToSnake R attr.1).Nodup)
    (parsed : parseIfAttributes device = .ok attributes)
    (collected : collectNvmeMetrics ratings device smartctl = .ok nvme) {key : String}
    (counter : key ∈ counters) :
    named (attributes ++ nvme) key = counterLines device key
        (knownNumber device (healthLogOf (nvmeAnswer device smartctl)) key) ↔
      NoNumberHidden device (healthLogOf (nvmeAnswer device smartctl)) key := by
  have known : ∀ key ∈ counters, key ∈ smartmonAttrs := by decide
  have own : named attributes key =
      counterLines device key (((attrValues device).get? key).bind numberOf) := by
    rw [parseIfAttributes_ok parsed]
    exact named_attrLines device _ distinct (known key counter)
  rw [named_append, own, collectNvmeMetrics_named collected counter]
  unfold addedLines knownNumber NoNumberHidden
  cases held : (attrValues device).get? key with
  | none => simp [counterLines]
  | some value =>
      simp only [Option.bind_some, Option.isSome_some, if_true, List.append_nil,
        Option.some.injEq, forall_eq']
      cases numberOf value with
      | none => cases coerced (healthValue _ key) <;> simp [counterLines]
      | some number => simp

/-- A counter is exported once with the number it should have exactly when both producers
return and no attribute that is not a number hides a number of the health log. -/
theorem exportedOnce_iff (ratings : Dict String R.Float) (device : Device R)
    (smartctl : List String → Response R)
    (distinct : ((publicAttributes device).map fun attr => camelToSnake R attr.1).Nodup)
    (key : String) (counter : key ∈ counters) :
    ExportedOnce ratings device smartctl key ↔
      (∀ attr ∈ publicAttributes device, camelToSnake R attr.1 ∈ smartmonAttrs →
        ∀ value, attr.2 = .int value → (R.ofInt value).isSome) ∧
      NvmeReadable device (nvmeAnswer device smartctl) ∧
      NoNumberHidden device (healthLogOf (nvmeAnswer device smartctl)) key := by
  have readable : Succeeds (collectNvmeMetrics ratings device smartctl) ↔
      NvmeReadable device (nvmeAnswer device smartctl) :=
    collectNvmeMetrics_succeeds ratings device smartctl
  rw [← parseIfAttributes_succeeds, ← readable]
  constructor
  · rintro ⟨attributes, nvme, parsed, collected, once⟩
    exact ⟨⟨attributes, parsed⟩, ⟨nvme, collected⟩,
      (named_lines_iff distinct parsed collected counter).mp once⟩
  · rintro ⟨⟨attributes, parsed⟩, ⟨nvme, collected⟩, unhidden⟩
    exact ⟨attributes, nvme, parsed, collected,
      (named_lines_iff distinct parsed collected counter).mpr unhidden⟩

/-- pySMART knows one of the attributes but has not read it. -/
def unreadAttribute : Visit wholeRuntime :=
  { brokenNvme with
    device := { brokenNvme.device with ifAttributes := some [("dataUnitsRead", .none)] }
    smartctl _ := .json (.dict [("nvme_smart_health_information_log",
      .dict [("data_units_read", .int 1000), ("host_reads", .int 7)])]) }

theorem unreadAttribute_lost : ¬ExportedOnce Dict.empty unreadAttribute.device
    unreadAttribute.smartctl "data_units_read" := by
  rintro ⟨attributes, nvme, parsed, collected, once⟩
  have unhidden := (named_lines_iff (by decide) parsed collected (by decide)).mp once
  have logged : (coerced (healthValue (healthLogOf (nvmeAnswer unreadAttribute.device
      unreadAttribute.smartctl)) "data_units_read")).isSome = true := by
    decide +kernel
  rcases unhidden .none rfl with numbered | unlogged
  · cases numbered
  · rw [unlogged] at logged
    cases logged

theorem exportedOnce_iff_unreadAttribute :
    (knownNumber unreadAttribute.device
      (healthLogOf (nvmeAnswer unreadAttribute.device unreadAttribute.smartctl))
      "host_reads").isSome = true ∧
    ExportedOnce Dict.empty unreadAttribute.device unreadAttribute.smartctl "host_reads" := by
  refine ⟨by decide +kernel, (exportedOnce_iff Dict.empty unreadAttribute.device
    unreadAttribute.smartctl (by decide) "host_reads" (by decide)).mpr ⟨?_, ?_, ?_⟩⟩
  · simp [publicAttributes, unreadAttribute, brokenNvme]
  · exact (collectNvmeMetrics_succeeds Dict.empty _ _).mp (succeeds_iff_isOk.mpr (by decide +kernel))
  · intro value held
    cases held

end Smartmon
