import KayobeConfig.Smartmon.Exporter

/-!
Which lines a visit can produce: their metric names, their label names, and the
device strings their labels hold.
-/

namespace Smartmon

open Library

variable {R : PyRuntime}

def diskMetricNames : List String :=
  ["smartmon_device_smart_available", "smartmon_device_smart_enabled",
    "smartmon_device_smart_healthy", "smartmon_device_historical_temperature_failure",
    "smartmon_temperature", "smartmon_nvme_total_capacity_bytes", "smartmon_physical_size_bytes",
    "smartmon_nvme_rated_dwpd", "smartmon_nvme_unallocated_capacity_bytes",
    "smartmon_nvme_terabytes_read_total", "smartmon_nvme_terabytes_written_total"] ++
  smartmonAttrs.map fun name => "smartmon_" ++ name

def metricNames : List String :=
  ["smartmon_smartctl_version", "smartmon_smartctl_run", "smartmon_device_active",
    "smartmon_device_info"] ++ diskMetricNames

def labelKeys (name : String) : List String :=
  if name = "smartmon_smartctl_version" then ["version"]
  else if name = "smartmon_smartctl_run" then ["disk", "type"]
  else if name = "smartmon_device_active" then ["disk", "type", "serial_number"]
  else if name = "smartmon_device_info" then
    ["assessment", "device_model", "disk", "firmware_version", "model_family", "serial_number",
      "type", "vendor"]
  else ["disk", "serial_number", "type"]

structure DiskLine (device : Device R) (diskType : String) (line : MetricLine R) : Prop where
  named : line.name ∈ diskMetricNames
  labelled : line.labels = diskLabels device diskType
  valued : ∃ value, line.value = .float value

structure InfoLine (device : Device R) (line : MetricLine R) : Prop where
  named : line.name = "smartmon_device_info"
  labelled : line.labels = deviceInfoLabels device
  valued : ∃ value, line.value = .float value

theorem smartmonAttr_named {name : String} (known : name ∈ smartmonAttrs) :
    "smartmon_" ++ name ∈ diskMetricNames :=
  List.mem_append_right _ (List.mem_map.mpr ⟨name, known, rfl⟩)

theorem diskLine_known (device : Device R) (diskType : String) {name : String}
    (known : name ∈ diskMetricNames) (value : R.Float) :
    DiskLine device diskType (diskLine device diskType name value) :=
  ⟨known, rfl, value, rfl⟩

theorem statusLines_lines (device : Device R) :
    ∀ line ∈ statusLines device,
      InfoLine device line ∨ DiskLine device (device.interface.getD "None") line := by
  have status (name : String) (value : Bool) (known : name ∈ diskMetricNames) :
      DiskLine device (device.interface.getD "None") (statusLine device name value) :=
    diskLine_known device _ known _
  intro line member
  unfold statusLines at member
  rcases List.mem_append.mp member with base | health
  · rcases List.mem_pair.mp base with rfl | rfl
    · exact Or.inl ⟨rfl, rfl, _, rfl⟩
    · exact Or.inr (status _ _ (by decide))
  · right
    split at health
    · rcases List.mem_append.mp health with enabled | assessed
      · rw [List.mem_singleton.mp enabled]
        exact status _ _ (by decide)
      · split at assessed
        · rcases List.mem_pair.mp assessed with rfl | rfl
          · exact status _ _ (by decide)
          · exact status _ _ (by decide)
        · simp at assessed
    · simp at health

theorem parseDeviceInfo_lines {device : Device R} {lines : List (MetricLine R)}
    (parsed : parseDeviceInfo device = .ok lines) :
    ∀ line ∈ lines, InfoLine device line ∨ DiskLine device (device.interface.getD "None") line := by
  obtain ⟨temperature, converted, same⟩ := except_bind_ok.mp parsed
  cases same
  intro line member
  rcases List.mem_append.mp member with status | degrees
  · exact statusLines_lines device line status
  · right
    unfold temperatureLines at converted
    split at converted
    · cases converted
      simp at degrees
    · split at converted
      · cases converted
      · cases converted
        rw [List.mem_singleton.mp degrees]
        exact diskLine_known device _ (by decide) _

theorem parseIfAttributes_lines {device : Device R} {lines : List (MetricLine R)}
    (parsed : parseIfAttributes device = .ok lines) :
    ∀ line ∈ lines, DiskLine device (device.interface.getD "") line := by
  obtain ⟨found, mapped, same⟩ := except_bind_ok.mp parsed
  cases same
  intro line member
  have reported : some line ∈ found := List.reduceOption_mem_iff.mp member
  obtain ⟨attr, _, step⟩ :=
    forall₂_exists ((mapM_ok_iff _ _ _).mp mapped).flip reported
  simp only [parseIfAttribute] at step
  split at step
  · split at step
    · rename_i known
      obtain ⟨value, _, same⟩ := except_bind_ok.mp step
      cases same
      exact diskLine_known device _ (smartmonAttr_named known) value
    · cases step
  · cases step

theorem nvmeLine_known (device : Device R) {name : String} (known : name ∈ diskMetricNames)
    (value : R.Float) : DiskLine device (device.interface.getD "") (nvmeLine device name value) :=
  diskLine_known device _ known value

theorem dataUnitLines_lines {device : Device R} {healthLog : List (String × PyValue R.Float)}
    {key terabytes : String} {lines : List (MetricLine R)} (knownKey : key ∈ smartmonAttrs)
    (knownTerabytes : terabytes ∈ diskMetricNames)
    (collected : dataUnitLines device healthLog key terabytes = .ok lines) :
    ∀ line ∈ lines, DiskLine device (device.interface.getD "") line := by
  obtain ⟨units, _, continued⟩ := except_bind_ok.mp collected
  cases units with
  | none =>
      cases continued
      simp
  | some units =>
      cases continued
      intro line member
      rcases List.mem_append.mp member with raw | converted
      · split at raw
        · simp at raw
        · rw [List.mem_singleton.mp raw]
          exact nvmeLine_known device (smartmonAttr_named knownKey) _
      · rw [List.mem_singleton.mp converted]
        exact nvmeLine_known device knownTerabytes _

theorem healthLines_lines {device : Device R} {healthLog : List (String × PyValue R.Float)}
    {key : String} {lines : List (MetricLine R)} (known : key ∈ smartmonAttrs)
    (collected : healthLines device healthLog key = .ok lines) :
    ∀ line ∈ lines, DiskLine device (device.interface.getD "") line := by
  unfold healthLines at collected
  split at collected
  · cases collected
    simp
  · obtain ⟨value, _, continued⟩ := except_bind_ok.mp collected
    cases value with
    | none =>
        cases continued
        simp
    | some value =>
        cases continued
        intro line member
        rw [List.mem_singleton.mp member]
        exact nvmeLine_known device (smartmonAttr_named known) value

theorem capacityLines_lines (device : Device R) (totalCapacity unallocated : Option R.Float)
    (ratedDwpd : R.Float) : ∀ line ∈ capacityLines device totalCapacity unallocated ratedDwpd,
      DiskLine device (device.interface.getD "") line := by
  intro line member
  simp only [capacityLines, List.mem_append] at member
  rcases member with (total | rated) | free
  · cases totalCapacity with
    | none => simp at total
    | some capacity =>
        rcases List.mem_pair.mp total with rfl | rfl
        · exact nvmeLine_known device (by decide) capacity
        · exact nvmeLine_known device (by decide) capacity
  · rw [List.mem_singleton.mp rated]
    exact nvmeLine_known device (by decide) ratedDwpd
  · cases unallocated with
    | none => simp at free
    | some capacity =>
        rw [List.mem_singleton.mp free]
        exact nvmeLine_known device (by decide) capacity

theorem collectNvmeMetrics_lines {ratings : Dict String R.Float} {device : Device R}
    {smartctl : List String → Response R} {lines : List (MetricLine R)}
    (collected : collectNvmeMetrics ratings device smartctl = .ok lines) :
    ∀ line ∈ lines, DiskLine device (device.interface.getD "") line := by
  unfold collectNvmeMetrics at collected
  obtain ⟨nvmeJson, _, collected⟩ := except_bind_ok.mp collected
  obtain ⟨modelName, _, collected⟩ := except_bind_ok.mp collected
  obtain ⟨healthLog, _, collected⟩ := except_bind_ok.mp collected
  obtain ⟨userCapacity, _, collected⟩ := except_bind_ok.mp collected
  obtain ⟨namespaces, _, collected⟩ := except_bind_ok.mp collected
  obtain ⟨perNamespace, _, collected⟩ := except_bind_ok.mp collected
  obtain ⟨reportedCapacity, _, collected⟩ := except_bind_ok.mp collected
  obtain ⟨totalCapacity, _, collected⟩ := except_bind_ok.mp collected
  obtain ⟨reportedUnallocated, _, collected⟩ := except_bind_ok.mp collected
  obtain ⟨unallocated, _, collected⟩ := except_bind_ok.mp collected
  obtain ⟨dataRead, readLines, collected⟩ := except_bind_ok.mp collected
  obtain ⟨dataWritten, writtenLines, collected⟩ := except_bind_ok.mp collected
  obtain ⟨health, mapped, collected⟩ := except_bind_ok.mp collected
  cases collected
  intro line member
  simp only [List.mem_append, List.mem_flatten] at member
  rcases member with ((capacity | read) | written) | ⟨found, among, inside⟩
  · exact capacityLines_lines device _ _ _ line capacity
  · exact dataUnitLines_lines (by decide) (by decide) readLines line read
  · exact dataUnitLines_lines (by decide) (by decide) writtenLines line written
  · obtain ⟨key, listed, step⟩ := forall₂_exists ((mapM_ok_iff _ _ _).mp mapped).flip among
    have known : ∀ key ∈ nvmeHealthMetrics, key ∈ smartmonAttrs := by decide
    exact healthLines_lines (known key listed) step line inside

theorem visitDevice_lines {ratings : Dict String R.Float} {visit : Visit R}
    {lines : List (MetricLine R)} (visited : visitDevice ratings visit = .ok lines) :
    ∀ line ∈ lines, visit.device.processed = true ∧ (line ∈ presenceLines visit ∨
      visit.active = true ∧ (InfoLine visit.device line ∨
        DiskLine visit.device (visit.device.interface.getD "None") line ∨
        DiskLine visit.device (visit.device.interface.getD "") line)) := by
  unfold visitDevice at visited
  split at visited
  · cases visited
    simp
  · rename_i processed
    have processed : visit.device.processed = true := by simpa using processed
    split at visited
    · cases visited
      exact fun line member => ⟨processed, Or.inl member⟩
    · rename_i active
      have active : visit.active = true := by simpa using active
      obtain ⟨reported, collected, same⟩ := except_bind_ok.mp visited
      cases same
      obtain ⟨info, parsed, collected⟩ := except_bind_ok.mp collected
      obtain ⟨attributes, parsedAttributes, collected⟩ := except_bind_ok.mp collected
      obtain ⟨nvme, collectedNvme, same⟩ := except_bind_ok.mp collected
      cases same
      intro line member
      refine ⟨processed, ?_⟩
      simp only [List.mem_append] at member
      rcases member with presence | (identity | fields) | extra
      · exact Or.inl presence
      · rcases parseDeviceInfo_lines parsed line identity with isInfo | isDisk
        · exact Or.inr ⟨active, Or.inl isInfo⟩
        · exact Or.inr ⟨active, Or.inr (Or.inl isDisk)⟩
      · exact Or.inr ⟨active, Or.inr (Or.inr (parseIfAttributes_lines parsedAttributes line fields))⟩
      · unfold nvmeLines at collectedNvme
        split at collectedNvme
        · exact Or.inr ⟨active, Or.inr (Or.inr (collectNvmeMetrics_lines collectedNvme line extra))⟩
        · cases collectedNvme
          simp at extra

def infoLine (device : Device R) : MetricLine R :=
  ⟨"smartmon_device_info", deviceInfoLabels device, .float (R.ofBool true)⟩

theorem infoLine_mem_parseDeviceInfo {device : Device R} {lines : List (MetricLine R)}
    (parsed : parseDeviceInfo device = .ok lines) : infoLine device ∈ lines := by
  obtain ⟨temperature, _, same⟩ := except_bind_ok.mp parsed
  cases same
  exact List.mem_append_left _ List.mem_cons_self

theorem visitDevice_reports {ratings : Dict String R.Float} {visit : Visit R}
    {lines : List (MetricLine R)} (processed : visit.device.processed = true)
    (visited : visitDevice ratings visit = .ok lines) :
    presenceLines visit ⊆ lines ∧ (visit.active = true → ∃ info attributes,
      parseDeviceInfo visit.device = .ok info ∧ parseIfAttributes visit.device = .ok attributes ∧
        info ⊆ lines ∧ attributes ⊆ lines) := by
  unfold visitDevice at visited
  rw [if_neg (by simp [processed])] at visited
  split at visited
  · rename_i inactive
    cases visited
    refine ⟨List.Subset.refl _, ?_⟩
    intro active
    simp [active] at inactive
  · obtain ⟨reported, collected, same⟩ := except_bind_ok.mp visited
    cases same
    obtain ⟨info, parsed, collected⟩ := except_bind_ok.mp collected
    obtain ⟨attributes, parsedAttributes, collected⟩ := except_bind_ok.mp collected
    obtain ⟨nvme, _, same⟩ := except_bind_ok.mp collected
    cases same
    refine ⟨List.subset_append_left _ _, fun _ => ⟨info, attributes, parsed, parsedAttributes, ?_, ?_⟩⟩
    · intro line member
      simp [member]
    · intro line member
      simp [member]

def versionLine (R : PyRuntime) (versionOutput : Option String) : MetricLine R :=
  ⟨"smartmon_smartctl_version", [("version", versionNumber versionOutput)], .int 1⟩

theorem collectMetrics_lines {ratings : Dict String R.Float} {versionOutput : Option String}
    {visits : List (Visit R)} {lines : List (MetricLine R)}
    (collected : collectMetrics ratings versionOutput visits = .ok lines) (line : MetricLine R) :
    line ∈ lines ↔ line = versionLine R versionOutput ∨
      ∃ visit ∈ visits, ∃ found, visitDevice ratings visit = .ok found ∧ line ∈ found := by
  obtain ⟨reports, mapped, same⟩ := except_bind_ok.mp collected
  cases same
  have related := (mapM_ok_iff _ _ _).mp mapped
  simp only [List.mem_cons, List.mem_flatten]
  constructor
  · rintro (isVersion | ⟨found, among, inside⟩)
    · exact Or.inl isVersion
    · obtain ⟨visit, listed, step⟩ := forall₂_exists related.flip among
      exact Or.inr ⟨visit, listed, found, step, inside⟩
  · rintro (isVersion | ⟨visit, listed, found, step, inside⟩)
    · exact Or.inl isVersion
    · obtain ⟨report, among, step'⟩ := forall₂_exists related listed
      rw [step] at step'
      cases step'
      exact Or.inr ⟨found, among, inside⟩

theorem collectMetrics_visits {ratings : Dict String R.Float} {versionOutput : Option String}
    {visits : List (Visit R)} {lines : List (MetricLine R)}
    (collected : collectMetrics ratings versionOutput visits = .ok lines) {visit : Visit R}
    (listed : visit ∈ visits) : ∃ found, visitDevice ratings visit = .ok found := by
  obtain ⟨reports, mapped, _⟩ := except_bind_ok.mp collected
  obtain ⟨found, _, visited⟩ := forall₂_exists ((mapM_ok_iff _ _ _).mp mapped) listed
  exact ⟨found, visited⟩

theorem labelKeys_disk {name : String} (known : name ∈ diskMetricNames) :
    labelKeys name = ["disk", "serial_number", "type"] := by
  have keys : ∀ name ∈ diskMetricNames, labelKeys name = ["disk", "serial_number", "type"] := by
    decide
  exact keys name known

theorem deviceInfoLabels_keys (device : Device R) :
    (deviceInfoLabels device).map Prod.fst = labelKeys "smartmon_device_info" := by
  unfold deviceInfoLabels sortedBy
  rw [List.map_insertionSort (fun left right : String × String => left.1 ≤ right.1) (· ≤ ·)
    Prod.fst _ fun _ _ _ _ => Iff.rfl]
  simp only [List.map_cons, List.map_nil]
  decide

end Smartmon
