import KayobeConfig.Smartmon.Textfile

/-!
The lines of `main` through the writer: which device strings come back whole.
-/

namespace Smartmon

open Library

variable {R : PyRuntime}

theorem smallInt_number (value : Int) (small : value.natAbs ≤ 2 ^ 53) :
    ∃ number, (MetricValue.int value : MetricValue R.Float).number = some number :=
  Option.isSome_iff_exists.mp (R.ofInt_small value small)

theorem versionLine_wellFormed (versionOutput : Option String) :
    (versionLine R versionOutput).WellFormed :=
  ⟨List.mem_cons_self, rfl, smallInt_number 1 (by decide)⟩

theorem presenceLines_wellFormed (visit : Visit R) : ∀ line ∈ presenceLines visit, line.WellFormed := by
  intro line member
  rcases List.mem_pair.mp member with rfl | rfl
  · have bound := visit.timestamp.isLt
    exact ⟨by simp [metricNames], rfl, smallInt_number _ (by omega)⟩
  · refine ⟨by simp [metricNames], rfl, smallInt_number _ ?_⟩
    split <;> decide

theorem InfoLine.wellFormed {device : Device R} {line : MetricLine R}
    (isInfo : InfoLine device line) : line.WellFormed := by
  obtain ⟨named, labelled, value, valued⟩ := isInfo
  refine ⟨by simp [metricNames, named], ?_, value, by rw [valued]; rfl⟩
  rw [named, labelled]
  exact deviceInfoLabels_keys device

theorem DiskLine.wellFormed {device : Device R} {diskType : String} {line : MetricLine R}
    (isDisk : DiskLine device diskType line) : line.WellFormed := by
  obtain ⟨named, labelled, value, valued⟩ := isDisk
  refine ⟨List.mem_append_right _ named, ?_, value, by rw [valued]; rfl⟩
  rw [labelKeys_disk named, labelled]
  rfl

def CleanAddress (device : Device R) : Prop :=
  Clean device.name ∧ Clean device.serialNumber ∧ Clean (device.interface.getD "")

def CleanIdentity (device : Device R) : Prop :=
  Clean (device.vendor.getD "") ∧ Clean (device.family.getD "") ∧ Clean (device.model.getD "") ∧
    Clean (device.firmware.getD "") ∧ Clean (device.assessment.getD "")

instance (device : Device R) : Decidable (CleanAddress device) :=
  inferInstanceAs (Decidable (_ ∧ _ ∧ _))

instance (device : Device R) : Decidable (CleanIdentity device) :=
  inferInstanceAs (Decidable (_ ∧ _ ∧ _ ∧ _ ∧ _))

theorem clean_missing {text : Option String} (clean : Clean (text.getD "")) :
    Clean (text.getD "None") := by
  cases text with
  | none => decide
  | some text => exact clean

theorem diskLabels_clean {device : Device R} {diskType : String} (address : CleanAddress device)
    (cleanType : Clean diskType) : ∀ label ∈ diskLabels device diskType, Clean label.2 := by
  intro label member
  simp only [diskLabels, List.mem_cons, List.not_mem_nil, or_false] at member
  rcases member with rfl | rfl | rfl
  · exact address.1
  · exact address.2.1
  · exact cleanType

theorem deviceInfoLabels_clean (device : Device R) :
    (∀ label ∈ deviceInfoLabels device, Clean label.2) ↔ CleanAddress device ∧ CleanIdentity device := by
  simp only [deviceInfoLabels, mem_sortedBy, List.mem_cons, List.not_mem_nil, or_false,
    forall_eq_or_imp, forall_eq, CleanAddress, CleanIdentity]
  tauto

theorem presenceLines_clean (visit : Visit R) :
    (∀ line ∈ presenceLines visit, ∀ label ∈ line.labels, Clean label.2) ↔
      CleanAddress visit.device := by
  simp only [presenceLines, List.mem_cons, List.not_mem_nil, or_false, forall_eq_or_imp, forall_eq,
    CleanAddress]
  tauto

def CleanVisit (visit : Visit R) : Prop :=
  visit.device.processed = true →
    CleanAddress visit.device ∧ (visit.active = true → CleanIdentity visit.device)

theorem visitDevice_clean {ratings : Dict String R.Float} {visit : Visit R}
    {lines : List (MetricLine R)} (visited : visitDevice ratings visit = .ok lines) :
    (∀ line ∈ lines, ∀ label ∈ line.labels, Clean label.2) ↔ CleanVisit visit := by
  constructor
  · intro clean processed
    obtain ⟨presence, report⟩ := visitDevice_reports processed visited
    refine ⟨(presenceLines_clean visit).mp fun line member => clean line (presence member), ?_⟩
    intro active
    obtain ⟨info, _, parsed, _, included, _⟩ := report active
    have cleanInfo := clean _ (included (infoLine_mem_parseDeviceInfo parsed))
    exact ((deviceInfoLabels_clean visit.device).mp cleanInfo).2
  · intro cleanVisit line member
    obtain ⟨processed, presence | ⟨active, isInfo | isDisk | isDisk⟩⟩ :=
      visitDevice_lines visited line member
    · exact (presenceLines_clean visit).mpr (cleanVisit processed).1 line presence
    · obtain ⟨address, identity⟩ := cleanVisit processed
      rw [isInfo.labelled]
      exact (deviceInfoLabels_clean visit.device).mpr ⟨address, identity active⟩
    · obtain ⟨address, _⟩ := cleanVisit processed
      rw [isDisk.labelled]
      exact diskLabels_clean address (clean_missing address.2.2)
    · obtain ⟨address, _⟩ := cleanVisit processed
      rw [isDisk.labelled]
      exact diskLabels_clean address address.2.2

theorem collectMetrics_wellFormed {ratings : Dict String R.Float} {versionOutput : Option String}
    {visits : List (Visit R)} {lines : List (MetricLine R)}
    (collected : collectMetrics ratings versionOutput visits = .ok lines) :
    ∀ line ∈ lines, line.WellFormed := by
  intro line member
  rcases (collectMetrics_lines collected line).mp member with rfl | ⟨visit, _, found, visited, among⟩
  · exact versionLine_wellFormed versionOutput
  · obtain ⟨_, presence | ⟨_, isInfo | isDisk | isDisk⟩⟩ := visitDevice_lines visited line among
    · exact presenceLines_wellFormed visit line presence
    · exact isInfo.wellFormed
    · exact isDisk.wellFormed
    · exact isDisk.wellFormed

theorem collectMetrics_clean {ratings : Dict String R.Float} {versionOutput : Option String}
    {visits : List (Visit R)} {lines : List (MetricLine R)}
    (collected : collectMetrics ratings versionOutput visits = .ok lines) :
    (∀ line ∈ lines, ∀ label ∈ line.labels, Clean label.2) ↔
      Clean (versionNumber versionOutput) ∧ ∀ visit ∈ visits, CleanVisit visit := by
  have reached := collectMetrics_lines collected
  constructor
  · intro clean
    constructor
    · exact clean _ ((reached _).mpr (Or.inl rfl)) ("version", versionNumber versionOutput)
        List.mem_cons_self
    · intro visit listed
      obtain ⟨found, visited⟩ := collectMetrics_visits collected listed
      refine (visitDevice_clean visited).mp fun line member => clean line ?_
      exact (reached line).mpr (Or.inr ⟨visit, listed, found, visited, member⟩)
  · intro ⟨version, cleanVisits⟩ line member
    rcases (reached line).mp member with rfl | ⟨visit, listed, found, visited, among⟩
    · intro label member
      rw [List.mem_singleton.mp member]
      exact version
    · exact (visitDevice_clean visited).mpr (cleanVisits visit listed) line among

theorem collectMetrics_roundTrips_iff (client : PrometheusClient) (ratings : Dict String R.Float)
    (versionOutput : Option String) (visits : List (Visit R)) (lines : List (MetricLine R))
    (collected : collectMetrics ratings versionOutput visits = .ok lines) :
    RoundTrips client lines ↔
      Clean (versionNumber versionOutput) ∧
        ∀ visit ∈ visits, visit.device.processed = true →
          CleanAddress visit.device ∧ (visit.active = true → CleanIdentity visit.device) := by
  have clean := collectMetrics_clean collected
  constructor
  · intro restored
    exact clean.mp restored.clean
  · intro strings
    exact RoundTrips.of_clean client (collectMetrics_wellFormed collected) (clean.mpr strings)

def caviarGreen : Visit wholeRuntime where
  device := {
    name := "/dev/sda", interface := some "sat", serial := some "WD-WCAZA1234567",
    model := some "WDC WD20EARX-00PASB0", vendor := none,
    family := some "Western Digital Caviar Green (AF, SATA 6Gb/s)",
    firmware := some "51.0AB51", assessment := some "PASS", smartCapable := true,
    smartEnabled := true, temperature := some 31, attributes := [], ifAttributes := none }
  timestamp := unixEpoch
  smartctl _ := .json (.dict [("power_mode", .str "ACTIVE or IDLE")])

def caviarGreenVersion : Option String := some "smartctl 7.3 2022-02-28 r5338"

theorem caviarGreen_collected :
    ∃ lines, collectMetrics Dict.empty caviarGreenVersion [caviarGreen] = .ok lines := by
  have done : (collectMetrics Dict.empty caviarGreenVersion [caviarGreen]).isOk = true := by
    decide +kernel
  cases collected : collectMetrics Dict.empty caviarGreenVersion [caviarGreen] with
  | error failure =>
      rw [collected] at done
      cases done
  | ok lines => exact ⟨lines, rfl⟩

theorem collectMetrics_family_lost :
    ∃ lines, collectMetrics Dict.empty caviarGreenVersion [caviarGreen] = .ok lines ∧
      ¬RoundTrips classicClient lines := by
  obtain ⟨lines, collected⟩ := caviarGreen_collected
  refine ⟨lines, collected, ?_⟩
  intro restored
  have strings := ((collectMetrics_clean collected).mp restored.clean).2 _ List.mem_cons_self
  have processed : caviarGreen.device.processed = true := by decide +kernel
  have active : caviarGreen.active = true := by decide +kernel
  have family : Clean "Western Digital Caviar Green (AF, SATA 6Gb/s)" :=
    ((strings processed).2 active).2.1
  exact family.1 (by decide)

theorem collectMetrics_roundTrips_iff_caviarGreen :
    ∃ lines, collectMetrics Dict.empty caviarGreenVersion [caviarGreen] = .ok lines ∧
      (RoundTrips classicClient lines ↔
        Clean (versionNumber caviarGreenVersion) ∧
          ∀ visit ∈ [caviarGreen], visit.device.processed = true →
            CleanAddress visit.device ∧ (visit.active = true → CleanIdentity visit.device)) := by
  obtain ⟨lines, collected⟩ := caviarGreen_collected
  exact ⟨lines, collected, collectMetrics_roundTrips_iff classicClient Dict.empty caviarGreenVersion
    [caviarGreen] lines collected⟩

end Smartmon
