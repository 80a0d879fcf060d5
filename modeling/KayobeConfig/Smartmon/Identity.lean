import KayobeConfig.Smartmon.Robustness

/-!
Whether the series of one disk join on its identity labels. Of the producers only
`parse_device_info` formats a missing interface as a name of its own.
-/

namespace Smartmon

open Library

variable {R : PyRuntime}

def identityLabels : List String := ["disk", "serial_number", "type"]

/-- The lines that a producer emits for a visited device, if it returns. -/
inductive Emitted (ratings : Dict String R.Float) (visit : Visit R) : MetricLine R → Prop
  | presence {line} : line ∈ presenceLines visit → Emitted ratings visit line
  | info {lines line} : visit.active = true → parseDeviceInfo visit.device = .ok lines →
      line ∈ lines → Emitted ratings visit line
  | attributes {lines line} : visit.active = true → parseIfAttributes visit.device = .ok lines →
      line ∈ lines → Emitted ratings visit line
  | nvme {lines line} : visit.active = true → nvmeLines ratings visit = .ok lines →
      line ∈ lines → Emitted ratings visit line

def Joinable (line other : MetricLine R) : Prop :=
  ∀ key ∈ identityLabels, ∀ value otherValue,
    (key, value) ∈ line.labels → (key, otherValue) ∈ other.labels → value = otherValue

def OneIdentity (ratings : Dict String R.Float) (visit : Visit R) : Prop :=
  ∀ line other, Emitted ratings visit line → Emitted ratings visit other → Joinable line other

/-- What the line says of a disk is what the disk's labels say. -/
def Identifies (device : Device R) (diskType : String) (line : MetricLine R) : Prop :=
  ∀ key ∈ identityLabels, ∀ value, (key, value) ∈ line.labels → (key, value) ∈ diskLabels device diskType

theorem diskLabels_unique {device : Device R} {diskType key value otherValue : String}
    (member : (key, value) ∈ diskLabels device diskType)
    (among : (key, otherValue) ∈ diskLabels device diskType) : value = otherValue := by
  simp only [diskLabels, List.mem_cons, Prod.mk.injEq, List.not_mem_nil, or_false] at member among
  rcases member with ⟨rfl, rfl⟩ | ⟨rfl, rfl⟩ | ⟨rfl, rfl⟩
  · simpa [eq_comm] using among
  · simpa [eq_comm] using among
  · simpa [eq_comm] using among

theorem Identifies.joinable {device : Device R} {diskType : String} {line other : MetricLine R}
    (identifies : Identifies device diskType line) (identifiesOther : Identifies device diskType other) :
    Joinable line other := by
  intro key identity value otherValue member among
  exact diskLabels_unique (identifies key identity value member)
    (identifiesOther key identity otherValue among)

theorem presenceLines_identify (visit : Visit R) :
    ∀ line ∈ presenceLines visit,
      Identifies visit.device (visit.device.interface.getD "") line := by
  intro line member key _ value labelled
  unfold presenceLines at member
  rcases List.mem_pair.mp member with rfl | rfl
  · simp only [List.mem_cons, List.not_mem_nil, or_false] at labelled
    rcases labelled with same | same <;> simp [same, diskLabels]
  · simp only [List.mem_cons, List.not_mem_nil, or_false] at labelled
    rcases labelled with same | same | same <;> simp [same, diskLabels]

theorem InfoLine.identifies {device : Device R} {line : MetricLine R} (info : InfoLine device line) :
    Identifies device (device.interface.getD "") line := by
  intro key identity value labelled
  rw [info.labelled, deviceInfoLabels, mem_sortedBy] at labelled
  simp only [identityLabels, List.mem_cons, List.not_mem_nil, or_false] at identity
  rcases identity with rfl | rfl | rfl
  · simpa [diskLabels] using labelled
  · simpa [diskLabels] using labelled
  · simpa [diskLabels] using labelled

theorem DiskLine.identifies {device : Device R} {diskType : String} {line : MetricLine R}
    (disk : DiskLine device diskType line) : Identifies device diskType line := by
  intro key _ value labelled
  rwa [disk.labelled] at labelled

theorem nvmeLines_identify {ratings : Dict String R.Float} {visit : Visit R}
    {lines : List (MetricLine R)} (collected : nvmeLines ratings visit = .ok lines) :
    ∀ line ∈ lines, Identifies visit.device (visit.device.interface.getD "") line := by
  intro line member
  unfold nvmeLines at collected
  split at collected
  · exact (collectNvmeMetrics_lines collected line member).identifies
  · cases collected
    cases member

theorem emitted_identifies {ratings : Dict String R.Float} {visit : Visit R} {line : MetricLine R}
    (emitted : Emitted ratings visit line)
    (known : visit.active = true → Succeeds (parseDeviceInfo visit.device) →
      visit.device.interface.isSome) :
    Identifies visit.device (visit.device.interface.getD "") line := by
  cases emitted with
  | presence member => exact presenceLines_identify visit line member
  | info active parsed member =>
      obtain ⟨diskType, named⟩ := Option.isSome_iff_exists.mp (known active ⟨_, parsed⟩)
      rcases parseDeviceInfo_lines parsed line member with info | disk
      · exact info.identifies
      · have identifies := disk.identifies
        rw [named] at identifies ⊢
        exact identifies
  | attributes active parsed member => exact (parseIfAttributes_lines parsed line member).identifies
  | nvme active collected member => exact nvmeLines_identify collected line member

theorem missingInterface_drifts {ratings : Dict String R.Float} {visit : Visit R}
    (active : visit.active = true) (missing : visit.device.interface = none)
    (returns : Succeeds (parseDeviceInfo visit.device)) : ¬OneIdentity ratings visit := by
  intro joinable
  obtain ⟨lines, parsed⟩ := returns
  have status : statusLine visit.device "smartmon_device_smart_available"
      visit.device.smartCapable ∈ lines := by
    obtain ⟨temperature, _, same⟩ := except_bind_ok.mp parsed
    cases same
    simp [statusLines]
  have differs := joinable _ _ (.info active parsed status)
    (.presence (List.mem_cons_of_mem _ List.mem_cons_self)) "type" (by decide) "None" ""
  simp [statusLine, diskLine, diskLabels, missing] at differs

/-- The series of a disk can be joined on its identity labels exactly when its interface
is known, or only its presence is collected, or `parse_device_info` raises. -/
theorem oneIdentity_iff (ratings : Dict String R.Float) (visit : Visit R) :
    OneIdentity ratings visit ↔
      (visit.active = true →
        (∀ temperature ∈ visit.device.temperature, (R.ofInt temperature).isSome) →
          visit.device.interface.isSome) := by
  rw [← parseDeviceInfo_succeeds]
  constructor
  · intro joinable active returns
    by_contra unknown
    exact missingInterface_drifts active (by simpa using unknown) returns joinable
  · intro known line other emitted emittedOther
    exact (emitted_identifies emitted known).joinable (emitted_identifies emittedOther known)

def unknownInterface : Visit wholeRuntime :=
  { healthyDisk with
    device := { healthyDisk.device with interface := none, temperature := none } }

theorem unknownInterface_drifts :
    unknownInterface.device.processed = true ∧ ¬OneIdentity Dict.empty unknownInterface :=
  ⟨by decide, missingInterface_drifts (by decide) rfl
    ((parseDeviceInfo_succeeds unknownInterface.device).mpr fun _ measured => nomatch measured)⟩

end Smartmon
