import KayobeConfig.Smartmon.Lines

/-!
When the collection loop of `main` reaches the writer: what the answers of
`smartctl` must be, since the NVMe collector guards only some of its lookups and
only against a failed subprocess.
-/

namespace Smartmon

open Library

variable {R : PyRuntime}

def heldNumber (source : PyValue R.Float) : Option (Except PyError R.Float) :=
  (floatOfNumber source).or
    (["value", "raw"].findSome? fun name => (getattr source name).bind floatOfNumber)

def TooLarge (source : PyValue R.Float) : Prop := heldNumber source = some (.error .overflowError)

def HasNumber (source : PyValue R.Float) : Prop :=
  (heldNumber source).isSome ∨ ∃ text, source = .str text ∧ (R.ofText text).isSome

/-- No source up to the first that has a number is too large for a float. -/
def Readable : List (PyValue R.Float) → Prop
  | [] => True
  | source :: sources => ¬TooLarge source ∧ (HasNumber source ∨ Readable sources)

def fieldValue (entries : List (String × PyValue R.Float)) (key : String) : PyValue R.Float :=
  (entries.lookup key).getD .none

def DictField (fields : List (String × PyValue R.Float)) (key : String) : Prop :=
  isDict ((fields.lookup key).getD (.dict [])) = true

def bytesOf (fields : List (String × PyValue R.Float)) (key : String) : PyValue R.Float :=
  fieldValue (dictOrEmpty ((fields.lookup key).getD (.dict []))) "bytes"

def namespaceSources (fields : List (String × PyValue R.Float)) : List (PyValue R.Float) :=
  ["capacity", "size", "utilization"].map (bytesOf fields)

def NamespacesReadable : List (PyValue R.Float) → Prop
  | [] => True
  | .dict fields :: rest =>
      (∀ key ∈ ["capacity", "size", "utilization"], DictField fields key) ∧
        Readable (namespaceSources fields) ∧
        ((∃ source ∈ namespaceSources fields, HasNumber source) ∨ NamespacesReadable rest)
  | _ :: rest => NamespacesReadable rest

def NvmeReadable (device : Device R) : Response R → Prop
  | .json (.dict entries) =>
      let healthLog := dictOrEmpty (fieldValue entries "nvme_smart_health_information_log")
      let userCapacity := dictOrEmpty (fieldValue entries "user_capacity")
      NamespacesReadable (listOrEmpty (fieldValue entries "nvme_namespaces")) ∧
        Readable [attrValue device "nvme_total_capacity", fieldValue entries "nvme_total_capacity",
          fieldValue userCapacity "bytes"] ∧
        Readable [attrValue device "nvme_unallocated_capacity",
          fieldValue entries "nvme_unallocated_capacity"] ∧
        Readable [attrValue device "data_units_read", healthValue healthLog "data_units_read"] ∧
        Readable [attrValue device "data_units_written",
          healthValue healthLog "data_units_written"] ∧
        ∀ key ∈ nvmeHealthMetrics, ((attrValues device).get? key).isSome ∨
          ¬TooLarge (healthValue healthLog key)
  | _ => False

/-- pySMART's own integers fit a float. -/
def DeviceReadable (device : Device R) : Prop :=
  (∀ temperature ∈ device.temperature, (R.ofInt temperature).isSome) ∧
    ∀ attr ∈ publicAttributes device, camelToSnake R attr.1 ∈ smartmonAttrs →
      ∀ value, attr.2 = .int value → (R.ofInt value).isSome

def VisitReadable (visit : Visit R) : Prop :=
  DeviceReadable visit.device ∧
    (visit.device.isNvme = true → NvmeReadable visit.device (visit.smartctl
      (smartctlCommand (canonicalDevicePath visit.device.name)
        (visit.device.interface.getD "") ["-x"])))

theorem floatOfNumber_error {source : PyValue R.Float} {failure : PyError}
    (converted : floatOfNumber source = some (.error failure)) : failure = .overflowError := by
  cases source with
  | int value =>
      cases exact : R.ofInt value with
      | none => simp_all [floatOfNumber]
      | some number => simp [floatOfNumber, exact] at converted
  | _ => simp [floatOfNumber] at converted

theorem coerceNumeric_of_held {source : PyValue R.Float} {converted : Except PyError R.Float}
    (held : heldNumber source = some converted) : coerceNumeric source = converted.map some := by
  unfold heldNumber at held
  unfold coerceNumeric
  cases direct : floatOfNumber source with
  | some number =>
      rw [direct, Option.some_or] at held
      cases held
      rfl
  | none =>
      rw [direct, Option.none_or] at held
      simp only [held]

theorem coerceNumeric_of_none {source : PyValue R.Float} (missing : heldNumber source = none) :
    coerceNumeric source = .ok (match source with
      | .str text => R.ofText text
      | _ => none) := by
  unfold heldNumber at missing
  obtain ⟨direct, candidates⟩ := Option.or_eq_none_iff.mp missing
  unfold coerceNumeric
  rw [direct]
  simp only [candidates]
  cases source <;> rfl

theorem heldNumber_error {source : PyValue R.Float} {failure : PyError}
    (held : heldNumber source = some (.error failure)) : failure = .overflowError := by
  unfold heldNumber at held
  rcases Option.or_eq_some_iff.mp held with direct | ⟨_, candidate⟩
  · exact floatOfNumber_error direct
  · obtain ⟨name, _, found⟩ := List.exists_of_findSome?_eq_some candidate
    obtain ⟨value, _, converted⟩ := Option.bind_eq_some_iff.mp found
    exact floatOfNumber_error converted

theorem coerceNumeric_tooLarge {source : PyValue R.Float} (large : TooLarge source) :
    ¬Succeeds (coerceNumeric source) := by
  rw [coerceNumeric_of_held large]
  rintro ⟨value, impossible⟩
  cases impossible

theorem coerceNumeric_ok {source : PyValue R.Float} (fits : ¬TooLarge source) :
    ∃ number, coerceNumeric source = .ok number ∧ (number.isSome ↔ HasNumber source) := by
  cases held : heldNumber source with
  | some converted =>
      cases converted with
      | error failure =>
          rw [heldNumber_error held] at held
          exact absurd held fits
      | ok value =>
          refine ⟨some value, coerceNumeric_of_held held, ?_⟩
          simp [HasNumber, held]
  | none =>
      refine ⟨_, coerceNumeric_of_none held, ?_⟩
      cases source <;> simp [HasNumber, held]

theorem numericValue_succeeds (sources : List (PyValue R.Float)) :
    Succeeds (numericValue sources) ↔ Readable sources := by
  induction sources with
  | nil => exact ⟨fun _ => trivial, fun _ => ⟨none, rfl⟩⟩
  | cons source sources ih =>
      unfold numericValue Readable
      rw [succeeds_bind]
      constructor
      · rintro ⟨number, coerced, continued⟩
        have fits : ¬TooLarge source := fun large => coerceNumeric_tooLarge large ⟨number, coerced⟩
        obtain ⟨same, coerced', numbered⟩ := coerceNumeric_ok fits
        obtain rfl : number = same := Except.ok.inj (coerced.symm.trans coerced')
        refine ⟨fits, ?_⟩
        cases number with
        | some value => exact Or.inl (numbered.mp rfl)
        | none => exact Or.inr (ih.mp continued)
      · rintro ⟨fits, rest⟩
        obtain ⟨number, coerced, numbered⟩ := coerceNumeric_ok fits
        refine ⟨number, coerced, ?_⟩
        cases number with
        | some value => exact ⟨some value, rfl⟩
        | none =>
            rcases rest with hasNumber | readable
            · have impossible := numbered.mpr hasNumber
              cases impossible
            · exact ih.mpr readable

theorem numericValue_isSome {sources : List (PyValue R.Float)} {number : Option R.Float}
    (found : numericValue sources = .ok number) :
    number.isSome ↔ ∃ source ∈ sources, HasNumber source := by
  induction sources with
  | nil =>
      cases found
      simp
  | cons source sources ih =>
      unfold numericValue at found
      obtain ⟨coerced, step, continued⟩ := except_bind_ok.mp found
      have fits : ¬TooLarge source := fun large => coerceNumeric_tooLarge large ⟨coerced, step⟩
      obtain ⟨same, step', numbered⟩ := coerceNumeric_ok fits
      obtain rfl : coerced = same := Except.ok.inj (step.symm.trans step')
      rw [List.exists_mem_cons_iff]
      cases coerced with
      | some value =>
          cases continued
          exact ⟨fun _ => Or.inl (numbered.mp rfl), fun _ => rfl⟩
      | none =>
          have without : ¬HasNumber source := fun hasNumber => by
            have impossible := numbered.mpr hasNumber
            cases impossible
          rw [ih continued]
          exact ⟨Or.inr, fun either => either.resolve_left without⟩

theorem readable_snoc_optionValue (sources : List (PyValue R.Float)) (value : Option R.Float) :
    Readable (sources ++ [optionValue value]) ↔ Readable sources := by
  induction sources with
  | nil =>
      cases value <;> simp [Readable, TooLarge, optionValue, heldNumber, floatOfNumber, getattr]
  | cons source sources ih =>
      simp only [List.cons_append, Readable, ih]

theorem namespaceBytes_ok {fields : List (String × PyValue R.Float)} {key : String}
    {value : PyValue R.Float} :
    namespaceBytes (.dict fields) key = .ok value ↔ DictField fields key ∧ value = bytesOf fields key := by
  unfold namespaceBytes DictField bytesOf
  rw [except_bind_ok]
  constructor
  · rintro ⟨field, found, continued⟩
    obtain rfl := Except.ok.inj found
    cases held : (fields.lookup key).getD (.dict []) with
    | dict entries =>
        rw [held] at continued
        exact ⟨rfl, (Except.ok.inj continued).symm⟩
    | _ => simp [held, dictGet] at continued
  · rintro ⟨field, rfl⟩
    refine ⟨_, rfl, ?_⟩
    cases held : (fields.lookup key).getD (.dict []) with
    | dict entries => rfl
    | _ => simp [held, isDict] at field

theorem namespaceCapacity_dict (fields : List (String × PyValue R.Float))
    (rest : List (PyValue R.Float)) :
    Succeeds (namespaceCapacity (.dict fields :: rest)) ↔
      (∀ key ∈ ["capacity", "size", "utilization"], DictField fields key) ∧
        Readable (namespaceSources fields) ∧
        ((∃ source ∈ namespaceSources fields, HasNumber source) ∨
          Succeeds (namespaceCapacity rest)) := by
  rw [namespaceCapacity, if_pos (show isDict (.dict fields) = true from rfl)]
  simp only [List.mem_cons, List.not_mem_nil, or_false, forall_eq_or_imp, forall_eq]
  constructor
  · intro done
    obtain ⟨capacity, readCapacity, done⟩ := succeeds_bind.mp done
    obtain ⟨size, readSize, done⟩ := succeeds_bind.mp done
    obtain ⟨utilization, readUtilization, done⟩ := succeeds_bind.mp done
    obtain ⟨capacityField, rfl⟩ := namespaceBytes_ok.mp readCapacity
    obtain ⟨sizeField, rfl⟩ := namespaceBytes_ok.mp readSize
    obtain ⟨utilizationField, rfl⟩ := namespaceBytes_ok.mp readUtilization
    obtain ⟨number, found, continued⟩ := succeeds_bind.mp done
    have numbered := numericValue_isSome found
    refine ⟨⟨capacityField, sizeField, utilizationField⟩, (numericValue_succeeds _).mp ⟨_, found⟩, ?_⟩
    cases number with
    | some value => exact Or.inl (numbered.mp rfl)
    | none => exact Or.inr continued
  · rintro ⟨⟨capacityField, sizeField, utilizationField⟩, readable, rest⟩
    refine succeeds_bind.mpr ⟨_, namespaceBytes_ok.mpr ⟨capacityField, rfl⟩, ?_⟩
    refine succeeds_bind.mpr ⟨_, namespaceBytes_ok.mpr ⟨sizeField, rfl⟩, ?_⟩
    refine succeeds_bind.mpr ⟨_, namespaceBytes_ok.mpr ⟨utilizationField, rfl⟩, ?_⟩
    obtain ⟨number, found⟩ := (numericValue_succeeds _).mpr readable
    have numbered := numericValue_isSome found
    refine succeeds_bind.mpr ⟨number, found, ?_⟩
    cases number with
    | some value => exact ⟨some value, rfl⟩
    | none =>
        rcases rest with hasNumber | continued
        · have impossible := numbered.mpr hasNumber
          cases impossible
        · exact continued

theorem namespaceCapacity_succeeds (namespaces : List (PyValue R.Float)) :
    Succeeds (namespaceCapacity namespaces) ↔ NamespacesReadable namespaces := by
  induction namespaces with
  | nil => exact ⟨fun _ => trivial, fun _ => ⟨none, rfl⟩⟩
  | cons namespaceInfo rest ih =>
      cases namespaceInfo with
      | dict fields =>
          rw [namespaceCapacity_dict, ih]
          rfl
      | _ => exact ih

theorem dataUnitLines_succeeds (device : Device R) (healthLog : List (String × PyValue R.Float))
    (key terabytes : String) :
    Succeeds (dataUnitLines device healthLog key terabytes) ↔
      Readable [attrValue device key, healthValue healthLog key] := by
  unfold dataUnitLines
  rw [succeeds_bind_total, numericValue_succeeds]
  intro units
  cases units with
  | none => exact ⟨_, rfl⟩
  | some units => exact ⟨_, rfl⟩

theorem healthLines_succeeds (device : Device R) (healthLog : List (String × PyValue R.Float))
    (key : String) :
    Succeeds (healthLines device healthLog key) ↔
      ((attrValues device).get? key).isSome ∨ ¬TooLarge (healthValue healthLog key) := by
  unfold healthLines
  split
  · rename_i present
    exact ⟨fun _ => Or.inl present, fun _ => ⟨_, rfl⟩⟩
  · rename_i absent
    rw [succeeds_bind_total, numericValue_succeeds]
    · simp [Readable, absent]
    · intro value
      cases value with
      | none => exact ⟨_, rfl⟩
      | some value => exact ⟨_, rfl⟩

theorem collectNvmeMetrics_dict (ratings : Dict String R.Float) (device : Device R)
    (smartctl : List String → Response R) (entries : List (String × PyValue R.Float))
    (answer : smartctlJson smartctl (canonicalDevicePath device.name) (device.interface.getD "")
      ["-x"] = .ok (.dict entries)) :
    Succeeds (collectNvmeMetrics ratings device smartctl) ↔
      NvmeReadable device (.json (.dict entries)) := by
  have modelNamed : ∃ modelName, nvmeModelName device (.dict entries) = .ok modelName := by
    unfold nvmeModelName
    dsimp only
    split
    · exact ⟨_, rfl⟩
    · exact ⟨_, rfl⟩
  obtain ⟨modelName, modelNamed⟩ := modelNamed
  unfold collectNvmeMetrics
  simp only [answer, modelNamed, dictGet, ok_bind]
  exact succeeds_bind_and (namespaceCapacity_succeeds _) fun perNamespace =>
    succeeds_bind_and ((numericValue_succeeds _).trans
      (readable_snoc_optionValue [_, _, _] perNamespace)) fun _ =>
    succeeds_bind_and (numericValue_succeeds _) fun _ =>
    succeeds_bind_and (dataUnitLines_succeeds _ _ _ _) fun _ =>
    succeeds_bind_and (dataUnitLines_succeeds _ _ _ _) fun _ =>
    succeeds_bind_pure.trans
      (succeeds_mapM.trans (forall₂_congr fun key _ => healthLines_succeeds _ _ key))

theorem collectNvmeMetrics_succeeds (ratings : Dict String R.Float) (device : Device R)
    (smartctl : List String → Response R) :
    Succeeds (collectNvmeMetrics ratings device smartctl) ↔
      NvmeReadable device (smartctl (smartctlCommand (canonicalDevicePath device.name)
        (device.interface.getD "") ["-x"])) := by
  have unread (answer : PyValue R.Float) (notDict : isDict answer = false)
      (answered : smartctlJson smartctl (canonicalDevicePath device.name)
        (device.interface.getD "") ["-x"] = .ok answer) :
      ¬Succeeds (collectNvmeMetrics ratings device smartctl) := by
    intro done
    unfold collectNvmeMetrics at done
    rw [answered, ok_bind] at done
    obtain ⟨modelName, _, done⟩ := succeeds_bind.mp done
    obtain ⟨healthLog, found, _⟩ := succeeds_bind.mp done
    cases answer with
    | dict entries => cases notDict
    | _ => cases found
  cases response : smartctl (smartctlCommand (canonicalDevicePath device.name)
      (device.interface.getD "") ["-x"]) with
  | raised failure =>
      have answered : smartctlJson smartctl (canonicalDevicePath device.name)
          (device.interface.getD "") ["-x"] = .error failure := by
        unfold smartctlJson
        rw [response]
      constructor
      · rintro ⟨lines, done⟩
        unfold collectNvmeMetrics at done
        rw [answered] at done
        cases done
      · exact False.elim
  | json value =>
      have answered : smartctlJson smartctl (canonicalDevicePath device.name)
          (device.interface.getD "") ["-x"] = .ok value := by
        unfold smartctlJson
        rw [response]
      cases value with
      | dict entries => exact collectNvmeMetrics_dict ratings device smartctl entries answered
      | _ => exact ⟨fun done => unread _ rfl answered done, False.elim⟩

theorem temperatureLines_succeeds (device : Device R) :
    Succeeds (temperatureLines device) ↔
      ∀ temperature ∈ device.temperature, (R.ofInt temperature).isSome := by
  unfold temperatureLines
  cases reported : device.temperature with
  | none => exact ⟨fun _ => by simp, fun _ => ⟨_, rfl⟩⟩
  | some temperature =>
      simp only [Option.mem_some_iff, forall_eq']
      cases converted : R.ofInt temperature with
      | none =>
          constructor
          · rintro ⟨lines, impossible⟩
            cases impossible
          · intro impossible
            cases impossible
      | some degrees => exact ⟨fun _ => rfl, fun _ => ⟨_, rfl⟩⟩

theorem floatOfNumber_fits {source : PyValue R.Float} {converted : Except PyError R.Float}
    (held : floatOfNumber source = some converted) :
    Succeeds converted ↔ ∀ value, source = .int value → (R.ofInt value).isSome := by
  cases source with
  | int value =>
      cases held
      simp only [PyValue.int.injEq, forall_eq']
      cases R.ofInt value with
      | none =>
          constructor
          · rintro ⟨number, impossible⟩
            cases impossible
          · intro impossible
            cases impossible
      | some number => exact ⟨fun _ => rfl, fun _ => ⟨number, rfl⟩⟩
  | bool value =>
      cases held
      simp [Succeeds]
  | float value =>
      cases held
      simp [Succeeds]
  | _ => cases held

theorem parseIfAttribute_succeeds (device : Device R) (attr : String × PyValue R.Float) :
    Succeeds (parseIfAttribute device attr) ↔
      (camelToSnake R attr.1 ∈ smartmonAttrs →
        ∀ value, attr.2 = .int value → (R.ofInt value).isSome) := by
  unfold parseIfAttribute
  dsimp only
  cases held : floatOfNumber attr.2 with
  | none =>
      refine ⟨fun _ _ value isInt => ?_, fun _ => ⟨_, rfl⟩⟩
      rw [isInt] at held
      cases held
  | some converted =>
      dsimp only
      split
      · rename_i known
        rw [succeeds_bind_pure, floatOfNumber_fits held]
        exact ⟨fun fits _ => fits, fun fits => fits known⟩
      · rename_i unknown
        exact ⟨fun _ known => absurd known unknown, fun _ => ⟨_, rfl⟩⟩

theorem parseDeviceInfo_succeeds (device : Device R) :
    Succeeds (parseDeviceInfo device) ↔
      ∀ temperature ∈ device.temperature, (R.ofInt temperature).isSome :=
  succeeds_bind_pure.trans (temperatureLines_succeeds device)

theorem parseIfAttributes_succeeds (device : Device R) :
    Succeeds (parseIfAttributes device) ↔
      ∀ attr ∈ publicAttributes device, camelToSnake R attr.1 ∈ smartmonAttrs →
        ∀ value, attr.2 = .int value → (R.ofInt value).isSome :=
  succeeds_bind_pure.trans (succeeds_mapM.trans
    (forall₂_congr fun attr _ => parseIfAttribute_succeeds device attr))

theorem activeLines_succeeds (ratings : Dict String R.Float) (visit : Visit R) :
    Succeeds (activeLines ratings visit) ↔ VisitReadable visit := by
  have nvme : Succeeds (nvmeLines ratings visit) ↔
      (visit.device.isNvme = true → NvmeReadable visit.device (visit.smartctl
        (smartctlCommand (canonicalDevicePath visit.device.name)
          (visit.device.interface.getD "") ["-x"]))) := by
    unfold nvmeLines
    split
    · rename_i isNvme
      rw [collectNvmeMetrics_succeeds]
      exact ⟨fun readable _ => readable, fun readable => readable isNvme⟩
    · rename_i notNvme
      exact ⟨fun _ isNvme => absurd isNvme notNvme, fun _ => ⟨_, rfl⟩⟩
  unfold VisitReadable DeviceReadable
  rw [and_assoc]
  exact succeeds_bind_and (parseDeviceInfo_succeeds _) fun _ =>
    succeeds_bind_and (parseIfAttributes_succeeds _) fun _ => succeeds_bind_pure.trans nvme

theorem visitDevice_succeeds (ratings : Dict String R.Float) (visit : Visit R) :
    Succeeds (visitDevice ratings visit) ↔
      (visit.device.processed = true → visit.active = true → VisitReadable visit) := by
  unfold visitDevice
  split
  · rename_i skipped
    refine ⟨fun _ processed => ?_, fun _ => ⟨_, rfl⟩⟩
    rw [skipped] at processed
    cases processed
  · rename_i processed
    have processed : visit.device.processed = true := by simpa using processed
    split
    · rename_i inactive
      refine ⟨fun _ _ active => ?_, fun _ => ⟨_, rfl⟩⟩
      rw [inactive] at active
      cases active
    · rename_i active
      have active : visit.active = true := by simpa using active
      rw [succeeds_bind_pure, activeLines_succeeds]
      exact ⟨fun readable _ _ => readable, fun readable => readable processed active⟩

theorem collectMetrics_reports_iff (ratings : Dict String R.Float) (versionOutput : Option String)
    (visits : List (Visit R)) :
    (∃ lines, collectMetrics ratings versionOutput visits = .ok lines ∧
      ∀ visit ∈ visits, visit.device.processed = true → visit.active = true →
        ∃ info attributes, parseDeviceInfo visit.device = .ok info ∧
          parseIfAttributes visit.device = .ok attributes ∧ info ⊆ lines ∧ attributes ⊆ lines) ↔
      ∀ visit ∈ visits, visit.device.processed = true → visit.active = true →
        VisitReadable visit := by
  have succeeds : Succeeds (collectMetrics ratings versionOutput visits) ↔
      ∀ visit ∈ visits, visit.device.processed = true → visit.active = true →
        VisitReadable visit :=
    succeeds_bind_pure.trans (succeeds_mapM.trans
      (forall₂_congr fun visit _ => visitDevice_succeeds ratings visit))
  rw [← succeeds]
  constructor
  · rintro ⟨lines, collected, _⟩
    exact ⟨lines, collected⟩
  · rintro ⟨lines, collected⟩
    refine ⟨lines, collected, ?_⟩
    intro visit listed processed active
    obtain ⟨found, visited⟩ := collectMetrics_visits collected listed
    obtain ⟨_, report⟩ := visitDevice_reports processed visited
    obtain ⟨info, attributes, parsed, parsedAttributes, included, includedAttributes⟩ := report active
    have among : found ⊆ lines := fun line member =>
      (collectMetrics_lines collected line).mpr (Or.inr ⟨visit, listed, found, visited, member⟩)
    exact ⟨info, attributes, parsed, parsedAttributes, fun _ member => among (included member),
      fun _ member => among (includedAttributes member)⟩

def brokenNvme : Visit wholeRuntime where
  device := {
    name := "/dev/nvme0", interface := some "nvme", serial := some "S3YJNX0K301234",
    model := some "SAMSUNG MZWLL1T6HEHP-00003", vendor := none, family := none,
    firmware := some "GPNA9B3Q", assessment := some "PASS", smartCapable := true,
    smartEnabled := true, temperature := some 35, attributes := [], ifAttributes := none }
  timestamp := unixEpoch
  smartctl command :=
    if "standby" ∈ command then .json (.dict [("power_mode", .str "ACTIVE")])
    else .raised .jsonDecodeError

def healthyDisk : Visit wholeRuntime :=
  { brokenNvme with
    device := { brokenNvme.device with name := "/dev/sda", interface := some "sat" } }

theorem collectMetrics_blinded :
    ¬∃ lines, collectMetrics Dict.empty none [healthyDisk, brokenNvme] = .ok lines := by
  intro returned
  have failed : (collectMetrics Dict.empty none [healthyDisk, brokenNvme]).isOk = false := by
    decide +kernel
  rw [succeeds_iff_isOk.mp returned] at failed
  cases failed

end Smartmon
