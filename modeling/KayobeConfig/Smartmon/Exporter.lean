import Mathlib.Data.List.ReduceOption
import Mathlib.Data.String.Basic
import KayobeConfig.Library.Dict
import KayobeConfig.Library.Loops
import KayobeConfig.Library.Python

/-!
The metric lines that `ansible/scripts/smartmon.py` collects from pySMART devices
and `smartctl`. A line is kept as its name, labels and value next to the text the
script formats from them. What one device reports during a run is a visit: the
pySMART device, the time, and an answer for every `smartctl` command.
-/

namespace Smartmon

open Library

def smartctlPath : String := "/usr/sbin/smartctl"

def smartmonAttrs : List String := [
  "airflow_temperature_cel", "command_timeout", "current_pending_sector", "end_to_end_error",
  "erase_fail_count", "g_sense_error_rate", "hardware_ecc_recovered", "host_reads_32mib",
  "host_reads_mib", "host_writes_32mib", "host_writes_mib", "load_cycle_count",
  "media_wearout_indicator", "nand_writes_1gib", "offline_uncorrectable", "power_cycle_count",
  "power_on_hours", "program_fail_cnt_total", "program_fail_count", "raw_read_error_rate",
  "reallocated_event_count", "reallocated_sector_ct", "reported_uncorrect", "runtime_bad_block",
  "sata_downshift_count", "seek_error_rate", "spin_retry_count", "spin_up_time",
  "start_stop_count", "temperature_case", "temperature_celsius", "temperature_internal",
  "total_lbas_read", "total_lbas_written", "udma_crc_error_count", "unsafe_shutdown_count",
  "unused_rsvd_blk_cnt_tot", "wear_leveling_count", "workld_host_reads_perc",
  "workld_media_wear_indic", "workload_minutes", "critical_warning", "available_spare",
  "available_spare_threshold", "percentage_used", "data_units_read", "data_units_written",
  "host_reads", "host_writes", "controller_busy_time", "power_cycles", "unsafe_shutdowns",
  "media_errors", "num_err_log_entries", "warning_temp_time", "critical_comp_time",
  "nvme_total_capacity", "nvme_unallocated_capacity"
]

def dataUnitBytes : Int := 512000

def bytesPerTb : Int := 10 ^ 12

structure SmartAttribute where
  name : Option String
  whenFailed : Option String

/-- `ifAttributes` lists the fields in the order of `dir()`. `attributes` may have gaps. -/
structure Device (R : PyRuntime) where
  name : String
  interface : Option String
  serial : Option String
  model : Option String
  vendor : Option String
  family : Option String
  firmware : Option String
  assessment : Option String
  smartCapable : Bool
  smartEnabled : Bool
  temperature : Option Int
  attributes : List (Option SmartAttribute)
  ifAttributes : Option (List (String × PyValue R.Float))

/-- What `json.loads` makes of the output. It raises on text that is not JSON, but also on
an integer of too many digits and on nesting that is too deep. -/
inductive Response (R : PyRuntime)
  | raised (failure : PyError)
  | json (value : PyValue R.Float)

structure Visit (R : PyRuntime) where
  device : Device R
  timestamp : Fin 253402300800
  smartctl : List String → Response R

def unixEpoch : Fin 253402300800 := ⟨0, by decide⟩

inductive MetricValue (Float : Type)
  | int (value : Int)
  | float (value : Float)
  deriving DecidableEq

structure MetricLine (R : PyRuntime) where
  name : String
  labels : List (String × String)
  value : MetricValue R.Float

def labelText (label : String × String) : List Char :=
  label.1.toList ++ '=' :: '"' :: label.2.toList ++ ['"']

def MetricValue.text {R : PyRuntime} : MetricValue R.Float → String
  | .int value => toString value
  | .float value => R.repr value

def MetricLine.text {R : PyRuntime} (line : MetricLine R) : List Char :=
  line.name.toList ++ '{' :: [','].intercalate (line.labels.map labelText) ++
    '}' :: ' ' :: line.value.text.toList

variable {R : PyRuntime}

def canonicalDevicePath (name : String) : String :=
  if name = "" then name
  else if startswith name "/dev/" then name else "/dev/" ++ name

/-- `float(value)` for an `int` or a `float`, and nothing for any other value. -/
def floatOfNumber : PyValue R.Float → Option (Except PyError R.Float)
  | .bool value => some (.ok (R.ofBool value))
  | .int value => some ((R.ofInt value).elim (.error .overflowError) .ok)
  | .float value => some (.ok value)
  | _ => none

def getattr : PyValue R.Float → String → Option (PyValue R.Float)
  | .object attributes, name => attributes.lookup name
  | _, _ => none

def coerceNumeric (value : PyValue R.Float) : Except PyError (Option R.Float) :=
  match floatOfNumber value with
  | some converted => converted.map some
  | none =>
      match ["value", "raw"].findSome? fun name => (getattr value name).bind floatOfNumber with
      | some converted => converted.map some
      | none =>
          match value with
          | .str text => .ok (R.ofText text)
          | _ => .ok none

def numericValue : List (PyValue R.Float) → Except PyError (Option R.Float)
  | [] => .ok none
  | source :: sources => do
      match ← coerceNumeric source with
      | some value => return some value
      | none => numericValue sources

def attributeText (R : PyRuntime) (field : Option String) : String := R.lower (strip (field.getD ""))

def isHistoricalTemperatureAttrFailure (R : PyRuntime) (attr : SmartAttribute) : Bool :=
  attributeText R attr.whenFailed == "in_the_past" &&
    (contains (attributeText R attr.name) "temperature" ||
      contains (attributeText R attr.name) "airflow")

def getFailedSmartAttributes (device : Device R) : List SmartAttribute :=
  device.attributes.reduceOption.filter fun attr =>
    attributeText R attr.whenFailed ∉ ["", "-", "none", "never"]

def allHistoricalTemperature (device : Device R) : Bool :=
  let failedAttrs := getFailedSmartAttributes device
  !failedAttrs.isEmpty && failedAttrs.all (isHistoricalTemperatureAttrFailure R)

def smartHealthValue (device : Device R) : Bool :=
  let assessment := R.upper (strip (device.assessment.getD ""))
  if assessment = "PASS" then true
  else if assessment ≠ "WARN" then false
  else allHistoricalTemperature device

def getRatedDwpd (ratings : Dict String R.Float) (modelName : String) : R.Float :=
  if modelName = "" then R.ofBool true
  else (ratings.get? (strip (R.lower modelName))).getD (R.ofBool true)

def smartctlCommand (diskName diskType : String) (arguments : List String) : List String :=
  smartctlPath :: arguments ++ (if diskType = "" then [] else ["-d", diskType]) ++ ["-j", diskName]

def smartctlJson (smartctl : List String → Response R) (diskName diskType : String)
    (arguments : List String) : Except PyError (PyValue R.Float) :=
  match smartctl (smartctlCommand diskName diskType arguments) with
  | .raised failure => .error failure
  | .json value => .ok value

def camelToSnake (R : PyRuntime) (name : String) : String :=
  let separated := match name.toList with
    | [] => []
    | first :: rest => first :: rest.flatMap fun char => if char.isUpper then ['_', char] else [char]
  R.lower (String.ofList separated)

def Device.serialNumber (device : Device R) : String := R.lower (device.serial.getD "")

def diskLabels (device : Device R) (diskType : String) : List (String × String) :=
  [("disk", device.name), ("serial_number", device.serialNumber), ("type", diskType)]

def deviceInfoLabels (device : Device R) : List (String × String) :=
  sortedBy Prod.fst [("disk", device.name), ("type", device.interface.getD ""),
    ("vendor", device.vendor.getD ""), ("model_family", device.family.getD ""),
    ("device_model", device.model.getD ""), ("serial_number", device.serialNumber),
    ("firmware_version", device.firmware.getD ""), ("assessment", device.assessment.getD "")]

def diskLine (device : Device R) (diskType name : String) (value : R.Float) : MetricLine R :=
  ⟨name, diskLabels device diskType, .float value⟩

/-- The metric labels of `parse_device_info`, where a missing interface is formatted as `None`. -/
def statusLine (device : Device R) (name : String) (value : Bool) : MetricLine R :=
  diskLine device (device.interface.getD "None") name (R.ofBool value)

def statusLines (device : Device R) : List (MetricLine R) :=
  [⟨"smartmon_device_info", deviceInfoLabels device, .float (R.ofBool true)⟩,
    statusLine device "smartmon_device_smart_available" device.smartCapable] ++
  if device.smartCapable then
    [statusLine device "smartmon_device_smart_enabled" device.smartEnabled] ++
    if device.assessment.getD "" ≠ "" then
      [statusLine device "smartmon_device_smart_healthy" (smartHealthValue device),
        statusLine device "smartmon_device_historical_temperature_failure"
          (allHistoricalTemperature device)]
    else []
  else []

def temperatureLines (device : Device R) : Except PyError (List (MetricLine R)) :=
  match device.temperature with
  | none => .ok []
  | some temperature =>
      match R.ofInt temperature with
      | none => .error .overflowError
      | some degrees =>
          .ok [diskLine device (device.interface.getD "None") "smartmon_temperature" degrees]

def parseDeviceInfo (device : Device R) : Except PyError (List (MetricLine R)) := do
  let temperature ← temperatureLines device
  return statusLines device ++ temperature

def isFunction : PyValue R.Float → Bool
  | .function => true
  | _ => false

def publicAttributes (device : Device R) : List (String × PyValue R.Float) :=
  (device.ifAttributes.getD []).filter fun attr =>
    !startswith attr.1 "_" && !isFunction attr.2

def parseIfAttribute (device : Device R) (attr : String × PyValue R.Float) :
    Except PyError (Option (MetricLine R)) :=
  let snakeName := camelToSnake R attr.1
  match floatOfNumber attr.2 with
  | some converted =>
      if snakeName ∈ smartmonAttrs then do
        let value ← converted
        return some (diskLine device (device.interface.getD "") ("smartmon_" ++ snakeName) value)
      else .ok none
  | none => .ok none

def parseIfAttributes (device : Device R) : Except PyError (List (MetricLine R)) := do
  let lines ← (publicAttributes device).mapM (parseIfAttribute device)
  return lines.reduceOption

def attrValues (device : Device R) : Dict String (PyValue R.Float) :=
  (publicAttributes device).foldl
    (fun values attr => values.set (camelToSnake R attr.1) attr.2) Dict.empty

def dictGet (value : PyValue R.Float) (key : String) (default : PyValue R.Float) :
    Except PyError (PyValue R.Float) :=
  match value with
  | .dict entries => .ok ((entries.lookup key).getD default)
  | _ => .error .attributeError

def dictOrEmpty : PyValue R.Float → List (String × PyValue R.Float)
  | .dict entries => entries
  | _ => []

def listOrEmpty : PyValue R.Float → List (PyValue R.Float)
  | .list items => items
  | _ => []

def namespaceBytes (namespaceInfo : PyValue R.Float) (field : String) :
    Except PyError (PyValue R.Float) := do
  dictGet (← dictGet namespaceInfo field (.dict [])) "bytes" .none

def isDict : PyValue R.Float → Bool
  | .dict _ => true
  | _ => false

def namespaceCapacity : List (PyValue R.Float) → Except PyError (Option R.Float)
  | [] => .ok none
  | namespaceInfo :: rest =>
      if isDict namespaceInfo then do
        let capacity ← namespaceBytes namespaceInfo "capacity"
        let size ← namespaceBytes namespaceInfo "size"
        let utilization ← namespaceBytes namespaceInfo "utilization"
        match ← numericValue [capacity, size, utilization] with
        | some value => return some value
        | none => namespaceCapacity rest
      else namespaceCapacity rest

def optionValue : Option R.Float → PyValue R.Float
  | some value => .float value
  | none => .none

def attrValue (device : Device R) (key : String) : PyValue R.Float :=
  ((attrValues device).get? key).getD .none

def healthValue (healthLog : List (String × PyValue R.Float)) (key : String) : PyValue R.Float :=
  (healthLog.lookup key).getD .none

def nvmeLine (device : Device R) (name : String) (value : R.Float) : MetricLine R :=
  diskLine device (device.interface.getD "") name value

/-- Data units read or written: the raw counter unless pySMART has it, and terabytes. -/
def dataUnitLines (device : Device R) (healthLog : List (String × PyValue R.Float))
    (key terabytes : String) : Except PyError (List (MetricLine R)) := do
  match ← numericValue [attrValue device key, healthValue healthLog key] with
  | none => return []
  | some units =>
      let bytes := R.mulInt units dataUnitBytes
      return (if ((attrValues device).get? key).isSome then []
          else [nvmeLine device ("smartmon_" ++ key) units]) ++
        [nvmeLine device terabytes (R.divInt bytes bytesPerTb)]

def nvmeHealthMetrics : List String :=
  ["media_errors", "num_err_log_entries", "warning_temp_time", "critical_comp_time", "host_reads",
    "host_writes"]

def healthLines (device : Device R) (healthLog : List (String × PyValue R.Float)) (key : String) :
    Except PyError (List (MetricLine R)) := do
  if ((attrValues device).get? key).isSome then return []
  match ← numericValue [healthValue healthLog key] with
  | none => return []
  | some value => return [nvmeLine device ("smartmon_" ++ key) value]

def nvmeModelName (device : Device R) (nvmeJson : PyValue R.Float) : Except PyError String := do
  let modelName := strip (device.model.getD "")
  if modelName = "" then return strip (R.str (← dictGet nvmeJson "model_name" (.str "")))
  return modelName

def capacityLines (device : Device R) (totalCapacity unallocated : Option R.Float)
    (ratedDwpd : R.Float) : List (MetricLine R) :=
  (totalCapacity.elim [] fun capacity =>
    [nvmeLine device "smartmon_nvme_total_capacity_bytes" capacity,
      nvmeLine device "smartmon_physical_size_bytes" capacity]) ++
  [nvmeLine device "smartmon_nvme_rated_dwpd" ratedDwpd] ++
  unallocated.elim [] fun capacity =>
    [nvmeLine device "smartmon_nvme_unallocated_capacity_bytes" capacity]

def collectNvmeMetrics (ratings : Dict String R.Float) (device : Device R)
    (smartctl : List String → Response R) : Except PyError (List (MetricLine R)) := do
  -- Only a failed subprocess is replaced by an empty answer; what `json.loads` raises is not.
  let nvmeJson ← smartctlJson smartctl (canonicalDevicePath device.name)
    (device.interface.getD "") ["-x"]
  let modelName ← nvmeModelName device nvmeJson
  let healthLog := dictOrEmpty (← dictGet nvmeJson "nvme_smart_health_information_log" .none)
  let userCapacity := dictOrEmpty (← dictGet nvmeJson "user_capacity" .none)
  let namespaces := listOrEmpty (← dictGet nvmeJson "nvme_namespaces" .none)
  let perNamespace ← namespaceCapacity namespaces
  let reportedCapacity ← dictGet nvmeJson "nvme_total_capacity" .none
  let totalCapacity ← numericValue [attrValue device "nvme_total_capacity", reportedCapacity,
    (userCapacity.lookup "bytes").getD .none, optionValue perNamespace]
  let reportedUnallocated ← dictGet nvmeJson "nvme_unallocated_capacity" .none
  let unallocated ← numericValue [attrValue device "nvme_unallocated_capacity", reportedUnallocated]
  let dataRead ← dataUnitLines device healthLog "data_units_read" "smartmon_nvme_terabytes_read_total"
  let dataWritten ← dataUnitLines device healthLog "data_units_written"
    "smartmon_nvme_terabytes_written_total"
  let health ← nvmeHealthMetrics.mapM (healthLines device healthLog)
  return capacityLines device totalCapacity unallocated (getRatedDwpd ratings modelName) ++
    dataRead ++ dataWritten ++ health.flatten

def versionNumber (versionOutput : Option String) : String :=
  match versionOutput.map strip with
  | none => "unknown"
  | some output =>
      if startswith output "smartctl" then
        (words (String.ofList (output.toList.takeWhile fun char => !isLineBreak char)))[1]?.getD
          "unknown"
      else "unknown"

def standbyActive (answer : Except PyError (PyValue R.Float)) : Bool :=
  match answer with
  | .ok (.dict entries) =>
      match (entries.lookup "power_mode").getD (.str "") with
      | .str mode => mode ≠ "standby"
      | _ => true
  -- An answer without `get` raises too, and any exception means inactive.
  | _ => false

def Visit.active (visit : Visit R) : Bool :=
  standbyActive (smartctlJson visit.smartctl (canonicalDevicePath visit.device.name)
    (visit.device.interface.getD "") ["-n", "standby"])

def basename (path : String) : List Char := path.toList.rtakeWhile (· ≠ '/')

def Device.isNvme (device : Device R) : Bool :=
  R.lower (device.interface.getD "") == "nvme" || "nvme".toList.isPrefixOf (basename device.name)

def Device.processed (device : Device R) : Bool :=
  device.serialNumber ≠ "" && device.assessment.getD "" ≠ ""

def presenceLines (visit : Visit R) : List (MetricLine R) :=
  let diskType := visit.device.interface.getD ""
  [⟨"smartmon_smartctl_run", [("disk", visit.device.name), ("type", diskType)],
      .int visit.timestamp⟩,
    ⟨"smartmon_device_active", [("disk", visit.device.name), ("type", diskType),
      ("serial_number", visit.device.serialNumber)], .int (if visit.active then 1 else 0)⟩]

def nvmeLines (ratings : Dict String R.Float) (visit : Visit R) :
    Except PyError (List (MetricLine R)) :=
  if visit.device.isNvme then collectNvmeMetrics ratings visit.device visit.smartctl else .ok []

def activeLines (ratings : Dict String R.Float) (visit : Visit R) :
    Except PyError (List (MetricLine R)) := do
  let info ← parseDeviceInfo visit.device
  let attributes ← parseIfAttributes visit.device
  let nvme ← nvmeLines ratings visit
  return info ++ attributes ++ nvme

def visitDevice (ratings : Dict String R.Float) (visit : Visit R) :
    Except PyError (List (MetricLine R)) := do
  if visit.device.processed = false then return []
  if visit.active = false then return presenceLines visit
  return presenceLines visit ++ (← activeLines ratings visit)

/-- The collection loop of `main`: the lines it passes to `write_metrics_to_textfile`. -/
def collectMetrics (ratings : Dict String R.Float) (versionOutput : Option String)
    (visits : List (Visit R)) : Except PyError (List (MetricLine R)) := do
  let version : MetricLine R :=
    ⟨"smartmon_smartctl_version", [("version", versionNumber versionOutput)], .int 1⟩
  let collected ← visits.mapM (visitDevice ratings)
  return version :: collected.flatten

end Smartmon
