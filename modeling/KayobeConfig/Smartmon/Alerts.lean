import Mathlib.Algebra.Order.Ring.Rat
import Mathlib.Tactic.NormNum
import KayobeConfig.Library.PromQL
import KayobeConfig.Smartmon.RoundTrip

/-!
The write-endurance alerts of `prometheus/smart.rules` on what the exporter writes.
The rules select metric names that no line of the exporter has, so they return
nothing, and they agree with the endurance of a disk only while it keeps its rating.
-/

namespace Smartmon

open Library Library.PromQL

def daySeconds : Nat := 86400

def dwpdRule (days : Nat) : Expr :=
  .above
    (.quotient (.divide (.times (.delta "nvme_data_units_written_total" (days * daySeconds)) 512000)
      (.selector "nvme_physical_size_bytes")) days)
    (.selector "nvme_rated_dwpd")

def dwpdTooHigh : Expr := dwpdRule 30

def dwpdTooHighWarning : Expr := dwpdRule 7

variable {R : PyRuntime} {N : Type}

def scrape (attach : Labels → Labels) (exact : R.Float → N) (time : Nat)
    (registry : Registry R.Float) : List (Sample N) :=
  registry.entries.flatMap fun entry => entry.2.samples.entries.map fun sample =>
    ⟨entry.1, attach (entry.2.labelNames.zip sample.1).toFinset, time, exact sample.2⟩

structure Run (R : PyRuntime) (client : PrometheusClient) where
  time : Nat
  ratings : Dict String R.Float
  versionOutput : Option String
  visits : List (Visit R)
  lines : List (MetricLine R)
  registry : Registry R.Float
  collected : collectMetrics ratings versionOutput visits = .ok lines
  written : writeMetricsToTextfile client (lines.map MetricLine.text) = .ok registry

structure DiskRun (R : PyRuntime) (client : PrometheusClient) (disk : List (String × String))
    extends Run R client where
  unitsWritten : R.Float
  capacity : R.Float
  ratedDwpd : R.Float
  exportsUnits : registry.Holds "smartmon_data_units_written" disk unitsWritten
  exportsCapacity : registry.Holds "smartmon_nvme_total_capacity_bytes" disk capacity
  exportsRating : registry.Holds "smartmon_nvme_rated_dwpd" disk ratedDwpd

structure History (R : PyRuntime) (client : PrometheusClient) (disk : List (String × String)) where
  runs : List (DiskRun R client disk)
  ordered : runs.Pairwise fun earlier later => earlier.time < later.time

variable {client : PrometheusClient} {disk : List (String × String)}

def History.samples (history : History R client disk) (attach : Labels → Labels)
    (exact : R.Float → N) : List (Sample N) :=
  history.runs.flatMap fun run => scrape attach exact run.time run.registry

def History.window (history : History R client disk) (now days : Nat) :
    List (DiskRun R client disk) :=
  history.runs.filter fun run => now < run.time + days * daySeconds ∧ run.time ≤ now

section Rules

variable [Sub N] [Mul N] [Div N] [NatCast N] [LT N]

def History.Exceeds (history : History R client disk) (exact : R.Float → N) (now days : Nat) : Prop :=
  ∃ first last, (history.window now days).head? = some first ∧
    (history.window now days).getLast? = some last ∧
    exact last.ratedDwpd <
      (exact last.unitsWritten - exact first.unitsWritten) * (512000 : Nat) / exact last.capacity / days

def History.Returns [DecidableLT N] (history : History R client disk) (attach : Labels → Labels)
    (exact : R.Float → N) (lookback now : Nat) (rule : Expr) : Prop :=
  (eval (history.samples attach exact) lookback now rule (attach disk.toFinset)).isSome

end Rules

def NamesKnown (registry : Registry R.Float) : Prop :=
  ∀ name gauge, Dict.get? registry name = some gauge → name ∈ metricNames

theorem writeMetric_namesKnown {registry next : Registry R.Float} {line : MetricLine R}
    (known : NamesKnown registry) (named : line.name ∈ metricNames)
    (written : writeMetric client registry line.text = .ok next) : NamesKnown next := by
  have braceless := validMetricName_noBrace (metricNames_valid line.name named)
  have opened : splitFirst '{' line.text = _ := splitFirst_text braceless
  obtain ⟨parts, unpacked, written⟩ := except_bind_ok.mp written
  obtain ⟨others, _, written⟩ := except_bind_ok.mp written
  obtain ⟨gauge, _, written⟩ := except_bind_ok.mp written
  obtain ⟨updated, _, same⟩ := except_bind_ok.mp written
  cases same
  have split := unpackSplit_ok unpacked
  rw [opened, Option.some.injEq] at split
  subst split
  intro name found present
  rw [Dict.get?_set, String.ofList_toList] at present
  split at present
  · rename_i same
    rw [same]
    exact named
  · exact known name found present

theorem writeMetrics_namesKnown {lines : List (MetricLine R)} {registry final : Registry R.Float}
    (known : NamesKnown registry) (named : ∀ line ∈ lines, line.name ∈ metricNames)
    (written : (lines.map MetricLine.text).foldlM (writeMetric client) registry = .ok final) :
    NamesKnown final := by
  induction lines generalizing registry with
  | nil =>
      cases written
      exact known
  | cons line lines ih =>
      rw [List.map_cons, List.foldlM_cons] at written
      obtain ⟨next, step, written⟩ := except_bind_ok.mp written
      have known := writeMetric_namesKnown known (named line List.mem_cons_self) step
      exact ih known (fun later member => named later (List.mem_cons_of_mem line member)) written

theorem Run.namesKnown (run : Run R client) : NamesKnown run.registry := by
  have start : NamesKnown (Dict.empty : Registry R.Float) := by
    intro name gauge present
    simp at present
  have named := fun line member => (collectMetrics_wellFormed run.collected line member).named
  exact writeMetrics_namesKnown start named run.written

theorem samples_named (history : History R client disk) (attach : Labels → Labels)
    (exact : R.Float → N) :
    ∀ sample ∈ history.samples attach exact, sample.name ∈ metricNames := by
  intro sample member
  obtain ⟨run, _, among⟩ := List.mem_flatMap.mp member
  obtain ⟨⟨name, gauge⟩, entry, inside⟩ := List.mem_flatMap.mp among
  obtain ⟨values, _, rfl⟩ := List.mem_map.mp inside
  exact run.toRun.namesKnown name gauge ((Dict.mem_entries_iff _ name gauge).mp entry)

variable [Sub N] [Mul N] [Div N] [NatCast N] [LT N] [DecidableLT N]

theorem dwpdRule_silent (history : History R client disk) (attach : Labels → Labels)
    (exact : R.Float → N) (lookback now days : Nat) :
    ¬history.Returns attach exact lookback now (dwpdRule days) := by
  have absent : ∀ sample ∈ history.samples attach exact,
      sample.name ≠ "nvme_data_units_written_total" := by
    intro sample member same
    have unknown : "nvme_data_units_written_total" ∉ metricNames := by decide
    exact unknown (same ▸ samples_named history attach exact sample member)
  have used : "nvme_data_units_written_total" ∈ (dwpdRule days).names := by
    simp [dwpdRule, Expr.names]
  unfold History.Returns
  simp [eval_absent absent lookback now _ used]

/-- No rule ever returns a disk, so the alerts are right only while the rating is kept. -/
theorem dwpdAlerts_agree_iff (history : History R client disk) (attach : Labels → Labels)
    (exact : R.Float → N) (lookback now : Nat) :
    ((history.Returns attach exact lookback now dwpdTooHigh ↔ history.Exceeds exact now 30) ∧
      (history.Returns attach exact lookback now dwpdTooHighWarning ↔
        history.Exceeds exact now 7)) ↔
      ¬history.Exceeds exact now 30 ∧ ¬history.Exceeds exact now 7 := by
  have silent := dwpdRule_silent history attach exact lookback now 30
  have silentWarning := dwpdRule_silent history attach exact lookback now 7
  unfold dwpdTooHigh dwpdTooHighWarning
  constructor
  · rintro ⟨alert, warning⟩
    exact ⟨fun exceeds => silent (alert.mpr exceeds),
      fun exceeds => silentWarning (warning.mpr exceeds)⟩
  · rintro ⟨within, withinWarning⟩
    exact ⟨iff_of_false silent within, iff_of_false silentWarning withinWarning⟩

def wornNvme (unitsWritten : Int) : Visit wholeRuntime where
  device := {
    name := "/dev/nvme0", interface := some "nvme", serial := some "S3YJNX0K301234",
    model := some "SAMSUNG MZWLL1T6HEHP-00003", vendor := none, family := none,
    firmware := some "GPNA9B3Q", assessment := some "PASS", smartCapable := true,
    smartEnabled := true, temperature := some 35, attributes := [], ifAttributes := none }
  timestamp := unixEpoch
  smartctl _ := .json (.dict [("power_mode", .str "ACTIVE"),
    ("nvme_smart_health_information_log", .dict [("data_units_written", .int unitsWritten)]),
    ("user_capacity", .dict [("bytes", .int (10 ^ 12))])])

def wornDisk : List (String × String) :=
  [("disk", "/dev/nvme0"), ("serial_number", "s3yjnx0k301234"), ("type", "nvme")]

def wornLines (unitsWritten : Int) : List (MetricLine wholeRuntime) :=
  ((collectMetrics Dict.empty none [wornNvme unitsWritten]).toOption).getD []

def wornFigure (unitsWritten : Int) (name : String) : Option Int :=
  (lastOfSeries (wornLines unitsWritten) ⟨name, wornDisk, .int 0⟩).bind fun last => last.value.number

def WornReported (unitsWritten : Int) : Prop :=
  (collectMetrics Dict.empty none [wornNvme unitsWritten]).isOk = true ∧
    wornFigure unitsWritten "smartmon_data_units_written" = some unitsWritten ∧
    wornFigure unitsWritten "smartmon_nvme_total_capacity_bytes" = some (10 ^ 12) ∧
    wornFigure unitsWritten "smartmon_nvme_rated_dwpd" = some 1

instance (unitsWritten : Int) : Decidable (WornReported unitsWritten) :=
  inferInstanceAs (Decidable (_ ∧ _ ∧ _ ∧ _))

theorem wornNvme_run {unitsWritten : Int} (reported : WornReported unitsWritten) (time : Nat) :
    ∃ run : DiskRun wholeRuntime classicClient wornDisk, run.time = time ∧
      run.unitsWritten = unitsWritten ∧ run.capacity = (10 ^ 12 : Int) ∧ run.ratedDwpd = (1 : Int) := by
  obtain ⟨done, units, capacity, rating⟩ := reported
  have collected : collectMetrics Dict.empty none [wornNvme unitsWritten] =
      .ok (wornLines unitsWritten) := by
    unfold wornLines
    cases outcome : collectMetrics Dict.empty none [wornNvme unitsWritten] with
    | error failure =>
        rw [outcome] at done
        cases done
    | ok lines => rfl
  have clean : Clean (versionNumber none) ∧ ∀ visit ∈ [wornNvme unitsWritten], CleanVisit visit := by
    refine ⟨by decide +kernel, ?_⟩
    intro visit listed _
    rw [List.mem_singleton.mp listed]
    exact ⟨(by decide +kernel : CleanAddress (wornNvme 0).device),
      fun _ => (by decide +kernel : CleanIdentity (wornNvme 0).device)⟩
  obtain ⟨registry, written, held⟩ := RoundTrips.of_clean classicClient
    (collectMetrics_wellFormed collected) ((collectMetrics_clean collected).mpr clean)
  have holds (name : String) (figure : Int) (last : wornFigure unitsWritten name = some figure) :
      registry.Holds name wornDisk figure := by
    obtain ⟨line, found, number⟩ := Option.bind_eq_some_iff.mp last
    obtain ⟨member, named, labelled, isLast⟩ := lastOfSeries_some found
    obtain ⟨_, value, same, valued, holds⟩ := held line member
    rw [isLast, Option.some.injEq] at same
    subst same
    rw [named, labelled] at holds
    obtain rfl : value = figure := Option.some.inj (valued.symm.trans number)
    exact holds
  refine ⟨{
    time := time, ratings := Dict.empty, versionOutput := none, visits := [wornNvme unitsWritten],
    lines := wornLines unitsWritten, registry := registry, collected := collected,
    written := written, unitsWritten := unitsWritten, capacity := (10 ^ 12 : Int),
    ratedDwpd := (1 : Int), exportsUnits := holds _ _ units, exportsCapacity := holds _ _ capacity,
    exportsRating := holds _ _ rating }, rfl, rfl, rfl, rfl⟩

def exactWhole (value : wholeRuntime.Float) : ℚ := Int.cast value

theorem dwpdAlerts_miss :
    ∃ history : History wholeRuntime classicClient wornDisk,
      ¬(history.Returns id exactWhole 300 2592000 dwpdTooHigh ↔
        history.Exceeds exactWhole 2592000 30) := by
  obtain ⟨early, earlyTime, earlyUnits, _, _⟩ :=
    wornNvme_run (by decide +kernel : WornReported 1000) 2000000
  obtain ⟨late, lateTime, lateUnits, lateCapacity, lateRating⟩ :=
    wornNvme_run (by decide +kernel : WornReported 1000000000) 2591900
  let history : History wholeRuntime classicClient wornDisk :=
    ⟨[early, late], by simp [earlyTime, lateTime]⟩
  have window : history.window 2592000 30 = [early, late] := by
    simp [History.window, history, earlyTime, lateTime, daySeconds]
  have exceeds : history.Exceeds exactWhole 2592000 30 := by
    refine ⟨early, late, by rw [window]; rfl, by rw [window]; rfl, ?_⟩
    rw [earlyUnits, lateUnits, lateCapacity, lateRating]
    unfold exactWhole
    norm_num
  refine ⟨history, ?_⟩
  intro agrees
  exact dwpdRule_silent history id _ 300 2592000 30 (agrees.mpr exceeds)

end Smartmon
