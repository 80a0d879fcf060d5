import KayobeConfig.ScanImages.Throttle

/-!
What the output directory lists once the script has exited, whatever the order in which the
jobs take their steps and wherever a scan fails.
-/

namespace ScanImages

open Library

/-- A command to which errexit applies fails, or Grype does. -/
def Scan.Stops (scan : Scan) : Script → Prop
  | .run command rest => scan.errors command ∨ scan.Stops rest
  | .grype clean error vulnerable =>
      scan.select (scan.Stops clean) (scan.Stops error) (scan.Stops vulnerable)
  | .test condition holds fails =>
      if scan.holds condition then scan.Stops holds else scan.Stops fails
  | .record category => scan.errors (.record category)
  | .exit => True

/-- A command in the condition of an `if` that the scan reaches fails. -/
def Scan.TestErrs (scan : Scan) : Script → Prop
  | .run command rest => ¬scan.errors command ∧ scan.TestErrs rest
  | .grype clean error vulnerable =>
      scan.select (scan.TestErrs clean) (scan.TestErrs error) (scan.TestErrs vulnerable)
  | .test condition holds fails =>
      scan.testErrors condition ∨
        if scan.holds condition then scan.TestErrs holds else scan.TestErrs fails
  | .record _ => False
  | .exit => False

def Setup.Stops (setup : Setup) (image : String) : Prop :=
  (setup.scans image).Stops (scanImageScript setup.generateSbom image)

def Setup.TestErrs (setup : Setup) (image : String) : Prop :=
  (setup.scans image).TestErrs (scanImageScript setup.generateSbom image)

def System.scannedImages (state : System) : List String :=
  state.output.cleanImages ++ state.output.highImages ++ state.output.criticalImages

structure Accounted (setup : Setup) (events : List Event) : Prop where
  parallel : setup.howMany (setup.after events) Phase.isScanning ≤ setup.scanParallelism
  once : ∀ image, events.count (.start image) ≤ 1
  filed : ∀ status, (setup.after events).position = .exited status →
    ∀ image, .start image ∈ events →
      ((setup.after events).scannedImages ++ (setup.after events).failedImages).count image = 1
  success : (setup.after events).position = .exited 0 →
    ∀ image, .start image ∈ events → ¬(setup.Stops image ∨ setup.TestErrs image)
  complete : (setup.after events).position = .exited 0 →
    (setup.after events).scannedImages.Perm setup.images

def Setup.Terminates (setup : Setup) : Prop :=
  ∃ bound, ∀ events, setup.Run events → events.length ≤ bound ∧
    ((∀ event, ¬setup.Enabled (setup.after events) event) →
      ∃ status, (setup.after events).position = .exited status)

structure Sound (setup : Setup) (state : System) : Prop where
  placed : Placed setup state
  filed : Filed state
  course : OnCourse setup state
  throttled : Throttled setup state

theorem sound_start (setup : Setup) : Sound setup setup.start :=
  ⟨placed_start setup, filed_start setup, fun _ => trivial, throttled_start setup⟩

theorem sound_perform {setup : Setup} (state : System) (event : Event) (sound : Sound setup state)
    (enabled : setup.Enabled state event) : Sound setup (setup.perform state event) := by
  have moves := perform_moves enabled
  exact ⟨placed_moves sound.placed moves, filed_moves sound.placed sound.filed moves,
    onCourse_moves sound.course moves, throttled_perform sound.placed sound.throttled enabled⟩

theorem sound_after {setup : Setup} {events : List Event} (run : setup.Run events) :
    Sound setup (setup.after events) :=
  invariant_runFrom sound_perform (sound_start setup) run

theorem pending_perform {setup : Setup} {state : System} {event : Event}
    (enabled : setup.Enabled state event) (image : String) :
    (setup.perform state event).pending.count image + [event].count (.start image) =
      state.pending.count image := by
  cases event with
  | start other =>
      obtain ⟨rest, pending⟩ := List.head?_eq_some_iff.mp enabled.2
      have later : (setup.perform state (.start other)).pending = rest := by
        simp [Setup.perform, System.move, pending]
      rw [later, pending, List.count_singleton, List.count_cons]
      simp only [beq_iff_eq, Event.start.injEq]
  | scan other =>
      obtain ⟨_, phase, move⟩ := scan_move setup enabled
      exact congrArg (List.count image) move.pending
  | record other =>
      obtain ⟨_, phase, move⟩ := record_move setup enabled.1 enabled.2
      exact congrArg (List.count image) move.pending
  | forget other =>
      obtain ⟨_, result, _, move⟩ := waited_move setup enabled
      exact congrArg (List.count image) move.pending
  | waitNext other =>
      obtain ⟨_, result, _, move⟩ := waited_move setup enabled.2
      exact congrArg (List.count image) move.pending
  | _ => rfl

theorem starts_add_pending {setup : Setup} {state : System} {events : List Event}
    (run : Along setup.perform setup.Enabled state events) (image : String) :
    (runFrom setup.perform state events).pending.count image + events.count (.start image) =
      state.pending.count image := by
  induction events generalizing state with
  | nil => simp [runFrom]
  | cons event events ih =>
      obtain ⟨enabled, later⟩ := along_cons.mp run
      have rest := ih later
      have first := pending_perform enabled image
      have same : runFrom setup.perform state (event :: events) =
        runFrom setup.perform (setup.perform state event) events := rfl
      rw [same, List.count_cons]
      rw [List.count_singleton] at first
      omega

section Results

variable {setup : Setup} {events : List Event}

theorem starts_le (run : setup.Run events) (image : String) : events.count (.start image) ≤ 1 := by
  have counted : _ = setup.images.count image := starts_add_pending run image
  have once := List.nodup_iff_count_le_one.mp setup.distinct image
  omega

theorem started_iff (run : setup.Run events) (image : String) :
    .start image ∈ events ↔ image ∈ setup.images ∧ image ∉ (setup.after events).pending := by
  have counted : (setup.after events).pending.count image + events.count (.start image) =
    setup.images.count image := starts_add_pending run image
  have once := List.nodup_iff_count_le_one.mp setup.distinct image
  rw [← List.count_pos_iff, ← List.count_pos_iff, ← List.count_eq_zero]
  omega

/-- Once no job runs, those of every image that was started have ended. -/
theorem ended_of_started (run : setup.Run events)
    (quiet : setup.howMany (setup.after events) Phase.isRunning = 0) {image : String}
    (started : .start image ∈ events) :
    ∃ result waited, (setup.after events).phases image = .ended result waited := by
  have sound := sound_after run
  obtain ⟨member, reached⟩ := (started_iff run image).mp started
  have active : (setup.after events).phases image ≠ .idle := by
    intro idle
    exact ((sound.placed.idle_iff image).mp idle).elim (fun absent => absent member) reached
  have still := not_of_howMany quiet member
  cases phase : (setup.after events).phases image with
  | ended result waited => exact ⟨result, waited, rfl⟩
  | idle => exact absurd phase active
  | scanning left => simp [phase, Phase.isRunning] at still
  | exited result => simp [phase, Phase.isRunning] at still

theorem count_scannedImages (state : System) (image : String) :
    state.scannedImages.count image = (state.output.images .clean).count image +
      (state.output.images .high).count image + (state.output.images .critical).count image := by
  simp only [System.scannedImages, ScanOutput.images, List.count_append]

theorem Filed.count_ended {state : System} (filed : Filed state) {image : String}
    {result : Option Category} {waited : Bool} (ended : state.phases image = .ended result waited) :
    state.scannedImages.count image = (if result = none then 0 else 1) ∧
      state.failedImages.count image = if result = none then 1 else 0 := by
  have here := filed image
  rw [ended] at here
  rw [count_scannedImages, here.listed, here.listed, here.listed, here.failed]
  cases result with
  | none => simp [Phase.result, Phase.hasFailed]
  | some category => cases category <;> simp [Phase.result, Phase.hasFailed]

theorem Filed.count_idle {state : System} (filed : Filed state) {image : String}
    (idle : state.phases image = .idle) : state.scannedImages.count image = 0 := by
  have here := filed image
  rw [idle] at here
  rw [count_scannedImages, here.listed, here.listed, here.listed]
  simp [Phase.result]

theorem exited_known (run : setup.Run events) {status : Nat}
    (exited : (setup.after events).position = .exited status) :
    ((setup.after events).pending = [] ∨ (setup.after events).failedImages ≠ []) ∧
      setup.howMany (setup.after events) Phase.isRunning = 0 ∧
        status = if (setup.after events).failedImages = [] then 0 else 1 := by
  have here := (sound_after run).throttled.here
  rw [exited] at here
  exact here

theorem exited_zero (run : setup.Run events)
    (exited : (setup.after events).position = .exited 0) :
    (setup.after events).pending = [] ∧ (setup.after events).failedImages = [] := by
  obtain ⟨done, _, agrees⟩ := exited_known run exited
  have none : (setup.after events).failedImages = [] := by
    by_contra some
    rw [if_neg some] at agrees
    omega
  exact ⟨done.resolve_right (not_not.mpr none), none⟩

theorem started_of_pending (run : setup.Run events) (reached : (setup.after events).pending = [])
    {image : String} (member : image ∈ setup.images) : .start image ∈ events :=
  (started_iff run image).mpr ⟨member, by simp [reached]⟩

theorem filed_once (run : setup.Run events) {status : Nat}
    (exited : (setup.after events).position = .exited status) {image : String}
    (started : .start image ∈ events) :
    ((setup.after events).scannedImages ++ (setup.after events).failedImages).count image = 1 := by
  obtain ⟨_, quiet, _⟩ := exited_known run exited
  obtain ⟨result, waited, ended⟩ := ended_of_started run quiet started
  obtain ⟨scanned, failed⟩ := (sound_after run).filed.count_ended ended
  rw [List.count_append, scanned, failed]
  split <;> rfl

theorem result_none_iff (scan : Scan) (script : Script) :
    scan.result script = none ↔ scan.Stops script := by
  induction script with
  | run command rest ih =>
      by_cases fails : scan.errors command <;> simp [Scan.result, Scan.Stops, fails, ih]
  | grype clean error vulnerable ihClean ihError ihVulnerable =>
      simp only [Scan.result, Scan.Stops, Scan.select]
      split
      · exact ihClean
      · split
        · exact ihError
        · exact ihVulnerable
  | test condition holds fails ihHolds ihFails =>
      by_cases chosen : scan.holds condition <;> simp [Scan.result, Scan.Stops, chosen, ihHolds, ihFails]
  | record category => simp [Scan.result, Scan.Stops]
  | exit => simp [Scan.result, Scan.Stops]

theorem failed_iff_stops (run : setup.Run events) {status : Nat}
    (exited : (setup.after events).position = .exited status) {image : String}
    (started : .start image ∈ events) :
    image ∈ (setup.after events).failedImages ↔ setup.Stops image := by
  obtain ⟨_, quiet, _⟩ := exited_known run exited
  obtain ⟨result, waited, ended⟩ := ended_of_started run quiet started
  have sound := sound_after run
  have course := sound.course image
  rw [ended] at course
  have known : result = (setup.scans image).result (scanImageScript setup.generateSbom image) := course
  have stops : result = none ↔ setup.Stops image := by
    rw [known]
    exact result_none_iff _ _
  rw [← stops, ← List.count_pos_iff, (sound.filed.count_ended ended).2]
  split
  · rename_i none
    simp [none]
  · rename_i some
    simp [some]

/-- The status is 0 exactly when every image was scanned and no scan has stopped. -/
theorem exited_zero_iff (run : setup.Run events) {status : Nat}
    (exited : (setup.after events).position = .exited status) :
    status = 0 ↔ ∀ image ∈ setup.images, ¬setup.Stops image := by
  obtain ⟨_, _, agrees⟩ := exited_known run exited
  have sound := sound_after run
  constructor
  · intro zero image member stops
    subst zero
    obtain ⟨reached, none⟩ := exited_zero run exited
    have started := started_of_pending run reached member
    have failed := (failed_iff_stops run exited started).mpr stops
    rw [none] at failed
    simp at failed
  · intro all
    have none : (setup.after events).failedImages = [] := by
      apply List.eq_nil_iff_forall_not_mem.mpr
      intro image failed
      have counted := (sound.filed image).failed
      have positive := List.count_pos_iff.mpr failed
      have active : (setup.after events).phases image ≠ .idle := by
        intro idle
        rw [idle] at counted
        simp [Phase.hasFailed] at counted
        omega
      have member := sound.placed.member active
      have reached : image ∉ (setup.after events).pending := fun later =>
        active ((sound.placed.idle_iff image).mpr (.inr later))
      have started : .start image ∈ events := (started_iff run image).mpr ⟨member, reached⟩
      exact all image member ((failed_iff_stops run exited started).mp failed)
    rw [agrees, if_pos none]

theorem scannedImages_perm (run : setup.Run events)
    (exited : (setup.after events).position = .exited 0) :
    (setup.after events).scannedImages.Perm setup.images := by
  obtain ⟨reached, none⟩ := exited_zero run exited
  have sound := sound_after run
  rw [List.perm_iff_count]
  intro image
  by_cases member : image ∈ setup.images
  · have once := filed_once run exited (started_of_pending run reached member)
    rw [none, List.append_nil] at once
    rw [once, List.count_eq_one_of_mem setup.distinct member]
  · have idle := (sound.placed.idle_iff image).mpr (.inl member)
    rw [sound.filed.count_idle idle, List.count_eq_zero_of_not_mem member]

theorem terminates (setup : Setup) : setup.Terminates := by
  refine ⟨setup.rank setup.start, ?_⟩
  intro events run
  have sound := sound_after run
  constructor
  · have bound := length_add_rank_le sound_perform
      (fun _ _ sound enabled => rank_perform sound.placed enabled) (sound_start setup) run
    omega
  · intro stuck
    by_contra unfinished
    obtain ⟨event, enabled⟩ := exists_enabled sound.throttled unfinished
    exact stuck event enabled

theorem exists_exit (setup : Setup) :
    ∃ events, setup.Run events ∧ ∃ status, (setup.after events).position = .exited status :=
  exists_completion sound_perform
    (fun _ _ sound enabled => rank_perform sound.placed enabled)
    (fun _ sound unfinished => exists_enabled sound.throttled unfinished) (sound_start setup)

theorem scanning_le (run : setup.Run events) :
    setup.howMany (setup.after events) Phase.isScanning ≤ setup.scanParallelism := by
  have bound := (sound_after run).throttled.bounded
  have fewer : setup.howMany (setup.after events) Phase.isScanning ≤
      setup.howMany (setup.after events) Phase.isRunning := by
    apply total_mono
    intro image phase
    cases phase <;> simp [Phase.isScanning, Phase.isRunning]
  omega

theorem result_runAll {scan : Scan} (quiet : ∀ command, scan.errors command = false)
    (commands : List Command) (rest : Script) :
    scan.result (.runAll commands rest) = scan.result rest := by
  induction commands with
  | nil => rfl
  | cons command commands ih =>
      have unfolded : Script.runAll (command :: commands) rest =
        .run command (.runAll commands rest) := rfl
      simp only [unfolded, Scan.result, quiet, Bool.false_eq_true, if_false, ih]

/-- Where no command fails, the jobs of an image record what `scanImage` does. -/
theorem result_scanImageScript {scan : Scan} (quiet : ∀ command, scan.errors command = false)
    (read : ∀ condition, scan.testErrors condition = false) (generateSbom : Bool) (image : String)
    (output : ScanOutput) :
    (scan.result (scanImageScript generateSbom image)).map (output.record image) =
      scanImage image scan.exitCode scan.report output := by
  unfold scanImageScript scanImage
  rw [result_runAll quiet]
  simp only [Scan.result, Scan.select, result_runAll quiet, quiet, Bool.false_eq_true, if_false,
    categoriseScript]
  by_cases clean : scan.exitCode = 0
  · simp [clean]
  · by_cases error : scan.exitCode ≠ 2
    · simp [clean, error]
    · simp only [if_neg clean, if_neg error, Scan.holds, Scan.reads, read, Bool.false_eq_true,
        if_false, Option.some.injEq, decide_eq_true_eq, Option.any_some, categoriseImage]
      split
      · rfl
      · split
        · rfl
        · rfl

theorem listed_iff_result (run : setup.Run events) {status : Nat}
    (exited : (setup.after events).position = .exited status) {image : String}
    (started : .start image ∈ events) (category : Category) :
    image ∈ (setup.after events).output.images category ↔
      (setup.scans image).result (scanImageScript setup.generateSbom image) = some category := by
  obtain ⟨_, quiet, _⟩ := exited_known run exited
  obtain ⟨result, waited, ended⟩ := ended_of_started run quiet started
  have sound := sound_after run
  have course := sound.course image
  have here := (sound.filed image).listed category
  rw [ended] at course here
  have known : result = (setup.scans image).result (scanImageScript setup.generateSbom image) := course
  rw [← known, ← List.count_pos_iff, here]
  by_cases listed : result = some category <;> simp [Phase.result, listed]

end Results

/-- Nothing is lost or listed twice in any run. A failed command goes unnoticed where it stands
in the condition of an `if`, unless another image's scan stops. -/
theorem accounted_iff (setup : Setup) :
    ((∀ events, setup.Run events → Accounted setup events) ∧ setup.Terminates) ↔
      (∃ image ∈ setup.images, setup.Stops image) ∨
        ∀ image ∈ setup.images, ¬setup.TestErrs image := by
  constructor
  · rintro ⟨all, _⟩
    by_contra both
    rw [not_or] at both
    obtain ⟨clean, erring⟩ := both
    push Not at clean erring
    obtain ⟨image, member, errs⟩ := erring
    obtain ⟨events, run, status, exited⟩ := exists_exit setup
    have zero : status = 0 := (exited_zero_iff run exited).mpr clean
    subst zero
    have accounted := all events run
    have started := started_of_pending run (exited_zero run exited).1 member
    exact accounted.success exited image started (.inr errs)
  · intro condition
    refine ⟨?_, terminates setup⟩
    intro events run
    refine ⟨scanning_le run, starts_le run, ?_, ?_, scannedImages_perm run⟩
    · intro status exited image started
      exact filed_once run exited started
    · intro exited image started
      have clean := (exited_zero_iff run exited).mp rfl
      have member := ((started_iff run image).mp started).1
      have quiet : ∀ image ∈ setup.images, ¬setup.TestErrs image :=
        condition.resolve_left fun ⟨other, listed, stops⟩ => clean other listed stops
      exact not_or.mpr ⟨clean image member, quiet image member⟩

theorem Scan.testErrs_runAll (scan : Scan) (commands : List Command) (rest : Script) :
    scan.TestErrs (.runAll commands rest) ↔
      (∀ command ∈ commands, ¬scan.errors command) ∧ scan.TestErrs rest := by
  induction commands with
  | nil => simp [Script.runAll]
  | cons command commands ih =>
      have unfolded : Script.runAll (command :: commands) rest =
        .run command (.runAll commands rest) := rfl
      rw [unfolded, Scan.TestErrs, ih, List.forall_mem_cons, and_assoc]

/-- Grype reports a critical vulnerability, and the pipeline that reads the summary fails. -/
def unreadSummary : Setup where
  images := ["ark.stackhpc.com/stackhpc-dev/nova-api:2025.1"]
  scanParallelism := 4
  generateSbom := false
  scans := fun _ =>
    { errors := fun _ => false
      exitCode := 2
      report := [⟨"CVE-2025-1", "Critical", ["1.2"], none, "openssl", some "rpm", none, []⟩]
      testErrors := fun condition => condition = .summaryIsEmpty
      misread := fun _ => some 0 }
  distinct := List.nodup_singleton _
  parallel := by decide

def unreadSummaryRun : List Event :=
  let image := "ark.stackhpc.com/stackhpc-dev/nova-api:2025.1"
  [.count 0, .check, .start image] ++ List.replicate 16 (.scan image) ++
    [.record image, .endLoop, .wait, .report]

theorem unreadSummary_unaccounted :
    ¬((∀ events, unreadSummary.Run events → Accounted unreadSummary events) ∧
      unreadSummary.Terminates) := by
  rintro ⟨all, _⟩
  have run : unreadSummary.Run unreadSummaryRun := by
    unfold Setup.Run
    decide +kernel
  have exited : (unreadSummary.after unreadSummaryRun).position = .exited 0 := by decide +kernel
  have started : .start "ark.stackhpc.com/stackhpc-dev/nova-api:2025.1" ∈ unreadSummaryRun := by
    decide
  apply (all unreadSummaryRun run).success exited _ started
  right
  unfold Setup.TestErrs scanImageScript
  rw [Scan.testErrs_runAll]
  refine ⟨by simp [unreadSummary], ?_⟩
  simp [Scan.TestErrs, Scan.select, Scan.testErrs_runAll, unreadSummary]

end ScanImages
