import KayobeConfig.ScanImages.Parallel

/-!
What the steps of the jobs do to the output directory: each image is in the file that its own
scan has come to, whatever the order in which the jobs take their steps.
-/

namespace ScanImages

open Library

/-- The file that a scan ends in, or none where the scan ends with exit status 1. -/
def Scan.result (scan : Scan) : Script → Option Category
  | .run command rest => if scan.errors command then none else scan.result rest
  | .grype clean error vulnerable =>
      scan.select (scan.result clean) (scan.result error) (scan.result vulnerable)
  | .test condition holds fails =>
      if scan.holds condition then scan.result holds else scan.result fails
  | .record category => if scan.errors (.record category) then none else some category
  | .exit => none

def ScanOutput.images (output : ScanOutput) : Category → List String
  | .clean => output.cleanImages
  | .high => output.highImages
  | .critical => output.criticalImages

def Phase.hasFailed : Phase → Bool
  | .ended none _ => true
  | _ => false

/-- What can become of an image's jobs in one step. -/
inductive PhaseStep (scan : Scan) : Phase → Phase → Prop
  | running {left rest : Script} (progress : scan.advance left = .running rest) :
      PhaseStep scan (.scanning left) (.scanning rest)
  | exited {left : Script} {result : Option Category} (progress : scan.advance left = .exited result) :
      PhaseStep scan (.scanning left) (.exited result)
  | ended (result : Option Category) : PhaseStep scan (.exited result) (.ended result false)
  | waited (result : Option Category) : PhaseStep scan (.ended result false) (.ended result true)

structure SameFiles (state next : System) : Prop where
  output : next.output = state.output
  failedImages : next.failedImages = state.failedImages

structure JobMove (setup : Setup) (state next : System) (image : String) (phase : Phase) : Prop where
  step : PhaseStep (setup.scans image) (state.phases image) phase
  phases : next.phases = Function.update state.phases image phase
  pending : next.pending = state.pending
  output : ∀ category, next.output.images category = state.output.images category ++
    if (state.phases image).result = none ∧ phase.result = some (some category) then [image] else []
  failedImages : next.failedImages = state.failedImages ++
    if ¬(state.phases image).hasFailed ∧ phase.hasFailed then [image] else []

section Steps

variable (setup : Setup) {state : System} {image : String}

theorem ScanOutput.images_record (output : ScanOutput) (image : String) (category other : Category) :
    (output.record image category).images other =
      output.images other ++ if category = other then [image] else [] := by
  cases category <;> cases other <;> simp [ScanOutput.record, ScanOutput.images]

theorem scan_move (scanning : (state.phases image).isScanning) :
    (setup.scanStep state image).position = state.position ∧
      ∃ phase, JobMove setup state (setup.scanStep state image) image phase := by
  cases current : state.phases image with
  | scanning left =>
      cases progress : (setup.scans image).advance left with
      | running rest =>
          have moved : setup.scanStep state image = state.move image (.scanning rest) := by
            simp [Setup.scanStep, current, progress]
          rw [moved]
          refine ⟨rfl, .scanning rest, ?_, rfl, rfl, ?_, ?_⟩
          · rw [current]
            exact .running progress
          · simp [System.move, Phase.result]
          · simp [System.move, Phase.hasFailed]
      | exited result =>
          have moved : setup.scanStep state image =
              (state.finishScan image result).move image (.exited result) := by
            simp [Setup.scanStep, current, progress]
          rw [moved]
          cases result with
          | none =>
              refine ⟨rfl, .exited none, ?_, rfl, rfl, ?_, ?_⟩
              · rw [current]
                exact .exited progress
              · simp [System.move, System.finishScan, Phase.result]
              · simp [System.move, System.finishScan, Phase.hasFailed]
          | some category =>
              refine ⟨rfl, .exited (some category), ?_, rfl, rfl, ?_, ?_⟩
              · rw [current]
                exact .exited progress
              · intro other
                simp [System.move, System.finishScan, Phase.result, current,
                  ScanOutput.images_record]
              · simp [System.move, System.finishScan, Phase.hasFailed]
  | _ => simp [current, Phase.isScanning] at scanning

theorem record_move (running : (state.phases image).isRunning)
    (scanned : ¬(state.phases image).isScanning) :
    (state.recordFailure image).position = state.position ∧
      ∃ phase, JobMove setup state (state.recordFailure image) image phase := by
  cases current : state.phases image with
  | exited result =>
      cases result with
      | none =>
          have moved : state.recordFailure image =
              { state with failedImages := state.failedImages ++ [image] }.move image
                (.ended none false) := by
            simp [System.recordFailure, current]
          rw [moved]
          refine ⟨rfl, .ended none false, ?_, rfl, rfl, ?_, ?_⟩
          · rw [current]
            exact .ended none
          · simp [System.move, Phase.result]
          · simp [System.move, Phase.hasFailed, current]
      | some category =>
          have moved : state.recordFailure image =
              state.move image (.ended (some category) false) := by
            simp [System.recordFailure, current]
          rw [moved]
          refine ⟨rfl, .ended (some category) false, ?_, rfl, rfl, ?_, ?_⟩
          · rw [current]
            exact .ended (some category)
          · simp [System.move, Phase.result, current]
          · simp [System.move, Phase.hasFailed]
  | scanning left => simp [current, Phase.isScanning] at scanned
  | idle => simp [current, Phase.isRunning] at running
  | ended result waited => simp [current, Phase.isRunning] at running

theorem waited_move (unwaited : (state.phases image).isUnwaited) :
    (state.markWaited image).position = state.position ∧
      ∃ result, state.phases image = .ended result false ∧
        JobMove setup state (state.markWaited image) image (.ended result true) := by
  cases current : state.phases image with
  | ended result waited =>
      cases waited with
      | true => simp [current, Phase.isUnwaited] at unwaited
      | false =>
          have moved : state.markWaited image = state.move image (.ended result true) := by
            simp [System.markWaited, current]
          rw [moved]
          refine ⟨rfl, result, rfl, ?_, rfl, rfl, ?_, ?_⟩
          · rw [current]
            exact .waited result
          · simp [System.move, Phase.result, current]
          · cases result <;> simp [System.move, Phase.hasFailed, current]
  | _ => simp [current, Phase.isUnwaited] at unwaited

end Steps

/-- Everything that one step can do to the jobs and the files. -/
inductive Moves (setup : Setup) (state next : System) : Prop
  | loop (phases : next.phases = state.phases) (pending : next.pending = state.pending)
      (files : SameFiles state next)
  | start (image : String) (rest : List String) (pending : state.pending = image :: rest)
      (phases : next.phases = Function.update state.phases image
        (.scanning (scanImageScript setup.generateSbom image)))
      (later : next.pending = rest) (files : SameFiles state next)
  | job (image : String) (phase : Phase) (move : JobMove setup state next image phase)

theorem perform_moves {setup : Setup} {state : System} {event : Event}
    (enabled : setup.Enabled state event) : Moves setup state (setup.perform state event) := by
  cases event with
  | start image =>
      obtain ⟨rest, pending⟩ : ∃ rest, state.pending = image :: rest :=
        List.head?_eq_some_iff.mp enabled.2
      refine .start image rest pending rfl ?_ ⟨rfl, rfl⟩
      simp [Setup.perform, System.move, pending]
  | scan image =>
      obtain ⟨_, phase, move⟩ := scan_move setup enabled
      exact .job image phase move
  | record image =>
      obtain ⟨_, phase, move⟩ := record_move setup enabled.1 enabled.2
      exact .job image phase move
  | forget image =>
      obtain ⟨_, result, _, move⟩ := waited_move setup enabled
      exact .job image (.ended result true) move
  | waitNext image =>
      obtain ⟨_, result, _, move⟩ := waited_move setup enabled.2
      exact .job image (.ended result true)
        ⟨move.step, move.phases, move.pending, move.output, move.failedImages⟩
  | _ => exact .loop rfl rfl ⟨rfl, rfl⟩

theorem PhaseStep.leaves_idle {scan : Scan} {phase next : Phase} (step : PhaseStep scan phase next) :
    phase ≠ .idle ∧ next ≠ .idle := by
  cases step <;> simp

/-- The images that the loop has not reached are the idle ones. -/
structure Placed (setup : Setup) (state : System) : Prop where
  suffix : state.pending <:+ setup.images
  idle_iff : ∀ image, state.phases image = .idle ↔ image ∉ setup.images ∨ image ∈ state.pending

theorem Placed.pending_nodup {setup : Setup} {state : System} (placed : Placed setup state) :
    state.pending.Nodup :=
  setup.distinct.sublist placed.suffix.sublist

theorem Placed.member {setup : Setup} {state : System} (placed : Placed setup state) {image : String}
    (active : state.phases image ≠ .idle) : image ∈ setup.images := by
  by_contra absent
  exact active ((placed.idle_iff image).mpr (.inl absent))

theorem placed_start (setup : Setup) : Placed setup setup.start := by
  refine ⟨List.suffix_refl _, ?_⟩
  intro image
  simp [Setup.start, or_comm, Classical.em]

theorem placed_moves {setup : Setup} {state next : System} (placed : Placed setup state)
    (moves : Moves setup state next) : Placed setup next := by
  cases moves with
  | loop phases pending files =>
      refine ⟨pending ▸ placed.suffix, ?_⟩
      rw [phases, pending]
      exact placed.idle_iff
  | start image rest pending phases later files =>
      have suffix : rest <:+ setup.images :=
        (List.suffix_cons image rest).trans (pending ▸ placed.suffix)
      have fresh : image ∉ rest := by
        have distinct := placed.pending_nodup
        rw [pending, List.nodup_cons] at distinct
        exact distinct.1
      have listed : image ∈ setup.images :=
        placed.suffix.subset (pending ▸ List.mem_cons_self)
      refine ⟨later ▸ suffix, ?_⟩
      intro other
      rw [phases, later]
      by_cases same : other = image
      · subst same
        simp [fresh, listed]
      · rw [Function.update_of_ne same, placed.idle_iff other, pending, List.mem_cons]
        simp [same]
  | job image phase move =>
      have active := move.step.leaves_idle
      refine ⟨move.pending ▸ placed.suffix, ?_⟩
      intro other
      rw [move.phases, move.pending, ← placed.idle_iff other]
      by_cases same : other = image
      · subst same
        simp [active.1, active.2]
      · rw [Function.update_of_ne same]

structure FiledAs (state : System) (image : String) (phase : Phase) : Prop where
  listed : ∀ category, (state.output.images category).count image =
    if phase.result = some (some category) then 1 else 0
  failed : state.failedImages.count image = if phase.hasFailed then 1 else 0

/-- Each image is once in the file that its jobs have come to, and in no other. -/
def Filed (state : System) : Prop := ∀ image, FiledAs state image (state.phases image)

theorem PhaseStep.result_kept {scan : Scan} {phase next : Phase} (step : PhaseStep scan phase next)
    {result : Option Category} (known : phase.result = some result) : next.result = some result := by
  cases step with
  | running progress => simp [Phase.result] at known
  | exited progress => simp [Phase.result] at known
  | ended other => simpa [Phase.result] using known
  | waited other => simpa [Phase.result] using known

theorem PhaseStep.failure_kept {scan : Scan} {phase next : Phase} (step : PhaseStep scan phase next)
    (failed : phase.hasFailed) : next.hasFailed := by
  cases step with
  | running progress => simp [Phase.hasFailed] at failed
  | exited progress => simp [Phase.hasFailed] at failed
  | ended other => simp [Phase.hasFailed] at failed
  | waited other => cases other <;> simp_all [Phase.hasFailed]

theorem filed_start (setup : Setup) : Filed setup.start := by
  intro image
  refine ⟨?_, rfl⟩
  intro category
  cases category <;> rfl

theorem FiledAs.same_files {state next : System} {image : String} {phase : Phase}
    (files : SameFiles state next) (filed : FiledAs state image phase) : FiledAs next image phase :=
  ⟨files.output ▸ filed.listed, files.failedImages ▸ filed.failed⟩

theorem JobMove.filed {setup : Setup} {state next : System} {image : String} {phase : Phase}
    (move : JobMove setup state next image phase)
    (filed : FiledAs state image (state.phases image)) : FiledAs next image phase := by
  constructor
  · intro category
    rw [move.output category, List.count_append, filed.listed category]
    cases known : (state.phases image).result with
    | none => by_cases gained : phase.result = some (some category) <;> simp [gained]
    | some result => simp [move.step.result_kept known]
  · rw [move.failedImages, List.count_append, filed.failed]
    by_cases failed : (state.phases image).hasFailed
    · simp [failed, move.step.failure_kept failed]
    · by_cases gained : phase.hasFailed <;> simp [failed, gained]

theorem JobMove.filed_other {setup : Setup} {state next : System} {image other : String}
    {phase : Phase} (move : JobMove setup state next image phase) (different : other ≠ image)
    (filed : FiledAs state other (state.phases other)) :
    FiledAs next other (state.phases other) := by
  have absent (condition : Prop) [Decidable condition] :
      (if condition then [image] else []).count other = 0 := by
    split <;> simp [Ne.symm different]
  constructor
  · intro category
    rw [move.output category, List.count_append, absent, Nat.add_zero, filed.listed category]
  · rw [move.failedImages, List.count_append, absent, Nat.add_zero, filed.failed]

theorem filed_moves {setup : Setup} {state next : System} (placed : Placed setup state)
    (filed : Filed state) (moves : Moves setup state next) : Filed next := by
  unfold Filed
  cases moves with
  | loop phases pending files =>
      rw [phases]
      intro image
      exact (filed image).same_files files
  | start image rest pending phases later files =>
      rw [phases, Function.forall_update_iff]
      constructor
      · have idle : state.phases image = .idle :=
          (placed.idle_iff image).mpr (.inr (pending ▸ List.mem_cons_self))
        have before := filed image
        rw [idle] at before
        apply FiledAs.same_files files
        exact ⟨before.listed, before.failed⟩
      · intro other _
        exact (filed other).same_files files
  | job image phase move =>
      rw [move.phases, Function.forall_update_iff]
      constructor
      · exact move.filed (filed image)
      · intro other different
        exact move.filed_other different (filed other)

/-- The rest of a scan ends where the whole scan does. -/
def Phase.Follows (scan : Scan) (script : Script) : Phase → Prop
  | .idle => True
  | .scanning left => scan.result left = scan.result script
  | .exited result | .ended result _ => result = scan.result script

theorem Scan.select_apply {α β : Type} (scan : Scan) (f : α → β) (clean error vulnerable : α) :
    f (scan.select clean error vulnerable) = scan.select (f clean) (f error) (f vulnerable) := by
  unfold Scan.select
  split
  · rfl
  · split <;> rfl

theorem Scan.advance_result (scan : Scan) (left : Script) :
    (∀ rest, scan.advance left = .running rest → scan.result rest = scan.result left) ∧
      ∀ result, scan.advance left = .exited result → result = scan.result left := by
  cases left with
  | run command rest =>
      by_cases fails : scan.errors command <;> simp [Scan.advance, Scan.result, fails]
  | grype clean error vulnerable => simp [Scan.advance, Scan.result, scan.select_apply scan.result]
  | test condition holds fails =>
      by_cases chosen : scan.holds condition <;> simp [Scan.advance, Scan.result, chosen]
  | record category =>
      by_cases fails : scan.errors (.record category) <;> simp [Scan.advance, Scan.result, fails]
  | exit => simp [Scan.advance, Scan.result]

theorem PhaseStep.follows {scan : Scan} {script : Script} {phase next : Phase}
    (step : PhaseStep scan phase next) (follows : phase.Follows scan script) :
    next.Follows scan script := by
  cases step with
  | running progress => exact ((scan.advance_result _).1 _ progress).trans follows
  | exited progress => exact ((scan.advance_result _).2 _ progress).trans follows
  | ended result => exact follows
  | waited result => exact follows

def OnCourse (setup : Setup) (state : System) : Prop :=
  ∀ image, (state.phases image).Follows (setup.scans image)
    (scanImageScript setup.generateSbom image)

theorem onCourse_moves {setup : Setup} {state next : System} (course : OnCourse setup state)
    (moves : Moves setup state next) : OnCourse setup next := by
  unfold OnCourse
  cases moves with
  | loop phases pending files =>
      rw [phases]
      exact course
  | start image rest pending phases later files =>
      rw [phases, Function.forall_update_iff]
      exact ⟨rfl, fun other _ => course other⟩
  | job image phase move =>
      rw [move.phases, Function.forall_update_iff]
      exact ⟨move.step.follows (course image), fun other _ => course other⟩

end ScanImages
