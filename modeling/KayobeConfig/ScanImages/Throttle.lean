import KayobeConfig.ScanImages.Jobs

/-!
The loop that starts the jobs keeps to its limit, and every run of it comes to an end.
-/

namespace ScanImages

open Library

section Counting

variable {setup : Setup} {state next : System} {image : String} {phase : Phase}

theorem howMany_congr (setup : Setup) {state next : System} (same : next.phases = state.phases)
    (counts : Phase → Bool) :
    setup.howMany next counts = setup.howMany state counts := by
  simp only [Setup.howMany, same]

theorem howMany_update (member : image ∈ setup.images)
    (phases : next.phases = Function.update state.phases image phase) (counts : Phase → Bool) :
    setup.howMany next counts + (counts (state.phases image)).toNat =
      setup.howMany state counts + (counts phase).toNat := by
  simp only [Setup.howMany, phases]
  exact total_update setup.distinct member _ state.phases phase

theorem exists_of_howMany {counts : Phase → Bool} (positive : 0 < setup.howMany state counts) :
    ∃ image ∈ setup.images, counts (state.phases image) := by
  obtain ⟨image, member, counted⟩ := exists_of_total_pos positive
  refine ⟨image, member, ?_⟩
  cases value : counts (state.phases image) with
  | true => rfl
  | false => simp [value] at counted

theorem not_of_howMany {counts : Phase → Bool} (zero : setup.howMany state counts = 0)
    (member : image ∈ setup.images) : counts (state.phases image) = false := by
  have bound := le_total member (fun _ phase => (counts phase).toNat) state.phases
  have none : (counts (state.phases image)).toNat = 0 := by
    have same : total setup.images (fun _ phase => (counts phase).toNat) state.phases = 0 := zero
    omega
  simpa using none

theorem PhaseStep.running_le {scan : Scan} {later : Phase} (step : PhaseStep scan phase later) :
    later.isRunning.toNat ≤ phase.isRunning.toNat := by
  cases step <;> simp [Phase.isRunning]

theorem PhaseStep.children_le {scan : Scan} {later : Phase} (step : PhaseStep scan phase later) :
    later.isRunning.toNat + later.isUnwaited.toNat ≤
      phase.isRunning.toNat + phase.isUnwaited.toNat := by
  cases step <;> simp [Phase.isRunning, Phase.isUnwaited]

theorem JobMove.member (placed : Placed setup state) (move : JobMove setup state next image phase) :
    image ∈ setup.images :=
  placed.member move.step.leaves_idle.1

theorem JobMove.running_le (placed : Placed setup state)
    (move : JobMove setup state next image phase) :
    setup.howMany next Phase.isRunning ≤ setup.howMany state Phase.isRunning := by
  have counted := howMany_update (move.member placed) move.phases Phase.isRunning
  have fewer := move.step.running_le
  omega

theorem JobMove.children_le (placed : Placed setup state)
    (move : JobMove setup state next image phase) :
    setup.howMany next Phase.isRunning + setup.howMany next Phase.isUnwaited ≤
      setup.howMany state Phase.isRunning + setup.howMany state Phase.isUnwaited := by
  have running := howMany_update (move.member placed) move.phases Phase.isRunning
  have unwaited := howMany_update (move.member placed) move.phases Phase.isUnwaited
  have fewer := move.step.children_le
  omega

end Counting

/-- What is known of the jobs when the loop is at a position. -/
def AtPosition (setup : Setup) (state : System) : Position → Prop
  | .throttling => True
  | .waiting => state.pending ≠ []
  | .checking | .starting =>
      state.pending ≠ [] ∧ setup.howMany state Phase.isRunning < setup.scanParallelism
  | .draining => state.pending = [] ∨ state.failedImages ≠ []
  | .reporting =>
      (state.pending = [] ∨ state.failedImages ≠ []) ∧ setup.howMany state Phase.isRunning = 0
  | .exited status =>
      (state.pending = [] ∨ state.failedImages ≠ []) ∧
        setup.howMany state Phase.isRunning = 0 ∧
          status = if state.failedImages = [] then 0 else 1

structure Throttled (setup : Setup) (state : System) : Prop where
  bounded : setup.howMany state Phase.isRunning ≤ setup.scanParallelism
  here : AtPosition setup state state.position

theorem JobMove.failedImages_mono {setup : Setup} {state next : System} {image : String}
    {phase : Phase} (move : JobMove setup state next image phase)
    (failed : state.failedImages ≠ []) : next.failedImages ≠ [] := by
  rw [move.failedImages]
  simp [failed]

theorem JobMove.failedImages_quiet {setup : Setup} {state next : System} {image : String}
    {phase : Phase} (placed : Placed setup state) (move : JobMove setup state next image phase)
    (quiet : setup.howMany state Phase.isRunning = 0) : next.failedImages = state.failedImages := by
  have still := not_of_howMany quiet (move.member placed)
  rw [move.failedImages]
  have step := move.step
  generalize state.phases image = current at step still ⊢
  cases step with
  | waited result => cases result <;> simp [Phase.hasFailed]
  | _ => simp [Phase.isRunning] at still

theorem JobMove.atPosition {setup : Setup} {state next : System} {image : String} {phase : Phase}
    (placed : Placed setup state) (move : JobMove setup state next image phase)
    {position : Position} (here : AtPosition setup state position) :
    AtPosition setup next position := by
  have fewer := move.running_le placed
  have left (known : state.pending = [] ∨ state.failedImages ≠ []) :
      next.pending = [] ∨ next.failedImages ≠ [] :=
    known.imp (fun empty => move.pending.trans empty) move.failedImages_mono
  have unreached (known : state.pending ≠ []) : next.pending ≠ [] := by
    rw [move.pending]
    exact known
  cases position with
  | throttling => trivial
  | waiting => exact unreached here
  | checking => exact ⟨unreached here.1, Nat.lt_of_le_of_lt fewer here.2⟩
  | starting => exact ⟨unreached here.1, Nat.lt_of_le_of_lt fewer here.2⟩
  | draining => exact left here
  | reporting =>
      obtain ⟨known, quiet⟩ := here
      exact ⟨left known, by omega⟩
  | exited status =>
      obtain ⟨known, quiet, agrees⟩ := here
      have kept := move.failedImages_quiet placed quiet
      exact ⟨left known, by omega, by rw [kept]; exact agrees⟩

theorem JobMove.throttled {setup : Setup} {state next : System} {image : String} {phase : Phase}
    (placed : Placed setup state) (throttled : Throttled setup state)
    (move : JobMove setup state next image phase) (stays : next.position = state.position) :
    Throttled setup next := by
  have fewer := move.running_le placed
  have bound := throttled.bounded
  refine ⟨by omega, ?_⟩
  rw [stays]
  exact move.atPosition placed throttled.here

theorem throttled_start (setup : Setup) : Throttled setup setup.start := by
  have none : setup.howMany setup.start Phase.isRunning = 0 := by
    apply total_eq_zero
    intro image _
    rfl
  exact ⟨by omega, trivial⟩

theorem throttled_perform {setup : Setup} {state : System} {event : Event}
    (placed : Placed setup state) (throttled : Throttled setup state)
    (enabled : setup.Enabled state event) : Throttled setup (setup.perform state event) := by
  have bound := throttled.bounded
  have here := throttled.here
  cases event with
  | count observed =>
      obtain ⟨_, unreached, least, _⟩ := enabled
      refine ⟨bound, ?_⟩
      simp only [Setup.perform]
      by_cases full : setup.scanParallelism ≤ observed
      · rw [if_pos full]
        exact unreached
      · rw [if_neg full]
        refine ⟨unreached, ?_⟩
        have room : setup.howMany state Phase.isRunning < setup.scanParallelism := by omega
        exact room
  | waitNext image =>
      obtain ⟨_, result, _, move⟩ := waited_move setup enabled.2
      have fewer := move.running_le placed
      have same : setup.howMany (setup.perform state (.waitNext image)) Phase.isRunning =
        setup.howMany (state.markWaited image) Phase.isRunning := howMany_congr setup rfl _
      exact ⟨by omega, trivial⟩
  | waitNone => exact ⟨bound, trivial⟩
  | check =>
      rw [show state.position = .checking from enabled] at here
      refine ⟨bound, ?_⟩
      simp only [Setup.perform]
      by_cases clean : state.failedImages = []
      · rw [if_pos clean]
        exact here
      · rw [if_neg clean]
        exact .inr clean
  | start image =>
      rw [enabled.1] at here
      obtain ⟨rest, pending⟩ := List.head?_eq_some_iff.mp enabled.2
      have member : image ∈ setup.images :=
        placed.suffix.subset (pending ▸ List.mem_cons_self)
      have phases : (setup.perform state (.start image)).phases = Function.update state.phases image
        (.scanning (scanImageScript setup.generateSbom image)) := rfl
      have counted := howMany_update member phases Phase.isRunning
      have one := Bool.toNat_le (Phase.isRunning (.scanning
        (scanImageScript setup.generateSbom image)))
      have room := here.2
      exact ⟨by omega, trivial⟩
  | endLoop => exact ⟨bound, .inl enabled.2⟩
  | wait =>
      rw [enabled.1] at here
      exact ⟨bound, here, enabled.2⟩
  | report =>
      rw [show state.position = .reporting from enabled] at here
      exact ⟨bound, here.1, here.2, rfl⟩
  | scan image =>
      obtain ⟨stays, phase, move⟩ := scan_move setup enabled
      exact move.throttled placed throttled stays
  | record image =>
      obtain ⟨stays, phase, move⟩ := record_move setup enabled.1 enabled.2
      exact move.throttled placed throttled stays
  | forget image =>
      obtain ⟨stays, result, _, move⟩ := waited_move setup enabled
      exact move.throttled placed throttled stays

def Script.height : Script → Nat
  | .run _ rest => rest.height + 1
  | .grype clean error vulnerable => max clean.height (max error.height vulnerable.height) + 1
  | .test _ holds fails => max holds.height fails.height + 1
  | .record _ => 1
  | .exit => 1

def Setup.weight (setup : Setup) (image : String) : Phase → Nat
  | .idle => (scanImageScript setup.generateSbom image).height + 8
  | .scanning left => left.height + 3
  | .exited _ => 3
  | .ended _ waited => if waited then 0 else 2

/-- `wait -n` may come back with a job still to wait for, and the loop then counts again. -/
def Setup.positionWeight (setup : Setup) (state : System) : Position → Nat
  | .throttling =>
      if setup.howMany state Phase.isRunning + setup.howMany state Phase.isUnwaited = 0 then 5 else 7
  | .waiting => 6
  | .checking => 4
  | .starting => 3
  | .draining => 2
  | .reporting => 1
  | .exited _ => 0

def Setup.rank (setup : Setup) (state : System) : Nat :=
  total setup.images setup.weight state.phases + setup.positionWeight state state.position

theorem Scan.advance_height {scan : Scan} {left rest : Script}
    (progress : scan.advance left = .running rest) : rest.height < left.height := by
  cases left with
  | run command next =>
      simp only [Scan.advance] at progress
      split at progress
      · contradiction
      · cases progress
        simp [Script.height]
  | grype clean error vulnerable =>
      simp only [Scan.advance, Progress.running.injEq] at progress
      subst progress
      unfold Scan.select
      split
      · simp only [Script.height]
        omega
      · split
        · simp only [Script.height]
          omega
        · simp only [Script.height]
          omega
  | test condition holds fails =>
      simp only [Scan.advance, Progress.running.injEq] at progress
      subst progress
      split
      · simp only [Script.height]
        omega
      · simp only [Script.height]
        omega
  | record category => simp [Scan.advance] at progress
  | exit => simp [Scan.advance] at progress

theorem Script.height_pos (script : Script) : 0 < script.height := by
  cases script <;> simp [Script.height]

theorem PhaseStep.weight_lt (setup : Setup) (image : String) {scan : Scan} {phase next : Phase}
    (step : PhaseStep scan phase next) : setup.weight image next < setup.weight image phase := by
  cases step with
  | running progress =>
      have lower := Scan.advance_height progress
      simp only [Setup.weight]
      omega
  | @exited left result progress =>
      have positive := left.height_pos
      simp only [Setup.weight]
      omega
  | ended result => simp [Setup.weight]
  | waited result => simp [Setup.weight]

theorem JobMove.weight {setup : Setup} {state next : System} {image : String} {phase : Phase}
    (placed : Placed setup state) (move : JobMove setup state next image phase) :
    total setup.images setup.weight next.phases + setup.weight image (state.phases image) =
      total setup.images setup.weight state.phases + setup.weight image phase := by
  rw [move.phases]
  exact total_update setup.distinct (move.member placed) _ _ _

theorem JobMove.positionWeight_le {setup : Setup} {state next : System} {image : String}
    {phase : Phase} (placed : Placed setup state) (move : JobMove setup state next image phase)
    (position : Position) :
    setup.positionWeight next position ≤ setup.positionWeight state position := by
  have fewer := move.children_le placed
  cases position with
  | throttling =>
      simp only [Setup.positionWeight]
      split
      · split <;> omega
      · split <;> omega
  | _ => exact Nat.le_refl _

theorem JobMove.rank_lt {setup : Setup} {state next : System} {image : String} {phase : Phase}
    (placed : Placed setup state) (move : JobMove setup state next image phase)
    (stays : next.position = state.position) : setup.rank next < setup.rank state := by
  have weight := move.weight placed
  have lower := move.step.weight_lt setup image
  have position := move.positionWeight_le placed state.position
  unfold Setup.rank
  rw [stays]
  omega

theorem positionWeight_throttling_le (setup : Setup) (state : System) :
    setup.positionWeight state .throttling ≤ 7 := by
  simp only [Setup.positionWeight]
  split <;> omega

theorem le_positionWeight_throttling (setup : Setup) (state : System) :
    5 ≤ setup.positionWeight state .throttling := by
  simp only [Setup.positionWeight]
  split <;> omega

theorem rank_of_phases {setup : Setup} (state next : System)
    (phases : next.phases = state.phases) : setup.rank next =
      total setup.images setup.weight state.phases + setup.positionWeight state next.position := by
  have same (counts : Phase → Bool) := howMany_congr setup phases counts
  unfold Setup.rank
  rw [phases]
  cases next.position <;> simp only [Setup.positionWeight, same]

theorem rank_perform {setup : Setup} {state : System} {event : Event}
    (placed : Placed setup state) (enabled : setup.Enabled state event) :
    setup.rank (setup.perform state event) < setup.rank state := by
  have least := le_positionWeight_throttling setup state
  cases event with
  | count observed =>
      obtain ⟨position, _, _, most⟩ := enabled
      rw [rank_of_phases state (setup.perform state (.count observed)) rfl, Setup.rank, position]
      simp only [Setup.perform]
      by_cases full : setup.scanParallelism ≤ observed
      · have some := setup.parallel
        have children : ¬setup.howMany state Phase.isRunning +
          setup.howMany state Phase.isUnwaited = 0 := by omega
        rw [if_pos full]
        simp only [Setup.positionWeight, if_neg children]
        omega
      · rw [if_neg full]
        simp only [Setup.positionWeight] at least ⊢
        omega
  | waitNext image =>
      obtain ⟨position, unwaited⟩ := enabled
      obtain ⟨_, result, phase, move⟩ := waited_move setup unwaited
      have weight := move.weight placed
      have most := positionWeight_throttling_le setup (setup.perform state (.waitNext image))
      have phases : (setup.perform state (.waitNext image)).phases =
        (state.markWaited image).phases := rfl
      rw [phase] at weight
      simp only [Setup.weight, Bool.false_eq_true, if_true, if_false] at weight
      rw [Setup.rank, Setup.rank, position, phases]
      have after : (setup.perform state (.waitNext image)).position = .throttling := rfl
      rw [after]
      simp only [Setup.positionWeight] at most ⊢
      omega
  | waitNone =>
      obtain ⟨position, running, unwaited⟩ := enabled
      rw [rank_of_phases state (setup.perform state .waitNone) rfl, Setup.rank, position]
      simp [Setup.perform, Setup.positionWeight, running, unwaited]
  | check =>
      have position : state.position = .checking := enabled
      rw [rank_of_phases state (setup.perform state .check) rfl, Setup.rank, position]
      simp only [Setup.perform]
      split
      · simp [Setup.positionWeight]
      · simp [Setup.positionWeight]
  | start image =>
      obtain ⟨position, head⟩ := enabled
      obtain ⟨rest, pending⟩ := List.head?_eq_some_iff.mp head
      have member : image ∈ setup.images :=
        placed.suffix.subset (pending ▸ List.mem_cons_self)
      have idle : state.phases image = .idle :=
        (placed.idle_iff image).mpr (.inr (pending ▸ List.mem_cons_self))
      have weight := total_update setup.distinct member setup.weight state.phases
        (.scanning (scanImageScript setup.generateSbom image))
      have most := positionWeight_throttling_le setup (setup.perform state (.start image))
      have phases : (setup.perform state (.start image)).phases = Function.update state.phases image
        (.scanning (scanImageScript setup.generateSbom image)) := rfl
      have after : (setup.perform state (.start image)).position = .throttling := rfl
      rw [idle] at weight
      simp only [Setup.weight] at weight
      rw [Setup.rank, Setup.rank, position, phases, after]
      have starting : setup.positionWeight state .starting = 3 := rfl
      omega
  | endLoop =>
      rw [rank_of_phases state (setup.perform state .endLoop) rfl, Setup.rank, enabled.1]
      have draining : setup.positionWeight state .draining = 2 := rfl
      simp only [Setup.perform]
      omega
  | wait =>
      rw [rank_of_phases state (setup.perform state .wait) rfl, Setup.rank, enabled.1]
      simp [Setup.perform, Setup.positionWeight]
  | report =>
      have position : state.position = .reporting := enabled
      rw [rank_of_phases state (setup.perform state .report) rfl, Setup.rank, position]
      simp [Setup.perform, Setup.positionWeight]
  | scan image =>
      obtain ⟨stays, phase, move⟩ := scan_move setup enabled
      exact move.rank_lt placed stays
  | record image =>
      obtain ⟨stays, phase, move⟩ := record_move setup enabled.1 enabled.2
      exact move.rank_lt placed stays
  | forget image =>
      obtain ⟨stays, result, _, move⟩ := waited_move setup enabled
      exact move.rank_lt placed stays

theorem exists_enabled {setup : Setup} {state : System} (throttled : Throttled setup state)
    (unfinished : ¬∃ status, state.position = .exited status) :
    ∃ event, setup.Enabled state event := by
  by_cases running : 0 < setup.howMany state Phase.isRunning
  · obtain ⟨image, _, active⟩ := exists_of_howMany running
    by_cases scanning : (state.phases image).isScanning
    · exact ⟨.scan image, scanning⟩
    · exact ⟨.record image, active, scanning⟩
  · have quiet : setup.howMany state Phase.isRunning = 0 := by omega
    have here := throttled.here
    cases position : state.position with
    | throttling =>
        by_cases last : state.pending = []
        · exact ⟨.endLoop, position, last⟩
        · exact ⟨.count 0, position, last, by omega, by omega⟩
    | waiting =>
        by_cases unwaited : 0 < setup.howMany state Phase.isUnwaited
        · obtain ⟨image, _, ended⟩ := exists_of_howMany unwaited
          exact ⟨.waitNext image, position, ended⟩
        · exact ⟨.waitNone, position, quiet, by omega⟩
    | checking => exact ⟨.check, position⟩
    | starting =>
        rw [position] at here
        obtain ⟨image, rest, pending⟩ := List.exists_cons_of_ne_nil here.1
        exact ⟨.start image, position, by rw [pending]; rfl⟩
    | draining => exact ⟨.wait, position, quiet⟩
    | reporting => exact ⟨.report, position⟩
    | exited status => exact absurd ⟨status, position⟩ unfinished

end ScanImages
