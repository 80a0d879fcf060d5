import KayobeConfig.Compute.Maintenance

/-!
What a drain that succeeded says of its host, whatever went on in the meantime, and that a
drain succeeds where live migration does.
-/

namespace Compute

open Library

variable {σ : Type} {nova : Nova σ} {host : String}

/-- How far a drain has come, with the active servers it saw when it last looked. -/
inductive Draining (saw : List String → Prop) (run : Run) : Prop
  | failed : run.failed = true → run.todo = [] → Draining saw run
  | looks (earlier : List Task) :
      run.todo = earlier ++ [.queryInstances, .failIfInstances true] → Draining saw run
  | looked : run.todo = [.failIfInstances true] → saw run.instances → Draining saw run
  | drained : run.todo = [] → saw [] → Draining saw run

section Looks

variable {saw : List String → Prop}

theorem Draining.fails (run : Run) : Draining saw run.fails := .failed rfl rfl

theorem Draining.mono {later : List String → Prop} {run : Run} (draining : Draining saw run)
    (still : ∀ instances, saw instances → later instances) : Draining later run := by
  cases draining with
  | failed failed finished => exact .failed failed finished
  | looks earlier next => exact .looks earlier next
  | looked next seen => exact .looked next (still _ seen)
  | drained finished seen => exact .drained finished (still _ seen)

theorem Draining.of_drainPlaybook {compute : List String} (among : host ∈ compute)
    (others : 1 < compute.length) : Draining saw (.of host (drainPlaybook compute true host)) := by
  refine .looks [.queryInstances, .migrateInstances true] ?_
  unfold drainPlaybook
  rw [if_pos ⟨among, others⟩]
  rfl

theorem failIf_todo (run : Run) (condition : Bool) :
    run.failIf condition = run.fails ∨ (run.failIf condition).todo = run.todo := by
  unfold Run.failIf
  split
  · exact Or.inl rfl
  · exact Or.inr rfl

theorem perform_todo (nova : Nova σ) (cloud : σ) (run : Run) (task : Task) :
    (perform nova cloud run task).2 = run.fails ∨
      ∃ added, (perform nova cloud run task).2.todo = added ++ run.todo := by
  have conditional : ∀ condition, run.failIf condition = run.fails ∨
      ∃ added, (run.failIf condition).todo = added ++ run.todo := by
    intro condition
    exact (failIf_todo run condition).imp id fun same => ⟨[], same⟩
  cases task with
  | disableService reason =>
      rw [perform]
      unfold disableService
      split
      · exact Or.inl rfl
      · exact Or.inr ⟨[], rfl⟩
      · exact conditional _
  | enableService reason =>
      rw [perform]
      unfold enableService
      split
      · exact Or.inl rfl
      · split
        · exact conditional _
        · exact Or.inr ⟨[], rfl⟩
  | migrateInstances fatal =>
      exact Or.inr ⟨run.instances.map .migrate ++ [.checkMigrations fatal], by simp [perform]⟩
  | checkMigrations fatal => exact conditional _
  | failIfInstances fatal => exact conditional _
  | _ => exact Or.inr ⟨[], rfl⟩

theorem Draining.advance {cloud : σ} {run : Run} (draining : Draining saw run)
    (here : run.host = host) (sees : saw (nova.serverList cloud host)) :
    Draining saw (advance nova cloud run).2 := by
  unfold Compute.advance
  cases draining with
  | failed failed finished =>
      rw [finished]
      exact .failed failed finished
  | looks earlier next =>
      cases earlier with
      | nil =>
          rw [next]
          refine .looked rfl ?_
          rw [← here] at sees
          exact sees
      | cons task earlier =>
          rw [next]
          rcases perform_todo nova cloud
            { run with todo := earlier ++ [.queryInstances, .failIfInstances true] } task with
              fails | ⟨added, todo⟩
          · simp only [List.cons_append, fails]
            exact .fails _
          · refine .looks (added ++ earlier) ?_
            simp only [List.cons_append, todo, List.append_assoc]
  | looked next seen =>
      rw [next]
      cases instances : run.instances with
      | nil =>
          rw [instances] at seen
          refine .drained ?_ seen
          simp [perform, Run.failIf]
      | cons uuid others =>
          simp only [perform, Run.failIf, List.isEmpty_cons, Bool.not_false, Bool.and_self, if_true]
          exact .fails _
  | drained finished seen =>
      rw [finished]
      exact .drained finished seen

theorem advance_host (cloud : σ) (run : Run) : (advance nova cloud run).2.host = run.host := by
  unfold Compute.advance
  split
  · rfl
  · rename_i task rest next
    have goes : Goes (nova.service cloud run.host) { run with todo := rest }
      (perform nova cloud { run with todo := rest } task).2 :=
        perform_goes cloud { run with todo := rest } task
    generalize (perform nova cloud { run with todo := rest } task).2 = after at goes
    cases goes with
    | failed => rfl
    | on same _ _ => exact same

theorem draining_step {world : World σ} {index : Nat} (event : Event σ)
    (here : (world.runs index).host = host) (sees : saw (nova.serverList world.cloud host))
    (draining : Draining saw (world.runs index)) :
    ((step nova world event).runs index).host = host ∧
      Draining saw ((step nova world event).runs index) := by
  cases event with
  | advance moved =>
      by_cases same : index = moved
      · subst same
        simp only [step, Function.update_self]
        exact ⟨(advance_host _ _).trans here, draining.advance here sees⟩
      · simp only [step, Function.update_of_ne same]
        exact ⟨here, draining⟩
  | fail moved =>
      by_cases same : index = moved
      · subst same
        simp only [step, Function.update_self]
        exact ⟨here, .fails _⟩
      · simp only [step, Function.update_of_ne same]
        exact ⟨here, draining⟩
  | tenant change => exact ⟨here, draining⟩
  | operator other service => exact ⟨here, draining⟩

/-- A drain has seen what it goes by at some point of the run. -/
theorem draining_runFrom {start : World σ} {index : Nat} (here : (start.runs index).host = host)
    (begins : ∀ saw, Draining saw (start.runs index)) (events : List (Event σ)) :
    ((runFrom (step nova) start events).runs index).host = host ∧
      Draining (fun instances => Sometime (step nova)
        (fun world => nova.serverList world.cloud host = instances) start events)
        ((runFrom (step nova) start events).runs index) := by
  induction events using List.reverseRecOn with
  | nil => exact ⟨here, begins _⟩
  | append_singleton events last ih =>
      obtain ⟨still, draining⟩ := ih
      have early : events <+: events ++ [last] := List.prefix_append events [last]
      rw [runFrom_snoc]
      refine draining_step last still ?_ (draining.mono fun _ seen => seen.extend early)
      exact ⟨events, early, rfl⟩

theorem drained_of_completed {start : World σ} {events : List (Event σ)} {index : Nat}
    (draining : Draining saw ((runFrom (step nova) start events).runs index))
    (completed : ((runFrom (step nova) start events).runs index).todo = [])
    (succeeded : ((runFrom (step nova) start events).runs index).failed = false) : saw [] := by
  cases draining with
  | failed failed _ => exact absurd failed (by simp [succeeded])
  | looks earlier next => simp [completed] at next
  | looked next _ => simp [completed] at next
  | drained _ seen => exact seen

end Looks

section Evacuation

variable (documented : nova.Documented)

include documented

theorem perform_placed {cloud : σ} {run : Run} (task : Task) {uuid : String} {server : Server}
    (found : nova.server (perform nova cloud run task).1 uuid = some server) :
    (∃ before, nova.server cloud uuid = some before ∧ before.host = server.host) ∨
      nova.service cloud server.host = some .enabled := by
  have set : ∀ service, nova.server (setService nova cloud run service).1 uuid = some server →
      ∃ before, nova.server cloud uuid = some before ∧ before.host = server.host := by
    intro service found
    exact ⟨server, (documented.set_servers cloud run.host service uuid).symm.trans found, rfl⟩
  cases task with
  | disableService reason =>
      rw [perform] at found
      unfold disableService at found
      split at found
      · exact Or.inl ⟨server, found, rfl⟩
      · exact Or.inl ⟨server, found, rfl⟩
      · exact Or.inl (set _ found)
  | enableService reason =>
      rw [perform] at found
      unfold enableService at found
      split at found
      · exact Or.inl ⟨server, found, rfl⟩
      · split at found
        · exact Or.inl (set _ found)
        · exact Or.inl ⟨server, found, rfl⟩
  | migrate other =>
      by_cases same : uuid = other
      · subst same
        exact documented.migrate_placed cloud uuid server found
      · exact Or.inl ⟨server, (documented.migrate_others cloud other uuid same).symm.trans found, rfl⟩
  | _ => exact Or.inl ⟨server, found, rfl⟩

/-- A host that is not enabled gets no server that it does not have already. -/
theorem placed_step {world : World σ} {event : Event σ}
    (scheduled : ∀ change, event = .tenant change → Scheduled nova change)
    (closed : nova.service world.cloud host ≠ some .enabled) {uuid : String} {server : Server}
    (found : nova.server (step nova world event).cloud uuid = some server)
    (here : server.host = host) :
    ∃ before, nova.server world.cloud uuid = some before ∧ before.host = host := by
  have resolve : (∃ before, nova.server world.cloud uuid = some before ∧ before.host = server.host) ∨
      nova.service world.cloud server.host = some .enabled →
        ∃ before, nova.server world.cloud uuid = some before ∧ before.host = host := by
    rw [here]
    exact fun placed => placed.resolve_right closed
  cases event with
  | advance index =>
      simp only [step, advance] at found
      split at found
      · exact ⟨server, found, here⟩
      · exact resolve (perform_placed documented _ found)
  | fail index => exact ⟨server, found, here⟩
  | tenant change => exact resolve ((scheduled change rfl).placed world.cloud uuid server found)
  | operator other service =>
      exact ⟨server, (documented.set_servers world.cloud other service uuid).symm.trans found, here⟩

theorem placed_runFrom {start : World σ} {events : List (Event σ)}
    (scheduled : ∀ change, .tenant change ∈ events → Scheduled nova change)
    (closed : Throughout (step nova) (fun world => nova.service world.cloud host ≠ some .enabled)
      start events) {uuid : String} {server : Server}
    (found : nova.server (runFrom (step nova) start events).cloud uuid = some server)
    (here : server.host = host) :
    ∃ before, nova.server start.cloud uuid = some before ∧ before.host = host := by
  induction events generalizing start with
  | nil => exact ⟨server, found, here⟩
  | cons event events ih =>
      obtain ⟨now, later⟩ := throughout_cons.mp closed
      obtain ⟨next, there, still⟩ :=
        ih (fun change member => scheduled change (List.mem_cons_of_mem _ member)) later found
      have first : ∀ change, event = .tenant change → Scheduled nova change :=
        fun change same => scheduled change (by simp [same])
      exact placed_step documented first now there still

/-- A disabled host stays so where no run is about to enable it. -/
theorem disabled_runFrom {start : World σ} {events : List (Event σ)}
    (unattended : Unattended nova host events)
    (disabled : ∃ reason, nova.service start.cloud host = some (.disabled reason))
    (noEnable : ∀ index, (start.runs index).host = host →
      ∀ reason, .enableService reason ∉ (start.runs index).todo) :
    ∃ reason, nova.service (runFrom (step nova) start events).cloud host = some (.disabled reason) := by
  have keeps : ∀ registered task service, True → (∀ reason, task ≠ .enableService reason) →
      Changes registered task service → ∃ reason, service = some (.disabled reason) := by
    intro registered task service _ permitted changes
    cases changes with
    | disabled reason => exact ⟨some reason, rfl⟩
    | enabled reason => exact absurd rfl (permitted reason)
  refine service_runFrom documented keeps (fun _ _ => trivial) unattended (fun index => ?_) disabled
  refine ⟨fun _ => Or.inr trivial, fun here task member => Or.inr fun reason same => ?_⟩
  rw [same] at member
  exact noEnable index here reason member

/-- A drain that succeeded on a disabled host looked when no server on it was active, and what
is on the host afterwards was there by then. -/
theorem host_evacuated {start : World σ} {events : List (Event σ)}
    (unattended : Unattended nova host events)
    (disabled : ∃ reason, nova.service start.cloud host = some (.disabled reason))
    (noEnable : ∀ index, (start.runs index).host = host →
      ∀ reason, .enableService reason ∉ (start.runs index).todo)
    {compute : List String} (among : host ∈ compute) (others : 1 < compute.length) {index : Nat}
    (drains : start.runs index = .of host (drainPlaybook compute true host))
    (completed : ((runFrom (step nova) start events).runs index).todo = [])
    (succeeded : ((runFrom (step nova) start events).runs index).failed = false) :
    ∃ past, past <+: events ∧
      nova.serverList (runFrom (step nova) start past).cloud host = [] ∧
      ∀ uuid server, nova.server (runFrom (step nova) start events).cloud uuid = some server →
        server.host = host →
          nova.server (runFrom (step nova) start past).cloud uuid = some ⟨host, false⟩ := by
  have here : (start.runs index).host = host := by rw [drains]; rfl
  have begins : ∀ saw, Draining saw (start.runs index) := by
    intro saw
    rw [drains]
    exact .of_drainPlaybook among others
  obtain ⟨past, ⟨later, rfl⟩, looked⟩ :=
    drained_of_completed (draining_runFrom here begins events).2 completed succeeded
  refine ⟨past, List.prefix_append past later, looked, ?_⟩
  intro uuid server found placed
  have scheduled : ∀ change, .tenant change ∈ later → Scheduled nova change :=
    fun change member => unattended.scheduled change (List.mem_append_right past member)
  have closed : Throughout (step nova) (fun world => nova.service world.cloud host ≠ some .enabled)
      (runFrom (step nova) start past) later := by
    intro further early
    have within : past ++ further ⊆ past ++ later :=
      ((List.prefix_append_right_inj past).mpr early).subset
    have alone : Unattended nova host (past ++ further) :=
      ⟨fun change member => unattended.scheduled change (within member),
        fun service member => unattended.hands service (within member)⟩
    obtain ⟨reason, still⟩ := disabled_runFrom documented alone disabled noEnable
    rw [← runFrom_append, still]
    simp
  rw [runFrom_append] at found
  obtain ⟨before, there, same⟩ := placed_runFrom documented scheduled closed found placed
  obtain ⟨_, active⟩ := before
  subst same
  cases active with
  | false => exact there
  | true =>
      have listed := (documented.listed _ _ uuid).mpr there
      rw [looked] at listed
      cases listed

end Evacuation

def evacuatedCloud : World Cloud where
  cloud := ⟨[("compute01", .disabled (some "Down")), ("compute02", .enabled)],
    [("vm", ⟨"compute01", true⟩), ("idle", ⟨"compute01", false⟩)]⟩
  runs index :=
    if index = 0 then .of "compute01" (drainPlaybook ["compute01", "compute02"] true "compute01")
    else .of "compute01" (disablePlaybook "Down")

def evacuatedEvents : List (Event Cloud) :=
  [.advance 0, .advance 1, .advance 0, .advance 0, .advance 1, .advance 0, .advance 0, .advance 0]

theorem host_evacuated_compute01 :
    (cloudNova.server (runFrom (step cloudNova) evacuatedCloud evacuatedEvents).cloud "vm" =
      some ⟨"compute02", true⟩) ∧
    ∃ past, past <+: evacuatedEvents ∧
      cloudNova.serverList (runFrom (step cloudNova) evacuatedCloud past).cloud "compute01" = [] ∧
      ∀ uuid server, cloudNova.server
          (runFrom (step cloudNova) evacuatedCloud evacuatedEvents).cloud uuid = some server →
        server.host = "compute01" → cloudNova.server
          (runFrom (step cloudNova) evacuatedCloud past).cloud uuid = some ⟨"compute01", false⟩ := by
  refine ⟨by decide, ?_⟩
  have among : "compute01" ∈ ["compute01", "compute02"] := by simp
  have drains : evacuatedCloud.runs 0 =
    .of "compute01" (drainPlaybook ["compute01", "compute02"] true "compute01") := rfl
  refine host_evacuated cloudNova_documented ⟨?_, ?_⟩ ⟨some "Down", rfl⟩ ?_ among (by decide) drains
    (by decide) (by decide)
  · simp [evacuatedEvents]
  · simp [evacuatedEvents]
  · intro index _ reason
    simp only [evacuatedCloud]
    split
    · simp [Run.of, drainPlaybook]
    · simp [Run.of, disablePlaybook]

section Progress

def advances (nova : Nova σ) (count : Nat) (cloud : σ) (run : Run) : σ × Run :=
  (fun state : σ × Run => advance nova state.1 state.2)^[count] (cloud, run)

theorem advances_add (nova : Nova σ) (first second : Nat) (cloud : σ) (run : Run) :
    advances nova (first + second) cloud run =
      advances nova second (advances nova first cloud run).1 (advances nova first cloud run).2 := by
  unfold advances
  rw [Nat.add_comm, Function.iterate_add_apply]

theorem runFrom_replicate (world : World σ) (index count : Nat) :
    runFrom (step nova) world (List.replicate count (.advance index)) =
      ⟨(advances nova count world.cloud (world.runs index)).1,
        Function.update world.runs index (advances nova count world.cloud (world.runs index)).2⟩ := by
  induction count generalizing world with
  | zero =>
      simp only [List.replicate_zero, advances, Function.iterate_zero_apply, Function.update_eq_self]
      rfl
  | succ count ih =>
      have first : runFrom (step nova) world (List.replicate (count + 1) (.advance index)) =
        runFrom (step nova) (step nova world (.advance index))
          (List.replicate count (.advance index)) := rfl
      rw [first, ih]
      simp only [step, Function.update_self, Function.update_idem]
      rfl

variable (documented : nova.Documented) {other : String}
  (migrates : ∀ cloud uuid before target, nova.server cloud uuid = some ⟨before, true⟩ →
    target ≠ before → nova.service cloud target = some .enabled → (nova.liveMigrate cloud uuid).2)

include documented migrates

theorem migrate_advances (different : other ≠ host) {cloud : σ} {run : Run} {uuids : List String}
    {rest : List Task} (todo : run.todo = uuids.map .migrate ++ rest)
    (clean : run.migrationFailed = false) (distinct : uuids.Nodup)
    (active : ∀ uuid, nova.server cloud uuid = some ⟨host, true⟩ ↔ uuid ∈ uuids)
    (target : nova.service cloud other = some .enabled) :
    ∃ after, advances nova uuids.length cloud run = (after, { run with todo := rest }) ∧
      ∀ uuid, nova.server after uuid ≠ some ⟨host, true⟩ := by
  induction uuids generalizing cloud run with
  | nil =>
      refine ⟨cloud, ?_, fun uuid there => by simpa using (active uuid).mp there⟩
      rw [List.map_nil, List.nil_append] at todo
      rw [← todo]
      rfl
  | cons uuid uuids ih =>
      obtain ⟨fresh, distinct⟩ := List.nodup_cons.mp distinct
      have here : nova.server cloud uuid = some ⟨host, true⟩ := (active uuid).mpr (by simp)
      have succeeded := migrates cloud uuid host other here different target
      obtain ⟨place, elsewhere, _, moved⟩ := documented.migrated cloud uuid host succeeded here
      let changed := (nova.liveMigrate cloud uuid).1
      let next : Run := { run with todo := uuids.map .migrate ++ rest }
      have stepped : advance nova cloud run = (changed, next) := by
        unfold advance
        rw [todo, List.map_cons, List.cons_append]
        simp only [perform, clean, succeeded, Bool.not_true, Bool.or_self]
        rw [← clean]
      have stillActive : ∀ remaining, nova.server changed remaining = some ⟨host, true⟩ ↔
          remaining ∈ uuids := by
        intro remaining
        by_cases same : remaining = uuid
        · subst same
          simp only [changed, moved, fresh, iff_false]
          intro back
          cases back
          exact elsewhere rfl
        · rw [documented.migrate_others cloud uuid remaining same, active remaining,
            List.mem_cons, or_iff_right same]
      have stillOpen : nova.service changed other = some .enabled :=
        (documented.migrate_services cloud uuid other).trans target
      have queued : next.todo = uuids.map .migrate ++ rest := rfl
      obtain ⟨after, done, gone⟩ := ih queued clean distinct stillActive stillOpen
      refine ⟨after, ?_, gone⟩
      have first : advances nova (uuids.length + 1) cloud run =
        advances nova uuids.length (advance nova cloud run).1 (advance nova cloud run).2 := rfl
      rw [List.length_cons, first, stepped, done]

/-- A drain that nothing interrupts succeeds where live migration does. -/
theorem drain_succeeds (unique : ∀ cloud host, (nova.serverList cloud host).Nodup)
    {world : World σ} (different : other ≠ host)
    (target : nova.service world.cloud other = some .enabled) {compute : List String}
    (among : host ∈ compute) (others : 1 < compute.length) {index : Nat}
    (drains : world.runs index = .of host (drainPlaybook compute true host))
    {after : World σ} (result : after = runFrom (step nova) world
      (List.replicate ((nova.serverList world.cloud host).length + 5) (.advance index))) :
    (after.runs index).todo = [] ∧ (after.runs index).failed = false ∧
      nova.serverList after.cloud host = [] := by
  let uuids := nova.serverList world.cloud host
  let checks : List Task := [.checkMigrations true, .queryInstances, .failIfInstances true]
  let queried : Run := ⟨host, uuids.map .migrate ++ checks, none, uuids, false, false⟩
  have looked : advances nova 2 world.cloud (world.runs index) = (world.cloud, queried) := by
    rw [drains]
    unfold drainPlaybook
    rw [if_pos ⟨among, others⟩]
    rfl
  have queue : queried.todo = uuids.map .migrate ++ checks := rfl
  obtain ⟨cloud, migrated, gone⟩ := migrate_advances documented migrates different queue rfl
    (unique world.cloud host) (fun uuid => (documented.listed world.cloud host uuid).symm) target
  have emptied : nova.serverList cloud host = [] := by
    refine List.eq_nil_iff_forall_not_mem.mpr fun uuid listed => ?_
    exact gone uuid ((documented.listed cloud host uuid).mp listed)
  have ended : advances nova 3 cloud { queried with todo := checks } =
      (cloud, { queried with todo := [], instances := [] }) := by
    simp [advances, checks, queried, advance, perform, Run.failIf, emptied]
  have whole : advances nova (uuids.length + 5) world.cloud (world.runs index) =
      (cloud, { queried with todo := [], instances := [] }) := by
    have steps : uuids.length + 5 = 2 + (uuids.length + 3) := by omega
    rw [steps, advances_add, looked, advances_add, migrated, ended]
  rw [runFrom_replicate, whole] at result
  subst result
  dsimp only
  rw [Function.update_self]
  exact ⟨rfl, rfl, emptied⟩

omit documented migrates in
theorem drain_succeeds_compute01 :
    let after := runFrom (step cloudNova) evacuatedCloud (List.replicate 6 (.advance 0))
    (after.runs 0).todo = [] ∧ (after.runs 0).failed = false ∧
      cloudNova.serverList after.cloud "compute01" = [] := by
  have migrates : ∀ cloud uuid before target,
      cloudNova.server cloud uuid = some ⟨before, true⟩ → target ≠ before →
        cloudNova.service cloud target = some .enabled → (cloudNova.liveMigrate cloud uuid).2 := by
    intro cloud uuid before target here different enabled
    exact liveMigrate_of_target here different enabled
  have unique : ∀ cloud host, (cloudNova.serverList cloud host).Nodup :=
    fun cloud host => (List.nodup_dedup _).filter _
  have different : "compute02" ≠ "compute01" := by decide
  have among : "compute01" ∈ ["compute01", "compute02"] := by simp
  have target : cloudNova.service evacuatedCloud.cloud "compute02" = some .enabled := rfl
  have drains : evacuatedCloud.runs 0 =
    .of "compute01" (drainPlaybook ["compute01", "compute02"] true "compute01") := rfl
  exact drain_succeeds cloudNova_documented migrates unique different target among (by decide) drains
    rfl

end Progress

end Compute
