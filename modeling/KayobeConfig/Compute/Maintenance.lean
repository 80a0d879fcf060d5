import Mathlib.Data.List.Dedup
import Mathlib.Logic.Function.Basic
import KayobeConfig.Library.Transfers

/-!
The playbooks `nova-compute-disable.yml`, `nova-compute-enable.yml` and
`nova-compute-drain.yml`. Any number of their runs interleave, task by task on each host,
with tenants and operators who use Nova themselves.
-/

namespace Compute

open Library

inductive Service
  | enabled
  | disabled (reason : Option String)
  deriving DecidableEq

structure Server where
  host : String
  active : Bool
  deriving DecidableEq

/-- What the playbooks see of Nova: the service of a host, a server by its ID, and the
active servers of a host. -/
structure Nova (σ : Type) where
  service : σ → String → Option Service
  server : σ → String → Option Server
  serverList : σ → String → List String
  setService : σ → String → Service → σ × Bool
  liveMigrate : σ → String → σ × Bool

inductive Task
  | queryServices
  | disableService (reason : String)
  | enableService (reason : String)
  | queryInstances
  | migrateInstances (fatal : Bool)
  | migrate (uuid : String)
  | checkMigrations (fatal : Bool)
  | failIfInstances (fatal : Bool)
  deriving DecidableEq

def Task.disabledReason : Task → Option String
  | .disableService reason | .enableService reason => some reason
  | _ => none

def disablePlaybook (disabledReason : String) : List Task :=
  [.queryServices, .disableService disabledReason]

def enablePlaybook (disabledReason : String) : List Task :=
  [.queryServices, .enableService disabledReason]

/-- A host is drained only where the cloud has another. -/
def drainPlaybook (compute : List String) (liveMigrationFatal : Bool) (host : String) : List Task :=
  if host ∈ compute ∧ 1 < compute.length then
    [.queryInstances, .migrateInstances liveMigrationFatal, .queryInstances,
      .failIfInstances liveMigrationFatal]
  else []

structure Run where
  host : String
  todo : List Task
  computeServices : Option Service
  instances : List String
  migrationFailed : Bool
  failed : Bool
  deriving DecidableEq

def Run.of (host : String) (playbook : List Task) : Run :=
  ⟨host, playbook, none, [], false, false⟩

def Run.fails (run : Run) : Run := { run with todo := [], failed := true }

structure World (σ : Type) where
  cloud : σ
  runs : Nat → Run

inductive Event (σ : Type)
  | advance (run : Nat)
  | fail (run : Nat)
  | tenant (change : σ → σ)
  | operator (host : String) (service : Service)

variable {σ : Type} (nova : Nova σ)

def Run.failIf (run : Run) (condition : Bool) : Run := if condition then run.fails else run

def setService (cloud : σ) (run : Run) (service : Service) : σ × Run :=
  let (changed, succeeded) := nova.setService cloud run.host service
  (changed, run.failIf !succeeded)

def disableService (cloud : σ) (run : Run) (disabledReason : String) : σ × Run :=
  match run.computeServices with
  | none => (cloud, run.fails)
  | some (.disabled _) => (cloud, run)
  | some .enabled => setService nova cloud run (.disabled (some disabledReason))

/-- A service is not enabled if `nova-compute-disable.yml` did not disable it. -/
def enableService (cloud : σ) (run : Run) (disabledReason : String) : σ × Run :=
  match run.computeServices with
  | none => (cloud, run.fails)
  | some service =>
      if service = .disabled (some disabledReason) then setService nova cloud run .enabled
      else (cloud, run)

/-- The task of a run whose remaining tasks are already without it. -/
def perform (cloud : σ) (run : Run) : Task → σ × Run
  | .queryServices => (cloud, { run with computeServices := nova.service cloud run.host })
  | .disableService reason => disableService nova cloud run reason
  | .enableService reason => enableService nova cloud run reason
  | .queryInstances => (cloud, { run with instances := nova.serverList cloud run.host })
  | .migrateInstances fatal =>
      (cloud, { run with
        todo := run.instances.map .migrate ++ .checkMigrations fatal :: run.todo })
  | .migrate uuid =>
      let (changed, succeeded) := nova.liveMigrate cloud uuid
      (changed, { run with migrationFailed := run.migrationFailed || !succeeded })
  | .checkMigrations fatal => (cloud, run.failIf (fatal && run.migrationFailed))
  | .failIfInstances fatal => (cloud, run.failIf (fatal && !run.instances.isEmpty))

def advance (cloud : σ) (run : Run) : σ × Run :=
  match run.todo with
  | [] => (cloud, run)
  | task :: rest => perform nova cloud { run with todo := rest } task

def step (world : World σ) : Event σ → World σ
  | .advance index =>
      let (cloud, run) := advance nova world.cloud (world.runs index)
      ⟨cloud, Function.update world.runs index run⟩
  | .fail index => { world with runs := Function.update world.runs index (world.runs index).fails }
  | .tenant change => { world with cloud := change world.cloud }
  | .operator host service => { world with cloud := (nova.setService world.cloud host service).1 }

/-- What tenants do, with the scheduler that places their servers on enabled hosts. -/
structure Scheduled (change : σ → σ) : Prop where
  services : ∀ cloud host, nova.service (change cloud) host = nova.service cloud host
  placed : ∀ cloud uuid server, nova.server (change cloud) uuid = some server →
    (∃ before, nova.server cloud uuid = some before ∧ before.host = server.host) ∨
      nova.service cloud server.host = some .enabled

structure Nova.Documented : Prop where
  listed : ∀ cloud host uuid, uuid ∈ nova.serverList cloud host ↔
    nova.server cloud uuid = some ⟨host, true⟩
  set_service : ∀ cloud host service, (nova.setService cloud host service).2 →
    nova.service (nova.setService cloud host service).1 host = some service
  set_failed : ∀ cloud host service, ¬(nova.setService cloud host service).2 →
    nova.service (nova.setService cloud host service).1 host = nova.service cloud host
  set_others : ∀ cloud host service other, other ≠ host →
    nova.service (nova.setService cloud host service).1 other = nova.service cloud other
  set_servers : ∀ cloud host service uuid,
    nova.server (nova.setService cloud host service).1 uuid = nova.server cloud uuid
  migrate_services : ∀ cloud uuid host,
    nova.service (nova.liveMigrate cloud uuid).1 host = nova.service cloud host
  migrate_others : ∀ cloud uuid other, other ≠ uuid →
    nova.server (nova.liveMigrate cloud uuid).1 other = nova.server cloud other
  migrated : ∀ cloud uuid host, (nova.liveMigrate cloud uuid).2 →
    nova.server cloud uuid = some ⟨host, true⟩ →
      ∃ target ≠ host, nova.service cloud target = some .enabled ∧
        nova.server (nova.liveMigrate cloud uuid).1 uuid = some ⟨target, true⟩
  migrate_placed : ∀ cloud uuid server,
    nova.server (nova.liveMigrate cloud uuid).1 uuid = some server →
      (∃ before, nova.server cloud uuid = some before ∧ before.host = server.host) ∨
        nova.service cloud server.host = some .enabled

/-- A run after a task: it has failed, or it is as it was but for what it has registered. -/
inductive Goes (registered : Option Service) (run : Run) : Run → Prop
  | failed : Goes registered run run.fails
  | on {after : Run} : after.host = run.host →
      after.computeServices = run.computeServices ∨ after.computeServices = registered →
      (∀ task ∈ after.todo, task ∈ run.todo ∨ task.disabledReason = none) →
      Goes registered run after

section Steps

variable {nova} (cloud : σ) (run : Run)

theorem Goes.refl (registered : Option Service) : Goes registered run run :=
  .on rfl (Or.inl rfl) fun _ member => Or.inl member

theorem Goes.failIf (registered : Option Service) (condition : Bool) :
    Goes registered run (run.failIf condition) := by
  unfold Run.failIf
  split
  · exact .failed
  · exact .refl run registered

theorem disableService_goes (registered : Option Service) (reason : String) :
    Goes registered run (disableService nova cloud run reason).2 := by
  unfold disableService
  split
  · exact .failed
  · exact .refl run registered
  · exact .failIf run registered _

theorem enableService_goes (registered : Option Service) (reason : String) :
    Goes registered run (enableService nova cloud run reason).2 := by
  unfold enableService
  split
  · exact .failed
  · split
    · exact .failIf run registered _
    · exact .refl run registered

theorem perform_goes (task : Task) :
    Goes (nova.service cloud run.host) run (perform nova cloud run task).2 := by
  cases task with
  | queryServices => exact .on rfl (Or.inr rfl) fun _ member => Or.inl member
  | disableService reason => exact disableService_goes cloud run _ reason
  | enableService reason => exact enableService_goes cloud run _ reason
  | queryInstances => exact .on rfl (Or.inl rfl) fun _ member => Or.inl member
  | migrateInstances fatal =>
      refine .on rfl (Or.inl rfl) fun task member => ?_
      rcases List.mem_append.mp member with migrates | later
      · obtain ⟨_, _, rfl⟩ := List.mem_map.mp migrates
        exact Or.inr rfl
      · rcases List.mem_cons.mp later with rfl | later
        · exact Or.inr rfl
        · exact Or.inl later
  | migrate uuid => exact .on rfl (Or.inl rfl) fun _ member => Or.inl member
  | checkMigrations fatal => exact .failIf run _ _
  | failIfInstances fatal => exact .failIf run _ _

/-- A change of its host's service that a task makes on what its run has registered. -/
inductive Changes : Option Service → Task → Option Service → Prop
  | disabled (reason : String) :
      Changes (some .enabled) (.disableService reason) (some (.disabled (some reason)))
  | enabled (reason : String) :
      Changes (some (.disabled (some reason))) (.enableService reason) (some .enabled)

theorem Changes.gives_reason {registered service : Option Service} {task : Task}
    (changes : Changes registered task service) : task.disabledReason ≠ none := by
  cases changes with
  | disabled reason => simp [Task.disabledReason]
  | enabled reason => simp [Task.disabledReason]

variable {cloud run} (documented : nova.Documented)

include documented

theorem setService_service (service : Service) :
    nova.service (setService nova cloud run service).1 run.host = nova.service cloud run.host ∨
      nova.service (setService nova cloud run service).1 run.host = some service := by
  by_cases succeeded : (nova.setService cloud run.host service).2 = true
  · exact Or.inr (documented.set_service cloud run.host service succeeded)
  · exact Or.inl (documented.set_failed cloud run.host service succeeded)

theorem perform_service (task : Task) :
    nova.service (perform nova cloud run task).1 run.host = nova.service cloud run.host ∨
      Changes run.computeServices task (nova.service (perform nova cloud run task).1 run.host) := by
  cases task with
  | disableService reason =>
      rw [perform]
      unfold disableService
      split
      · exact Or.inl rfl
      · exact Or.inl rfl
      · rename_i registered
        rw [registered]
        refine (setService_service documented (.disabled (some reason))).imp id fun set => ?_
        rw [set]
        exact .disabled reason
  | enableService reason =>
      rw [perform]
      unfold enableService
      split
      · exact Or.inl rfl
      · rename_i service registered
        split
        · rename_i same
          rw [registered, same]
          refine (setService_service documented .enabled).imp id fun set => ?_
          rw [set]
          exact .enabled reason
        · exact Or.inl rfl
  | migrate uuid => exact Or.inl (documented.migrate_services cloud uuid run.host)
  | _ => exact Or.inl rfl

theorem perform_elsewhere (task : Task) {host : String} (other : host ≠ run.host) :
    nova.service (perform nova cloud run task).1 host = nova.service cloud host := by
  have set : ∀ service,
      nova.service (setService nova cloud run service).1 host = nova.service cloud host :=
    fun service => documented.set_others cloud run.host service host other
  cases task with
  | disableService reason =>
      rw [perform]
      unfold disableService
      split
      · rfl
      · rfl
      · exact set _
  | enableService reason =>
      rw [perform]
      unfold enableService
      split
      · rfl
      · split
        · exact set _
        · rfl
  | migrate uuid => exact documented.migrate_services cloud uuid host
  | _ => rfl

end Steps

section Services

variable {nova} {host : String} {permitted : Task → Prop} {allowed : Option Service → Prop}

/-- A run on the host is left with permitted tasks, and has registered only such services. -/
structure RunOf (host : String) (permitted : Task → Prop) (allowed : Option Service → Prop)
    (run : Run) : Prop where
  registered : run.host = host → run.computeServices = none ∨ allowed run.computeServices
  tasks : run.host = host → ∀ task ∈ run.todo, task.disabledReason = none ∨ permitted task

theorem RunOf.fails {run : Run} (runOf : RunOf host permitted allowed run) :
    RunOf host permitted allowed run.fails :=
  ⟨runOf.registered, fun _ task member => by simp [Run.fails] at member⟩

theorem RunOf.goes {registered : Option Service} {run after : Run}
    (runOf : RunOf host permitted allowed run) (seen : run.host = host → allowed registered)
    (goes : Goes registered run after) : RunOf host permitted allowed after := by
  cases goes with
  | failed => exact runOf.fails
  | on sameHost services todo =>
      constructor
      · intro here
        have before : run.host = host := sameHost.symm.trans here
        rcases services with same | queried
        · rw [same]
          exact runOf.registered before
        · rw [queried]
          exact Or.inr (seen before)
      · intro here task member
        rcases todo task member with earlier | reasonless
        · exact runOf.tasks (sameHost.symm.trans here) task earlier
        · exact Or.inl reasonless

theorem RunOf.advance {cloud : σ} {run : Run} (runOf : RunOf host permitted allowed run)
    (seen : allowed (nova.service cloud host)) :
    RunOf host permitted allowed (advance nova cloud run).2 := by
  unfold Compute.advance
  split
  · exact runOf
  · rename_i task rest next
    have shorter : RunOf host permitted allowed { run with todo := rest } :=
      ⟨runOf.registered, fun here other member => runOf.tasks here other (by simp [next, member])⟩
    refine shorter.goes (fun here => ?_) (perform_goes cloud _ task)
    rw [here]
    exact seen

theorem runs_step {world : World σ} (event : Event σ)
    (seen : allowed (nova.service world.cloud host))
    (runs : ∀ index, RunOf host permitted allowed (world.runs index)) (index : Nat) :
    RunOf host permitted allowed ((step nova world event).runs index) := by
  cases event with
  | advance moved =>
      by_cases same : index = moved
      · subst same
        simp only [step, Function.update_self]
        exact (runs index).advance seen
      · simp only [step, Function.update_of_ne same]
        exact runs index
  | fail moved =>
      by_cases same : index = moved
      · subst same
        simp only [step, Function.update_self]
        exact (runs index).fails
      · simp only [step, Function.update_of_ne same]
        exact runs index
  | tenant change => exact runs index
  | operator other service => exact runs index

variable (documented : nova.Documented)

include documented

theorem RunOf.advance_service {cloud : σ} {run : Run} (runOf : RunOf host permitted allowed run) :
    nova.service (Compute.advance nova cloud run).1 host = nova.service cloud host ∨
      ∃ registered task, allowed registered ∧ permitted task ∧
        Changes registered task (nova.service (Compute.advance nova cloud run).1 host) := by
  unfold Compute.advance
  split
  · exact Or.inl rfl
  rename_i task rest next
  by_cases here : run.host = host
  · subst here
    let shorter : Run := { run with todo := rest }
    have performed : nova.service (perform nova cloud shorter task).1 run.host =
        nova.service cloud run.host ∨ Changes run.computeServices task
          (nova.service (perform nova cloud shorter task).1 run.host) := perform_service documented task
    refine performed.imp id fun changes => ?_
    have gives : task.disabledReason ≠ none := changes.gives_reason
    have registered : run.computeServices ≠ none := by
      intro unregistered
      rw [unregistered] at changes
      cases changes
    exact ⟨run.computeServices, task, (runOf.registered rfl).resolve_left registered,
      (runOf.tasks rfl task (by simp [next])).resolve_left gives, changes⟩
  · exact Or.inl (perform_elsewhere documented task (Ne.symm here))

/-- What may happen on a host while its operators leave its service to the playbooks. -/
structure Unattended (nova : Nova σ) (host : String) (events : List (Event σ)) : Prop where
  scheduled : ∀ change, .tenant change ∈ events → Scheduled nova change
  hands : ∀ service, .operator host service ∉ events

theorem service_step {world : World σ} {event : Event σ} (unattended : Unattended nova host [event])
    (runs : ∀ index, RunOf host permitted allowed (world.runs index)) :
    nova.service (step nova world event).cloud host = nova.service world.cloud host ∨
      ∃ registered task, allowed registered ∧ permitted task ∧
        Changes registered task (nova.service (step nova world event).cloud host) := by
  cases event with
  | advance index => exact (runs index).advance_service documented
  | fail index => exact Or.inl rfl
  | tenant change =>
      exact Or.inl ((unattended.scheduled change (by simp)).services world.cloud host)
  | operator other service =>
      have different : host ≠ other := fun same => unattended.hands service (by simp [same])
      exact Or.inl (documented.set_others world.cloud other service host different)

/-- A property of the service that its possible changes keep holds after every run. -/
theorem service_runFrom {property : Option Service → Prop}
    (keeps : ∀ registered task service, allowed registered → permitted task →
      Changes registered task service → property service)
    (sees : ∀ service, property service → allowed service)
    {start : World σ} {events : List (Event σ)} (unattended : Unattended nova host events)
    (runs : ∀ index, RunOf host permitted allowed (start.runs index))
    (initial : property (nova.service start.cloud host)) :
    property (nova.service (runFrom (step nova) start events).cloud host) := by
  have kept : ∀ (world : World σ) event,
      (property (nova.service world.cloud host) ∧
        ∀ index, RunOf host permitted allowed (world.runs index)) →
      Unattended nova host [event] →
      property (nova.service (step nova world event).cloud host) ∧
        ∀ index, RunOf host permitted allowed ((step nova world event).runs index) := by
    rintro world event ⟨holding, runs⟩ alone
    refine ⟨?_, runs_step event (sees _ holding) runs⟩
    rcases service_step documented alone runs with same | ⟨registered, task, seen, may, changes⟩
    · rw [same]
      exact holding
    · exact keeps registered task _ seen may changes
  have possible : Along (step nova) (fun _ event => Unattended nova host [event]) start events := by
    intro past event early
    have member : event ∈ events := early.subset (by simp)
    constructor
    · intro change same
      rw [List.mem_singleton] at same
      exact unattended.scheduled change (same ▸ member)
    · intro service same
      rw [List.mem_singleton] at same
      exact unattended.hands service (same ▸ member)
  exact (invariant_runFrom kept ⟨initial, runs⟩ possible).1

end Services

section Ownership

variable {nova} {host disabledReason : String}

/-- The services that the playbooks may change under a reason. -/
def Own (disabledReason : String) (service : Option Service) : Prop :=
  service = some .enabled ∨ service = some (.disabled (some disabledReason))

theorem Changes.own {registered service : Option Service} {task : Task}
    (changes : Changes registered task service)
    (reason : task.disabledReason = some disabledReason) :
    Own disabledReason registered ∧ Own disabledReason service := by
  cases changes with
  | disabled other =>
      cases reason
      exact ⟨Or.inl rfl, Or.inr rfl⟩
  | enabled other =>
      cases reason
      exact ⟨Or.inr rfl, Or.inl rfl⟩

inductive Started (disabledReason : String) : Run → Prop
  | disable (host : String) : Started disabledReason (.of host (disablePlaybook disabledReason))
  | enable (host : String) : Started disabledReason (.of host (enablePlaybook disabledReason))
  | drain (compute : List String) (liveMigrationFatal : Bool) (host : String) :
      Started disabledReason (.of host (drainPlaybook compute liveMigrationFatal host))

theorem drainPlaybook_reasonless {compute : List String} {liveMigrationFatal : Bool} {task : Task}
    (member : task ∈ drainPlaybook compute liveMigrationFatal host) : task.disabledReason = none := by
  unfold drainPlaybook at member
  split at member
  · simp only [List.mem_cons, List.not_mem_nil, or_false] at member
    rcases member with rfl | rfl | rfl | rfl <;> rfl
  · cases member

theorem Started.runOf {run : Run} {reason : String} {allowed : Option Service → Prop}
    (started : Started reason run) (own : run.host = host → reason = disabledReason) :
    RunOf host (fun task => task.disabledReason = some disabledReason) allowed run := by
  constructor
  · intro here
    cases started with
    | _ => exact Or.inl rfl
  · intro here task member
    rw [← own here]
    cases started with
    | disable host =>
        rcases List.mem_pair.mp member with rfl | rfl
        · exact Or.inl rfl
        · exact Or.inr rfl
    | enable host =>
        rcases List.mem_pair.mp member with rfl | rfl
        · exact Or.inl rfl
        · exact Or.inr rfl
    | drain compute fatal host => exact Or.inl (drainPlaybook_reasonless member)

/-- However runs of the playbooks interleave, they change a service between enabled and
disabled for their reason, and one that is disabled for another reason stays as it is. -/
theorem services_owned (documented : nova.Documented) {start : World σ} {events : List (Event σ)}
    (unattended : Unattended nova host events)
    (started : ∀ index, ∃ reason, Started reason (start.runs index) ∧
      ((start.runs index).host = host → reason = disabledReason)) :
    (Own disabledReason (nova.service start.cloud host) →
      Own disabledReason (nova.service (runFrom (step nova) start events).cloud host)) ∧
    (¬Own disabledReason (nova.service start.cloud host) →
      nova.service (runFrom (step nova) start events).cloud host = nova.service start.cloud host) := by
  have runs : ∀ allowed index, RunOf host (fun task => task.disabledReason = some disabledReason)
      allowed (start.runs index) := by
    intro allowed index
    obtain ⟨reason, fresh, own⟩ := started index
    exact fresh.runOf own
  constructor
  · intro own
    refine service_runFrom documented ?_ (fun _ _ => trivial) unattended (runs fun _ => True) own
    intro registered task service _ reason changes
    exact (changes.own reason).2
  · intro foreign
    have keeps : ∀ registered task service, registered = nova.service start.cloud host →
        task.disabledReason = some disabledReason → Changes registered task service →
          service = nova.service start.cloud host := by
      intro registered task service seen reason changes
      have own : Own disabledReason registered := (changes.own reason).1
      rw [seen] at own
      exact absurd own foreign
    exact service_runFrom documented keeps (fun _ same => same) unattended (runs _) rfl

end Ownership

/-- A cloud as the latest settings of its services and places of its servers. -/
structure Cloud where
  services : List (String × Service)
  servers : List (String × Server)

def Cloud.target (cloud : Cloud) (host : String) : Option String :=
  (cloud.services.map (·.1)).find? fun other =>
    other ≠ host ∧ cloud.services.lookup other = some .enabled

def cloudNova : Nova Cloud where
  service cloud host := cloud.services.lookup host
  server cloud uuid := cloud.servers.lookup uuid
  serverList cloud host :=
    (cloud.servers.map (·.1)).dedup.filter fun uuid => cloud.servers.lookup uuid = some ⟨host, true⟩
  setService cloud host service :=
    ({ cloud with services := (host, service) :: cloud.services }, true)
  liveMigrate cloud uuid :=
    match cloud.servers.lookup uuid with
    | some ⟨host, true⟩ =>
        match cloud.target host with
        | some other => ({ cloud with servers := (uuid, ⟨other, true⟩) :: cloud.servers }, true)
        | none => (cloud, false)
    | _ => (cloud, false)

theorem Cloud.target_some {cloud : Cloud} {host other : String}
    (found : cloud.target host = some other) :
    other ≠ host ∧ cloud.services.lookup other = some .enabled := by
  simpa using List.find?_some found

theorem Cloud.liveMigrate_cases (cloud : Cloud) (uuid : String) :
    cloudNova.liveMigrate cloud uuid = (cloud, false) ∨
      ∃ host other, cloud.servers.lookup uuid = some ⟨host, true⟩ ∧ other ≠ host ∧
        cloud.services.lookup other = some .enabled ∧
        cloudNova.liveMigrate cloud uuid =
          ({ cloud with servers := (uuid, ⟨other, true⟩) :: cloud.servers }, true) := by
  simp only [cloudNova]
  split
  · rename_i host here
    split
    · rename_i other found
      obtain ⟨different, enabled⟩ := Cloud.target_some found
      exact Or.inr ⟨host, other, here, different, enabled, rfl⟩
    · exact Or.inl rfl
  · exact Or.inl rfl

theorem liveMigrate_of_target {cloud : Cloud} {uuid host other : String}
    (here : cloudNova.server cloud uuid = some ⟨host, true⟩) (different : other ≠ host)
    (enabled : cloudNova.service cloud other = some .enabled) :
    (cloudNova.liveMigrate cloud uuid).2 := by
  have lookup : cloud.servers.lookup uuid = some ⟨host, true⟩ := here
  have found : (cloud.target host).isSome := by
    obtain ⟨earlier, later, split, _⟩ := List.lookup_eq_some_iff.mp enabled
    refine List.find?_isSome.mpr ⟨other, ?_, decide_eq_true ⟨different, enabled⟩⟩
    simp [split]
  obtain ⟨target, targeted⟩ := Option.isSome_iff_exists.mp found
  simp only [cloudNova, lookup, targeted]

theorem lookup_cons_ite {β : Type} (key other : String) (value : β) (entries : List (String × β)) :
    ((key, value) :: entries).lookup other =
      if other = key then some value else entries.lookup other := by
  by_cases same : other = key
  · simp [same]
  · rw [if_neg same, List.lookup_cons, beq_eq_false_iff_ne.mpr same]

theorem cloudNova_documented : cloudNova.Documented := by
  constructor
  · intro cloud host uuid
    simp only [cloudNova, List.mem_filter, List.mem_dedup, decide_eq_true_eq, and_iff_right_iff_imp]
    intro found
    obtain ⟨earlier, later, split, _⟩ := List.lookup_eq_some_iff.mp found
    have member : (uuid, Server.mk host true) ∈ cloud.servers := by simp [split]
    exact List.mem_map.mpr ⟨_, member, rfl⟩
  · intro cloud host service _
    simp [cloudNova]
  · intro cloud host service failed
    simp [cloudNova] at failed
  · intro cloud host service other different
    simp [cloudNova, lookup_cons_ite, different]
  · intro cloud host service uuid
    rfl
  · intro cloud uuid host
    rcases cloud.liveMigrate_cases uuid with kept | ⟨_, _, _, _, _, moved⟩
    · rw [kept]
    · rw [moved]
      rfl
  · intro cloud uuid other different
    rcases cloud.liveMigrate_cases uuid with kept | ⟨_, _, _, _, _, moved⟩
    · rw [kept]
    · rw [moved]
      simp [cloudNova, lookup_cons_ite, different]
  · intro cloud uuid host succeeded here
    rcases cloud.liveMigrate_cases uuid with kept | ⟨before, target, there, different, enabled, moved⟩
    · rw [kept] at succeeded
      cases succeeded
    · cases here.symm.trans there
      refine ⟨target, different, enabled, ?_⟩
      rw [moved]
      simp [cloudNova]
  · intro cloud uuid server found
    rcases cloud.liveMigrate_cases uuid with kept | ⟨before, target, there, different, enabled, moved⟩
    · rw [kept] at found
      exact Or.inl ⟨server, found, rfl⟩
    · rw [moved] at found
      have placed : server = ⟨target, true⟩ := by
        simpa [cloudNova, eq_comm] using found
      rw [placed]
      exact Or.inr enabled

/-- A host that an operator has disabled stays so, while one under maintenance comes back. -/
def operatedCloud : World Cloud where
  cloud := ⟨[("compute01", .enabled), ("compute02", .disabled (some "Faulty DIMM"))],
    [("vm", ⟨"compute01", true⟩)]⟩
  runs index :=
    match index with
    | 0 => .of "compute02" (disablePlaybook "Down")
    | 1 => .of "compute01" (disablePlaybook "Down")
    | _ => .of "compute02" (enablePlaybook "Down")

def operatedEvents : List (Event Cloud) :=
  [.advance 2, .advance 0, .operator "compute01" .enabled, .advance 1, .advance 1, .advance 2,
    .advance 0]

theorem services_owned_faulty :
    ¬Own "Down" (some (.disabled (some "Faulty DIMM"))) ∧
    cloudNova.service (runFrom (step cloudNova) operatedCloud operatedEvents).cloud "compute02" =
      some (.disabled (some "Faulty DIMM")) := by
  have foreign : ¬Own "Down" (cloudNova.service operatedCloud.cloud "compute02") := by
    simp [Own, cloudNova, operatedCloud, List.lookup_cons]
  have unattended : Unattended cloudNova "compute02" operatedEvents := by
    constructor
    · simp [operatedEvents]
    · simp [operatedEvents]
  have started : ∀ index, ∃ reason, Started reason (operatedCloud.runs index) ∧
      ((operatedCloud.runs index).host = "compute02" → reason = "Down") := by
    intro index
    refine ⟨"Down", ?_, fun _ => rfl⟩
    match index with
    | 0 => exact .disable "compute02"
    | 1 => exact .disable "compute01"
    | _ + 2 => exact .enable "compute02"
  exact ⟨foreign, (services_owned cloudNova_documented unattended started).2 foreign⟩

end Compute
