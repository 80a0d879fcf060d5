import Mathlib.Data.List.Chain
import KayobeConfig.Rekey.Playbook

/-!
Whether the rotations lock a host out. Three tasks can take away the last key that opens
a host: the generation over a key left at the `_new` path, the move of the existing key
over the deprecated one, and the removal of the deprecated key from a host.
-/

namespace Rekey

open Library

variable {Host User : Type*}

def Opens (paths : List Path) (state : State Host User) (host : Host) (user : User) : Prop :=
  ∃ path ∈ paths, ∃ key ∈ state.files path, key ∈ state.authorizedKeys host user

instance (paths : List Path) (state : State Host User) (host : Host) (user : User) :
    Decidable (Opens paths state host user) := by
  unfold Opens
  infer_instance

def privatePaths : List Path := [.privateKey, .privateKeyNew, .deprecatedPrivateKey]

theorem opens_congr {paths : List Path} (state other : State Host User) {host : Host} {user : User}
    (files : ∀ path ∈ paths, other.files path = state.files path)
    (keys : other.authorizedKeys host user = state.authorizedKeys host user) :
    Opens paths other host user ↔ Opens paths state host user := by
  unfold Opens
  rw [keys]
  exact exists_congr fun path => and_congr_right fun member => by rw [files path member]

theorem opens_privatePaths (state : State Host User) (host : Host) (user : User) :
    Opens privatePaths state host user ↔
      (∃ key ∈ state.files .privateKey, key ∈ state.authorizedKeys host user) ∨
        (∃ key ∈ state.files .privateKeyNew, key ∈ state.authorizedKeys host user) ∨
          ∃ key ∈ state.files .deprecatedPrivateKey, key ∈ state.authorizedKeys host user := by
  unfold Opens privatePaths
  simp only [List.exists_mem_cons_iff, List.not_mem_nil, false_and, exists_false, or_false]

variable (inventory : Inventory Host User)

def AllOpen (paths : List Path) (state : State Host User) : Prop :=
  ∀ host ∈ inventory.hosts, ∀ user ∈ inventory.rekeyUsers, Opens paths state host user

instance (paths : List Path) (state : State Host User) :
    Decidable (AllOpen inventory paths state) := by
  unfold AllOpen
  infer_instance

variable [DecidableEq Host] [DecidableEq User]

/-- The task leaves every host another key. The other tasks take no key away. -/
def SparesTask (state : State Host User) (outcome : Outcome Host User) : Task → Prop
  | .opensshKeypair keyType =>
      ∀ key ∈ state.files .privateKeyNew, key.type ≠ keyType →
        Unknown inventory state ⟨keyType, outcome.generated⟩ →
          AllOpen inventory [.privateKey, .deprecatedPrivateKey] state
  | .authorizedKey .absent path =>
      ∀ removed ∈ state.files path, ∀ host ∈ inventory.hosts, ∀ user ∈ inventory.rekeyUsers,
        Applied inventory state outcome host user →
          ∃ path ∈ privatePaths, ∃ key ∈ state.files path,
            key ≠ removed ∧ key ∈ state.authorizedKeys host user
  | .mv .privateKey .deprecatedPrivateKey =>
      (state.files .privateKey).isSome → AllOpen inventory [.privateKey, .privateKeyNew] state
  | _ => True

def Spares (state : State Host User) : Action Host User → Prop
  | .start _ => True
  | .task outcome => ∀ task ∈ state.tasks.head?, SparesTask inventory state outcome task

/-- What holds before a task in its place in a run. -/
def Ready (files : Path → Option Key) : Task → Prop
  | .mv .privateKey .deprecatedPrivateKey | .mv .publicKeyNew .publicKey => True
  | .mv .publicKey .deprecatedPublicKey | .mv .privateKeyNew .privateKey =>
      files .privateKey = none
  | .mv _ _ => False
  | _ => True

def Follows (task later : Task) : Prop :=
  ∀ (state next : State Host User) (outcome : Outcome Host User), Ready state.files task →
    perform inventory state outcome task = some next → Ready next.files later

structure Poised (state : State Host User) : Prop where
  ordered : state.tasks.IsChain (Follows inventory)
  ready : ∀ task ∈ state.tasks.head?, Ready state.files task

variable {inventory}

theorem mv_files {state next : State Host User} {outcome : Outcome Host User}
    {source target : Path} (done : perform inventory state outcome (.mv source target) = some next) :
    ∃ key, state.files source = some key ∧
      next = { state with
        files := Function.update (Function.update state.files source none) target (some key) } := by
  obtain ⟨key, present, same⟩ := Option.map_eq_some_iff.mp done
  exact ⟨key, present, same.symm⟩

theorem tasks_follow (run : Run) : run.tasks.IsChain (Follows inventory) := by
  cases run with
  | removeKey =>
      simp [Run.tasks, Follows, Ready]
  | rotate newKeyType =>
      -- Only the two moves after the deprecation rely on anything: no private key in place.
      have emptied : Follows inventory (.mv .privateKey .deprecatedPrivateKey)
          (.mv .publicKey .deprecatedPublicKey) := by
        intro state next outcome _ done
        obtain ⟨key, _, rfl⟩ := mv_files done
        simp [Ready, Function.update]
      have stillEmpty : Follows inventory (.mv .publicKey .deprecatedPublicKey)
          (.mv .privateKeyNew .privateKey) := by
        intro state next outcome ready done
        obtain ⟨key, _, rfl⟩ := mv_files done
        simpa [Ready, Function.update] using ready
      have free {task later : Task} (always : ∀ files, Ready files later) :
          Follows inventory task later := fun _ next _ _ _ => always next.files
      simp only [Run.tasks, List.isChain_cons_cons, List.IsChain.singleton, and_true]
      refine ⟨free ?_, free ?_, free ?_, free ?_, free ?_, free ?_, emptied, stillEmpty, free ?_⟩ <;>
        exact fun _ => trivial

theorem perform_tasks {state next : State Host User} {outcome : Outcome Host User} {task : Task}
    (done : perform inventory state outcome task = some next) : next.tasks = state.tasks := by
  cases task with
  | stat path =>
      obtain rfl := Option.some.inj done
      rfl
  | failWhenMissing =>
      obtain ⟨_, same⟩ := Option.ite_none_right_eq_some.mp done
      obtain rfl := Option.some.inj same
      rfl
  | opensshKeypair keyType =>
      simp only [perform, opensshKeypair] at done
      split at done
      · obtain rfl := Option.some.inj done
        rfl
      · obtain ⟨_, same⟩ := Option.ite_none_right_eq_some.mp done
        obtain rfl := Option.some.inj same
        rfl
  | authorizedKey keyState path =>
      obtain ⟨key, _, rfl⟩ := Option.map_eq_some_iff.mp done
      rfl
  | mv source target =>
      obtain ⟨key, _, rfl⟩ := mv_files done
      rfl

theorem step_task (state : State Host User) (outcome : Outcome Host User) :
    (let next := step inventory state (.task outcome)
     next.files = state.files ∧ next.authorizedKeys = state.authorizedKeys ∧ next.tasks = [] ∧
      ∀ task ∈ state.tasks.head?,
        perform inventory { state with tasks := state.tasks.tail } outcome task = none) ∨
    ∃ task tasks done, state.tasks = task :: tasks ∧
      perform inventory { state with tasks } outcome task = some done ∧
      (step inventory state (.task outcome) = done ∨
        step inventory state (.task outcome) = { done with tasks := [] }) := by
  unfold step
  cases waiting : state.tasks with
  | nil => exact Or.inl ⟨rfl, rfl, waiting, by simp⟩
  | cons task tasks =>
      cases done : perform inventory { state with tasks } outcome task with
      | none => exact Or.inl ⟨by simp [done], by simp [done], by simp [done], by simpa using done⟩
      | some next =>
          refine Or.inr ⟨task, tasks, next, rfl, done, ?_⟩
          by_cases ended : next.hosts = []
          · exact Or.inr (by simp [done, ended])
          · exact Or.inl (by simp [done, ended])

theorem poised_step {state : State Host User} (action : Action Host User)
    (poised : Poised inventory state) : Poised inventory (step inventory state action) := by
  have idle {other : State Host User} (finished : other.tasks = []) : Poised inventory other := by
    refine ⟨finished ▸ List.IsChain.nil, ?_⟩
    simp [finished]
  cases action with
  | start run =>
      refine ⟨tasks_follow run, ?_⟩
      cases run <;> simp [step, Run.tasks, Ready]
  | task outcome =>
      obtain ⟨ordered, ready⟩ := poised
      rcases step_task state outcome with
        ⟨_, _, finished, _⟩ | ⟨task, tasks, next, waiting, done, same | same⟩
      · exact idle finished
      · rw [waiting] at ordered ready
        have placed : Ready { state with tasks }.files task := ready task rfl
        obtain ⟨follows, rest⟩ := List.isChain_cons.mp ordered
        rw [same]
        have left := perform_tasks done
        refine ⟨left ▸ rest, ?_⟩
        intro later first
        rw [left] at first
        exact follows later first _ next outcome placed done
      · exact idle (same ▸ rfl)

theorem mv_opens {state next : State Host User} {outcome : Outcome Host User}
    {source target : Path} (ready : Ready state.files (.mv source target))
    (done : perform inventory state outcome (.mv source target) = some next) (host : Host)
    (user : User) :
    Opens privatePaths next host user ↔
      if target = .deprecatedPrivateKey then Opens [.privateKey, .privateKeyNew] state host user
      else Opens privatePaths state host user := by
  obtain ⟨key, present, rfl⟩ := mv_files done
  cases source <;> cases target <;> try exact False.elim ready
  case privateKey.deprecatedPrivateKey =>
    rw [if_pos rfl, opens_privatePaths]
    simp [Opens, Function.update, present, or_comm]
  case privateKeyNew.privateKey =>
    rw [if_neg (by decide), opens_privatePaths, opens_privatePaths]
    have empty : state.files .privateKey = none := ready
    simp [Function.update, present, empty]
  case publicKey.deprecatedPublicKey =>
    rw [if_neg (by decide)]
    exact opens_congr state _ (by simp [privatePaths, Function.update]) rfl
  case publicKeyNew.publicKey =>
    rw [if_neg (by decide)]
    exact opens_congr state _ (by simp [privatePaths, Function.update]) rfl

theorem mv_safe {state next : State Host User} {outcome : Outcome Host User} {source target : Path}
    (ready : Ready state.files (.mv source target))
    (done : perform inventory state outcome (.mv source target) = some next)
    (safe : AllOpen inventory privatePaths state) :
    AllOpen inventory privatePaths next ↔ SparesTask inventory state outcome (.mv source target) := by
  unfold AllOpen
  simp only [mv_opens ready done]
  obtain ⟨key, present, _⟩ := mv_files done
  cases source <;> cases target <;> try exact False.elim ready
  case privateKey.deprecatedPrivateKey => simp [SparesTask, present, AllOpen]
  all_goals exact iff_of_true (by simpa [AllOpen] using safe) trivial

theorem opensshKeypair_safe {state next : State Host User} {outcome : Outcome Host User}
    {keyType : String} (done : perform inventory state outcome (.opensshKeypair keyType) = some next)
    (safe : AllOpen inventory privatePaths state) :
    AllOpen inventory privatePaths next ↔
      SparesTask inventory state outcome (.opensshKeypair keyType) := by
  simp only [perform, opensshKeypair] at done
  split at done
  · rename_i kept found
    obtain rfl := Option.some.inj done
    obtain ⟨present, conforms⟩ := Option.filter_eq_some_iff.mp found
    refine iff_of_true ?_ ?_
    · intro host hostMember user userMember
      have opened := safe host hostMember user userMember
      refine (opens_congr state (writeNewPair state kept) ?_ rfl).mpr opened
      simp [privatePaths, writeNewPair, Function.update, present]
    · intro key other different
      obtain rfl : kept = key := Option.some.inj (present.symm.trans other)
      exact absurd (by simpa using conforms) different
  · rename_i unfit
    obtain ⟨unknown, same⟩ := Option.ite_none_right_eq_some.mp done
    obtain rfl := Option.some.inj same
    have others : AllOpen inventory privatePaths (writeNewPair state ⟨keyType, outcome.generated⟩) ↔
        AllOpen inventory [.privateKey, .deprecatedPrivateKey] state := by
      refine forall₂_congr fun host hostMember => forall₂_congr fun user userMember => ?_
      have fresh := unknown host hostMember user userMember
      rw [opens_privatePaths]
      simp [writeNewPair, Opens, Function.update, fresh]
    refine others.trans ?_
    cases left : state.files .privateKeyNew with
    | none =>
        refine iff_of_true ?_ (by simp [SparesTask, left])
        intro host hostMember user userMember
        have opened := (opens_privatePaths state host user).mp (safe host hostMember user userMember)
        simpa [left, Opens] using opened
    | some key =>
        have different : key.type ≠ keyType := by simpa [left] using unfit
        simp [SparesTask, left, different, unknown]

theorem removal_opens {state : State Host User} {outcome : Outcome Host User} {removed : Key}
    (host : Host) (user : User) :
    Opens privatePaths (authorizedKey inventory state .absent removed outcome) host user ↔
      if Applied inventory state outcome host user then
        ∃ path ∈ privatePaths, ∃ key ∈ state.files path,
          key ≠ removed ∧ key ∈ state.authorizedKeys host user
      else Opens privatePaths state host user := by
  unfold Opens authorizedKey
  split_ifs with applied <;> simp [applied, KeyState.change]

theorem authorizedKey_safe {state next : State Host User} {outcome : Outcome Host User}
    {keyState : KeyState} {path : Path}
    (done : perform inventory state outcome (.authorizedKey keyState path) = some next)
    (safe : AllOpen inventory privatePaths state) :
    AllOpen inventory privatePaths next ↔
      SparesTask inventory state outcome (.authorizedKey keyState path) := by
  obtain ⟨changed, present, rfl⟩ := Option.map_eq_some_iff.mp done
  cases keyState with
  | present =>
      refine iff_of_true ?_ trivial
      intro host hostMember user userMember
      obtain ⟨held, isPrivate, key, found, authorised⟩ := safe host hostMember user userMember
      refine ⟨held, isPrivate, key, found, ?_⟩
      simp only [authorizedKey]
      split
      · exact Finset.mem_insert_of_mem authorised
      · exact authorised
  | absent =>
      simp only [AllOpen, removal_opens, SparesTask, Option.mem_def, present, Option.some.injEq,
        forall_eq']
      refine forall₂_congr fun host hostMember => forall₂_congr fun user userMember => ?_
      split_ifs with applied
      · exact (imp_iff_right applied).symm
      · exact iff_of_true (safe host hostMember user userMember) fun applies => absurd applies applied

theorem perform_safe {state next : State Host User} {outcome : Outcome Host User} {task : Task}
    (ready : Ready state.files task) (done : perform inventory state outcome task = some next)
    (safe : AllOpen inventory privatePaths state) :
    AllOpen inventory privatePaths next ↔ SparesTask inventory state outcome task := by
  cases task with
  | stat path =>
      obtain rfl := Option.some.inj done
      exact iff_of_true safe trivial
  | failWhenMissing =>
      obtain ⟨_, same⟩ := Option.ite_none_right_eq_some.mp done
      obtain rfl := Option.some.inj same
      exact iff_of_true safe trivial
  | opensshKeypair keyType => exact opensshKeypair_safe done safe
  | authorizedKey keyState path => exact authorizedKey_safe done safe
  | mv source target => exact mv_safe ready done safe

theorem perform_none_spares {state : State Host User} {outcome : Outcome Host User} {task : Task}
    (failed : perform inventory state outcome task = none) :
    SparesTask inventory state outcome task := by
  cases task with
  | stat path => trivial
  | failWhenMissing => trivial
  | opensshKeypair keyType =>
      intro key left different unknown
      have unfit : (state.files .privateKeyNew).filter (fun key => key.type = keyType) = none := by
        simp [Option.mem_def.mp left, different]
      simp [perform, opensshKeypair, unfit, unknown] at failed
  | authorizedKey keyState path =>
      have missing : state.files path = none := Option.map_eq_none_iff.mp failed
      cases keyState with
      | present => trivial
      | absent =>
          intro removed found
          simp [missing] at found
  | mv source target =>
      have missing : state.files source = none := Option.map_eq_none_iff.mp failed
      cases source <;> cases target <;> try trivial
      intro present
      simp [missing] at present

theorem step_safe {state : State Host User} (action : Action Host User)
    (poised : Poised inventory state) (safe : AllOpen inventory privatePaths state) :
    AllOpen inventory privatePaths (step inventory state action) ↔ Spares inventory state action := by
  cases action with
  | start run => exact iff_of_true safe trivial
  | task outcome =>
      rcases step_task state outcome with
        ⟨files, keys, _, failed⟩ | ⟨task, tasks, next, waiting, done, same⟩
      · refine iff_of_true ?_ ?_
        · intro host hostMember user userMember
          refine (opens_congr state _ ?_ ?_).mpr (safe host hostMember user userMember)
          · exact fun path _ => congrFun files path
          · rw [keys]
        · intro task first
          have spared := perform_none_spares (failed task first)
          exact spared
      · have placed : Ready { state with tasks }.files task := poised.ready task (by simp [waiting])
        have performed := perform_safe placed done safe
        have kept : AllOpen inventory privatePaths (step inventory state (.task outcome)) ↔
            AllOpen inventory privatePaths next := by
          rcases same with same | same
          · rw [same]
          · rw [same]
            rfl
        rw [kept, performed]
        simp only [Spares, waiting, List.head?_cons, Option.mem_def, Option.some.injEq, forall_eq']
        rfl

theorem rekey_locksNoHostOut_iff {state : State Host User}
    (authorised : AllOpen inventory [.privateKey] state) (idle : state.tasks = [])
    (actions : List (Action Host User)) :
    Throughout (step inventory) (AllOpen inventory privatePaths) state actions ↔
      Along (step inventory) (Spares inventory) state actions := by
  have poised : Poised inventory state := ⟨by simp [idle], by simp [idle]⟩
  have safe : AllOpen inventory privatePaths state := by
    intro host hostMember user userMember
    obtain ⟨path, isPrivate, opened⟩ := authorised host hostMember user userMember
    have member : path ∈ privatePaths := List.mem_singleton.mp isPrivate ▸ List.mem_cons_self
    exact ⟨path, member, opened⟩
  exact throughout_iff_along (fun _ action => poised_step action) (fun _ action => step_safe action)
    poised safe actions

def cloud : Inventory String String where
  hosts := ["ctl1", "cmp1"]
  rekeyUsers := ["stack", "kolla"]
  ansibleUser := "stack"

def unrotated : State String String where
  files := fun path => if path = .privateKey ∨ path = .publicKey then some ⟨"rsa", 0⟩ else none
  authorizedKeys := fun _ _ => {⟨"rsa", 0⟩}
  tasks := []
  hosts := []
  statResult := false

def rotation (generated : Nat) (up : List String) : List (Action String String) :=
  .start (.rotate "rsa") ::
    List.replicate 10 (.task ⟨generated, fun host _ => up.contains host, fun host => up.contains host⟩)

theorem rekey_locksNoHostOut_iff_cloud :
    Throughout (step cloud) (AllOpen cloud privatePaths) unrotated (rotation 1 ["ctl1", "cmp1"]) ↔
      Along (step cloud) (Spares cloud) unrotated (rotation 1 ["ctl1", "cmp1"]) :=
  rekey_locksNoHostOut_iff (by decide +kernel) rfl _

/-- The second rotation overwrites the only key of the host that was down in the first. -/
theorem rekey_locksHostOut :
    AllOpen cloud [.privateKey] unrotated ∧
      ¬Throughout (step cloud) (AllOpen cloud privatePaths) unrotated
        (rotation 1 ["ctl1"] ++ rotation 2 ["ctl1", "cmp1"]) := by
  refine ⟨by decide +kernel, ?_⟩
  intro safe
  have final := safe _ List.prefix_rfl
  exact absurd final (by decide +kernel)

end Rekey
