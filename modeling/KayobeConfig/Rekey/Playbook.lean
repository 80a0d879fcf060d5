import Mathlib.Data.Finset.Insert
import Mathlib.Data.Finset.Erase
import KayobeConfig.Library.Runs

/-!
The playbook `rekey-hosts.yml` with its default paths, where the new key takes the path
of the existing one. A full run rotates the key pair. A run with the tag `remove-key`
removes the deprecated key from the hosts.
-/

namespace Rekey

open Library

structure Key where
  type : String
  number : Nat
  deriving DecidableEq

inductive Path
  | privateKey
  | publicKey
  | privateKeyNew
  | publicKeyNew
  | deprecatedPrivateKey
  | deprecatedPublicKey
  deriving DecidableEq

inductive KeyState
  | present
  | absent
  deriving DecidableEq

inductive Task
  | stat (path : Path)
  | failWhenMissing
  | opensshKeypair (keyType : String)
  | authorizedKey (keyState : KeyState) (path : Path)
  | mv (source target : Path)
  deriving DecidableEq

inductive Run
  | rotate (newKeyType : String)
  | removeKey

def Run.tasks : Run → List Task
  | .rotate newKeyType =>
      [.stat .privateKey, .failWhenMissing, .stat .publicKey, .failWhenMissing,
        .opensshKeypair newKeyType, .authorizedKey .present .publicKeyNew,
        .mv .privateKey .deprecatedPrivateKey, .mv .publicKey .deprecatedPublicKey,
        .mv .privateKeyNew .privateKey, .mv .publicKeyNew .publicKey]
  | .removeKey =>
      [.stat .deprecatedPublicKey, .failWhenMissing, .authorizedKey .absent .deprecatedPublicKey]

structure Inventory (Host User : Type*) where
  hosts : List Host
  rekeyUsers : List User
  ansibleUser : User

/-- The files and the authorised keys outlive a run. The rest is Ansible's own. -/
structure State (Host User : Type*) where
  files : Path → Option Key
  authorizedKeys : Host → User → Finset Key
  tasks : List Task
  hosts : List Host
  statResult : Bool

/-- What is not up to the playbook in a task: the key that a generator makes, the loop
items that take effect, and the hosts that do not fail. -/
structure Outcome (Host User : Type*) where
  generated : Nat
  applies : Host → User → Bool
  remains : Host → Bool

inductive Action (Host User : Type*)
  | start (run : Run)
  | task (outcome : Outcome Host User)

variable {Host User : Type*} [DecidableEq Host] [DecidableEq User]
variable (inventory : Inventory Host User)

def Reached (state : State Host User) (host : Host) : Prop :=
  host ∈ state.hosts ∧
    ∃ key ∈ state.files .privateKey, key ∈ state.authorizedKeys host inventory.ansibleUser

instance (state : State Host User) (host : Host) : Decidable (Reached inventory state host) := by
  unfold Reached
  infer_instance

def Applied (state : State Host User) (outcome : Outcome Host User) (host : Host) (user : User) :
    Prop :=
  Reached inventory state host ∧ user ∈ inventory.rekeyUsers ∧ outcome.applies host user

instance (state : State Host User) (outcome : Outcome Host User) (host : Host) (user : User) :
    Decidable (Applied inventory state outcome host user) := by
  unfold Applied
  infer_instance

def Unknown (state : State Host User) (key : Key) : Prop :=
  ∀ host ∈ inventory.hosts, ∀ user ∈ inventory.rekeyUsers, key ∉ state.authorizedKeys host user

instance (state : State Host User) (key : Key) : Decidable (Unknown inventory state key) := by
  unfold Unknown
  infer_instance

def KeyState.change : KeyState → Key → Finset Key → Finset Key
  | .present, key, keys => insert key keys
  | .absent, key, keys => keys.erase key

def writeNewPair (state : State Host User) (key : Key) : State Host User :=
  { state with
    files := Function.update (Function.update state.files .privateKeyNew (some key)) .publicKeyNew
      (some key) }

/-- The module keeps a key of the asked type, with its public key, and otherwise makes one
that no host knows. -/
def opensshKeypair (state : State Host User) (keyType : String) (generated : Nat) :
    Option (State Host User) :=
  match (state.files .privateKeyNew).filter fun key => key.type = keyType with
  | some key => some (writeNewPair state key)
  | none =>
      if Unknown inventory state ⟨keyType, generated⟩ then
        some (writeNewPair state ⟨keyType, generated⟩)
      else none

/-- A host stays in the run if all its loop items took effect and it did not fail. -/
def authorizedKey (state : State Host User) (keyState : KeyState) (key : Key)
    (outcome : Outcome Host User) : State Host User :=
  { state with
    authorizedKeys := fun host user =>
      if Applied inventory state outcome host user then
        keyState.change key (state.authorizedKeys host user)
      else state.authorizedKeys host user
    hosts := state.hosts.filter fun host =>
      outcome.remains host ∧ ∀ user ∈ inventory.rekeyUsers, Applied inventory state outcome host user }

/-- There is no result when the task fails on the control host, or the key to look up is
missing: then the run is over. -/
def perform (state : State Host User) (outcome : Outcome Host User) :
    Task → Option (State Host User)
  | .stat path => some { state with statResult := (state.files path).isSome }
  | .failWhenMissing => if state.statResult then some state else none
  | .opensshKeypair keyType => opensshKeypair inventory state keyType outcome.generated
  | .authorizedKey keyState path =>
      (state.files path).map fun key => authorizedKey inventory state keyState key outcome
  | .mv source target =>
      (state.files source).map fun key => { state with
        files := Function.update (Function.update state.files source none) target (some key) }

def step (state : State Host User) : Action Host User → State Host User
  | .start run => { state with tasks := run.tasks, hosts := inventory.hosts }
  | .task outcome =>
      match state.tasks with
      | [] => state
      | task :: tasks =>
          match perform inventory { state with tasks } outcome task with
          | none => { state with tasks := [] }
          -- The play ends when every host has failed.
          | some next => if next.hosts = [] then { next with tasks := [] } else next

end Rekey
