import Mathlib.Data.List.Infix
import Mathlib.Logic.Function.Basic
import KayobeConfig.Library.Runs

/-!
The playbook `vault-bao-migration-change-config.yml` on the directories `vault/` and
`openbao/` of an environment, run again and again and stopped anywhere.
-/

namespace SecretStore

open Library

abbrev Path := List String

inductive Entry
  | file (content : List UInt8) (mtime : Nat)
  | directory
  | other
  deriving DecidableEq

abbrev Tree := Path → Option Entry

inductive KeysFile
  | seed
  | overcloud
  deriving DecidableEq

def KeysFile.vaultName : KeysFile → String
  | .seed => "seed-vault-keys.json"
  | .overcloud => "overcloud-vault-keys.json"

def KeysFile.openbaoName : KeysFile → String
  | .seed => "seed-openbao-keys.json"
  | .overcloud => "overcloud-openbao-keys.json"

/-- Where a run is. It is changing the rest of the configuration after the last of the tasks
on these directories. -/
inductive Position
  | stopped
  | copying
  | checking
  | duplicating (isreg : KeysFile → Bool) (items : List KeysFile)
  | removing
  | removingKeys (items : List KeysFile)
  | changing
  | completed

structure Config where
  vault : Tree
  openbao : Tree
  position : Position

def Config.start (vault openbao : Tree) : Config := ⟨vault, openbao, .stopped⟩

/-- A run can begin at any time: the run before it was then stopped where it stood. -/
inductive Event
  | run
  | copy (path : Path) (length mtime : Nat)
  | copied
  | stat
  | makeCopy (mtime : Nat)
  | endLoop
  | remove (path : Path)
  | removed
  | removeKeys
  | finish

/-- The beginning of a file, written at some time. -/
def Entry.truncate (length mtime : Nat) : Entry → Entry
  | .file content _ => .file (content.take length) mtime
  | entry => entry

def Entry.touch (mtime : Nat) : Entry → Entry
  | .file content _ => .file content mtime
  | entry => entry

def isRegular : Option Entry → Bool
  | some (.file _ _) => true
  | _ => false

/-- What Python's `dircmp` takes for the same. It does not read two files whose sizes and
times agree. -/
def Alike : Entry → Entry → Prop
  | .file content mtime, .file old oldMtime =>
      content.length = old.length ∧ mtime = oldMtime ∨ content = old
  | entry, old => entry = old

/-- One of the two is a directory and the other is not. -/
def Clash (source target : Option Entry) : Prop :=
  ∃ entry old, source = some entry ∧ target = some old ∧ ¬(entry = .directory ↔ old = .directory)

/-- A file copied to the path of a directory goes into the directory. -/
def copyTarget (tree : Tree) (source dest : String) : Path :=
  if tree [dest] = some .directory then [dest, source] else [dest]

def makeCopy (tree : Tree) (source dest : String) (mtime : Nat) : Option Tree :=
  let target := copyTarget tree source dest
  if tree target = some .directory then none
  else some (Function.update tree target ((tree [source]).map (Entry.touch mtime)))

def removeTree (tree : Tree) (name : String) : Tree := fun path =>
  if [name] <+: path then none else tree path

/-- A recursive copy goes from parents to children. It leaves out what it takes for the same
and may leave out what clashes. A recursive delete goes from children to parents. -/
def Enabled (config : Config) : Event → Prop
  | .run => True
  | .copy path _ _ =>
      config.position = .copying ∧ config.vault path ≠ none ∧
        ¬Clash (config.vault path) (config.openbao path) ∧
          (path ≠ [] → config.openbao path.dropLast = some .directory)
  | .copied =>
      config.position = .copying ∧ config.openbao [] = some .directory ∧
        ∀ path entry, config.vault path = some entry →
          (∃ copy, config.openbao path = some copy ∧ Alike entry copy) ∨
            ∃ before, before <+: path ∧ Clash (config.vault before) (config.openbao before)
  | .stat => config.position = .checking
  | .makeCopy _ => ∃ isreg key items, config.position = .duplicating isreg (key :: items)
  | .endLoop => (∃ isreg, config.position = .duplicating isreg []) ∨ config.position = .removingKeys []
  | .remove path =>
      config.position = .removing ∧ config.vault path ≠ none ∧
        ∀ other, path <+: other → other ≠ path → config.vault other = none
  | .removed => config.position = .removing ∧ ∀ path, config.vault path = none
  | .removeKeys => ∃ key items, config.position = .removingKeys (key :: items)
  | .finish => config.position = .changing

def perform (config : Config) : Event → Config
  | .run =>
      { config with position := if config.vault [] = some .directory then .copying else .stopped }
  | .copy path length mtime =>
      { config with
        openbao := Function.update config.openbao path
          ((config.vault path).map (Entry.truncate length mtime)) }
  | .copied => { config with position := .checking }
  | .stat =>
      { config with
        position := .duplicating (fun key => isRegular (config.openbao [key.vaultName]))
          [.seed, .overcloud] }
  | .makeCopy mtime =>
      match config.position with
      | .duplicating isreg (key :: items) =>
          if isreg key then
            match makeCopy config.openbao key.vaultName key.openbaoName mtime with
            | none => { config with position := .stopped }
            | some openbao => { config with openbao, position := .duplicating isreg items }
          else { config with position := .duplicating isreg items }
      | _ => config
  | .endLoop =>
      match config.position with
      | .duplicating _ _ => { config with position := .removing }
      | _ => { config with position := .changing }
  | .remove path => { config with vault := Function.update config.vault path none }
  | .removed => { config with position := .removingKeys [.seed, .overcloud] }
  | .removeKeys =>
      match config.position with
      | .removingKeys (key :: items) =>
          { config with
            openbao := removeTree config.openbao key.vaultName
            position := .removingKeys items }
      | _ => config
  | .finish => { config with position := .completed }

def Runs (config : Config) (events : List Event) : Prop := Along perform Enabled config events

def after (config : Config) (events : List Event) : Config := runFrom perform config events

end SecretStore
