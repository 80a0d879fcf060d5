import KayobeConfig.SecretStore.Migration

/-!
The unseal keys of Vault outlive every run of the migration, wherever it is stopped, and are
those of OpenBao once a run has completed.
-/

namespace SecretStore

open Library

def HasContent (tree : Tree) (path : Path) (content : List UInt8) : Prop :=
  ∃ mtime, tree path = some (.file content mtime)

def Regular (tree : Tree) (name : String) : Prop :=
  tree [name] = none ∨ ∃ content, HasContent tree [name] content

def Stored (config : Config) (content : List UInt8) : Prop :=
  ∃ path, HasContent config.vault path content ∨ HasContent config.openbao path content

/-- The keys file is in one of the directories. -/
def Held (vault openbao : Tree) (key : KeysFile) (content : List UInt8) : Prop :=
  HasContent vault [key.vaultName] content ∨ HasContent openbao [key.vaultName] content

/-- The keys file is in `vault/`, or only in `openbao/`. -/
def Original (vault openbao : Tree) (key : KeysFile) (content : List UInt8) : Prop :=
  HasContent vault [key.vaultName] content ∨
    vault [key.vaultName] = none ∧ HasContent openbao [key.vaultName] content

def Kept (config : Config) (key : KeysFile) (content : List UInt8) : Prop :=
  Stored config content ∧
    (config.position = .completed → HasContent config.openbao [key.openbaoName] content)

def Preserves (keys : Tree → Tree → KeysFile → List UInt8 → Prop) (vault openbao : Tree) : Prop :=
  ∀ events, Runs (.start vault openbao) events → ∀ key content, keys vault openbao key content →
    Kept (after (.start vault openbao) events) key content

theorem openbaoName_injective {key other : KeysFile} (same : key.openbaoName = other.openbaoName) :
    key = other := by
  cases key <;> cases other <;> first | rfl | exact absurd same (by decide)

theorem vaultName_ne_openbaoName (key other : KeysFile) : key.vaultName ≠ other.openbaoName := by
  cases key <;> cases other <;> decide

/-- The paths that the playbook knows are files where they are there, and the copy can tell
Vault's keys in one directory from others in the other. -/
structure AllRegular (vault openbao : Tree) : Prop where
  vaultKeys : ∀ key : KeysFile, Regular vault key.vaultName ∧ Regular vault key.openbaoName
  openbaoKeys : ∀ key : KeysFile, Regular openbao key.vaultName ∧ Regular openbao key.openbaoName
  noticed : ∀ (key : KeysFile) content old mtime,
    vault [key.vaultName] = some (.file content mtime) →
      openbao [key.vaultName] = some (.file old mtime) → content.length = old.length → content = old

theorem Regular.notDirectory {tree : Tree} {name : String} (regular : Regular tree name) :
    tree [name] ≠ some .directory := by
  rcases regular with absent | ⟨content, mtime, present⟩
  · simp [absent]
  · simp [present]

theorem Regular.copy {vault openbao : Tree} {name : String} (source : Regular vault name)
    (target : Regular openbao name) (path : Path) (length mtime : Nat) :
    Regular (Function.update openbao path ((vault path).map (Entry.truncate length mtime)))
      name := by
  by_cases same : [name] = path
  · subst same
    rcases source with absent | ⟨content, written, present⟩
    · left
      simp [absent]
    · right
      exact ⟨content.take length, mtime, by simp [present, Entry.truncate]⟩
  · unfold Regular HasContent
    rw [Function.update_of_ne same]
    exact target

theorem Regular.remove {tree : Tree} {name : String} (regular : Regular tree name) (path : Path) :
    Regular (Function.update tree path none) name := by
  by_cases same : [name] = path
  · subst same
    left
    simp
  · unfold Regular HasContent
    rw [Function.update_of_ne same]
    exact regular

theorem removeTree_apply (tree : Tree) (name other : String) :
    removeTree tree name [other] = if name = other then none else tree [other] := by
  unfold removeTree
  by_cases same : name = other
  · simp [same]
  · simp [same]

theorem Regular.removeTree {tree : Tree} {name : String} (regular : Regular tree name)
    (removed : String) : Regular (removeTree tree removed) name := by
  unfold Regular HasContent
  rw [removeTree_apply]
  split
  · exact .inl rfl
  · exact regular

/-- Where the target is no directory, the copy is made at its path. -/
theorem makeCopy_regular {tree : Tree} {dest : String} (regular : Regular tree dest)
    (source : String) (mtime : Nat) : makeCopy tree source dest mtime =
      some (Function.update tree [dest] ((tree [source]).map (Entry.touch mtime))) := by
  have plain : copyTarget tree source dest = [dest] := if_neg regular.notDirectory
  unfold makeCopy
  simp only [plain]
  rw [if_neg regular.notDirectory]

theorem update_single (tree : Tree) (name other : String) (entry : Option Entry) :
    Function.update tree [name] entry [other] = if other = name then entry else tree [other] := by
  by_cases same : other = name
  · simp [same]
  · rw [if_neg same, Function.update_of_ne (by simpa using same)]

theorem HasContent.touch {tree : Tree} {path : Path} {content : List UInt8}
    (has : HasContent tree path content) (mtime : Nat) :
    (tree path).map (Entry.touch mtime) = some (.file content mtime) := by
  obtain ⟨written, present⟩ := has
  simp [present, Entry.touch]

theorem Regular.makeCopy {tree : Tree} {source name : String} (copied : Regular tree source)
    (regular : Regular tree name) (dest : String) (mtime : Nat) :
    Regular (Function.update tree [dest] ((tree [source]).map (Entry.touch mtime))) name := by
  unfold Regular HasContent
  rw [update_single]
  split
  · rcases copied with absent | ⟨content, has⟩
    · exact .inl (by rw [absent, Option.map_none])
    · exact .inr ⟨content, mtime, has.touch mtime⟩
  · exact regular

theorem allRegular_perform {config : Config} {event : Event}
    (regular : AllRegular config.vault config.openbao) :
    AllRegular (perform config event).vault (perform config event).openbao := by
  obtain ⟨vaultKeys, openbaoKeys, noticed⟩ := regular
  cases event with
  | copy path length mtime =>
      refine ⟨vaultKeys, ?_, ?_⟩
      · intro key
        exact ⟨(vaultKeys key).1.copy (openbaoKeys key).1 path length mtime,
          (vaultKeys key).2.copy (openbaoKeys key).2 path length mtime⟩
      · intro key content old written present target sizes
        simp only [perform] at present target
        by_cases same : [key.vaultName] = path
        · -- A beginning of the same size is the whole file.
          subst same
          rw [Function.update_self, present, Option.map_some] at target
          simp only [Entry.truncate, Option.some.injEq, Entry.file.injEq] at target
          rw [← target.1, List.length_take] at sizes
          rw [← target.1, List.take_of_length_le (by omega)]
        · rw [Function.update_of_ne same] at target
          exact noticed key content old written present target sizes
  | remove path =>
      refine ⟨fun key => ⟨(vaultKeys key).1.remove path, (vaultKeys key).2.remove path⟩,
        openbaoKeys, ?_⟩
      intro key content old written present
      simp only [perform] at present
      by_cases same : [key.vaultName] = path
      · rw [same, Function.update_self] at present
        cases present
      · rw [Function.update_of_ne same] at present
        exact noticed key content old written present
  | makeCopy mtime =>
      simp only [perform]
      split
      · rename_i isreg copied items position
        rw [makeCopy_regular (openbaoKeys copied).2]
        split
        · refine ⟨vaultKeys, ?_, ?_⟩
          · intro key
            exact ⟨(openbaoKeys copied).1.makeCopy (openbaoKeys key).1 _ _,
              (openbaoKeys copied).1.makeCopy (openbaoKeys key).2 _ _⟩
          · intro key content old written present target
            simp only [update_single, vaultName_ne_openbaoName, if_false] at target
            exact noticed key content old written present target
        · exact ⟨vaultKeys, openbaoKeys, noticed⟩
      · exact ⟨vaultKeys, openbaoKeys, noticed⟩
  | removeKeys =>
      simp only [perform]
      split
      · refine ⟨vaultKeys, ?_, ?_⟩
        · intro key
          exact ⟨(openbaoKeys key).1.removeTree _, (openbaoKeys key).2.removeTree _⟩
        · intro key content old written present target
          simp only [removeTree_apply] at target
          split at target
          · cases target
          · exact noticed key content old written present target
      · exact ⟨vaultKeys, openbaoKeys, noticed⟩
  | endLoop =>
      simp only [perform]
      split
      · exact ⟨vaultKeys, openbaoKeys, noticed⟩
      · exact ⟨vaultKeys, openbaoKeys, noticed⟩
  | _ => exact ⟨vaultKeys, openbaoKeys, noticed⟩

section Contents

variable (key : KeysFile) (content : List UInt8)

def VaultUnchanged (vault : Tree) : Prop :=
  vault [key.vaultName] = none ∨ HasContent vault [key.vaultName] content

def CopiedToOpenbao (openbao : Tree) : Prop := HasContent openbao [key.vaultName] content

def Renamed (openbao : Tree) : Prop := HasContent openbao [key.openbaoName] content

/-- Where the content of a keys file is when a run is at a position. -/
def LocatedAt (vault openbao : Tree) : Position → Prop
  | .stopped => Original vault openbao key content ∨ vault [] = none ∧ Renamed key content openbao
  | .copying => vault [] = some .directory ∧ Original vault openbao key content
  | .checking => VaultUnchanged key content vault ∧ CopiedToOpenbao key content openbao
  | .duplicating isreg items =>
      VaultUnchanged key content vault ∧ CopiedToOpenbao key content openbao ∧ isreg key ∧
        (key ∉ items → Renamed key content openbao)
  | .removing =>
      VaultUnchanged key content vault ∧ CopiedToOpenbao key content openbao ∧
        Renamed key content openbao
  | .removingKeys _ | .changing | .completed => vault [] = none ∧ Renamed key content openbao

structure Located (config : Config) : Prop where
  regular : AllRegular config.vault config.openbao
  here : LocatedAt key content config.vault config.openbao config.position

end Contents

variable {vault openbao : Tree} {config : Config} {key : KeysFile} {content : List UInt8}

theorem original_of_copied (unchanged : VaultUnchanged key content vault)
    (copied : CopiedToOpenbao key content openbao) : Original vault openbao key content := by
  rcases unchanged with absent | present
  · exact .inr ⟨absent, copied⟩
  · exact .inl present

theorem locatedAt_stopped {position : Position}
    (here : LocatedAt key content vault openbao position) :
    LocatedAt key content vault openbao .stopped := by
  cases position with
  | stopped => exact here
  | copying => exact .inl here.2
  | checking => exact .inl (original_of_copied here.1 here.2)
  | duplicating isreg items => exact .inl (original_of_copied here.1 here.2.1)
  | removing => exact .inl (original_of_copied here.1 here.2.1)
  | removingKeys items => exact .inr here
  | changing => exact .inr here
  | completed => exact .inr here

theorem located_run (located : Located key content config) :
    LocatedAt key content config.vault config.openbao (perform config .run).position := by
  have stopped := locatedAt_stopped located.here
  simp only [perform]
  split
  · rename_i present
    rcases stopped with original | ⟨absent, _⟩
    · exact ⟨present, original⟩
    · simp [present] at absent
  · exact stopped

theorem located_copy {path : Path} (present : vault path ≠ none) (entry : Option Entry)
    (original : Original vault openbao key content) :
    Original vault (Function.update openbao path entry) key content := by
  rcases original with kept | ⟨absent, copied⟩
  · exact .inl kept
  · have different : [key.vaultName] ≠ path := fun same => present (same ▸ absent)
    refine .inr ⟨absent, ?_⟩
    unfold HasContent
    rw [Function.update_of_ne different]
    exact copied

/-- A copy that has come to its end has left out no keys file. -/
theorem copied_of_all (regular : AllRegular vault openbao) (directory : vault [] = some .directory)
    (root : openbao [] = some .directory)
    (all : ∀ path entry, vault path = some entry →
      (∃ copy, openbao path = some copy ∧ Alike entry copy) ∨
        ∃ before, before <+: path ∧ Clash (vault before) (openbao before))
    (original : Original vault openbao key content) : CopiedToOpenbao key content openbao := by
  rcases original with ⟨mtime, kept⟩ | ⟨_, copied⟩
  · rcases all [key.vaultName] _ kept with ⟨copy, target, alike⟩ | ⟨before, early, clash⟩
    · cases copy with
      | file old written =>
          rcases alike with ⟨sizes, rfl⟩ | rfl
          · rw [regular.noticed key content old mtime kept target sizes]
            exact ⟨mtime, target⟩
          · exact ⟨written, target⟩
      | directory => cases alike
      | other => cases alike
    · obtain ⟨entry, old, source, target, differ⟩ := clash
      exfalso
      apply differ
      rcases List.prefix_cons_iff.mp early with empty | ⟨rest, whole, later⟩
      · subst empty
        simp_all
      · have none := List.prefix_nil.mp later
        subst none whole
        have vaultPlain := (regular.vaultKeys key).1.notDirectory
        have openbaoPlain := (regular.openbaoKeys key).1.notDirectory
        refine iff_of_false ?_ ?_
        · intro same
          exact vaultPlain (by rw [source, same])
        · intro same
          exact openbaoPlain (by rw [target, same])
  · exact copied

/-- One item of the loop that copies the keys files to their new names. -/
theorem located_copied {isreg : KeysFile → Bool} {copied : KeysFile} {items : List KeysFile}
    (mtime : Nat)
    (here : LocatedAt key content vault openbao (.duplicating isreg (copied :: items))) :
    LocatedAt key content vault
      (Function.update openbao [copied.openbaoName]
        ((openbao [copied.vaultName]).map (Entry.touch mtime)))
      (.duplicating isreg items) := by
  obtain ⟨unchanged, inOpenbao, isRegularFile, renamed⟩ := here
  refine ⟨unchanged, ?_, isRegularFile, ?_⟩
  · unfold CopiedToOpenbao HasContent
    rw [update_single, if_neg (vaultName_ne_openbaoName key copied)]
    exact inOpenbao
  · intro later
    unfold Renamed HasContent
    rw [update_single]
    by_cases same : key = copied
    · subst same
      rw [if_pos rfl]
      exact ⟨mtime, HasContent.touch inOpenbao mtime⟩
    · rw [if_neg fun names => same (openbaoName_injective names)]
      exact renamed (by simp [same, later])

theorem located_skipped {isreg : KeysFile → Bool} {skipped : KeysFile} {items : List KeysFile}
    (irregular : ¬isreg skipped)
    (here : LocatedAt key content vault openbao (.duplicating isreg (skipped :: items))) :
    LocatedAt key content vault openbao (.duplicating isreg items) := by
  obtain ⟨unchanged, inOpenbao, isRegularFile, renamed⟩ := here
  refine ⟨unchanged, inOpenbao, isRegularFile, ?_⟩
  intro later
  have different : key ≠ skipped := by
    intro same
    exact irregular (same ▸ isRegularFile)
  exact renamed (by simp [different, later])

theorem located_removeKeys {removed : KeysFile} {items : List KeysFile}
    (here : LocatedAt key content vault openbao (.removingKeys (removed :: items))) :
    LocatedAt key content vault (removeTree openbao removed.vaultName) (.removingKeys items) := by
  refine ⟨here.1, ?_⟩
  unfold Renamed HasContent
  rw [removeTree_apply, if_neg (vaultName_ne_openbaoName removed key)]
  exact here.2

theorem located_remove (path : Path) (unchanged : VaultUnchanged key content vault) :
    VaultUnchanged key content (Function.update vault path none) := by
  unfold VaultUnchanged HasContent
  by_cases same : [key.vaultName] = path
  · left
    simp [same]
  · rw [Function.update_of_ne same]
    exact unchanged

theorem located_perform {event : Event} (located : Located key content config)
    (enabled : Enabled config event) : Located key content (perform config event) := by
  refine ⟨allRegular_perform located.regular, ?_⟩
  have here := located.here
  cases event with
  | run =>
      have moved := located_run located
      exact moved
  | copy path length mtime =>
      obtain ⟨position, present, _, _⟩ := enabled
      have stays : (perform config (.copy path length mtime)).position = .copying := position
      rw [position] at here
      rw [stays]
      exact ⟨here.1, located_copy present _ here.2⟩
  | copied =>
      obtain ⟨position, root, all⟩ := enabled
      rw [position] at here
      refine ⟨?_, copied_of_all located.regular here.1 root all here.2⟩
      rcases here.2 with kept | ⟨absent, _⟩
      · exact .inr kept
      · exact .inl absent
  | stat =>
      rw [show config.position = .checking from enabled] at here
      obtain ⟨unchanged, mtime, copied⟩ := here
      refine ⟨unchanged, ⟨mtime, copied⟩, ?_, ?_⟩
      · simp [copied, isRegular]
      · cases key <;> simp
  | makeCopy mtime =>
      obtain ⟨isreg, copied, items, position⟩ := enabled
      rw [position] at here
      have regular := (located.regular.openbaoKeys copied).2
      by_cases chosen : isreg copied
      · simp only [perform, position, if_pos chosen, makeCopy_regular regular]
        exact located_copied mtime here
      · simp only [perform, position, if_neg chosen]
        exact located_skipped chosen here
  | endLoop =>
      rcases enabled with ⟨isreg, position⟩ | position
      · rw [position] at here
        simp only [perform, position]
        exact ⟨here.1, here.2.1, here.2.2.2 (by simp)⟩
      · rw [position] at here
        simp only [perform, position]
        exact here
  | remove path =>
      obtain ⟨position, _, _⟩ := enabled
      have stays : (perform config (.remove path)).position = .removing := position
      rw [position] at here
      rw [stays]
      exact ⟨located_remove path here.1, here.2.1, here.2.2⟩
  | removed =>
      rw [enabled.1] at here
      exact ⟨enabled.2 [], here.2.2⟩
  | removeKeys =>
      obtain ⟨removed, items, position⟩ := enabled
      rw [position] at here
      simp only [perform, position]
      exact located_removeKeys here
  | finish =>
      rw [show config.position = .changing from enabled] at here
      exact here

theorem kept_of_located (located : Located key content config) : Kept config key content := by
  constructor
  · rcases locatedAt_stopped located.here with (kept | ⟨_, copied⟩) | ⟨_, renamed⟩
    · exact ⟨_, .inl kept⟩
    · exact ⟨_, .inr copied⟩
    · exact ⟨_, .inr renamed⟩
  · intro completed
    have here := located.here
    rw [completed] at here
    exact here.2

/-- No run loses the keys of Vault, wherever it stops. -/
theorem migration_preserves (regular : AllRegular vault openbao) :
    Preserves Original vault openbao := by
  intro events runs key content original
  apply kept_of_located
  apply invariant_runFrom (fun _ _ => located_perform) _ runs
  exact ⟨regular, .inl original⟩

def VaultKeysRegular (vault openbao : Tree) : Prop :=
  ∀ key : KeysFile, Regular vault key.vaultName ∧ Regular openbao key.vaultName

/-- A directory with the keys of the seed and nothing else. -/
def seedKeys (keys : List UInt8) (mtime : Nat) : Tree := fun path =>
  if path = [] then some .directory
  else if path = ["seed-vault-keys.json"] then some (.file keys mtime)
  else none

/-- A directory with the keys of the seed and, at their new name, a directory. -/
def seedKeysDirectory (keys : List UInt8) (mtime : Nat) : Tree :=
  Function.update (seedKeys keys mtime) ["seed-openbao-keys.json"] (some .directory)

theorem seedKeys_regular (keys : List UInt8) (mtime : Nat) (name : String) :
    Regular (seedKeys keys mtime) name := by
  unfold Regular HasContent seedKeys
  by_cases same : name = "seed-vault-keys.json"
  · right
    exact ⟨keys, mtime, by simp [same]⟩
  · left
    simp [same]

theorem seedKeysDirectory_regular (keys : List UInt8) (mtime : Nat) (key : KeysFile) :
    Regular (seedKeysDirectory keys mtime) key.vaultName := by
  unfold Regular HasContent seedKeysDirectory
  have different : key.vaultName ≠ "seed-openbao-keys.json" := vaultName_ne_openbaoName key .seed
  rw [update_single, if_neg different]
  exact seedKeys_regular keys mtime key.vaultName

theorem seedKeys_mtime {keys content : List UInt8} {mtime written : Nat} {name : String}
    (present : seedKeys keys mtime [name] = some (.file content written)) : mtime = written := by
  unfold seedKeys at present
  split at present
  · simp at present
  · split at present
    · simp only [Option.some.injEq, Entry.file.injEq] at present
      exact present.2
    · cases present

theorem seedKeys_preserved : Preserves Original (seedKeys [1] 1) (seedKeys [2] 2) := by
  apply migration_preserves
  refine ⟨?_, ?_, ?_⟩
  · intro key
    exact ⟨seedKeys_regular _ _ _, seedKeys_regular _ _ _⟩
  · intro key
    exact ⟨seedKeys_regular _ _ _, seedKeys_regular _ _ _⟩
  · intro key content old mtime present target
    have times : 1 = 2 := (seedKeys_mtime present).trans (seedKeys_mtime target).symm
    omega

theorem not_hasContent_seedKeys {keys content : List UInt8} {mtime : Nat} {path : Path}
    (different : keys ≠ content) : ¬HasContent (seedKeys keys mtime) path content := by
  rintro ⟨written, present⟩
  unfold seedKeys at present
  split at present
  · simp at present
  · split at present
    · simp only [Option.some.injEq, Entry.file.injEq] at present
      exact different present.1
    · cases present

theorem seedKeys_overwritten : ¬Preserves Held (seedKeys [1] 1) (seedKeys [2] 2) := by
  intro preserves
  have runs : Runs (.start (seedKeys [1] 1) (seedKeys [2] 2))
      [.run, .copy ["seed-vault-keys.json"] 1 3] := by
    refine along_cons.mpr ⟨trivial, along_cons.mpr ⟨?_, along_nil⟩⟩
    simp [perform, Enabled, Config.start, seedKeys, Clash]
  obtain ⟨⟨path, stored⟩, _⟩ := preserves _ runs .seed [2] (.inr ⟨2, rfl⟩)
  have copied : (after (.start (seedKeys [1] 1) (seedKeys [2] 2))
      [.run, .copy ["seed-vault-keys.json"] 1 3]).openbao =
        Function.update (seedKeys [2] 2) ["seed-vault-keys.json"] (some (.file [1] 3)) := rfl
  rcases stored with inVault | ⟨mtime, inOpenbao⟩
  · exact not_hasContent_seedKeys (by decide) inVault
  · rw [copied] at inOpenbao
    by_cases here : path = ["seed-vault-keys.json"]
    · subst here
      simp at inOpenbao
    · rw [Function.update_of_ne here] at inOpenbao
      unfold seedKeys at inOpenbao
      split at inOpenbao
      · simp at inOpenbao
      · simp at inOpenbao

theorem seedKeys_leaf (keys : List UInt8) (mtime : Nat) (other : Path)
    (below : ["seed-vault-keys.json"] <+: other) (different : other ≠ ["seed-vault-keys.json"]) :
    seedKeys keys mtime other = none := by
  have nonempty : other ≠ [] := by
    intro empty
    simp [empty] at below
  simp [seedKeys, nonempty, different]

def completedRun : List Event :=
  [.run, .copied, .stat, .makeCopy 3, .makeCopy 3, .endLoop, .remove ["seed-vault-keys.json"],
    .remove [], .removed, .removeKeys, .removeKeys, .endLoop, .finish]

theorem completedRun_runs (keys : List UInt8) :
    Runs (.start (seedKeys keys 1) (seedKeysDirectory keys 1)) completedRun := by
  have copied (path : Path) (entry : Entry) (present : seedKeys keys 1 path = some entry) :
      seedKeysDirectory keys 1 path = some entry := by
    have different : path ≠ ["seed-openbao-keys.json"] := by
      intro same
      simp [same, seedKeys] at present
    unfold seedKeysDirectory
    rw [Function.update_of_ne different]
    exact present
  have emptied (other : Path) (different : other ≠ []) :
      Function.update (seedKeys keys 1) ["seed-vault-keys.json"] none other = none := by
    by_cases same : other = ["seed-vault-keys.json"]
    · simp [same]
    · rw [Function.update_of_ne same]
      simp [seedKeys, different, same]
  refine along_cons.mpr ⟨trivial, along_cons.mpr ⟨⟨rfl, rfl, ?_⟩, along_cons.mpr ⟨rfl, ?_⟩⟩⟩
  · intro path entry present
    exact .inl ⟨entry, copied path entry present, by cases entry <;> simp [Alike]⟩
  refine along_cons.mpr ⟨⟨_, .seed, [.overcloud], rfl⟩, along_cons.mpr ⟨⟨_, .overcloud, [], rfl⟩, ?_⟩⟩
  refine along_cons.mpr ⟨.inl ⟨_, rfl⟩, along_cons.mpr ⟨⟨rfl, ?_, seedKeys_leaf keys 1⟩, ?_⟩⟩
  · have present : seedKeys keys 1 ["seed-vault-keys.json"] ≠ none := by simp [seedKeys]
    exact present
  refine along_cons.mpr ⟨⟨rfl, ?_, ?_⟩, along_cons.mpr ⟨⟨rfl, ?_⟩, ?_⟩⟩
  · have present : Function.update (seedKeys keys 1) ["seed-vault-keys.json"] none [] ≠ none := by
      simp [seedKeys]
    exact present
  · intro other _ different
    exact emptied other different
  · intro path
    have absent : Function.update (Function.update (seedKeys keys 1) ["seed-vault-keys.json"] none)
        [] none path = none := by
      by_cases same : path = []
      · simp [same]
      · rw [Function.update_of_ne same]
        exact emptied path same
    exact absent
  refine along_cons.mpr ⟨⟨.seed, _, rfl⟩, along_cons.mpr ⟨⟨.overcloud, _, rfl⟩, ?_⟩⟩
  exact along_cons.mpr ⟨.inr rfl, along_cons.mpr ⟨rfl, along_nil⟩⟩

theorem seedKeysDirectory_misplaced :
    ¬Preserves Original (seedKeys [1] 1) (seedKeysDirectory [1] 1) := by
  intro preserves
  obtain ⟨_, renamed⟩ := preserves _ (completedRun_runs [1]) .seed [1] (.inl ⟨1, rfl⟩)
  have directory : (after (.start (seedKeys [1] 1) (seedKeysDirectory [1] 1)) completedRun).openbao
      ["seed-openbao-keys.json"] = some .directory := by decide +kernel
  obtain ⟨mtime, kept⟩ := renamed rfl
  rw [show KeysFile.seed.openbaoName = "seed-openbao-keys.json" from rfl, directory] at kept
  simp at kept

/-- The copy takes keys of one size and time for the same, and the vault's are removed. -/
def unnoticedRun : List Event :=
  [.run, .copied, .stat, .makeCopy 3, .makeCopy 3, .endLoop, .remove ["seed-vault-keys.json"]]

theorem unnoticedRun_runs : Runs (.start (seedKeys [1] 1) (seedKeys [2] 1)) unnoticedRun := by
  refine along_cons.mpr ⟨trivial, along_cons.mpr ⟨⟨rfl, rfl, ?_⟩, along_cons.mpr ⟨rfl, ?_⟩⟩⟩
  · intro path entry present
    left
    have present : seedKeys [1] 1 path = some entry := present
    show ∃ copy, seedKeys [2] 1 path = some copy ∧ Alike entry copy
    unfold seedKeys at present ⊢
    split at present
    · cases present
      rename_i root
      exact ⟨.directory, by simp [root], rfl⟩
    · split at present
      · rename_i here
        cases present
        exact ⟨.file [2] 1, by simp [here], .inl ⟨rfl, rfl⟩⟩
      · cases present
  refine along_cons.mpr ⟨⟨_, .seed, [.overcloud], rfl⟩, along_cons.mpr ⟨⟨_, .overcloud, [], rfl⟩, ?_⟩⟩
  refine along_cons.mpr ⟨.inl ⟨_, rfl⟩, along_cons.mpr ⟨⟨rfl, ?_, seedKeys_leaf [1] 1⟩, along_nil⟩⟩
  have present : seedKeys [1] 1 ["seed-vault-keys.json"] ≠ none := by simp [seedKeys]
  exact present

theorem seedKeys_unnoticed : ¬Preserves Original (seedKeys [1] 1) (seedKeys [2] 1) := by
  intro preserves
  obtain ⟨⟨path, stored⟩, _⟩ := preserves _ unnoticedRun_runs .seed [1] (.inl ⟨1, rfl⟩)
  have vaultLeft : (after (.start (seedKeys [1] 1) (seedKeys [2] 1)) unnoticedRun).vault =
      Function.update (seedKeys [1] 1) ["seed-vault-keys.json"] none := rfl
  have openbaoLeft : (after (.start (seedKeys [1] 1) (seedKeys [2] 1)) unnoticedRun).openbao =
      Function.update (seedKeys [2] 1) ["seed-openbao-keys.json"] (some (.file [2] 3)) := rfl
  rw [vaultLeft, openbaoLeft] at stored
  rcases stored with ⟨mtime, inVault⟩ | ⟨mtime, inOpenbao⟩
  · by_cases here : path = ["seed-vault-keys.json"]
    · subst here
      simp at inVault
    · rw [Function.update_of_ne here] at inVault
      simp [seedKeys, here] at inVault
  · by_cases here : path = ["seed-openbao-keys.json"]
    · subst here
      simp at inOpenbao
    · rw [Function.update_of_ne here] at inOpenbao
      exact not_hasContent_seedKeys (by decide) ⟨mtime, inOpenbao⟩

theorem migration_not_preserving :
    (VaultKeysRegular (seedKeys [1] 1) (seedKeys [2] 2) ∧
        ¬Preserves Held (seedKeys [1] 1) (seedKeys [2] 2)) ∧
      (VaultKeysRegular (seedKeys [1] 1) (seedKeysDirectory [1] 1) ∧
        ¬Preserves Original (seedKeys [1] 1) (seedKeysDirectory [1] 1)) ∧
      VaultKeysRegular (seedKeys [1] 1) (seedKeys [2] 1) ∧
        ¬Preserves Original (seedKeys [1] 1) (seedKeys [2] 1) := by
  refine ⟨⟨?_, seedKeys_overwritten⟩, ⟨?_, seedKeysDirectory_misplaced⟩, ?_, seedKeys_unnoticed⟩
  · intro key
    exact ⟨seedKeys_regular _ _ _, seedKeys_regular _ _ _⟩
  · intro key
    exact ⟨seedKeys_regular _ _ _, seedKeysDirectory_regular _ _ _⟩
  · intro key
    exact ⟨seedKeys_regular _ _ _, seedKeys_regular _ _ _⟩

end SecretStore
