import KayobeConfig.Library.Dict
import KayobeConfig.Library.Loops
import KayobeConfig.Library.Python

/-!
The templates of `pulp.yml` that combine each repository entry with a default
configuration. They rebuild the entry from the keys that they name.
-/

namespace Pulp

open Library

inductive Kind
  | rpm
  | deb

/-- A key that an entry has to have and does not. The template then fails or goes on without the
entry, which depends on the release of Ansible: `omits` says at which keys it goes on. -/
inductive Undefined
  | attribute (key : String)

variable {Value : Type}

abbrev Entry (Value : Type) := Dict String Value

def requiredKeys : List String := ["name", "url", "required"]

def optionalKeys : Kind → List String
  | .rpm => ["policy", "sync_policy"]
  | .deb => ["policy", "mirror", "distributions", "components", "architectures"]

def copiedKeys (kind : Kind) : List String := requiredKeys ++ optionalKeys kind

def setAttribute (repo built : Entry Value) (key : String) : Except Undefined (Entry Value) :=
  match repo.get? key with
  | none => .error (.attribute key)
  | some value => .ok (built.set key value)

def setPresent (repo built : Entry Value) (key : String) : Entry Value :=
  match repo.get? key with
  | none => built
  | some value => built.set key value

def rebuild (kind : Kind) (repo : Entry Value) : Except Undefined (Entry Value) := do
  let built ← requiredKeys.foldlM (setAttribute repo) Dict.empty
  return (optionalKeys kind).foldl (setPresent repo) built

def repositoryRepos (omits : Undefined → Bool) (kind : Kind) (defaultConfig : Entry Value)
    (repos : List (Entry Value)) : Except Undefined (List (Entry Value)) :=
  mapOmitting omits (fun repo => do return defaultConfig.combine (← rebuild kind repo)) repos

def repositoryRpmRepos (omits : Undefined → Bool) (defaultConfig : Entry Value)
    (repos : List (Entry Value)) : Except Undefined (List (Entry Value)) :=
  repositoryRepos omits .rpm defaultConfig repos

def repositoryDebRepos (omits : Undefined → Bool) (defaultConfig : Entry Value)
    (repos : List (Entry Value)) : Except Undefined (List (Entry Value)) :=
  repositoryRepos omits .deb defaultConfig repos

/-- There is one output for each entry, with the entry's own values before the defaults. -/
def Overrides (render : List (Entry Value) → Except Undefined (List (Entry Value)))
    (defaultConfig : Entry Value) (repos : List (Entry Value)) : Prop :=
  ∃ outputs, render repos = .ok outputs ∧ List.Forall₂ (fun repo output =>
    ∀ key ∈ defaultConfig.keys, output.get? key = (repo.get? key).or (defaultConfig.get? key))
      repos outputs

/-- Every entry has the required keys and sets no default key that the template leaves
out, unless to the default. -/
def Covered (kind : Kind) (defaultConfig : Entry Value) (repos : List (Entry Value)) : Prop :=
  ∀ repo ∈ repos, (∀ key ∈ requiredKeys, key ∈ repo.keys) ∧
    ∀ key ∈ defaultConfig.keys, key ∉ copiedKeys kind →
      ∀ value, repo.get? key = some value → defaultConfig.get? key = some value

theorem foldlM_setAttribute_ok_iff (repo : Entry Value) (keys : List String)
    (built result : Entry Value) : keys.foldlM (setAttribute repo) built = .ok result ↔
      (∀ key ∈ keys, key ∈ repo.keys) ∧ result = keys.foldl (setPresent repo) built := by
  induction keys generalizing built with
  | nil => simp [pure, Except.pure, eq_comm]
  | cons key keys ih =>
      rw [List.foldlM_cons, List.foldl_cons, List.forall_mem_cons, Dict.mem_keys]
      unfold setAttribute setPresent
      cases found : repo.get? key with
      | none => simp [bind, Except.bind]
      | some value =>
          rw [ok_bind]
          simp only [Option.isSome_some, true_and]
          exact ih (built.set key value)

theorem rebuild_ok_iff (kind : Kind) (repo built : Entry Value) :
    rebuild kind repo = .ok built ↔ (∀ key ∈ requiredKeys, key ∈ repo.keys) ∧
      built = (copiedKeys kind).foldl (setPresent repo) Dict.empty := by
  unfold rebuild copiedKeys
  rw [except_bind_ok, List.foldl_append]
  simp only [foldlM_setAttribute_ok_iff]
  constructor
  · rintro ⟨_, ⟨complete, rfl⟩, same⟩
    cases same
    exact ⟨complete, rfl⟩
  · rintro ⟨complete, rfl⟩
    exact ⟨_, ⟨complete, rfl⟩, rfl⟩

theorem get?_setPresent (repo built : Entry Value) (name key : String) :
    (setPresent repo built name).get? key =
      if key = name then (repo.get? key).or (built.get? key) else built.get? key := by
  unfold setPresent
  by_cases same : key = name
  · subst same
    rw [if_pos rfl]
    cases found : repo.get? key with
    | none => rfl
    | some value => simp
  · rw [if_neg same]
    cases found : repo.get? name with
    | none => rfl
    | some value => simp [same]

theorem get?_foldl_setPresent (repo : Entry Value) (keys : List String) (built : Entry Value)
    (key : String) : (keys.foldl (setPresent repo) built).get? key =
      if key ∈ keys then (repo.get? key).or (built.get? key) else built.get? key := by
  induction keys generalizing built with
  | nil => rfl
  | cons name keys ih =>
      rw [List.foldl_cons, ih, get?_setPresent]
      by_cases same : key = name
      · cases found : repo.get? key with
        | none => simp [same]
        | some value => simp [same]
      · simp [same]

/-- A default key that is copied keeps the entry's value, and another keeps the default. -/
theorem get?_combined (kind : Kind) (defaultConfig repo : Entry Value) (key : String) :
    (defaultConfig.combine ((copiedKeys kind).foldl (setPresent repo) Dict.empty)).get? key =
      if key ∈ copiedKeys kind then (repo.get? key).or (defaultConfig.get? key)
      else defaultConfig.get? key := by
  rw [Dict.get?_combine, get?_foldl_setPresent, Dict.get?_empty, Option.or_none]
  split
  · rfl
  · rfl

theorem or_eq_iff (own given : Option Value) :
    given = own.or given ↔ ∀ value, own = some value → given = some value := by
  cases own with
  | none => simp
  | some value => simp

theorem overrides_kind_iff (omits : Undefined → Bool) (kind : Kind) (defaultConfig : Entry Value)
    (repos : List (Entry Value)) :
    Overrides (repositoryRepos omits kind defaultConfig) defaultConfig repos ↔
      Covered kind defaultConfig repos := by
  unfold Overrides repositoryRepos Covered
  rw [mapOmitting_related_iff]
  refine forall₂_congr fun repo _ => ?_
  constructor
  · rintro ⟨output, rendered, own⟩
    obtain ⟨built, rebuilt, same⟩ := except_bind_ok.mp rendered
    cases same
    obtain ⟨complete, rfl⟩ := (rebuild_ok_iff kind repo built).mp rebuilt
    refine ⟨complete, ?_⟩
    intro key isDefault leftOut
    have shown := own key isDefault
    rw [get?_combined, if_neg leftOut] at shown
    exact (or_eq_iff _ _).mp shown
  · rintro ⟨complete, defaults⟩
    have rebuilt := (rebuild_ok_iff kind repo _).mpr ⟨complete, rfl⟩
    refine ⟨_, except_bind_ok.mpr ⟨_, rebuilt, rfl⟩, ?_⟩
    intro key isDefault
    rw [get?_combined]
    split
    · rfl
    · rename_i leftOut
      exact (or_eq_iff _ _).mpr (defaults key isDefault leftOut)

/-- The repository lists combine their entries with the defaults as promised exactly when
no entry overrides a default whose key is not copied. -/
theorem overrides_iff (omits : Undefined → Bool) (defaultConfig : Entry Value)
    (repos : List (Entry Value)) :
    (Overrides (repositoryRpmRepos omits defaultConfig) defaultConfig repos ↔
      Covered .rpm defaultConfig repos) ∧
    (Overrides (repositoryDebRepos omits defaultConfig) defaultConfig repos ↔
      Covered .deb defaultConfig repos) :=
  ⟨overrides_kind_iff omits .rpm defaultConfig repos, overrides_kind_iff omits .deb defaultConfig repos⟩

def rpmReposDefaultConfig (username password proxyUrl : PyValue Empty) : Entry (PyValue Empty) :=
  ⟨[("remote_username", username), ("remote_password", password), ("client_cert", .str ""),
    ("client_key", .str ""), ("policy", .str "on_demand"), ("proxy_url", proxyUrl),
    ("sync_policy", .str "mirror_complete"), ("state", .str "present")], by simp⟩

def absentRepository : Entry (PyValue Empty) :=
  ⟨[("name", .str "Rocky Linux 10 - AppStream"), ("url", .str "rocky/10/AppStream"),
    ("required", .bool true), ("state", .str "absent")], by simp⟩

theorem state_not_overridden :
    ¬Overrides (repositoryRpmRepos (fun _ => true) (rpmReposDefaultConfig .none .none .none))
      (rpmReposDefaultConfig .none .none .none) [absentRepository] := by
  rintro ⟨outputs, rendered, own⟩
  cases own with
  | cons first _ =>
      cases rendered
      have shown := first "state" (by decide)
      exact absurd (PyValue.str.inj (Option.some.inj shown)) (by decide)

end Pulp
