import KayobeConfig.CloudFacts.HostVars
import KayobeConfig.Library.Transfers
import KayobeConfig.Pulp.Repositories

/-!
The playbooks under `ansible/pulp` that sync, publish and promote package repositories,
with the distributions that `pulp.yml` renders for them. The roles of the Pulp collection
stay abstract: what the playbooks rely on is said of any roles.
-/

namespace Pulp

open Library

inductive Environment
  | development
  | production
  deriving DecidableEq

def Environment.suffix : Environment → String
  | .development => "development"
  | .production => "production"

deriving instance DecidableEq for Kind

section Rendering

variable {R : PyRuntime} (isZero : R.Float → Bool)

abbrev Repo (R : PyRuntime) := Entry (PyValue R.Float)

def valueOf (repo : Repo R) (key : String) : Except Undefined (PyValue R.Float) :=
  match repo.get? key with
  | none => .error (.attribute key)
  | some value => .ok value

def textOf (repo : Repo R) (key : String) : Except Undefined String := do
  return R.str (← valueOf repo key)

def reposDefaultConfig (username password proxyUrl : PyValue R.Float) : Kind → Repo R
  | .deb =>
      ⟨[("remote_username", username), ("remote_password", password), ("client_cert", .str ""),
        ("client_key", .str ""), ("policy", .str "on_demand"), ("proxy_url", proxyUrl),
        ("architectures", .str "amd64"), ("mirror", .bool true), ("state", .str "present")], by simp⟩
  | .rpm =>
      ⟨[("remote_username", username), ("remote_password", password), ("client_cert", .str ""),
        ("client_key", .str ""), ("policy", .str "on_demand"), ("proxy_url", proxyUrl),
        ("sync_policy", .str "mirror_complete"), ("state", .str "present")], by simp⟩

def distsDefaultConfig : Kind → Repo R
  | .deb => ⟨[("state", .str "present"), ("mode", .str "verbatim")], by simp⟩
  | .rpm => ⟨[("state", .str "present")], by simp⟩

def distributionOptionalKeys : Kind → List String
  | .deb => ["mode"]
  | .rpm => []

/-- Development takes a repository's publication, and production what development has. -/
def distributionSource (repo : Repo R) : Environment → Except Undefined (String × PyValue R.Float)
  | .development => do return ("repository", ← valueOf repo "name")
  | .production => do
      return ("distribution", .str ((← textOf repo "distribution_name") ++ "development"))

def renderDistribution (kind : Kind) (environment : Environment) (repo : Repo R) :
    Except Undefined (Repo R) := do
  let name ← textOf repo "distribution_name"
  let basePath ← textOf repo "base_path"
  let (key, source) ← distributionSource repo environment
  let required ← valueOf repo "required"
  let dist := (((Dict.empty.set "name" (.str (name ++ environment.suffix))).set key source).set
    "base_path" (.str (basePath ++ environment.suffix))).set "required" required
  return (distsDefaultConfig kind).combine
    ((distributionOptionalKeys kind).foldl (setPresent repo) dist)

def distributions (omits : Undefined → Bool) (kind : Kind) (environment : Environment)
    (repos : List (Repo R)) : Except Undefined (List (Repo R)) :=
  mapOmitting omits (renderDistribution kind environment) repos

def selectRequired (entries : List (Repo R)) : List (Repo R) :=
  entries.filter fun entry => (entry.get? "required").any (CloudFacts.truthy isZero)

end Rendering

/-- What a distribution is told to serve. -/
inductive Origin
  | repository (name : String)
  | distribution (name : String)

inductive Change
  | repository (url name : String) (mirrors : Bool)
  | publication (repository : String)
  | distribution (origin : Origin) (name : String)

structure Call where
  state : String
  kind : Kind
  change : Change

/-- Where content is: at a URL of the release train, or on the local Pulp server. -/
inductive Cell
  | upstream (url : String)
  | repository (kind : Kind) (name : String)
  | publication (kind : Kind) (repository : String)
  | distribution (kind : Kind) (name : String)
  deriving DecidableEq

def Origin.cell (kind : Kind) : Origin → Cell
  | .repository name => .publication kind name
  | .distribution name => .distribution kind name

def Call.source (call : Call) : Cell :=
  match call.change with
  | .repository url _ _ => .upstream url
  | .publication repository => .repository call.kind repository
  | .distribution origin _ => origin.cell call.kind

def Call.target (call : Call) : Cell :=
  match call.change with
  | .repository _ name _ => .repository call.kind name
  | .publication repository => .publication call.kind repository
  | .distribution _ name => .distribution call.kind name

/-- A sync that does not mirror adds to what the repository has. -/
def Call.exact (call : Call) : Bool :=
  match call.change with
  | .repository _ _ mirrors => mirrors
  | _ => true

section Calls

variable {R : PyRuntime} (isZero : R.Float → Bool)

def mirrors (kind : Kind) (entry : Repo R) : Bool :=
  match kind with
  | .deb => (entry.get? "mirror").any (CloudFacts.truthy isZero)
  | .rpm => (entry.get? "sync_policy").any fun value =>
      R.str value ∈ ["mirror_complete", "mirror_content_only"]

def pulpRepository (kind : Kind) (entry : Repo R) : Except Undefined Call := do
  return ⟨← textOf entry "state", kind,
    .repository (← textOf entry "url") (← textOf entry "name") (mirrors isZero kind entry)⟩

def pulpPublication (kind : Kind) (entry : Repo R) : Except Undefined Call := do
  return ⟨← textOf entry "state", kind, .publication (← textOf entry "repository")⟩

def distributionOrigin (entry : Repo R) : Except Undefined Origin :=
  match entry.get? "repository" with
  | some repository => .ok (.repository (R.str repository))
  | none => do return .distribution (← textOf entry "distribution")

def pulpDistribution (kind : Kind) (entry : Repo R) : Except Undefined Call := do
  return ⟨← textOf entry "state", kind,
    .distribution (← distributionOrigin entry) (← textOf entry "name")⟩

theorem valueOf_ok_iff {entry : Repo R} {key : String} {value : PyValue R.Float} :
    valueOf entry key = .ok value ↔ entry.get? key = some value := by
  unfold valueOf
  cases found : entry.get? key with
  | none => simp
  | some present => simp

theorem textOf_ok_iff {entry : Repo R} {key text : String} :
    textOf entry key = .ok text ↔ (entry.get? key).map R.str = some text := by
  unfold textOf
  rw [except_bind_ok]
  simp only [valueOf_ok_iff, Option.map_eq_some_iff]
  constructor
  · rintro ⟨value, found, same⟩
    exact ⟨value, found, Except.ok.inj same⟩
  · rintro ⟨value, found, rfl⟩
    exact ⟨value, found, rfl⟩

theorem textOf_of_text {entry : Repo R} {key text : String}
    (found : entry.get? key = some (.str text)) : textOf entry key = .ok text := by
  rw [textOf_ok_iff, found, Option.map_some, R.str_text]

theorem distributionSource_key {repo : Repo R} {environment : Environment} {key : String}
    {source : PyValue R.Float} (sourced : distributionSource repo environment = .ok (key, source)) :
    key = "repository" ∨ key = "distribution" := by
  cases environment with
  | development =>
      obtain ⟨_, _, same⟩ := except_bind_ok.mp sourced
      cases same
      exact Or.inl rfl
  | production =>
      obtain ⟨_, _, same⟩ := except_bind_ok.mp sourced
      cases same
      exact Or.inr rfl

theorem get?_distsDefaultConfig (kind : Kind) {key : String} (notMode : key ≠ "mode") :
    (distsDefaultConfig kind : Repo R).get? key =
      if key = "state" then some (.str "present") else none := by
  by_cases state : key = "state"
  · subst state
    cases kind <;> rfl
  · have noState : (key == "state") = false := by simpa using state
    have noMode : (key == "mode") = false := by simpa using notMode
    cases kind <;> simp [distsDefaultConfig, Dict.get?, List.lookup_cons, noState, noMode, state]

theorem get?_withDefaults (kind : Kind) (repo dist : Repo R) {key : String} (notMode : key ≠ "mode") :
    ((distsDefaultConfig kind).combine
      ((distributionOptionalKeys kind).foldl (setPresent repo) dist)).get? key =
      (dist.get? key).or (if key = "state" then some (.str "present") else none) := by
  have uncopied : key ∉ distributionOptionalKeys kind := by
    cases kind <;> simp [distributionOptionalKeys, notMode]
  rw [Dict.get?_combine, get?_foldl_setPresent, if_neg uncopied, get?_distsDefaultConfig kind notMode]

theorem renderDistribution_ok {kind : Kind} {environment : Environment} {repo entry : Repo R}
    (rendered : renderDistribution kind environment repo = .ok entry) :
    ∃ name key source, textOf repo "distribution_name" = .ok name ∧
      distributionSource repo environment = .ok (key, source) ∧
      entry.get? "name" = some (.str (name ++ environment.suffix)) ∧
      entry.get? "required" = repo.get? "required" ∧
      entry.get? "state" = some (.str "present") ∧
      ∀ other ∈ ["repository", "distribution"],
        entry.get? other = if other = key then some source else none := by
  unfold renderDistribution at rendered
  obtain ⟨name, named, rendered⟩ := except_bind_ok.mp rendered
  obtain ⟨basePath, placed, rendered⟩ := except_bind_ok.mp rendered
  obtain ⟨⟨key, source⟩, sourced, rendered⟩ := except_bind_ok.mp rendered
  obtain ⟨required, needed, rendered⟩ := except_bind_ok.mp rendered
  cases rendered
  refine ⟨name, key, source, named, sourced, ?_⟩
  rw [valueOf_ok_iff] at needed
  rcases distributionSource_key sourced with rfl | rfl
  · refine ⟨?_, ?_, ?_, ?_⟩
    · simp [get?_withDefaults]
    · simp [get?_withDefaults, needed]
    · simp [get?_withDefaults]
    · simp [get?_withDefaults]
  · refine ⟨?_, ?_, ?_, ?_⟩
    · simp [get?_withDefaults]
    · simp [get?_withDefaults, needed]
    · simp [get?_withDefaults]
    · simp [get?_withDefaults]

theorem development_calls {kind : Kind} {repo entry : Repo R}
    (rendered : renderDistribution kind .development repo = .ok entry) :
    ∃ name repository, textOf repo "distribution_name" = .ok name ∧
      textOf repo "name" = .ok repository ∧ entry.get? "required" = repo.get? "required" ∧
      pulpPublication kind entry = .ok ⟨"present", kind, .publication repository⟩ ∧
      pulpDistribution kind entry =
        .ok ⟨"present", kind, .distribution (.repository repository) (name ++ "development")⟩ := by
  obtain ⟨name, key, source, named, sourced, hasName, hasRequired, hasState, sources⟩ :=
    renderDistribution_ok rendered
  obtain ⟨value, present, same⟩ := except_bind_ok.mp sourced
  cases same
  have repositories := sources "repository" (by simp)
  rw [if_pos rfl] at repositories
  refine ⟨name, R.str source, named, ?_, hasRequired, ?_, ?_⟩
  · rw [textOf_ok_iff, valueOf_ok_iff.mp present, Option.map_some]
  · unfold pulpPublication
    rw [textOf_of_text hasState, textOf_ok_iff.mpr (by rw [repositories, Option.map_some])]
    rfl
  · unfold pulpDistribution distributionOrigin
    rw [textOf_of_text hasState, textOf_of_text hasName, repositories]
    rfl

theorem production_call {kind : Kind} {repo entry : Repo R}
    (rendered : renderDistribution kind .production repo = .ok entry) :
    ∃ name, textOf repo "distribution_name" = .ok name ∧
      entry.get? "required" = repo.get? "required" ∧
      pulpDistribution kind entry = .ok ⟨"present", kind,
        .distribution (.distribution (name ++ "development")) (name ++ "production")⟩ := by
  obtain ⟨name, key, source, named, sourced, hasName, hasRequired, hasState, sources⟩ :=
    renderDistribution_ok rendered
  obtain ⟨other, again, same⟩ := except_bind_ok.mp sourced
  cases same
  cases named.symm.trans again
  have repositories := sources "repository" (by simp)
  have distributions := sources "distribution" (by simp)
  rw [if_neg (by decide)] at repositories
  rw [if_pos rfl] at distributions
  refine ⟨name, named, hasRequired, ?_⟩
  unfold pulpDistribution distributionOrigin
  rw [textOf_of_text hasState, textOf_of_text hasName, repositories, textOf_of_text distributions]
  rfl

theorem reposDefaultConfig_required (username password proxyUrl : PyValue R.Float) (kind : Kind)
    {key : String} (needed : key ∈ requiredKeys) :
    (reposDefaultConfig username password proxyUrl kind).get? key = none := by
  simp only [requiredKeys, List.mem_cons, List.not_mem_nil, or_false] at needed
  rcases needed with rfl | rfl | rfl <;> cases kind <;> rfl

theorem repository_call {kind : Kind} {username password proxyUrl : PyValue R.Float}
    {repo built : Repo R} (rebuilt : rebuild kind repo = .ok built) :
    ∃ url name, textOf repo "url" = .ok url ∧ textOf repo "name" = .ok name ∧
      ((reposDefaultConfig username password proxyUrl kind).combine built).get? "required" =
        repo.get? "required" ∧
      pulpRepository isZero kind ((reposDefaultConfig username password proxyUrl kind).combine built) =
        .ok ⟨"present", kind, .repository url name (mirrors isZero kind
          ((reposDefaultConfig username password proxyUrl kind).combine built))⟩ := by
  obtain ⟨complete, rfl⟩ := (rebuild_ok_iff kind repo built).mp rebuilt
  have own : ∀ key ∈ requiredKeys, ((reposDefaultConfig username password proxyUrl kind).combine
      ((copiedKeys kind).foldl (setPresent repo) Dict.empty)).get? key = repo.get? key := by
    intro key needed
    have copied : key ∈ copiedKeys kind := List.mem_append_left (optionalKeys kind) needed
    rw [get?_combined, if_pos copied,
      reposDefaultConfig_required username password proxyUrl kind needed, Option.or_none]
  have hasState : ((reposDefaultConfig username password proxyUrl kind).combine
      ((copiedKeys kind).foldl (setPresent repo) Dict.empty)).get? "state" = some (.str "present") := by
    rw [get?_combined]
    cases kind <;> rfl
  obtain ⟨url, hasUrl⟩ := Dict.exists_of_mem_keys (complete "url" (by simp [requiredKeys]))
  obtain ⟨name, hasName⟩ := Dict.exists_of_mem_keys (complete "name" (by simp [requiredKeys]))
  refine ⟨R.str url, R.str name, textOf_ok_iff.mpr (by rw [hasUrl, Option.map_some]),
    textOf_ok_iff.mpr (by rw [hasName, Option.map_some]), own "required" (by simp [requiredKeys]), ?_⟩
  unfold pulpRepository
  rw [textOf_of_text hasState,
    textOf_ok_iff.mpr (by rw [own "url" (by simp [requiredKeys]), hasUrl, Option.map_some]),
    textOf_ok_iff.mpr (by rw [own "name" (by simp [requiredKeys]), hasName, Option.map_some])]
  rfl

end Calls

section Playbooks

structure Config (R : PyRuntime) where
  omits : Undefined → Bool
  repos : Kind → List (Repo R)
  username : PyValue R.Float
  password : PyValue R.Float
  proxyUrl : PyValue R.Float

variable {R : PyRuntime} (isZero : R.Float → Bool)

def items (call : Kind → Repo R → Except Undefined Call)
    (render : Kind → Except Undefined (List (Repo R))) : Except Undefined (List Call) := do
  let deb ← render .deb
  let rpm ← render .rpm
  let debCalls ← (selectRequired isZero deb).mapM (call .deb)
  let rpmCalls ← (selectRequired isZero rpm).mapM (call .rpm)
  return debCalls ++ rpmCalls

def repositoryEntries (config : Config R) (kind : Kind) : Except Undefined (List (Repo R)) :=
  repositoryRepos config.omits kind
    (reposDefaultConfig config.username config.password config.proxyUrl kind) (config.repos kind)

def distributionEntries (environment : Environment) (config : Config R) (kind : Kind) :
    Except Undefined (List (Repo R)) :=
  distributions config.omits kind environment (config.repos kind)

def pulpRepoSync (config : Config R) : Except Undefined (List Call) :=
  items isZero (pulpRepository isZero) (repositoryEntries config)

def ensurePublications (config : Config R) : Except Undefined (List Call) :=
  items isZero pulpPublication (distributionEntries .development config)

def ensureDistributions (environment : Environment) (config : Config R) :
    Except Undefined (List Call) :=
  items isZero pulpDistribution (distributionEntries environment config)

def pulpRepoPublish (config : Config R) : Except Undefined (List Call) := do
  return (← ensurePublications isZero config) ++ (← ensureDistributions isZero .development config)

def pulpRepoPromoteProduction (config : Config R) : Except Undefined (List Call) :=
  ensureDistributions isZero .production config

def importPromotion (promote : Bool) (config : Config R) : Except Undefined (List Call) :=
  if promote then pulpRepoPromoteProduction isZero config else .ok []

/-- The package plays of `pulp-sync-publish-promote.yml`. -/
def pulpSyncPublishPromote (promote : Bool) (config : Config R) : Except Undefined (List Call) := do
  let sync ← pulpRepoSync isZero config
  let publish ← pulpRepoPublish isZero config
  let promotion ← importPromotion isZero promote config
  return sync ++ publish ++ promotion

end Playbooks

end Pulp
