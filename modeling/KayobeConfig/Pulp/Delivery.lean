import KayobeConfig.Pulp.Release

/-!
A whole run of `pulp-sync-publish-promote.yml` in which every call succeeds. Its four
stages read only what an earlier stage wrote, so each required repository's content goes
from the release train to both of its distributions.
-/

namespace Pulp

open Library

section Stages

variable {R : PyRuntime} {isZero : R.Float → Bool} {config : Config R} {calls : List Call}

def requiredRepos (isZero : R.Float → Bool) (config : Config R) (kind : Kind) : List (Repo R) :=
  selectRequired isZero (config.repos kind)

theorem mem_selectRequired_of_same {repos entries : List (Repo R)} {repo entry : Repo R}
    (member : entry ∈ entries) (same : entry.get? "required" = repo.get? "required")
    (selected : repo ∈ selectRequired isZero repos) : entry ∈ selectRequired isZero entries := by
  unfold selectRequired at selected ⊢
  rw [List.mem_filter] at selected ⊢
  exact ⟨member, by rw [same]; exact selected.2⟩

theorem items_render {call : Kind → Repo R → Except Undefined Call}
    {render : Kind → Except Undefined (List (Repo R))}
    (rendered : items isZero call render = .ok calls) (kind : Kind) :
    ∃ entries made, render kind = .ok entries ∧
      (selectRequired isZero entries).mapM (call kind) = .ok made := by
  obtain ⟨deb, debRendered, rendered⟩ := except_bind_ok.mp rendered
  obtain ⟨rpm, rpmRendered, rendered⟩ := except_bind_ok.mp rendered
  obtain ⟨debCalls, debMade, rendered⟩ := except_bind_ok.mp rendered
  obtain ⟨rpmCalls, rpmMade, _⟩ := except_bind_ok.mp rendered
  cases kind with
  | deb => exact ⟨deb, debCalls, debRendered, debMade⟩
  | rpm => exact ⟨rpm, rpmCalls, rpmRendered, rpmMade⟩

variable {call : Kind → Repo R → Except Undefined Call}
  {render : Kind → Repo R → Except Undefined (Repo R)}
  (keeps : ∀ kind repo entry, render kind repo = .ok entry →
    entry.get? "required" = repo.get? "required")
  (rendered : items isZero call
    (fun kind => mapOmitting config.omits (render kind) (config.repos kind)) = .ok calls)

include keeps rendered

theorem exists_required_of_call {made : Call} (member : made ∈ calls) :
    ∃ kind, ∃ repo ∈ requiredRepos isZero config kind, ∃ entry,
      render kind repo = .ok entry ∧ call kind entry = .ok made := by
  obtain ⟨kind, entries, entry, found, selected, called⟩ := (mem_items rendered).mp member
  obtain ⟨repo, among, built⟩ := (mem_mapOmitting found).mp (mem_of_mem_selectRequired selected)
  exact ⟨kind, repo, mem_selectRequired_of_same among (keeps kind repo entry built).symm selected,
    entry, built, called⟩

theorem exists_call_of_required {kind : Kind} {repo entry : Repo R}
    (required : repo ∈ requiredRepos isZero config kind) (built : render kind repo = .ok entry) :
    ∃ made ∈ calls, call kind entry = .ok made := by
  obtain ⟨entries, made, found, called⟩ := items_render rendered kind
  have listed : entry ∈ entries :=
    (mem_mapOmitting found).mpr ⟨repo, mem_of_mem_selectRequired required, built⟩
  have selected : entry ∈ selectRequired isZero entries :=
    mem_selectRequired_of_same listed (keeps kind repo entry built) required
  obtain ⟨output, _, succeeded⟩ := forall₂_exists ((mapM_ok_iff _ _ _).mp called) selected
  have among : output ∈ calls :=
    (mem_items rendered).mpr ⟨kind, entries, entry, found, selected, succeeded⟩
  exact ⟨output, among, succeeded⟩

end Stages

section Calls

variable {R : PyRuntime} {isZero : R.Float → Bool} {config : Config R} {calls : List Call}

/-- The calls are the ones that required repositories ask for, and each asks for one. -/
structure AskedBy (isZero : R.Float → Bool) (config : Config R)
    (asks : Kind → Repo R → Call → Prop) (calls : List Call) : Prop where
  only : ∀ call ∈ calls, ∃ kind, ∃ repo ∈ requiredRepos isZero config kind, asks kind repo call
  every : ∀ kind, ∀ repo ∈ requiredRepos isZero config kind, ∃ call ∈ calls, asks kind repo call

def Syncs (kind : Kind) (repo : Repo R) (call : Call) : Prop :=
  ∃ url name mirrors, textOf repo "url" = .ok url ∧ textOf repo "name" = .ok name ∧
    call = ⟨"present", kind, .repository url name mirrors⟩

def Publishes (kind : Kind) (repo : Repo R) (call : Call) : Prop :=
  ∃ repository, textOf repo "name" = .ok repository ∧
    call = ⟨"present", kind, .publication repository⟩

def Distributes (environment : Environment) (kind : Kind) (repo : Repo R) (call : Call) : Prop :=
  ∃ name, textOf repo "distribution_name" = .ok name ∧ match environment with
    | .development => ∃ repository, textOf repo "name" = .ok repository ∧
        call = ⟨"present", kind, .distribution (.repository repository) (name ++ "development")⟩
    | .production =>
        call = ⟨"present", kind,
          .distribution (.distribution (name ++ "development")) (name ++ "production")⟩

def templateKeys : List String := ["name", "url", "required", "distribution_name", "base_path"]

/-- Every required entry has the keys without which a template fails or leaves it out. -/
def Filled (isZero : R.Float → Bool) (config : Config R) : Prop :=
  ∀ kind, ∀ repo ∈ requiredRepos isZero config kind, ∀ key ∈ templateKeys, key ∈ repo.keys

section Filled

variable {repo : Repo R} (filled : ∀ key ∈ templateKeys, key ∈ repo.keys)

include filled

theorem rebuild_of_filled (kind : Kind) : Succeeds (rebuild kind repo) := by
  refine ⟨_, (rebuild_ok_iff kind repo _).mpr ⟨fun key needed => filled key ?_, rfl⟩⟩
  simp only [requiredKeys, List.mem_cons, List.not_mem_nil, or_false] at needed
  rcases needed with rfl | rfl | rfl <;> decide

theorem valueOf_of_filled {key : String} (needed : key ∈ templateKeys) :
    Succeeds (valueOf repo key) := by
  obtain ⟨value, present⟩ := Dict.exists_of_mem_keys (filled key needed)
  exact ⟨value, valueOf_ok_iff.mpr present⟩

theorem textOf_of_filled {key : String} (needed : key ∈ templateKeys) : Succeeds (textOf repo key) :=
  succeeds_bind_pure.mpr (valueOf_of_filled filled needed)

theorem renderDistribution_of_filled (kind : Kind) (environment : Environment) :
    Succeeds (renderDistribution kind environment repo) := by
  have sourced : Succeeds (distributionSource repo environment) := by
    cases environment with
    | development => exact succeeds_bind_pure.mpr (valueOf_of_filled filled (by decide))
    | production => exact succeeds_bind_pure.mpr (textOf_of_filled filled (by decide))
  obtain ⟨name, named⟩ : Succeeds (textOf repo "distribution_name") :=
    textOf_of_filled filled (by decide)
  obtain ⟨basePath, placed⟩ : Succeeds (textOf repo "base_path") := textOf_of_filled filled (by decide)
  obtain ⟨source, found⟩ := sourced
  unfold renderDistribution
  rw [named, ok_bind, placed, ok_bind, found, ok_bind]
  exact succeeds_bind_pure.mpr (valueOf_of_filled filled (by decide))

end Filled

theorem askedBy_of_items {call : Kind → Repo R → Except Undefined Call}
    {render : Kind → Repo R → Except Undefined (Repo R)} {asks : Kind → Repo R → Call → Prop}
    (spec : ∀ kind repo entry, render kind repo = .ok entry →
      entry.get? "required" = repo.get? "required" ∧
        ∃ made, call kind entry = .ok made ∧ asks kind repo made)
    (total : ∀ kind, ∀ repo ∈ requiredRepos isZero config kind, Succeeds (render kind repo))
    (rendered : items isZero call
      (fun kind => mapOmitting config.omits (render kind) (config.repos kind)) = .ok calls) :
    AskedBy isZero config asks calls := by
  have keeps := fun kind repo entry built => (spec kind repo entry built).1
  constructor
  · intro made member
    obtain ⟨kind, repo, required, entry, built, called⟩ := exists_required_of_call keeps rendered member
    obtain ⟨_, other, asked, holds⟩ := spec kind repo entry built
    cases asked.symm.trans called
    exact ⟨kind, repo, required, holds⟩
  · intro kind repo required
    obtain ⟨entry, built⟩ := total kind repo required
    obtain ⟨made, member, called⟩ := exists_call_of_required keeps rendered required built
    obtain ⟨_, other, asked, holds⟩ := spec kind repo entry built
    cases asked.symm.trans called
    exact ⟨made, member, holds⟩

section Asked

variable (filled : Filled isZero config)

include filled

theorem pulpRepoSync_asked (rendered : pulpRepoSync isZero config = .ok calls) :
    AskedBy isZero config Syncs calls := by
  refine askedBy_of_items (fun kind repo entry built => ?_) (fun kind repo required =>
    succeeds_bind_pure.mpr (rebuild_of_filled (filled kind repo required) kind)) rendered
  obtain ⟨rebuilt, found, same⟩ := except_bind_ok.mp built
  cases same
  obtain ⟨url, name, hasUrl, hasName, required, made⟩ := repository_call isZero found
  exact ⟨required, _, made, url, name, _, hasUrl, hasName, rfl⟩

theorem ensurePublications_asked (rendered : ensurePublications isZero config = .ok calls) :
    AskedBy isZero config Publishes calls := by
  refine askedBy_of_items (fun kind repo entry built => ?_) (fun kind repo required =>
    renderDistribution_of_filled (filled kind repo required) kind .development) rendered
  obtain ⟨_, repository, _, hasName, required, made, _⟩ := development_calls built
  exact ⟨required, _, made, repository, hasName, rfl⟩

theorem ensureDistributions_asked (environment : Environment)
    (rendered : ensureDistributions isZero environment config = .ok calls) :
    AskedBy isZero config (Distributes environment) calls := by
  refine askedBy_of_items (fun kind repo entry built => ?_) (fun kind repo required =>
    renderDistribution_of_filled (filled kind repo required) kind environment) rendered
  cases environment with
  | development =>
      obtain ⟨name, repository, named, hasName, required, _, made⟩ := development_calls built
      exact ⟨required, _, made, name, named, repository, hasName, rfl⟩
  | production =>
      obtain ⟨name, named, required, made⟩ := production_call built
      exact ⟨required, _, made, name, named, rfl⟩

end Asked

end Calls

inductive Stage
  | sync
  | publish
  | distribute

def Change.stage : Change → Stage
  | .repository _ _ _ => .sync
  | .publication _ => .publish
  | .distribution _ _ => .distribute

theorem change_of_touches_distribution {call : Call} {kind : Kind} {served : String}
    (touches : call.touches (.distribution kind served)) :
    call.kind = kind ∧ ∃ origin, call.change = .distribution origin served := by
  obtain ⟨_, _, change⟩ := call
  rcases touches with target | ⟨_, _, _, _, other⟩
  · cases change with
    | repository => cases target
    | publication => cases target
    | distribution origin =>
        cases target
        exact ⟨rfl, origin, rfl⟩
  · cases other

theorem target_of_touches {call other : Call} (same : call.change.stage = other.change.stage)
    (touches : call.touches other.target) : other.target = call.target := by
  rcases touches with target | ⟨url, name, mirrors, syncs, published⟩
  · exact target
  · obtain ⟨_, _, change⟩ := other
    rw [syncs] at same
    cases change with
    | repository => cases published
    | publication => cases same
    | distribution => cases published

theorem target_of_touches_source {call other : Call} (same : call.change.stage = other.change.stage)
    (touches : call.touches other.source) : other.source = call.target := by
  rcases touches with target | ⟨url, name, mirrors, syncs, published⟩
  · exact target
  · obtain ⟨_, _, change⟩ := other
    rw [syncs] at same
    cases change with
    | repository => cases published
    | publication => cases published
    | distribution => cases same

section Stage

variable {σ Content : Type} {roles : Roles σ Content}

def Roles.performed (roles : Roles σ Content) (state : σ) (call : Call) : σ :=
  (roles.perform state call).1

def Roles.succeeds (roles : Roles σ Content) (state : σ) (call : Call) : Prop :=
  (roles.perform state call).2 = true

variable {calls : List Call} (documented : roles.Documented)

include documented

theorem untouched_runFrom {cell : Cell} (untouched : ∀ call ∈ calls, ¬call.touches cell) (start : σ) :
    roles.holds (runFrom roles.performed start calls) cell = roles.holds start cell :=
  holds_runFrom
    (fun call member state => documented.elsewhere state call cell (untouched call member)) start

/-- After a stage none of whose calls writes what another reads, a target holds what its
last call read. -/
theorem stage_holds {stage : Stage} (staged : ∀ call ∈ calls, call.change.stage = stage)
    (present : ∀ call ∈ calls, call.state = "present" ∧ call.exact = true)
    (apart : ∀ call ∈ calls, ∀ other ∈ calls, other.source ≠ call.target)
    {start : σ} (complete : Along roles.performed roles.succeeds start calls)
    {call : Call} (member : call ∈ calls) :
    ∃ last ∈ calls, last.target = call.target ∧
      roles.holds (runFrom roles.performed start calls) call.target = roles.holds start last.source := by
  have written : ∃ last, lastWriter Call.target calls call.target = some last :=
    exists_lastWriter member
  obtain ⟨last, found⟩ := written
  obtain ⟨among, same⟩ := lastWriter_some found
  refine ⟨last, among, same, holds_lastWriter ?_ ?_ ?_ complete found⟩
  · intro first inFirst second inSecond state
    refine documented.elsewhere state first _ fun touches => apart first inFirst second inSecond ?_
    exact target_of_touches_source ((staged first inFirst).trans (staged second inSecond).symm) touches
  · intro first inFirst second inSecond different state
    refine documented.elsewhere state first _ fun touches => different ?_
    exact target_of_touches ((staged first inFirst).trans (staged second inSecond).symm) touches
  · intro first inFirst state succeeded
    exact documented.moved state first (present first inFirst).1 (present first inFirst).2 succeeded

end Stage

/-- Required entries of one distribution have one repository, and of one repository one URL. -/
structure Coherent {R : PyRuntime} (isZero : R.Float → Bool) (config : Config R) : Prop where
  named : ∀ kind, ∀ repo ∈ requiredRepos isZero config kind,
    ∀ other ∈ requiredRepos isZero config kind,
    textOf repo "distribution_name" = textOf other "distribution_name" →
      textOf repo "name" = textOf other "name"
  located : ∀ kind, ∀ repo ∈ requiredRepos isZero config kind,
    ∀ other ∈ requiredRepos isZero config kind,
    textOf repo "name" = textOf other "name" → textOf repo "url" = textOf other "url"

section Delivery

variable {σ Content : Type} {roles : Roles σ Content} {R : PyRuntime} {isZero : R.Float → Bool}
  {config : Config R} {calls : List Call} {kind : Kind} {repo : Repo R} {start : σ}
  (documented : roles.Documented)
  (complete : Along roles.performed roles.succeeds start calls)
  (required : repo ∈ requiredRepos isZero config kind)

include documented complete required

theorem sync_stage (coherent : Coherent isZero config) (asked : AskedBy isZero config Syncs calls)
    (mirrored : ∀ call ∈ calls, call.exact = true) :
    ∃ url name, textOf repo "url" = .ok url ∧ textOf repo "name" = .ok name ∧
      roles.holds (runFrom roles.performed start calls) (.repository kind name) =
        roles.holds start (.upstream url) := by
  obtain ⟨call, member, url, name, mirrors, located, named, rfl⟩ := asked.every kind repo required
  refine ⟨url, name, located, named, ?_⟩
  have shape : ∀ call ∈ calls, ∃ kind url name mirrors,
      call = ⟨"present", kind, .repository url name mirrors⟩ := by
    intro call member
    obtain ⟨kind, _, _, url, name, mirrors, _, _, rfl⟩ := asked.only call member
    exact ⟨kind, url, name, mirrors, rfl⟩
  obtain ⟨last, among, same, held⟩ := stage_holds documented
    (fun call member => by obtain ⟨_, _, _, _, rfl⟩ := shape call member; rfl)
    (fun call member => ⟨by obtain ⟨_, _, _, _, rfl⟩ := shape call member; rfl, mirrored call member⟩)
    (fun call member other among => by
      obtain ⟨_, _, _, _, rfl⟩ := shape call member
      obtain ⟨_, _, _, _, rfl⟩ := shape other among
      exact Cell.noConfusion)
    complete member
  obtain ⟨otherKind, other, alsoRequired, otherUrl, otherName, _, otherLocated, otherNamed, rfl⟩ :=
    asked.only last among
  cases same
  have sameUrl := coherent.located kind repo required other alsoRequired (named.trans otherNamed.symm)
  cases located.symm.trans (sameUrl.trans otherLocated)
  exact held

theorem publish_stage (asked : AskedBy isZero config Publishes calls) {name : String}
    (named : textOf repo "name" = .ok name) :
    roles.holds (runFrom roles.performed start calls) (.publication kind name) =
      roles.holds start (.repository kind name) := by
  obtain ⟨call, member, other, otherNamed, rfl⟩ := asked.every kind repo required
  cases named.symm.trans otherNamed
  have shape : ∀ call ∈ calls, ∃ kind name, call = ⟨"present", kind, .publication name⟩ := by
    intro call member
    obtain ⟨kind, _, _, name, _, rfl⟩ := asked.only call member
    exact ⟨kind, name, rfl⟩
  obtain ⟨last, among, same, held⟩ := stage_holds documented
    (fun call member => by obtain ⟨_, _, rfl⟩ := shape call member; rfl)
    (fun call member => by obtain ⟨_, _, rfl⟩ := shape call member; exact ⟨rfl, rfl⟩)
    (fun call member other among => by
      obtain ⟨_, _, rfl⟩ := shape call member
      obtain ⟨_, _, rfl⟩ := shape other among
      exact Cell.noConfusion)
    complete member
  obtain ⟨_, _, rfl⟩ := shape last among
  cases same
  exact held

theorem develop_stage (coherent : Coherent isZero config)
    (asked : AskedBy isZero config (Distributes .development) calls) {name repository : String}
    (named : textOf repo "distribution_name" = .ok name)
    (repositoryNamed : textOf repo "name" = .ok repository) :
    roles.holds (runFrom roles.performed start calls) (.distribution kind (name ++ "development")) =
      roles.holds start (.publication kind repository) := by
  obtain ⟨call, member, other, otherNamed, _, _, rfl⟩ := asked.every kind repo required
  cases named.symm.trans otherNamed
  have shape : ∀ call ∈ calls, ∃ kind repository served,
      call = ⟨"present", kind, .distribution (.repository repository) served⟩ := by
    intro call member
    obtain ⟨kind, _, _, name, _, repository, _, rfl⟩ := asked.only call member
    exact ⟨kind, repository, name ++ "development", rfl⟩
  obtain ⟨last, among, same, held⟩ := stage_holds documented
    (fun call member => by obtain ⟨_, _, _, rfl⟩ := shape call member; rfl)
    (fun call member => by obtain ⟨_, _, _, rfl⟩ := shape call member; exact ⟨rfl, rfl⟩)
    (fun call member other among => by
      obtain ⟨_, _, _, rfl⟩ := shape call member
      obtain ⟨_, _, _, rfl⟩ := shape other among
      exact Cell.noConfusion)
    complete member
  obtain ⟨otherKind, other, alsoRequired, otherName, lastNamed, otherRepository,
    otherRepositoryNamed, rfl⟩ := asked.only last among
  obtain ⟨rfl, sameName⟩ := Cell.distribution.inj same
  cases append_right_cancel sameName
  have sameRepository :=
    coherent.named otherKind repo required other alsoRequired (named.trans lastNamed.symm)
  cases repositoryNamed.symm.trans (sameRepository.trans otherRepositoryNamed)
  exact held

theorem promote_stage (asked : AskedBy isZero config (Distributes .production) calls) {name : String}
    (named : textOf repo "distribution_name" = .ok name) :
    roles.holds (runFrom roles.performed start calls) (.distribution kind (name ++ "production")) =
      roles.holds start (.distribution kind (name ++ "development")) := by
  obtain ⟨call, member, other, otherNamed, rfl⟩ := asked.every kind repo required
  cases named.symm.trans otherNamed
  have shape : ∀ call ∈ calls, ∃ kind name, call = ⟨"present", kind,
      .distribution (.distribution (name ++ "development")) (name ++ "production")⟩ := by
    intro call member
    obtain ⟨kind, _, _, name, _, rfl⟩ := asked.only call member
    exact ⟨kind, name, rfl⟩
  obtain ⟨last, among, same, held⟩ := stage_holds documented
    (fun call member => by obtain ⟨_, _, rfl⟩ := shape call member; rfl)
    (fun call member => by obtain ⟨_, _, rfl⟩ := shape call member; exact ⟨rfl, rfl⟩)
    (fun call member other among overlap => by
      obtain ⟨_, _, rfl⟩ := shape call member
      obtain ⟨_, _, rfl⟩ := shape other among
      exact development_ne_production _ _ (Cell.distribution.inj overlap).2)
    complete member
  obtain ⟨_, _, rfl⟩ := shape last among
  obtain ⟨rfl, sameName⟩ := Cell.distribution.inj same
  cases append_right_cancel sameName
  exact held

end Delivery

section Release

variable {R : PyRuntime} {isZero : R.Float → Bool} {config : Config R} {calls : List Call}

theorem pulpSyncPublishPromote_stages {promote : Bool} (filled : Filled isZero config)
    (rendered : pulpSyncPublishPromote isZero promote config = .ok calls) :
    ∃ syncs publishes develops promotes, calls = syncs ++ publishes ++ develops ++ promotes ∧
      AskedBy isZero config Syncs syncs ∧ AskedBy isZero config Publishes publishes ∧
      AskedBy isZero config (Distributes .development) develops ∧
      if promote then AskedBy isZero config (Distributes .production) promotes else promotes = [] := by
  obtain ⟨syncs, synced, rendered⟩ := except_bind_ok.mp rendered
  obtain ⟨_, published, rendered⟩ := except_bind_ok.mp rendered
  obtain ⟨publishes, publications, published⟩ := except_bind_ok.mp published
  obtain ⟨develops, distributions, published⟩ := except_bind_ok.mp published
  cases published
  obtain ⟨promotes, promoted, rendered⟩ := except_bind_ok.mp rendered
  cases rendered
  refine ⟨syncs, publishes, develops, promotes, by simp, pulpRepoSync_asked filled synced,
    ensurePublications_asked filled publications,
    ensureDistributions_asked filled .development distributions, ?_⟩
  cases promote with
  | false =>
      cases promoted
      rfl
  | true => exact ensureDistributions_asked filled .production promoted

theorem AskedBy.develops_touches (asked : AskedBy isZero config (Distributes .development) calls)
    {call : Call} (member : call ∈ calls) {kind : Kind} {served : String}
    (touches : call.touches (.distribution kind served)) :
    ∃ repo ∈ requiredRepos isZero config kind, ∃ name,
      textOf repo "distribution_name" = .ok name ∧ served = name ++ "development" := by
  obtain ⟨_, repo, required, name, named, _, _, rfl⟩ := asked.only call member
  obtain ⟨rfl, _, changed⟩ := change_of_touches_distribution touches
  exact ⟨repo, required, name, named, (Change.distribution.inj changed).2.symm⟩

theorem AskedBy.promotes_touches (asked : AskedBy isZero config (Distributes .production) calls)
    {call : Call} (member : call ∈ calls) {kind : Kind} {served : String}
    (touches : call.touches (.distribution kind served)) :
    ∃ repo ∈ requiredRepos isZero config kind, ∃ name,
      textOf repo "distribution_name" = .ok name ∧ served = name ++ "production" := by
  obtain ⟨_, repo, required, name, named, rfl⟩ := asked.only call member
  obtain ⟨rfl, _, changed⟩ := change_of_touches_distribution touches
  exact ⟨repo, required, name, named, (Change.distribution.inj changed).2.symm⟩

/-- The distributions that a run touches are those of required repositories. -/
theorem touched_distribution {promote : Bool} (filled : Filled isZero config)
    (rendered : pulpSyncPublishPromote isZero promote config = .ok calls) {call : Call}
    (member : call ∈ calls) {kind : Kind} {served : String}
    (touches : call.touches (.distribution kind served)) :
    ∃ repo ∈ requiredRepos isZero config kind, ∃ name, textOf repo "distribution_name" = .ok name ∧
      (served = name ++ "development" ∨ promote = true ∧ served = name ++ "production") := by
  obtain ⟨syncs, publishes, develops, promotes, rfl, synced, published, developed, promoted⟩ :=
    pulpSyncPublishPromote_stages filled rendered
  obtain ⟨_, origin, changed⟩ := change_of_touches_distribution touches
  simp only [List.mem_append] at member
  rcases member with ((syncing | publishing) | developing) | promoting
  · obtain ⟨_, _, _, _, _, _, _, _, rfl⟩ := synced.only call syncing
    cases changed
  · obtain ⟨_, _, _, _, _, rfl⟩ := published.only call publishing
    cases changed
  · obtain ⟨repo, required, name, named, same⟩ := developed.develops_touches developing touches
    exact ⟨repo, required, name, named, Or.inl same⟩
  · cases promote with
    | false =>
        rw [if_neg Bool.false_ne_true] at promoted
        rw [promoted] at promoting
        cases promoting
    | true =>
        rw [if_pos rfl] at promoted
        obtain ⟨repo, required, name, named, same⟩ := promoted.promotes_touches promoting touches
        exact ⟨repo, required, name, named, Or.inr ⟨rfl, same⟩⟩

variable {σ Content : Type} {roles : Roles σ Content} {start : σ} (documented : roles.Documented)
  {promote : Bool} (filled : Filled isZero config)
  (rendered : pulpSyncPublishPromote isZero promote config = .ok calls)

include documented filled rendered

theorem distribution_kept {kind : Kind} {served : String}
    (other : ∀ repo ∈ requiredRepos isZero config kind, ∀ name,
      textOf repo "distribution_name" = .ok name →
        served ≠ name ++ "development" ∧ (promote = true → served ≠ name ++ "production")) :
    roles.holds (runFrom roles.performed start calls) (.distribution kind served) =
      roles.holds start (.distribution kind served) := by
  refine untouched_runFrom documented (fun call member touches => ?_) start
  obtain ⟨repo, required, name, named, same⟩ := touched_distribution filled rendered member touches
  rcases same with development | ⟨promotes, production⟩
  · exact (other repo required name named).1 development
  · exact (other repo required name named).2 promotes production

/-- A complete run serves every required repository's upstream content to development, and
to production if it promotes. -/
theorem release_delivered (coherent : Coherent isZero config)
    (mirrored : ∀ call ∈ calls, call.exact = true)
    (complete : Along roles.performed roles.succeeds start calls)
    {kind : Kind} {repo : Repo R} (required : repo ∈ requiredRepos isZero config kind) :
    ∃ url name, textOf repo "url" = .ok url ∧ textOf repo "distribution_name" = .ok name ∧
      roles.holds (runFrom roles.performed start calls) (.distribution kind (name ++ "development")) =
        roles.holds start (.upstream url) ∧
      roles.holds (runFrom roles.performed start calls) (.distribution kind (name ++ "production")) =
        roles.holds start
          (if promote then .upstream url else .distribution kind (name ++ "production")) := by
  have stages := pulpSyncPublishPromote_stages filled rendered
  obtain ⟨syncs, publishes, develops, promotes, rfl, synced, published, developed, promoted⟩ := stages
  obtain ⟨complete, promoting⟩ := along_append.mp complete
  obtain ⟨complete, developing⟩ := along_append.mp complete
  obtain ⟨syncing, publishing⟩ := along_append.mp complete
  obtain ⟨url, repository, located, repositoryNamed, afterSync⟩ :=
    sync_stage documented syncing required coherent synced
      fun call member => mirrored call (by simp [member])
  obtain ⟨call, _, name, named, _⟩ := developed.every kind repo required
  have afterPublish := publish_stage documented publishing required published repositoryNamed
  have afterDevelop :=
    develop_stage documented developing required coherent developed named repositoryNamed
  rw [runFrom_append start syncs publishes] at afterDevelop
  have delivered := afterDevelop.trans (afterPublish.trans afterSync)
  rw [← runFrom_append start syncs publishes, ← runFrom_append] at delivered
  refine ⟨url, name, located, named, ?_⟩
  cases promote with
  | false =>
      rw [if_neg Bool.false_ne_true] at promoted
      subst promoted
      rw [if_neg Bool.false_ne_true]
      refine ⟨by rw [List.append_nil]; exact delivered, distribution_kept documented filled rendered ?_⟩
      intro other _ otherName _
      exact ⟨(development_ne_production otherName name).symm, fun impossible => by cases impossible⟩
  | true =>
      rw [if_pos rfl] at promoted
      rw [if_pos rfl]
      have kept : ∀ call ∈ promotes, ¬call.touches (.distribution kind (name ++ "development")) := by
        intro call member touches
        obtain ⟨_, _, otherName, _, same⟩ := promoted.promotes_touches member touches
        exact development_ne_production name otherName same
      have afterPromote := promote_stage documented promoting required promoted named
      rw [runFrom_append start (syncs ++ publishes ++ develops) promotes]
      exact ⟨(untouched_runFrom documented kept _).trans delivered, afterPromote.trans delivered⟩

/-- A complete run delivers every required repository and leaves all other distributions alone. -/
theorem release_exact (coherent : Coherent isZero config)
    (mirrored : ∀ call ∈ calls, call.exact = true)
    (complete : Along roles.performed roles.succeeds start calls) :
    (∀ kind, ∀ repo ∈ requiredRepos isZero config kind, ∃ url name,
      textOf repo "url" = .ok url ∧ textOf repo "distribution_name" = .ok name ∧
      roles.holds (runFrom roles.performed start calls) (.distribution kind (name ++ "development")) =
        roles.holds start (.upstream url) ∧
      roles.holds (runFrom roles.performed start calls) (.distribution kind (name ++ "production")) =
        roles.holds start
          (if promote then .upstream url else .distribution kind (name ++ "production"))) ∧
      ∀ kind served, (∀ repo ∈ requiredRepos isZero config kind, ∀ name,
        textOf repo "distribution_name" = .ok name →
          served ≠ name ++ "development" ∧ (promote = true → served ≠ name ++ "production")) →
        roles.holds (runFrom roles.performed start calls) (.distribution kind served) =
          roles.holds start (.distribution kind served) :=
  ⟨fun _ _ required => release_delivered documented filled rendered coherent mirrored complete required,
    fun _ _ other => distribution_kept documented filled rendered other⟩

end Release

theorem appstream_coherent : Coherent (fun value : Int => value == 0) appstreamConfig := by
  have only : ∀ kind, ∀ repo ∈ requiredRepos (fun value : Int => value == 0) appstreamConfig kind,
      repo = appstream := by
    intro kind repo required
    cases kind with
    | deb => cases required
    | rpm => exact List.mem_singleton.mp required
  constructor
  · intro kind repo required other alsoRequired _
    rw [only kind repo required, only kind other alsoRequired]
  · intro kind repo required other alsoRequired _
    rw [only kind repo required, only kind other alsoRequired]

theorem appstream_filled : Filled (fun value : Int => value == 0) appstreamConfig := by
  intro kind repo required
  cases kind with
  | deb => cases required
  | rpm =>
      cases List.mem_singleton.mp required
      decide

theorem release_exact_appstream :
    beforeRelease (.upstream "rocky/10/AppStream") = some "snapshot 20261103T093624" ∧
    runFrom copyingRoles.performed beforeRelease appstreamCalls
      (.distribution .rpm "rocky-10-appstream-production") =
        beforeRelease (.upstream "rocky/10/AppStream") := by
  have complete : Along copyingRoles.performed copyingRoles.succeeds beforeRelease appstreamCalls :=
    fun _ _ _ => rfl
  have delivered := (release_exact copyingRoles_documented appstream_filled
    appstreamCalls_rendered appstream_coherent
    (by decide) complete).1 .rpm appstream (List.mem_singleton_self appstream)
  obtain ⟨url, name, located, named, _, served⟩ := delivered
  cases located
  cases named
  exact ⟨rfl, served⟩

end Pulp
