import KayobeConfig.Pulp.Promotion

/-!
Runs of the package playbooks against a Pulp server. Calls of different playbooks and
configurations may interleave, fail and be left out, and the release train may publish
in between.
-/

namespace Pulp

open Library

/-- What the playbooks see of the roles and of the servers behind them. -/
structure Roles (σ Content : Type) where
  holds : σ → Cell → Option Content
  perform : σ → Call → σ × Bool
  release : σ → (String → Option Content) → σ

/-- A sync may also publish what it synced. -/
def Call.touches (call : Call) (cell : Cell) : Prop :=
  cell = call.target ∨ ∃ url name mirrors, call.change = .repository url name mirrors ∧
    cell = .publication call.kind name

variable {σ Content : Type}

structure Roles.Documented (roles : Roles σ Content) : Prop where
  released : ∀ state contents cell, (∀ url, cell ≠ .upstream url) →
    roles.holds (roles.release state contents) cell = roles.holds state cell
  elsewhere : ∀ state call cell, ¬call.touches cell →
    roles.holds (roles.perform state call).1 cell = roles.holds state cell
  moved : ∀ state call, call.state = "present" → call.exact → (roles.perform state call).2 →
    roles.holds (roles.perform state call).1 call.target = roles.holds state call.source
  failed : ∀ state call, call.state = "present" → call.exact → ¬(roles.perform state call).2 →
    roles.holds (roles.perform state call).1 call.target = roles.holds state call.target ∨
      roles.holds (roles.perform state call).1 call.target = roles.holds state call.source
  autopublished : ∀ state call url name mirrors, call.change = .repository url name mirrors →
    roles.holds (roles.perform state call).1 (.publication call.kind name) =
        roles.holds state (.publication call.kind name) ∨
      roles.holds (roles.perform state call).1 (.publication call.kind name) =
        roles.holds (roles.perform state call).1 (.repository call.kind name)

inductive Event (Content : Type)
  | call (call : Call)
  | release (contents : String → Option Content)

def Roles.step (roles : Roles σ Content) (state : σ) : Event Content → σ
  | .call call => (roles.perform state call).1
  | .release contents => roles.release state contents

section Issued

variable {R : PyRuntime} (isZero : R.Float → Bool)

inductive Issued : Call → Prop
  | sync (config : Config R) {kind entries entry call} :
      repositoryEntries config kind = .ok entries → entry ∈ selectRequired isZero entries →
      pulpRepository isZero kind entry = .ok call → Issued call
  | publish (config : Config R) {kind entries entry call} :
      distributionEntries .development config kind = .ok entries →
      entry ∈ selectRequired isZero entries → pulpPublication kind entry = .ok call → Issued call
  | distribute (environment : Environment) (config : Config R) {kind entries entry call} :
      distributionEntries environment config kind = .ok entries →
      entry ∈ selectRequired isZero entries → pulpDistribution kind entry = .ok call → Issued call

variable {isZero}

theorem mem_items {call : Kind → Repo R → Except Undefined Call}
    {render : Kind → Except Undefined (List (Repo R))} {calls : List Call}
    (rendered : items isZero call render = .ok calls) {made : Call} :
    made ∈ calls ↔ ∃ kind entries entry, render kind = .ok entries ∧
      entry ∈ selectRequired isZero entries ∧ call kind entry = .ok made := by
  obtain ⟨deb, debRendered, rendered⟩ := except_bind_ok.mp rendered
  obtain ⟨rpm, rpmRendered, rendered⟩ := except_bind_ok.mp rendered
  obtain ⟨debCalls, debMade, rendered⟩ := except_bind_ok.mp rendered
  obtain ⟨rpmCalls, rpmMade, rendered⟩ := except_bind_ok.mp rendered
  cases rendered
  rw [List.mem_append, mem_mapM debMade, mem_mapM rpmMade]
  constructor
  · rintro (⟨entry, selected, called⟩ | ⟨entry, selected, called⟩)
    · exact ⟨.deb, deb, entry, debRendered, selected, called⟩
    · exact ⟨.rpm, rpm, entry, rpmRendered, selected, called⟩
  · rintro ⟨kind, entries, entry, found, selected, called⟩
    cases kind with
    | deb =>
        cases debRendered.symm.trans found
        exact Or.inl ⟨entry, selected, called⟩
    | rpm =>
        cases rpmRendered.symm.trans found
        exact Or.inr ⟨entry, selected, called⟩

theorem mem_of_mem_selectRequired {entries : List (Repo R)} {entry : Repo R}
    (selected : entry ∈ selectRequired isZero entries) : entry ∈ entries :=
  List.mem_of_mem_filter selected

theorem mem_distributionEntries {environment : Environment} {config : Config R} {kind : Kind}
    {entries : List (Repo R)} (rendered : distributionEntries environment config kind = .ok entries)
    {entry : Repo R} : entry ∈ entries ↔
      ∃ repo ∈ config.repos kind, renderDistribution kind environment repo = .ok entry :=
  mem_mapOmitting rendered

theorem mem_repositoryEntries {config : Config R} {kind : Kind} {entries : List (Repo R)}
    (rendered : repositoryEntries config kind = .ok entries) {entry : Repo R} :
    entry ∈ entries ↔ ∃ repo ∈ config.repos kind, ∃ built, rebuild kind repo = .ok built ∧
      (reposDefaultConfig config.username config.password config.proxyUrl kind).combine built =
        entry := by
  refine (mem_mapOmitting rendered).trans (exists_congr fun repo => and_congr_right fun _ => ?_)
  rw [except_bind_ok]
  exact exists_congr fun built => and_congr_right fun _ =>
    ⟨fun same => Except.ok.inj same, fun same => congrArg Except.ok same⟩

theorem Issued.shape {call : Call} (issued : Issued isZero call) : call.state = "present" ∧
    ((∃ url name mirrors, call.change = .repository url name mirrors) ∨
      (∃ repository, call.change = .publication repository) ∨
      (∃ name repository,
        call.change = .distribution (.repository repository) (name ++ "development")) ∨
      ∃ name, call.change =
        .distribution (.distribution (name ++ "development")) (name ++ "production")) := by
  cases issued with
  | sync config rendered selected called =>
      obtain ⟨repo, _, built, rebuilt, rfl⟩ :=
        (mem_repositoryEntries rendered).mp (mem_of_mem_selectRequired selected)
      obtain ⟨url, name, _, _, _, made⟩ := repository_call isZero rebuilt
      cases made.symm.trans called
      exact ⟨rfl, Or.inl ⟨_, _, _, rfl⟩⟩
  | publish config rendered selected called =>
      obtain ⟨repo, _, built⟩ :=
        (mem_distributionEntries rendered).mp (mem_of_mem_selectRequired selected)
      obtain ⟨name, repository, _, _, _, made, _⟩ := development_calls built
      cases made.symm.trans called
      exact ⟨rfl, Or.inr (Or.inl ⟨_, rfl⟩)⟩
  | distribute environment config rendered selected called =>
      obtain ⟨repo, _, built⟩ :=
        (mem_distributionEntries rendered).mp (mem_of_mem_selectRequired selected)
      cases environment with
      | development =>
          obtain ⟨name, repository, _, _, _, _, made⟩ := development_calls built
          cases made.symm.trans called
          exact ⟨rfl, Or.inr (Or.inr (Or.inl ⟨_, _, rfl⟩))⟩
      | production =>
          obtain ⟨name, _, _, made⟩ := production_call built
          cases made.symm.trans called
          exact ⟨rfl, Or.inr (Or.inr (Or.inr ⟨_, rfl⟩))⟩

theorem issued_pulpRepoSync {config : Config R} {calls : List Call}
    (rendered : pulpRepoSync isZero config = .ok calls) : ∀ call ∈ calls, Issued isZero call := by
  intro call member
  obtain ⟨kind, entries, entry, found, selected, called⟩ := (mem_items rendered).mp member
  exact .sync config found selected called

theorem issued_pulpRepoPublish {config : Config R} {calls : List Call}
    (rendered : pulpRepoPublish isZero config = .ok calls) : ∀ call ∈ calls, Issued isZero call := by
  obtain ⟨published, publications, rendered⟩ := except_bind_ok.mp rendered
  obtain ⟨distributed, distributions, rendered⟩ := except_bind_ok.mp rendered
  cases rendered
  intro call member
  rcases List.mem_append.mp member with early | late
  · obtain ⟨kind, entries, entry, found, selected, called⟩ := (mem_items publications).mp early
    exact .publish config found selected called
  · obtain ⟨kind, entries, entry, found, selected, called⟩ := (mem_items distributions).mp late
    exact .distribute .development config found selected called

theorem issued_pulpRepoPromoteProduction {config : Config R} {calls : List Call}
    (rendered : pulpRepoPromoteProduction isZero config = .ok calls) :
    ∀ call ∈ calls, Issued isZero call := by
  intro call member
  obtain ⟨kind, entries, entry, found, selected, called⟩ := (mem_items rendered).mp member
  exact .distribute .production config found selected called

end Issued

theorem development_ne_production (first second : String) :
    first ++ "development" ≠ second ++ "production" := by
  intro same
  have ends := congrArg (fun text : String => text.toList.getLast?) same
  simp at ends

section Origin

variable {R : PyRuntime} {isZero : R.Float → Bool} {roles : Roles σ Content}

theorem append_right_cancel {first second suffix : String} (same : first ++ suffix = second ++ suffix) :
    first = second := by
  rw [← String.toList_inj, String.toList_append, String.toList_append] at same
  exact String.toList_inj.mp (List.append_cancel_right same)

/-- What an issued call can leave at its target. -/
theorem Roles.Documented.target_holds (documented : roles.Documented) (state : σ) {call : Call}
    (issued : Issued isZero call) (exact_ : call.exact = true) :
    roles.holds (roles.perform state call).1 call.target = roles.holds state call.target ∨
      roles.holds (roles.perform state call).1 call.target = roles.holds state call.source := by
  by_cases succeeded : (roles.perform state call).2 = true
  · exact Or.inr (documented.moved state call issued.shape.1 exact_ succeeded)
  · exact documented.failed state call issued.shape.1 exact_ succeeded

theorem Roles.Documented.distribution_step (documented : roles.Documented) (state : σ) {call : Call}
    (issued : Issued isZero call) (kind : Kind) (name : String) :
    roles.holds (roles.perform state call).1 (.distribution kind name) =
        roles.holds state (.distribution kind name) ∨
      ∃ origin, call = ⟨"present", kind, .distribution origin name⟩ ∧
        roles.holds (roles.perform state call).1 (.distribution kind name) =
          roles.holds state (origin.cell kind) := by
  by_cases touched : call.touches (.distribution kind name)
  · rcases touched with same | ⟨_, _, _, _, other⟩
    · obtain ⟨present, shape⟩ := issued.shape
      obtain ⟨state', kind', change⟩ := call
      cases present
      cases change with
      | repository => cases same
      | publication => cases same
      | distribution origin served =>
          cases same
          rcases documented.target_holds state issued rfl with kept | moved
          · exact Or.inl kept
          · exact Or.inr ⟨origin, rfl, moved⟩
    · cases other
  · exact Or.inl (documented.elsewhere state call _ touched)

theorem Roles.Documented.publication_step (documented : roles.Documented) (state : σ) {call : Call}
    (issued : Issued isZero call) (kind : Kind) (repository : String) :
    roles.holds (roles.perform state call).1 (.publication kind repository) =
        roles.holds state (.publication kind repository) ∨
      roles.holds (roles.perform state call).1 (.publication kind repository) =
        roles.holds state (.repository kind repository) ∨
      roles.holds (roles.perform state call).1 (.publication kind repository) =
        roles.holds (roles.perform state call).1 (.repository kind repository) := by
  by_cases touched : call.touches (.publication kind repository)
  · rcases touched with same | ⟨url, name, mirrors, changed, other⟩
    · obtain ⟨state', kind', change⟩ := call
      cases change with
      | repository => cases same
      | distribution => cases same
      | publication published =>
          cases same
          rcases documented.target_holds state issued rfl with kept | moved
          · exact Or.inl kept
          · exact Or.inr (Or.inl moved)
    · cases other
      rcases documented.autopublished state call url _ mirrors changed with kept | synced
      · exact Or.inl kept
      · exact Or.inr (Or.inr synced)
  · exact Or.inl (documented.elsewhere state call _ touched)

variable (documented : roles.Documented) {events : List (Event Content)}
  (issued : ∀ call, .call call ∈ events → Issued isZero call)

include documented issued

theorem distribution_origin (start : σ) (kind : Kind) (name : String) :
    roles.holds (runFrom roles.step start events) (.distribution kind name) =
        roles.holds start (.distribution kind name) ∨
      ∃ origin, .call ⟨"present", kind, .distribution origin name⟩ ∈ events ∧
        Sometime roles.step (fun state =>
          roles.holds (runFrom roles.step start events) (.distribution kind name) =
            roles.holds state (origin.cell kind)) start events := by
  have moves : ∀ event ∈ events, ∀ state,
      roles.holds (roles.step state event) (.distribution kind name) =
          roles.holds state (.distribution kind name) ∨
        ∃ source, (∃ origin : Origin, .call ⟨"present", kind, .distribution origin name⟩ ∈ events ∧
            source = origin.cell kind) ∧
          (roles.holds (roles.step state event) (.distribution kind name) =
              roles.holds state source ∨
            roles.holds (roles.step state event) (.distribution kind name) =
              roles.holds (roles.step state event) source) := by
    intro event member state
    cases event with
    | release contents => exact Or.inl (documented.released state contents _ (by simp))
    | call call =>
        rcases documented.distribution_step state (issued call member) kind name with
          kept | ⟨origin, rfl, moved⟩
        · exact Or.inl kept
        · exact Or.inr ⟨_, ⟨origin, member, rfl⟩, Or.inl moved⟩
  rcases holds_origin moves start with same | ⟨_, ⟨origin, member, rfl⟩, sometime⟩
  · exact Or.inl same
  · exact Or.inr ⟨origin, member, sometime⟩

theorem publication_origin (start : σ) (kind : Kind) (repository : String) :
    roles.holds (runFrom roles.step start events) (.publication kind repository) =
        roles.holds start (.publication kind repository) ∨
      Sometime roles.step (fun state =>
        roles.holds (runFrom roles.step start events) (.publication kind repository) =
          roles.holds state (.repository kind repository)) start events := by
  have moves : ∀ event ∈ events, ∀ state,
      roles.holds (roles.step state event) (.publication kind repository) =
          roles.holds state (.publication kind repository) ∨
        ∃ source, source = .repository kind repository ∧
          (roles.holds (roles.step state event) (.publication kind repository) =
              roles.holds state source ∨
            roles.holds (roles.step state event) (.publication kind repository) =
              roles.holds (roles.step state event) source) := by
    intro event member state
    cases event with
    | release contents => exact Or.inl (documented.released state contents _ (by simp))
    | call call =>
        rcases documented.publication_step state (issued call member) kind repository with
          kept | moved
        · exact Or.inl kept
        · exact Or.inr ⟨_, rfl, moved⟩
  rcases holds_origin moves start with same | ⟨_, rfl, sometime⟩
  · exact Or.inl same
  · exact Or.inr sometime

/-- What production serves it served at the start, or development has served. -/
theorem production_from_development (start : σ) (kind : Kind) (name : String) :
    roles.holds (runFrom roles.step start events) (.distribution kind (name ++ "production")) =
        roles.holds start (.distribution kind (name ++ "production")) ∨
      Sometime roles.step (fun state =>
        roles.holds (runFrom roles.step start events) (.distribution kind (name ++ "production")) =
          roles.holds state (.distribution kind (name ++ "development"))) start events := by
  rcases distribution_origin documented issued start kind (name ++ "production") with
    same | ⟨origin, member, sometime⟩
  · exact Or.inl same
  · rcases (issued _ member).shape.2 with
      ⟨_, _, _, other⟩ | ⟨_, other⟩ | ⟨other, _, same⟩ | ⟨other, same⟩
    · cases other
    · cases other
    · exact absurd (Change.distribution.inj same).2.symm (development_ne_production other name)
    · obtain ⟨rfl, served⟩ := Change.distribution.inj same
      cases append_right_cancel served
      exact Or.inr sometime

def Develops (events : List (Event Content)) (kind : Kind) (name repository : String) : Prop :=
  .call ⟨"present", kind, .distribution (.repository repository) (name ++ "development")⟩ ∈ events

theorem development_from_repository (start : σ) (kind : Kind) (name : String) :
    roles.holds (runFrom roles.step start events) (.distribution kind (name ++ "development")) =
        roles.holds start (.distribution kind (name ++ "development")) ∨
      ∃ repository, Develops events kind name repository ∧
        Sometime roles.step (fun state =>
          roles.holds (runFrom roles.step start events) (.distribution kind (name ++ "development")) =
            roles.holds state (.publication kind repository)) start events := by
  rcases distribution_origin documented issued start kind (name ++ "development") with
    same | ⟨origin, member, sometime⟩
  · exact Or.inl same
  · rcases (issued _ member).shape.2 with
      ⟨_, _, _, other⟩ | ⟨_, other⟩ | ⟨other, repository, same⟩ | ⟨other, same⟩
    · cases other
    · cases other
    · obtain ⟨rfl, _⟩ := Change.distribution.inj same
      exact Or.inr ⟨repository, member, sometime⟩
    · exact absurd (Change.distribution.inj same).2 (development_ne_production name other)

omit documented in
theorem issued_of_early {past : List (Event Content)} (early : past <+: events) :
    ∀ call, .call call ∈ past → Issued isZero call :=
  fun call member => issued call (early.subset member)

/-- New content reaches production through a repository that development was told to serve,
a publication and the development distribution, one after another. -/
theorem production_lineage (start : σ) (kind : Kind) (name : String) (served : Option Content)
    (serves : roles.holds (runFrom roles.step start events)
      (.distribution kind (name ++ "production")) = served)
    (new : roles.holds start (.distribution kind (name ++ "production")) ≠ served) :
    ∃ past, past <+: events ∧
      roles.holds (runFrom roles.step start past) (.distribution kind (name ++ "development")) = served ∧
      (roles.holds start (.distribution kind (name ++ "development")) = served ∨
        ∃ repository, Develops past kind name repository ∧
          (roles.holds start (.publication kind repository) = served ∨
            Sometime roles.step (fun state => roles.holds state (.repository kind repository) = served)
              start past)) := by
  subst serves
  rcases production_from_development documented issued start kind name with
    same | ⟨past, early, developed⟩
  · exact absurd same.symm new
  refine ⟨past, early, developed.symm, ?_⟩
  rw [developed]
  rcases development_from_repository documented (issued_of_early issued early) start kind name with
    same | ⟨repository, develops, earlier, before, published⟩
  · exact Or.inl same.symm
  refine Or.inr ⟨repository, develops, ?_⟩
  rw [published]
  rcases publication_origin documented (issued_of_early issued (before.trans early)) start kind
    repository with same | sometime
  · exact Or.inl same.symm
  · obtain ⟨synced, first, held⟩ := sometime
    exact Or.inr ⟨synced, first.trans before, held.symm⟩

end Origin

/-- Roles that move content at once and never fail. -/
def copyingRoles : Roles (Cell → Option String) String where
  holds state := state
  perform state call := (Function.update state call.target (state call.source), true)
  release state contents cell := match cell with
    | .upstream url => contents url
    | _ => state cell

theorem copyingRoles_holds (state : Cell → Option String) (call : Call) (cell : Cell) :
    copyingRoles.holds (copyingRoles.perform state call).1 cell =
      if cell = call.target then state call.source else state cell :=
  Function.update_apply state call.target (state call.source) cell

theorem copyingRoles_documented : copyingRoles.Documented where
  released state contents cell onServer := by
    cases cell with
    | upstream url => exact absurd rfl (onServer url)
    | repository => rfl
    | publication => rfl
    | distribution => rfl
  elsewhere state call cell untouched := by
    rw [copyingRoles_holds, if_neg fun same => untouched (Or.inl same)]
    rfl
  moved state call _ _ _ := by
    rw [copyingRoles_holds, if_pos rfl]
    rfl
  failed state call _ _ fails := absurd rfl fails
  autopublished state call url name mirrors syncs := by
    have apart : Cell.publication call.kind name ≠ call.target := by
      obtain ⟨_, _, _⟩ := call
      cases syncs
      exact Cell.noConfusion
    rw [copyingRoles_holds, if_neg apart]
    exact Or.inl rfl

def appstream : Repo wholeRuntime :=
  ⟨[("name", .str "Rocky Linux 10 - AppStream"), ("url", .str "rocky/10/AppStream"),
    ("distribution_name", .str "rocky-10-appstream-"), ("base_path", .str "rocky/10/AppStream/"),
    ("required", .bool true)], by simp⟩

def appstreamConfig : Config wholeRuntime where
  omits _ := true
  repos
    | .deb => []
    | .rpm => [appstream]
  username := .none
  password := .none
  proxyUrl := .none

def appstreamCalls : List Call :=
  [⟨"present", .rpm, .repository "rocky/10/AppStream" "Rocky Linux 10 - AppStream" true⟩,
    ⟨"present", .rpm, .publication "Rocky Linux 10 - AppStream"⟩,
    ⟨"present", .rpm, .distribution (.repository "Rocky Linux 10 - AppStream")
      "rocky-10-appstream-development"⟩,
    ⟨"present", .rpm, .distribution (.distribution "rocky-10-appstream-development")
      "rocky-10-appstream-production"⟩]

theorem appstreamCalls_rendered :
    pulpSyncPublishPromote (fun value : Int => value == 0) true appstreamConfig =
      .ok appstreamCalls := by
  rfl

def beforeRelease : Cell → Option String
  | .upstream "rocky/10/AppStream" => some "snapshot 20261103T093624"
  | _ => none

def appstreamEvents : List (Event String) := appstreamCalls.map .call

theorem appstream_issued : ∀ call, .call call ∈ appstreamEvents →
    Issued (fun value : Int => value == 0) (R := wholeRuntime) call := by
  intro call member
  have among : call ∈ appstreamCalls := by
    obtain ⟨_, among, same⟩ := List.mem_map.mp member
    cases same
    exact among
  have synced : pulpRepoSync (fun value : Int => value == 0) appstreamConfig =
    .ok (appstreamCalls.take 1) := rfl
  have published : pulpRepoPublish (fun value : Int => value == 0) appstreamConfig =
    .ok ((appstreamCalls.drop 1).take 2) := rfl
  have promoted : pulpRepoPromoteProduction (fun value : Int => value == 0) appstreamConfig =
    .ok (appstreamCalls.drop 3) := rfl
  have parts : appstreamCalls = appstreamCalls.take 1 ++ ((appstreamCalls.drop 1).take 2 ++
    appstreamCalls.drop 3) := rfl
  rw [parts, List.mem_append, List.mem_append] at among
  rcases among with early | middle | late
  · exact issued_pulpRepoSync synced call early
  · exact issued_pulpRepoPublish published call middle
  · exact issued_pulpRepoPromoteProduction promoted call late

theorem production_lineage_appstream :
    beforeRelease (.distribution .rpm "rocky-10-appstream-production") ≠
      some "snapshot 20261103T093624" ∧
    ∃ past, past <+: appstreamEvents ∧
      runFrom copyingRoles.step beforeRelease past
        (.distribution .rpm "rocky-10-appstream-development") = some "snapshot 20261103T093624" := by
  have new : beforeRelease (.distribution .rpm "rocky-10-appstream-production") ≠
    some "snapshot 20261103T093624" := by
    intro same
    cases same
  obtain ⟨past, early, developed, _⟩ := production_lineage copyingRoles_documented appstream_issued
    beforeRelease .rpm "rocky-10-appstream-" (some "snapshot 20261103T093624") rfl new
  exact ⟨new, past, early, developed⟩

end Pulp
