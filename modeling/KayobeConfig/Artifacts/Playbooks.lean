import Mathlib.Logic.Function.Basic
import KayobeConfig.Library.Transfers

/-!
The playbooks `pulp-artifact-upload.yml` and `pulp-artifact-promote.yml`, which release the
images of hosts, of the deployment ramdisk and of amphorae through Pulp. They call its modules
for files, where those that release packages call roles. Any number of their runs interleave
task by task and fail anywhere.
-/

namespace Artifacts

open Library

/-- The files of a version of a repository, each by its relative path. -/
abbrev Files := String → Option String

structure Distribution where
  basePath : String
  publication : Option String
  contentGuard : String

/-- What a module of the Pulp collection is asked to make present. -/
inductive Change
  | repository (name : String)
  | content (repository relativePath content : String)
  | distribution (name basePath : String) (publication : Option String) (contentGuard : String)

/-- What the playbooks see of the modules, with their retries, and of the Pulp server behind them:
the latest versions of its repositories, its publications and its distributions. `present` says
whether the module succeeds, `publish` gives the reference of a publication, and `find` whether
there is a distribution of the name. -/
structure Modules (σ : Type) where
  repositories : σ → String → Option Files
  publications : σ → String → Option Files
  distributions : σ → String → Option Distribution
  present : σ → Change → σ × Bool
  publish : σ → String → σ × Option String
  find : σ → String → Option Bool

def Change.repositoryName : Change → Option String
  | .repository name | .content name _ _ => some name
  | .distribution _ _ _ _ => none

def Change.distributionName : Change → Option String
  | .distribution name _ _ _ => some name
  | .repository _ | .content _ _ _ => none

section Documented

variable {σ : Type} (modules : Modules σ)

/-- What is there once a change has been made. A distribution keeps what is not given. -/
inductive Change.Made (before after : σ) : Change → Prop
  | repository {name : String} :
      modules.repositories after name =
        some ((modules.repositories before name).getD fun _ => none) →
      Made before after (.repository name)
  | content {repository relativePath content : String} {files : Files} :
      modules.repositories before repository = some files →
      modules.repositories after repository =
        some (Function.update files relativePath (some content)) →
      Made before after (.content repository relativePath content)
  | distribution {name basePath contentGuard : String} {publication : Option String} :
      modules.distributions after name = some ⟨basePath, publication.or
        ((modules.distributions before name).bind Distribution.publication), contentGuard⟩ →
      Made before after (.distribution name basePath publication contentGuard)

/-- The repositories and the distributions are as they were, and no publication is gone. -/
structure Modules.Stays (before after : σ) : Prop where
  repositories : modules.repositories after = modules.repositories before
  distributions : modules.distributions after = modules.distributions before
  publications : ∀ href files, modules.publications before href = some files →
    modules.publications after href = some files

/-- A module that fails may have made its change all the same. -/
structure Modules.Documented : Prop where
  made : ∀ state change, (modules.present state change).2 = true →
    change.Made modules state (modules.present state change).1
  failed : ∀ state change, (modules.present state change).2 = false →
    modules.Stays state (modules.present state change).1 ∨
      change.Made modules state (modules.present state change).1
  otherRepositories : ∀ state change name, change.repositoryName ≠ some name →
    modules.repositories (modules.present state change).1 name = modules.repositories state name
  otherDistributions : ∀ state change name, change.distributionName ≠ some name →
    modules.distributions (modules.present state change).1 name = modules.distributions state name
  keptPublications : ∀ state change href files, modules.publications state href = some files →
    modules.publications (modules.present state change).1 href = some files
  published : ∀ state repository, modules.Stays state (modules.publish state repository).1
  publishes : ∀ state repository href, (modules.publish state repository).2 = some href →
    ∃ files, modules.repositories state repository = some files ∧
      modules.publications (modules.publish state repository).1 href = some files
  found : ∀ state name, modules.find state name = some true →
    modules.distributions state name ≠ none

end Documented

structure Artifact where
  repositoryName : String
  pulpBasePath : String
  artifactTag : String
  deriving DecidableEq

/-- The names of the repository and of its path where the playbooks are not given others. -/
def Artifact.of (artifactType openstackRelease osDistribution osRelease artifactTag : String) :
    Artifact where
  repositoryName := artifactType ++ "-" ++ openstackRelease ++ "-" ++ osDistribution ++ "-" ++ osRelease
  pulpBasePath := artifactType ++ "/" ++ openstackRelease ++ "/" ++ osDistribution ++ "/" ++ osRelease
  artifactTag := artifactTag

def Artifact.distributionName (artifact : Artifact) : String :=
  artifact.repositoryName ++ "_" ++ artifact.artifactTag

def Artifact.basePath (artifact : Artifact) : String :=
  artifact.pulpBasePath ++ "/" ++ artifact.artifactTag

inductive Task
  | findFile
  | ensureRepository
  | uploadArtifact
  | uploadChecksum
  | createPublication
  | createDistribution
  | updateArtifactsFile
  | checkDistribution
  | setContentGuard
  | printTag
  deriving DecidableEq

/-- An upload is of the first of the files that it has found, with their contents. -/
inductive Playbook
  | upload (foundFiles : List (String × String)) (uploadChecksum : Bool)
  | promote
  deriving DecidableEq

def publishTasks : List Task :=
  [.createPublication, .createDistribution, .updateArtifactsFile, .printTag]

def checksumTasks (uploadChecksum : Bool) : List Task :=
  if uploadChecksum then .uploadChecksum :: publishTasks else publishTasks

def Playbook.tasks : Playbook → List Task
  | .upload _ uploadChecksum =>
      [.findFile, .ensureRepository, .uploadArtifact] ++ checksumTasks uploadChecksum
  | .promote => [.checkDistribution, .setContentGuard, .printTag]

def Playbook.file : Playbook → Option (String × String)
  | .upload foundFiles _ => foundFiles.head?
  | .promote => none

structure Run where
  artifact : Artifact
  playbook : Playbook
  todo : List Task
  publicationDetails : Option String
  failed : Bool

def Run.of (artifact : Artifact) (playbook : Playbook) : Run :=
  ⟨artifact, playbook, playbook.tasks, none, false⟩

def Run.fails (run : Run) : Run := { run with todo := [], failed := true }

def Run.Completed (run : Run) : Prop := run.todo = [] ∧ run.failed = false

instance (run : Run) : Decidable run.Completed := inferInstanceAs (Decidable (_ ∧ _))

def checksumName (name : String) : String := name ++ ".sha256"

def checksumContent (sha256 : String → String) (name content : String) : String :=
  sha256 content ++ " " ++ name

section Tasks

variable {σ : Type} (modules : Modules σ) (sha256 : String → String)

/-- The server after a module has run, and the run unless that fails. -/
def call (server : σ) (run : Run) (change : Change) : σ × Option Run :=
  let (after, done) := modules.present server change
  (after, if done then some run else none)

/-- The server after a task, and the run unless the task fails. -/
def perform (server : σ) (run : Run) : Task → σ × Option Run
  | .findFile => (server, run.playbook.file.map fun _ => run)
  | .ensureRepository => call modules server run (.repository run.artifact.repositoryName)
  | .uploadArtifact =>
      match run.playbook.file with
      | none => (server, none)
      | some (name, content) =>
          call modules server run (.content run.artifact.repositoryName name content)
  | .uploadChecksum =>
      match run.playbook.file with
      | none => (server, none)
      | some (name, content) =>
          call modules server run (.content run.artifact.repositoryName (checksumName name)
            (checksumContent sha256 name content))
  | .createPublication =>
      let (after, href) := modules.publish server run.artifact.repositoryName
      (after, href.map fun href => { run with publicationDetails := some href })
  | .createDistribution =>
      match run.publicationDetails with
      | none => (server, none)
      | some href =>
          call modules server run (.distribution run.artifact.distributionName run.artifact.basePath
            (some href) "development")
  | .checkDistribution =>
      (server, if modules.find server run.artifact.distributionName = some true then some run else none)
  | .setContentGuard =>
      call modules server run
        (.distribution run.artifact.distributionName run.artifact.basePath none "release")
  | .updateArtifactsFile | .printTag => (server, some run)

def advance (server : σ) (run : Run) : σ × Run :=
  match run.todo with
  | [] => (server, run)
  | task :: rest =>
      let next := { run with todo := rest }
      let (after, done) := perform modules sha256 server next task
      (after, done.getD next.fails)

end Tasks

structure World (σ : Type) where
  server : σ
  runs : Nat → Run

inductive Event
  | advance (run : Nat)
  | fail (run : Nat)
  deriving DecidableEq

section Steps

variable {σ : Type} (modules : Modules σ) (sha256 : String → String)

def step (world : World σ) : Event → World σ
  | .advance index =>
      let (server, run) := advance modules sha256 world.server (world.runs index)
      ⟨server, Function.update world.runs index run⟩
  | .fail index =>
      if (world.runs index).todo = [] then world
      else { world with runs := Function.update world.runs index (world.runs index).fails }

def Event.run : Event → Nat
  | .advance index | .fail index => index

/-- A run that has begun to change its repository and is yet to create its distribution. -/
def Run.Underway (run : Run) : Prop := .createDistribution ∈ run.todo ∧ .findFile ∉ run.todo

/-- Two uploads to one repository are not under way at a time. -/
def Exclusive (world : World σ) : Event → Prop
  | .advance index => .createDistribution ∈ (world.runs index).todo →
      ∀ other ≠ index,
        (world.runs other).artifact.repositoryName = (world.runs index).artifact.repositoryName →
          ¬(world.runs other).Underway
  | .fail _ => True

/-- The files hold the file of an upload, and with a checksum the one of this file. -/
structure Holds (playbook : Playbook) (checksum : Bool) (files : Files) : Prop where
  artifact : ∀ name content, playbook.file = some (name, content) → files name = some content
  checksum : checksum = true → ∀ name content, playbook.file = some (name, content) →
    files (checksumName name) = some (checksumContent sha256 name content)

def Modules.serves (server : σ) (distribution : Distribution) : Option Files :=
  distribution.publication.bind (modules.publications server)

/-- How far a run has come, with what it relies on in its repository or its publication. -/
inductive Stage (server : σ) (run : Run) : Prop
  | preparing (foundFiles : List (String × String)) (uploadChecksum : Bool) (earlier : List Task) :
      run.playbook = .upload foundFiles uploadChecksum →
      earlier <:+ [.findFile, .ensureRepository] →
      run.todo = earlier ++ .uploadArtifact :: checksumTasks uploadChecksum → Stage server run
  | storing (foundFiles : List (String × String)) (files : Files) :
      run.playbook = .upload foundFiles true → run.todo = .uploadChecksum :: publishTasks →
      modules.repositories server run.artifact.repositoryName = some files →
      Holds sha256 run.playbook false files → Stage server run
  | publishing (foundFiles : List (String × String)) (uploadChecksum : Bool) (files : Files) :
      run.playbook = .upload foundFiles uploadChecksum → run.todo = publishTasks →
      modules.repositories server run.artifact.repositoryName = some files →
      Holds sha256 run.playbook uploadChecksum files → Stage server run
  | distributing (foundFiles : List (String × String)) (uploadChecksum : Bool) (href : String)
      (files : Files) : run.playbook = .upload foundFiles uploadChecksum →
      run.todo = [.createDistribution, .updateArtifactsFile, .printTag] →
      run.publicationDetails = some href → modules.publications server href = some files →
      Holds sha256 run.playbook uploadChecksum files → Stage server run
  | ended : run.todo ⊆ [.updateArtifactsFile, .checkDistribution, .setContentGuard, .printTag] →
      Stage server run

end Steps

section Stages

variable {σ : Type} {modules : Modules σ} {sha256 : String → String} {server : σ} {run : Run}

theorem checksumName_ne (name : String) : checksumName name ≠ name := by
  intro same
  have lengths := congrArg String.length same
  simp [checksumName] at lengths

theorem createDistribution_mem_checksumTasks (uploadChecksum : Bool) :
    Task.createDistribution ∈ checksumTasks uploadChecksum := by
  cases uploadChecksum <;> decide

theorem Stage.of (server : σ) (artifact : Artifact) (playbook : Playbook) :
    Stage modules sha256 server (.of artifact playbook) := by
  cases playbook with
  | upload foundFiles uploadChecksum =>
      exact .preparing foundFiles uploadChecksum [.findFile, .ensureRepository] rfl
        (List.suffix_refl _) rfl
  | promote => exact .ended (by simp [Run.of, Playbook.tasks])

theorem Stage.fails (server : σ) (run : Run) : Stage modules sha256 server run.fails :=
  .ended (by simp [Run.fails])

/-- A run does not rely on its repository before and after it is under way. -/
theorem Stage.elsewhere {before after : σ} (stage : Stage modules sha256 before run)
    (kept : run.Underway → modules.repositories after run.artifact.repositoryName =
      modules.repositories before run.artifact.repositoryName)
    (published : ∀ href files, modules.publications before href = some files →
      modules.publications after href = some files) : Stage modules sha256 after run := by
  cases stage with
  | preparing foundFiles uploadChecksum earlier uploads early todo =>
      exact .preparing foundFiles uploadChecksum earlier uploads early todo
  | storing foundFiles files uploads todo stored holds =>
      have underway : run.Underway := by
        unfold Run.Underway
        rw [todo]
        decide
      exact .storing foundFiles files uploads todo ((kept underway).trans stored) holds
  | publishing foundFiles uploadChecksum files uploads todo stored holds =>
      have underway : run.Underway := by
        unfold Run.Underway
        rw [todo]
        decide
      exact .publishing foundFiles uploadChecksum files uploads todo ((kept underway).trans stored) holds
  | distributing foundFiles uploadChecksum href files uploads todo registered found holds =>
      exact .distributing foundFiles uploadChecksum href files uploads todo registered
        (published href files found) holds
  | ended remaining => exact .ended remaining

structure Modules.Stores (modules : Modules σ) (before after : σ) (repository : String)
    (files : Files) : Prop where
  stored : modules.repositories after repository = some files
  others : ∀ name ≠ repository, modules.repositories after name = modules.repositories before name
  distributions : modules.distributions after = modules.distributions before
  publications : ∀ href files, modules.publications before href = some files →
    modules.publications after href = some files

structure Modules.Distributes (modules : Modules σ) (before after : σ) (name : String)
    (distribution : Distribution) : Prop where
  distributed : modules.distributions after name = some distribution
  others : ∀ other ≠ name, modules.distributions after other = modules.distributions before other
  repositories : modules.repositories after = modules.repositories before
  publications : ∀ href files, modules.publications before href = some files →
    modules.publications after href = some files

def Ends (run : Run) (next : Option Run) : Prop := next = none ∨ next = some run

/-- What a task leaves on the server, and of the run. -/
inductive Performs (modules : Modules σ) (sha256 : String → String) (server : σ) (run : Run) :
    Task → σ → Option Run → Prop
  | failed {task : Task} {after : σ} : modules.Stays server after →
      Performs modules sha256 server run task after none
  | found {name content : String} : run.playbook.file = some (name, content) →
      Performs modules sha256 server run .findFile server (some run)
  | ensured {files : Files} {after : σ} {next : Option Run} : Ends run next →
      modules.Stores server after run.artifact.repositoryName files →
      Performs modules sha256 server run .ensureRepository after next
  | uploaded {name content : String} {files : Files} {after : σ} {next : Option Run} :
      Ends run next → run.playbook.file = some (name, content) →
      modules.repositories server run.artifact.repositoryName = some files →
      modules.Stores server after run.artifact.repositoryName
        (Function.update files name (some content)) →
      Performs modules sha256 server run .uploadArtifact after next
  | summed {name content : String} {files : Files} {after : σ} {next : Option Run} :
      Ends run next → run.playbook.file = some (name, content) →
      modules.repositories server run.artifact.repositoryName = some files →
      modules.Stores server after run.artifact.repositoryName
        (Function.update files (checksumName name) (some (checksumContent sha256 name content))) →
      Performs modules sha256 server run .uploadChecksum after next
  | published {href : String} {files : Files} {after : σ} : modules.Stays server after →
      modules.repositories server run.artifact.repositoryName = some files →
      modules.publications after href = some files →
      Performs modules sha256 server run .createPublication after
        (some { run with publicationDetails := some href })
  | created {href : String} {after : σ} {next : Option Run} : Ends run next →
      run.publicationDetails = some href →
      modules.Distributes server after run.artifact.distributionName
        ⟨run.artifact.basePath, some href, "development"⟩ →
      Performs modules sha256 server run .createDistribution after next
  | updated : Performs modules sha256 server run .updateArtifactsFile server (some run)
  | checked : modules.distributions server run.artifact.distributionName ≠ none →
      Performs modules sha256 server run .checkDistribution server (some run)
  | guarded {after : σ} {next : Option Run} : Ends run next →
      modules.Distributes server after run.artifact.distributionName
        ⟨run.artifact.basePath, (modules.distributions server run.artifact.distributionName).bind
          Distribution.publication, "release"⟩ →
      Performs modules sha256 server run .setContentGuard after next
  | printed : Performs modules sha256 server run .printTag server (some run)

theorem Modules.Stays.refl (server : σ) : modules.Stays server server :=
  ⟨rfl, rfl, fun _ _ found => found⟩

section Called

variable (documented : modules.Documented)

include documented

theorem Modules.Documented.call_cases (server : σ) (run : Run) (change : Change) :
    (call modules server run change).2 = none ∧ modules.Stays server (call modules server run change).1 ∨
      Ends run (call modules server run change).2 ∧
        change.Made modules server (call modules server run change).1 := by
  unfold call
  cases done : (modules.present server change).2 with
  | true => exact Or.inr ⟨Or.inr (by simp [done]), documented.made server change done⟩
  | false =>
      rcases documented.failed server change done with stays | made
      · exact Or.inl ⟨by simp [done], stays⟩
      · exact Or.inr ⟨Or.inl (by simp [done]), made⟩

theorem Modules.Documented.stores {server : σ} {run : Run} {change : Change} {repository : String}
    {files : Files} (named : change.repositoryName = some repository)
    (undistributed : change.distributionName = none)
    (stored : modules.repositories (call modules server run change).1 repository = some files) :
    modules.Stores server (call modules server run change).1 repository files where
  stored := stored
  others name other := by
    refine documented.otherRepositories server change name ?_
    rw [named]
    exact fun same => other (Option.some.inj same).symm
  distributions := funext fun name =>
    documented.otherDistributions server change name (by rw [undistributed]; simp)
  publications := documented.keptPublications server change

theorem Modules.Documented.distributes {server : σ} {run : Run} {name basePath contentGuard : String}
    {publication : Option String} {distribution : Distribution}
    (distributed : modules.distributions (call modules server run
      (.distribution name basePath publication contentGuard)).1 name = some distribution) :
    modules.Distributes server (call modules server run
      (.distribution name basePath publication contentGuard)).1 name distribution where
  distributed := distributed
  others other different := by
    refine documented.otherDistributions server _ other ?_
    exact fun same => different (Option.some.inj same).symm
  repositories := funext fun repository =>
    documented.otherRepositories server _ repository (by simp [Change.repositoryName])
  publications := documented.keptPublications server _

theorem Modules.Documented.call_content (server : σ) (run : Run)
    (repository relativePath content : String) :
    let called := call modules server run (.content repository relativePath content)
    called.2 = none ∧ modules.Stays server called.1 ∨ ∃ files, Ends run called.2 ∧
      modules.repositories server repository = some files ∧
      modules.Stores server called.1 repository
        (Function.update files relativePath (some content)) := by
  refine (documented.call_cases server run _).imp_right fun ⟨ends, made⟩ => ?_
  cases made with
  | content stored added => exact ⟨_, ends, stored, documented.stores rfl rfl added⟩

theorem Modules.Documented.call_distribution (server : σ) (run : Run)
    (name basePath contentGuard : String) (publication : Option String) :
    let called := call modules server run (.distribution name basePath publication contentGuard)
    called.2 = none ∧ modules.Stays server called.1 ∨ Ends run called.2 ∧
      modules.Distributes server called.1 name ⟨basePath,
        publication.or ((modules.distributions server name).bind Distribution.publication),
        contentGuard⟩ := by
  refine (documented.call_cases server run _).imp_right fun ⟨ends, made⟩ => ⟨ends, ?_⟩
  cases made with
  | distribution distributed => exact documented.distributes distributed

theorem perform_performs (server : σ) (run : Run) (task : Task) :
    Performs modules sha256 server run task (perform modules sha256 server run task).1
      (perform modules sha256 server run task).2 := by
  cases task with
  | findFile =>
      cases file : run.playbook.file with
      | none =>
          simp only [perform, file, Option.map_none]
          exact .failed (.refl server)
      | some found =>
          simp only [perform, file, Option.map_some]
          exact .found file
  | ensureRepository =>
      rcases documented.call_cases server run (.repository run.artifact.repositoryName) with
        ⟨failed, stays⟩ | ⟨ends, made⟩
      · simp only [perform, failed]
        exact .failed stays
      · cases made with
        | repository stored => exact .ensured ends (documented.stores rfl rfl stored)
  | uploadArtifact =>
      cases file : run.playbook.file with
      | none =>
          simp only [perform, file]
          exact .failed (.refl server)
      | some found =>
          simp only [perform, file]
          rcases documented.call_content server run run.artifact.repositoryName found.1 found.2 with
            ⟨failed, stays⟩ | ⟨files, ends, stored, stores⟩
          · rw [failed]
            exact .failed stays
          · exact .uploaded ends file stored stores
  | uploadChecksum =>
      cases file : run.playbook.file with
      | none =>
          simp only [perform, file]
          exact .failed (.refl server)
      | some found =>
          simp only [perform, file]
          rcases documented.call_content server run run.artifact.repositoryName
              (checksumName found.1) (checksumContent sha256 found.1 found.2) with
            ⟨failed, stays⟩ | ⟨files, ends, stored, stores⟩
          · rw [failed]
            exact .failed stays
          · exact .summed ends file stored stores
  | createPublication =>
      have stays := documented.published server run.artifact.repositoryName
      cases made : (modules.publish server run.artifact.repositoryName).2 with
      | none =>
          simp only [perform, made, Option.map_none]
          exact .failed stays
      | some href =>
          obtain ⟨files, stored, published⟩ := documented.publishes server _ href made
          simp only [perform, made, Option.map_some]
          exact .published stays stored published
  | createDistribution =>
      cases registered : run.publicationDetails with
      | none =>
          simp only [perform, registered]
          exact .failed (.refl server)
      | some href =>
          simp only [perform, registered]
          rcases documented.call_distribution server run run.artifact.distributionName
              run.artifact.basePath "development" (some href) with
            ⟨failed, stays⟩ | ⟨ends, distributes⟩
          · rw [failed]
            exact .failed stays
          · exact .created ends registered distributes
  | updateArtifactsFile => exact .updated
  | checkDistribution =>
      by_cases found : modules.find server run.artifact.distributionName = some true
      · simp only [perform, found, if_true]
        exact .checked (documented.found server _ found)
      · simp only [perform, found, if_false]
        exact .failed (.refl server)
  | setContentGuard =>
      rcases documented.call_distribution server run run.artifact.distributionName
          run.artifact.basePath "release" none with ⟨failed, stays⟩ | ⟨ends, distributes⟩
      · simp only [perform, failed]
        exact .failed stays
      · exact .guarded ends distributes
  | printTag => exact .printed

end Called

structure Continues (run next : Run) : Prop where
  artifact : next.artifact = run.artifact
  playbook : next.playbook = run.playbook
  todo : next.todo = run.todo
  failed : next.failed = run.failed

theorem Performs.continues {task : Task} {after : σ} {next : Run}
    (performs : Performs modules sha256 server run task after (some next)) : Continues run next := by
  have same (ends : Ends run (some next)) : next = run := by
    rcases ends with impossible | same
    · cases impossible
    · exact Option.some.inj same
  cases performs with
  | ensured ends _ => exact same ends ▸ ⟨rfl, rfl, rfl, rfl⟩
  | uploaded ends _ _ _ => exact same ends ▸ ⟨rfl, rfl, rfl, rfl⟩
  | summed ends _ _ _ => exact same ends ▸ ⟨rfl, rfl, rfl, rfl⟩
  | created ends _ _ => exact same ends ▸ ⟨rfl, rfl, rfl, rfl⟩
  | guarded ends _ => exact same ends ▸ ⟨rfl, rfl, rfl, rfl⟩
  | _ => exact ⟨rfl, rfl, rfl, rfl⟩

theorem Performs.publications {task : Task} {after : σ} {next : Option Run}
    (performs : Performs modules sha256 server run task after next) (href : String) (files : Files)
    (found : modules.publications server href = some files) :
    modules.publications after href = some files := by
  cases performs with
  | failed stays => exact stays.publications href files found
  | ensured _ stores => exact stores.publications href files found
  | uploaded _ _ _ stores => exact stores.publications href files found
  | summed _ _ _ stores => exact stores.publications href files found
  | published stays _ _ => exact stays.publications href files found
  | created _ _ distributes => exact distributes.publications href files found
  | guarded _ distributes => exact distributes.publications href files found
  | _ => exact found

theorem Performs.elsewhere {task : Task} {after : σ} {next : Option Run}
    (performs : Performs modules sha256 server run task after next) {repository : String}
    (other : repository ≠ run.artifact.repositoryName) :
    modules.repositories after repository = modules.repositories server repository := by
  cases performs with
  | failed stays => rw [stays.repositories]
  | ensured _ stores => exact stores.others repository other
  | uploaded _ _ _ stores => exact stores.others repository other
  | summed _ _ _ stores => exact stores.others repository other
  | published stays _ _ => rw [stays.repositories]
  | created _ _ distributes => rw [distributes.repositories]
  | guarded _ distributes => rw [distributes.repositories]
  | _ => rfl

theorem Performs.otherName {task : Task} {after : σ} {next : Option Run}
    (performs : Performs modules sha256 server run task after next) {name : String}
    (other : name ≠ run.artifact.distributionName) :
    modules.distributions after name = modules.distributions server name := by
  cases performs with
  | failed stays => rw [stays.distributions]
  | ensured _ stores => rw [stores.distributions]
  | uploaded _ _ _ stores => rw [stores.distributions]
  | summed _ _ _ stores => rw [stores.distributions]
  | published stays _ _ => rw [stays.distributions]
  | created _ _ distributes => exact distributes.others name other
  | guarded _ distributes => exact distributes.others name other
  | _ => rfl

inductive Advances (modules : Modules σ) (sha256 : String → String) (server : σ) (run : Run) :
    σ × Run → Prop
  | finished : run.todo = [] → Advances modules sha256 server run (server, run)
  | stopped {task : Task} {rest : List Task} : run.todo = task :: rest →
      Advances modules sha256 server run (server, run.fails)
  | done {task : Task} {rest : List Task} {after : σ} {next : Option Run} :
      run.todo = task :: rest →
      Performs modules sha256 server { run with todo := rest } task after next →
      Advances modules sha256 server run (after, next.getD run.fails)

theorem advance_cases (documented : modules.Documented) (server : σ) (run : Run) :
    Advances modules sha256 server run (advance modules sha256 server run) := by
  unfold advance
  split
  · rename_i nothing
    exact .finished nothing
  · rename_i task rest todo
    exact .done todo (perform_performs documented server { run with todo := rest } task)

theorem step_advances (documented : modules.Documented) (sha256 : String → String) (world : World σ)
    (event : Event) :
    ∃ after next, Advances modules sha256 world.server (world.runs event.run) (after, next) ∧
      step modules sha256 world event = ⟨after, Function.update world.runs event.run next⟩ ∧
      (event = .advance event.run ∨ after = world.server) := by
  cases event with
  | advance index =>
      exact ⟨_, _, advance_cases documented world.server (world.runs index), rfl, Or.inl rfl⟩
  | fail index =>
      cases todo : (world.runs index).todo with
      | nil =>
          refine ⟨_, _, .finished todo, ?_, Or.inr rfl⟩
          simp only [Event.run, step, todo, if_true, Function.update_eq_self]
      | cons task rest =>
          refine ⟨_, _, .stopped todo, ?_, Or.inr rfl⟩
          simp only [Event.run, step, todo, reduceCtorEq, if_false]

end Stages

end Artifacts
