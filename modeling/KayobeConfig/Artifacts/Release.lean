import KayobeConfig.Artifacts.Playbooks

/-!
What Pulp serves under the tag of an artifact after any runs of the playbooks: the file of the
run that uploaded it, with the checksum of that file, and to clients only once it is promoted.
-/

namespace Artifacts

open Library

section Stages

variable {σ : Type} {modules : Modules σ} {sha256 : String → String} {server : σ} {run : Run}

theorem Holds.uploaded {playbook : Playbook} {name content : String}
    (file : playbook.file = some (name, content)) (files : Files) :
    Holds sha256 playbook false (Function.update files name (some content)) := by
  constructor
  · intro other _ found
    cases file.symm.trans found
    exact Function.update_self _ _ _
  · intro impossible
    cases impossible

theorem Holds.summed {playbook : Playbook} {name content : String}
    (file : playbook.file = some (name, content)) {files : Files}
    (holds : Holds sha256 playbook false files) :
    Holds sha256 playbook true
      (Function.update files (checksumName name) (some (checksumContent sha256 name content))) := by
  constructor
  · intro other _ found
    cases file.symm.trans found
    rw [Function.update_of_ne (checksumName_ne name).symm]
    exact holds.artifact name content file
  · intro _ other _ found
    cases file.symm.trans found
    exact Function.update_self _ _ _

theorem preparation_cases {earlier : List Task} (early : earlier <:+ [.findFile, .ensureRepository]) :
    earlier = [.findFile, .ensureRepository] ∨ earlier = [.ensureRepository] ∨ earlier = [] := by
  simpa [List.suffix_cons_iff] using early

theorem Stage.performs {task : Task} {rest : List Task} {after : σ} {next : Option Run}
    (stage : Stage modules sha256 server run) (todo : run.todo = task :: rest)
    (performs : Performs modules sha256 server { run with todo := rest } task after next) :
    Stage modules sha256 after (next.getD run.fails) := by
  cases next with
  | none => exact .fails after run
  | some next =>
      have continued (ends : Ends { run with todo := rest } (some next)) :
          next = { run with todo := rest } := by
        rcases ends with impossible | same
        · cases impossible
        · exact Option.some.inj same
      cases stage with
      | preparing foundFiles uploadChecksum earlier uploads early queue =>
          rw [queue] at todo
          rcases preparation_cases early with rfl | rfl | rfl
          · cases todo
            cases performs
            exact .preparing foundFiles uploadChecksum [.ensureRepository] uploads
              (List.suffix_cons _ _) rfl
          · cases todo
            cases performs with
            | ensured ends _ =>
                rw [continued ends]
                exact .preparing foundFiles uploadChecksum [] uploads List.nil_suffix rfl
          · cases todo
            cases performs with
            | @uploaded name content files _ _ ends file _ stores =>
                rw [continued ends]
                have holds : Holds sha256 run.playbook false
                    (Function.update files name (some content)) := .uploaded file files
                cases uploadChecksum with
                | true => exact .storing foundFiles _ uploads rfl stores.stored holds
                | false => exact .publishing foundFiles false _ uploads rfl stores.stored holds
      | storing foundFiles files uploads queue stored holds =>
          rw [queue] at todo
          cases todo
          cases performs with
          | summed ends file again stores =>
              rw [continued ends]
              cases stored.symm.trans again
              exact .publishing foundFiles true _ uploads rfl stores.stored (holds.summed file)
      | publishing foundFiles uploadChecksum files uploads queue stored holds =>
          rw [queue] at todo
          cases todo
          cases performs with
          | published _ again published =>
              cases stored.symm.trans again
              exact .distributing foundFiles uploadChecksum _ files uploads rfl rfl published holds
      | distributing foundFiles uploadChecksum href files uploads queue registered published holds =>
          rw [queue] at todo
          cases todo
          have continues : next.todo = _ := performs.continues.todo
          exact .ended (by rw [Option.getD_some, continues]; simp)
      | ended remaining =>
          rw [todo] at remaining
          have continues : next.todo = rest := performs.continues.todo
          exact .ended (by rw [Option.getD_some, continues]; exact (List.cons_subset.mp remaining).2)

theorem Stage.advances {after : σ} {next : Run} (stage : Stage modules sha256 server run)
    (advances : Advances modules sha256 server run (after, next)) : Stage modules sha256 after next := by
  cases advances with
  | finished nothing => exact stage
  | stopped todo => exact .fails server run
  | done todo performs => exact stage.performs todo performs

theorem Advances.publications {after : σ} {next : Run}
    (advances : Advances modules sha256 server run (after, next)) (href : String) (files : Files)
    (found : modules.publications server href = some files) :
    modules.publications after href = some files := by
  cases advances with
  | finished nothing => exact found
  | stopped todo => exact found
  | done todo performs => exact performs.publications href files found

theorem Advances.repositories {after : σ} {next : Run} (stage : Stage modules sha256 server run)
    (advances : Advances modules sha256 server run (after, next)) :
    (∀ repository ≠ run.artifact.repositoryName,
      modules.repositories after repository = modules.repositories server repository) ∧
    (.createDistribution ∉ run.todo → modules.repositories after = modules.repositories server) := by
  cases advances with
  | finished nothing => exact ⟨fun _ _ => rfl, fun _ => rfl⟩
  | stopped todo => exact ⟨fun _ _ => rfl, fun _ => rfl⟩
  | @done task rest _ _ todo performs =>
      refine ⟨fun repository other => performs.elsewhere other, fun absent => ?_⟩
      have last :
          task ∈ [Task.updateArtifactsFile, .checkDistribution, .setContentGuard, .printTag] := by
        cases stage with
        | preparing foundFiles uploadChecksum earlier uploads early queue =>
            rw [queue] at absent
            have member := createDistribution_mem_checksumTasks uploadChecksum
            exact absurd (by simp [member]) absent
        | storing foundFiles files uploads queue stored holds =>
            rw [queue] at absent
            exact absurd (by decide) absent
        | publishing foundFiles uploadChecksum files uploads queue stored holds =>
            rw [queue] at absent
            exact absurd (by decide) absent
        | distributing foundFiles uploadChecksum href files uploads queue registered published holds =>
            rw [queue] at absent
            exact absurd (by decide) absent
        | ended remaining =>
            rw [todo] at remaining
            exact (List.cons_subset.mp remaining).1
      cases performs with
      | failed stays => exact stays.repositories
      | ensured ends stores => simp at last
      | uploaded ends file stored stores => simp at last
      | summed ends file stored stores => simp at last
      | published stays stored published => exact stays.repositories
      | created ends registered distributes => exact distributes.repositories
      | guarded ends distributes => exact distributes.repositories
      | _ => rfl

theorem Advances.continues {after : σ} {next : Run}
    (advances : Advances modules sha256 server run (after, next)) :
    next.artifact = run.artifact ∧ next.playbook = run.playbook ∧ next.todo <:+ run.todo := by
  cases advances with
  | finished nothing => exact ⟨rfl, rfl, List.suffix_refl _⟩
  | stopped todo => exact ⟨rfl, rfl, List.nil_suffix⟩
  | @done task rest _ next todo performs =>
      cases next with
      | none => exact ⟨rfl, rfl, List.nil_suffix⟩
      | some next =>
          have continues := performs.continues
          refine ⟨continues.artifact, continues.playbook, ?_⟩
          rw [Option.getD_some, continues.todo, todo]
          exact List.suffix_cons _ _

def Sound (modules : Modules σ) (sha256 : String → String) (world : World σ) : Prop :=
  ∀ index, Stage modules sha256 world.server (world.runs index)

theorem Sound.step (documented : modules.Documented) {world : World σ} {event : Event}
    (sound : Sound modules sha256 world) (exclusive : Exclusive world event) :
    Sound modules sha256 (step modules sha256 world event) := by
  obtain ⟨after, next, advances, stepped, moved⟩ := step_advances documented sha256 world event
  rw [stepped]
  intro index
  by_cases same : index = event.run
  · subst same
    simp only [Function.update_self]
    exact (sound event.run).advances advances
  · simp only [Function.update_of_ne same]
    refine (sound index).elsewhere (fun underway => ?_) advances.publications
    by_cases shared : (world.runs index).artifact.repositoryName =
      (world.runs event.run).artifact.repositoryName
    · rcases moved with advanced | untouched
      · have ended : .createDistribution ∉ (world.runs event.run).todo := by
          intro uploading
          rw [advanced] at exclusive
          exact exclusive uploading index same shared underway
        rw [(advances.repositories (sound event.run)).2 ended]
      · rw [untouched]
    · exact (advances.repositories (sound event.run)).1 _ shared

end Stages

section Ledgers

variable {σ : Type} {modules : Modules σ} {sha256 : String → String} {artifact : Artifact}
  {upload : Nat} {foundFiles : List (String × String)} {uploadChecksum : Bool} {world : World σ}

structure Marks (distribution : Option Distribution) (run : Run) : Prop where
  created : run.playbook ≠ .promote → run.failed = false → .createDistribution ∉ run.todo →
    distribution ≠ none
  checked : run.playbook = .promote → run.failed = false → .checkDistribution ∉ run.todo →
    distribution ≠ none
  guarded : run.playbook = .promote → run.failed = false → .setContentGuard ∉ run.todo →
    ∃ guarded, distribution = some guarded ∧ guarded.contentGuard = "release"

/-- A run that promotes the artifact, and has begun to. -/
structure Promoting (artifact : Artifact) (run : Run) : Prop where
  artifact : run.artifact = artifact
  playbook : run.playbook = .promote
  begun : .checkDistribution ∉ run.todo

structure Released (modules : Modules σ) (sha256 : String → String) (artifact : Artifact)
    (foundFiles : List (String × String)) (uploadChecksum : Bool) (promoted : Prop) (server : σ)
    (distribution : Distribution) : Prop where
  basePath : distribution.basePath = artifact.basePath
  holds : ∃ files, modules.serves server distribution = some files ∧
    Holds sha256 (.upload foundFiles uploadChecksum) uploadChecksum files
  guard : distribution.contentGuard = "development" ∨
    distribution.contentGuard = "release" ∧ promoted

/-- The distribution of an artifact that one run uploads and any others promote. -/
structure Ledger (modules : Modules σ) (sha256 : String → String) (artifact : Artifact)
    (upload : Nat) (foundFiles : List (String × String)) (uploadChecksum : Bool) (world : World σ) :
    Prop where
  sound : Sound modules sha256 world
  queues : ∀ index, (world.runs index).todo <:+ (world.runs index).playbook.tasks
  running : ∀ index, (world.runs index).failed = true → (world.runs index).todo = []
  uploads : (world.runs upload).artifact = artifact ∧
    (world.runs upload).playbook = .upload foundFiles uploadChecksum
  others : ∀ index ≠ upload,
    (world.runs index).artifact.distributionName = artifact.distributionName →
      (world.runs index).artifact = artifact ∧ (world.runs index).playbook = .promote
  marks : ∀ index, (world.runs index).artifact.distributionName = artifact.distributionName →
    Marks (modules.distributions world.server artifact.distributionName) (world.runs index)
  served : ∀ distribution,
    modules.distributions world.server artifact.distributionName = some distribution →
      .createDistribution ∉ (world.runs upload).todo ∧
        Released modules sha256 artifact foundFiles uploadChecksum
          (∃ index, Promoting artifact (world.runs index)) world.server distribution

theorem createDistribution_not_mem_promote {run : Run} (promotes : run.playbook = .promote)
    (queue : run.todo <:+ run.playbook.tasks) : .createDistribution ∉ run.todo := by
  intro member
  have listed := queue.subset member
  rw [promotes] at listed
  exact absurd listed (by decide)

theorem setContentGuard_not_mem_upload {run : Run}
    (uploads : run.playbook = .upload foundFiles uploadChecksum)
    (queue : run.todo <:+ run.playbook.tasks) : .setContentGuard ∉ run.todo := by
  intro member
  have listed := queue.subset member
  rw [uploads] at listed
  cases uploadChecksum with
  | true => simp [Playbook.tasks, checksumTasks, publishTasks] at listed
  | false => simp [Playbook.tasks, checksumTasks, publishTasks] at listed

/-- A run that is about to create its distribution has registered the publication of its file. -/
theorem Stage.distributes {server : σ} {run : Run} {rest : List Task}
    (stage : Stage modules sha256 server run) (uploads : run.playbook = .upload foundFiles uploadChecksum)
    (todo : run.todo = .createDistribution :: rest) :
    .createDistribution ∉ rest ∧ ∃ href files, run.publicationDetails = some href ∧
      modules.publications server href = some files ∧
      Holds sha256 (.upload foundFiles uploadChecksum) uploadChecksum files := by
  cases stage with
  | preparing found checksum earlier other early queue =>
      rw [queue] at todo
      rcases preparation_cases early with rfl | rfl | rfl <;> cases todo
  | storing found files other queue stored holds =>
      rw [queue] at todo
      cases todo
  | publishing found checksum files other queue stored holds =>
      rw [queue] at todo
      cases todo
  | distributing found checksum href files other queue registered published holds =>
      rw [queue] at todo
      cases todo
      cases uploads.symm.trans other
      rw [uploads] at holds
      exact ⟨by decide, href, files, registered, published, holds⟩
  | ended remaining =>
      rw [todo] at remaining
      have member := (List.cons_subset.mp remaining).1
      exact absurd member (by decide)

theorem Advances.executed {server after : σ} {run next : Run} {task : Task}
    (advances : Advances modules sha256 server run (after, next)) (before : task ∈ run.todo)
    (gone : task ∉ next.todo) (unfailed : next.failed = false) :
    ∃ rest, run.todo = task :: rest ∧
      Performs modules sha256 server { run with todo := rest } task after (some next) := by
  cases advances with
  | finished nothing =>
      rw [nothing] at before
      cases before
  | stopped todo => cases unfailed
  | @done first rest _ next todo performs =>
      cases next with
      | none => cases unfailed
      | some next =>
          rw [Option.getD_some, performs.continues.todo] at gone
          rw [todo] at before
          rcases List.mem_cons.mp before with rfl | later
          · exact ⟨rest, todo, performs⟩
          · exact absurd later gone

theorem Advances.unfailed {server after : σ} {run next : Run}
    (advances : Advances modules sha256 server run (after, next)) (unfailed : next.failed = false) :
    run.failed = false := by
  cases advances with
  | finished nothing => exact unfailed
  | stopped todo => cases unfailed
  | @done first rest _ next todo performs =>
      cases next with
      | none => cases unfailed
      | some next => exact performs.continues.failed.symm.trans unfailed

/-- What an event makes of the distribution: it is as it was, or the upload creates it, or a
promotion gives it its content guard. -/
inductive Becomes (modules : Modules σ) (sha256 : String → String) (artifact : Artifact)
    (foundFiles : List (String × String)) (uploadChecksum : Bool) (uploading : Prop) (after : σ)
    (next : Run) (before : Option Distribution) : Option Distribution → Prop
  | kept : Becomes modules sha256 artifact foundFiles uploadChecksum uploading after next before before
  | created {href : String} {files : Files} : before = none → uploading →
      .createDistribution ∉ next.todo → modules.publications after href = some files →
      Holds sha256 (.upload foundFiles uploadChecksum) uploadChecksum files →
      Becomes modules sha256 artifact foundFiles uploadChecksum uploading after next before
        (some ⟨artifact.basePath, some href, "development"⟩)
  | promoted {distribution : Distribution} : before = some distribution → Promoting artifact next →
      Becomes modules sha256 artifact foundFiles uploadChecksum uploading after next before
        (some ⟨artifact.basePath, distribution.publication, "release"⟩)

theorem Performs.shorter {server after : σ} {run : Run} {task : Task} {rest : List Task}
    {next : Option Run}
    (performs : Performs modules sha256 server { run with todo := rest } task after next) :
    (next.getD run.fails).artifact = run.artifact ∧ (next.getD run.fails).playbook = run.playbook ∧
      (next.getD run.fails).todo <:+ rest := by
  cases next with
  | none => exact ⟨rfl, rfl, List.nil_suffix⟩
  | some next =>
      have continues := performs.continues
      exact ⟨continues.artifact, continues.playbook, by rw [Option.getD_some, continues.todo]⟩

/-- Only the upload creates the distribution, and only once. -/
theorem Ledger.creates {after : σ} {next : Run} {index : Nat} {rest : List Task} {href : String}
    (ledger : Ledger modules sha256 artifact upload foundFiles uploadChecksum world)
    (named : (world.runs index).artifact.distributionName = artifact.distributionName)
    (todo : (world.runs index).todo = .createDistribution :: rest) (shorter : next.todo <:+ rest)
    (registered : (world.runs index).publicationDetails = some href)
    (distributes : modules.Distributes world.server after (world.runs index).artifact.distributionName
      ⟨(world.runs index).artifact.basePath, some href, "development"⟩) :
    Becomes modules sha256 artifact foundFiles uploadChecksum (index = upload) after next
      (modules.distributions world.server artifact.distributionName)
      (modules.distributions after artifact.distributionName) := by
  have uploading : index = upload := by
    by_contra other
    have promotes := (ledger.others index other named).2
    exact createDistribution_not_mem_promote promotes (ledger.queues index) (by simp [todo])
  subst uploading
  obtain ⟨once, known, files, again, published, holds⟩ :=
    (ledger.sound index).distributes ledger.uploads.2 todo
  cases again.symm.trans registered
  have unborn : modules.distributions world.server artifact.distributionName = none := by
    cases found : modules.distributions world.server artifact.distributionName with
    | none => rfl
    | some distribution => exact absurd (by simp [todo]) (ledger.served distribution found).1
  have distributed := distributes.distributed
  rw [ledger.uploads.1] at distributed
  rw [distributed]
  exact .created unborn rfl (fun member => once (shorter.subset member))
    (distributes.publications _ _ published) holds

/-- A promotion finds the distribution before it sets the content guard. -/
theorem Ledger.guards {after : σ} {next : Run} {index : Nat} {rest : List Task}
    (ledger : Ledger modules sha256 artifact upload foundFiles uploadChecksum world)
    (named : (world.runs index).artifact.distributionName = artifact.distributionName)
    (todo : (world.runs index).todo = .setContentGuard :: rest)
    (sameArtifact : next.artifact = (world.runs index).artifact)
    (samePlaybook : next.playbook = (world.runs index).playbook) (shorter : next.todo <:+ rest)
    (distributes : modules.Distributes world.server after (world.runs index).artifact.distributionName
      ⟨(world.runs index).artifact.basePath,
        (modules.distributions world.server (world.runs index).artifact.distributionName).bind
          Distribution.publication, "release"⟩) :
    Becomes modules sha256 artifact foundFiles uploadChecksum (index = upload) after next
      (modules.distributions world.server artifact.distributionName)
      (modules.distributions after artifact.distributionName) := by
  have promotes : index ≠ upload := by
    rintro rfl
    exact setContentGuard_not_mem_upload ledger.uploads.2 (ledger.queues index) (by simp [todo])
  obtain ⟨same, playbook⟩ := ledger.others index promotes named
  have queue := ledger.queues index
  rw [playbook, todo] at queue
  have begun : .checkDistribution ∉ Task.setContentGuard :: rest := by
    have last : rest = [.printTag] := by
      simpa [Playbook.tasks, List.suffix_cons_iff] using queue
    rw [last]
    decide
  have unfailed : (world.runs index).failed = false := by
    cases failed : (world.runs index).failed with
    | false => rfl
    | true =>
        have nothing := ledger.running index failed
        rw [todo] at nothing
        cases nothing
  have born := (ledger.marks index named).checked playbook unfailed (by rwa [todo])
  obtain ⟨distribution, found⟩ := Option.ne_none_iff_exists'.mp born
  have promoting : Promoting artifact next :=
    ⟨sameArtifact.trans same, samePlaybook.trans playbook,
      fun member => begun (List.mem_cons_of_mem _ (shorter.subset member))⟩
  have distributed := distributes.distributed
  rw [same, found, Option.bind_some] at distributed
  rw [distributed]
  exact .promoted found promoting

theorem Ledger.becomes {after : σ} {next : Run} {index : Nat}
    (ledger : Ledger modules sha256 artifact upload foundFiles uploadChecksum world)
    (advances : Advances modules sha256 world.server (world.runs index) (after, next)) :
    Becomes modules sha256 artifact foundFiles uploadChecksum (index = upload) after next
      (modules.distributions world.server artifact.distributionName)
      (modules.distributions after artifact.distributionName) := by
  cases advances with
  | finished nothing => exact .kept
  | stopped todo => exact .kept
  | @done task rest _ next todo performs =>
      obtain ⟨sameArtifact, samePlaybook, shorter⟩ := performs.shorter
      by_cases named : (world.runs index).artifact.distributionName = artifact.distributionName
      · have kept (same : modules.distributions after = modules.distributions world.server) :
            Becomes modules sha256 artifact foundFiles uploadChecksum (index = upload) after
              (next.getD (world.runs index).fails)
              (modules.distributions world.server artifact.distributionName)
              (modules.distributions after artifact.distributionName) := by
          rw [same]
          exact .kept
        cases performs with
        | created ends registered distributes =>
            exact ledger.creates named todo shorter registered distributes
        | guarded ends distributes =>
            exact ledger.guards named todo sameArtifact samePlaybook shorter distributes
        | failed stays => exact kept stays.distributions
        | ensured ends stores => exact kept stores.distributions
        | uploaded ends file stored stores => exact kept stores.distributions
        | summed ends file stored stores => exact kept stores.distributions
        | published stays stored published => exact kept stays.distributions
        | _ => exact .kept
      · rw [performs.otherName (Ne.symm named)]
        exact .kept

theorem Becomes.mono {uploading : Prop} {server : σ} {next : Run} {before after : Option Distribution}
    (becomes : Becomes modules sha256 artifact foundFiles uploadChecksum uploading server next before
      after) (born : before ≠ none) : after ≠ none := by
  cases becomes with
  | kept => exact born
  | created _ _ _ _ _ => simp
  | promoted found _ => simp

theorem Becomes.guarded {uploading : Prop} {server : σ} {next : Run}
    {before after : Option Distribution}
    (becomes : Becomes modules sha256 artifact foundFiles uploadChecksum uploading server next before
      after)
    (guarded : ∃ distribution, before = some distribution ∧ distribution.contentGuard = "release") :
    ∃ distribution, after = some distribution ∧ distribution.contentGuard = "release" := by
  obtain ⟨distribution, found, release⟩ := guarded
  cases becomes with
  | kept => exact ⟨distribution, found, release⟩
  | created unborn _ _ _ _ =>
      rw [unborn] at found
      cases found
  | promoted found _ => exact ⟨_, rfl, rfl⟩

theorem createDistribution_mem_upload (foundFiles : List (String × String)) (uploadChecksum : Bool) :
    .createDistribution ∈ (Playbook.upload foundFiles uploadChecksum).tasks := by
  simp [Playbook.tasks, createDistribution_mem_checksumTasks]

theorem Marks.of (distribution : Option Distribution) (artifact : Artifact) (playbook : Playbook) :
    Marks distribution (.of artifact playbook) := by
  cases playbook with
  | upload foundFiles uploadChecksum =>
      have member := createDistribution_mem_upload foundFiles uploadChecksum
      exact ⟨fun _ _ gone => absurd member gone, fun impossible => (by cases impossible),
        fun impossible => (by cases impossible)⟩
  | promote =>
      have member : .checkDistribution ∈ (Run.of artifact .promote).todo := by
        simp [Run.of, Playbook.tasks]
      have later : .setContentGuard ∈ (Run.of artifact .promote).todo := by
        simp [Run.of, Playbook.tasks]
      exact ⟨fun uploads => absurd rfl uploads, fun _ _ gone => absurd member gone,
        fun _ _ gone => absurd later gone⟩

theorem Marks.mono {uploading : Prop} {server : σ} {next : Run} {before after : Option Distribution}
    {run : Run} (marks : Marks before run)
    (becomes : Becomes modules sha256 artifact foundFiles uploadChecksum uploading server next before
      after) : Marks after run where
  created uploads unfailed gone := becomes.mono (marks.created uploads unfailed gone)
  checked promotes unfailed gone := becomes.mono (marks.checked promotes unfailed gone)
  guarded promotes unfailed gone := becomes.guarded (marks.guarded promotes unfailed gone)

theorem Marks.advances {uploading : Prop} {server after : σ} {run next : Run}
    (marks : Marks (modules.distributions server artifact.distributionName) run)
    (named : run.artifact.distributionName = artifact.distributionName)
    (becomes : Becomes modules sha256 artifact foundFiles uploadChecksum uploading after next
      (modules.distributions server artifact.distributionName)
      (modules.distributions after artifact.distributionName))
    (advances : Advances modules sha256 server run (after, next)) :
    Marks (modules.distributions after artifact.distributionName) next := by
  have same := advances.continues.2.1
  have later := marks.mono becomes
  constructor
  · intro uploads unfailed gone
    by_cases before : .createDistribution ∈ run.todo
    · obtain ⟨rest, todo, performs⟩ := advances.executed before gone unfailed
      cases performs with
      | created ends registered distributes =>
          have distributed := distributes.distributed
          dsimp only at distributed
          rw [named] at distributed
          simp [distributed]
    · exact later.created (same ▸ uploads) (advances.unfailed unfailed) before
  · intro promotes unfailed gone
    by_cases before : .checkDistribution ∈ run.todo
    · obtain ⟨rest, todo, performs⟩ := advances.executed before gone unfailed
      cases performs with
      | checked found =>
          rw [← named]
          exact found
    · exact later.checked (same ▸ promotes) (advances.unfailed unfailed) before
  · intro promotes unfailed gone
    by_cases before : .setContentGuard ∈ run.todo
    · obtain ⟨rest, todo, performs⟩ := advances.executed before gone unfailed
      cases performs with
      | guarded ends distributes =>
          have distributed := distributes.distributed
          dsimp only at distributed
          rw [named] at distributed
          exact ⟨_, distributed, rfl⟩
    · exact later.guarded (same ▸ promotes) (advances.unfailed unfailed) before

theorem Promoting.continues {run next : Run} (promoting : Promoting artifact run)
    (sameArtifact : next.artifact = run.artifact) (samePlaybook : next.playbook = run.playbook)
    (shorter : next.todo <:+ run.todo) : Promoting artifact next where
  artifact := sameArtifact.trans promoting.artifact
  playbook := samePlaybook.trans promoting.playbook
  begun member := promoting.begun (shorter.subset member)

theorem Released.imp {promoted later : Prop} {server after : σ} {distribution : Distribution}
    (released : Released modules sha256 artifact foundFiles uploadChecksum promoted server distribution)
    (published : ∀ href files, modules.publications server href = some files →
      modules.publications after href = some files) (still : promoted → later) :
    Released modules sha256 artifact foundFiles uploadChecksum later after distribution := by
  refine ⟨released.basePath, ?_, released.guard.imp id (And.imp id still)⟩
  obtain ⟨files, serves, holds⟩ := released.holds
  obtain ⟨href, registered, found⟩ := Option.bind_eq_some_iff.mp serves
  exact ⟨files, Option.bind_eq_some_iff.mpr ⟨href, registered, published href files found⟩, holds⟩

theorem Ledger.step (documented : modules.Documented) {event : Event}
    (ledger : Ledger modules sha256 artifact upload foundFiles uploadChecksum world)
    (exclusive : Exclusive world event) :
    Ledger modules sha256 artifact upload foundFiles uploadChecksum (step modules sha256 world event) := by
  have sound := ledger.sound.step documented exclusive
  obtain ⟨after, next, advances, stepped, _⟩ := step_advances documented sha256 world event
  have becomes := ledger.becomes advances
  obtain ⟨sameArtifact, samePlaybook, shorter⟩ := advances.continues
  rw [stepped] at sound ⊢
  -- What each run is after the event, it is a shorter form of what it was.
  have each : ∀ index, ∃ run, Function.update world.runs event.run next index = run ∧
      run.artifact = (world.runs index).artifact ∧ run.playbook = (world.runs index).playbook ∧
      run.todo <:+ (world.runs index).todo ∧
        (run = world.runs index ∨ index = event.run ∧ run = next) := by
    intro index
    by_cases same : index = event.run
    · subst same
      exact ⟨next, Function.update_self _ _ _, sameArtifact, samePlaybook, shorter, Or.inr ⟨rfl, rfl⟩⟩
    · exact ⟨_, Function.update_of_ne same _ _, rfl, rfl, List.suffix_refl _, Or.inl rfl⟩
  constructor
  · exact sound
  · intro index
    obtain ⟨run, here, _, playbook, todo, _⟩ := each index
    simp only [here, playbook]
    exact todo.trans (ledger.queues index)
  · intro index
    obtain ⟨run, here, _, _, todo, rfl | ⟨rfl, rfl⟩⟩ := each index
    · simp only [here]
      exact ledger.running index
    · simp only [here]
      cases advances with
      | finished nothing => exact ledger.running event.run
      | stopped queue => exact fun _ => rfl
      | @done _ _ _ next queue performs =>
          cases next with
          | none => exact fun _ => rfl
          | some next =>
              intro failed
              have nothing := ledger.running event.run (performs.continues.failed.symm.trans failed)
              rw [queue] at nothing
              cases nothing
  · obtain ⟨run, here, artifact, playbook, _, _⟩ := each upload
    simp only [here, artifact, playbook]
    exact ledger.uploads
  · intro index other
    obtain ⟨run, here, artifact, playbook, _, _⟩ := each index
    simp only [here, artifact, playbook]
    exact ledger.others index other
  · intro index
    obtain ⟨run, here, _, _, _, rfl | ⟨rfl, rfl⟩⟩ := each index
    · simp only [here]
      exact fun named => (ledger.marks index named).mono becomes
    · simp only [here, sameArtifact]
      exact fun named => (ledger.marks event.run named).advances named becomes advances
  · have still : (∃ index, Promoting artifact (world.runs index)) →
        ∃ index, Promoting artifact (Function.update world.runs event.run next index) := by
      rintro ⟨index, promoting⟩
      obtain ⟨run, here, artifact, playbook, todo, _⟩ := each index
      exact ⟨index, here ▸ promoting.continues artifact playbook todo⟩
    obtain ⟨run, here, _, _, todo, moved⟩ := each upload
    simp only [here]
    generalize modules.distributions after artifact.distributionName = changed at becomes
    intro distribution found
    cases becomes with
    | kept =>
        obtain ⟨gone, released⟩ := ledger.served distribution found
        exact ⟨fun member => gone (todo.subset member), released.imp advances.publications still⟩
    | created unborn uploading once published holds =>
        cases found
        subst uploading
        rw [Function.update_self] at here
        subst here
        exact ⟨once, rfl, ⟨_, published, holds⟩, Or.inl rfl⟩
    | promoted before promoting =>
        obtain ⟨gone, released⟩ := ledger.served _ before
        cases found
        refine ⟨fun member => gone (todo.subset member), rfl,
          (released.imp advances.publications still).holds, Or.inr ⟨rfl, event.run, ?_⟩⟩
        rw [Function.update_self]
        exact promoting

theorem runs_runFrom (documented : modules.Documented) (sha256 : String → String) (start : World σ)
    (events : List Event) (index : Nat) :
    ((runFrom (step modules sha256) start events).runs index).artifact = (start.runs index).artifact ∧
      ((runFrom (step modules sha256) start events).runs index).playbook =
        (start.runs index).playbook ∧
      ((runFrom (step modules sha256) start events).runs index).todo <:+ (start.runs index).todo := by
  induction events using List.reverseRecOn with
  | nil => exact ⟨rfl, rfl, List.suffix_refl _⟩
  | append_singleton events last ih =>
      rw [runFrom_snoc]
      obtain ⟨after, next, advances, stepped, _⟩ :=
        step_advances documented sha256 (runFrom (step modules sha256) start events) last
      rw [stepped]
      dsimp only
      by_cases same : index = last.run
      · subst same
        rw [Function.update_self]
        obtain ⟨artifact, playbook, todo⟩ := advances.continues
        exact ⟨artifact.trans ih.1, playbook.trans ih.2.1, todo.trans ih.2.2⟩
      · rw [Function.update_of_ne same]
        exact ih

/-- Uploads to different repositories may run at the same time. -/
theorem exclusive_of_distinct (documented : modules.Documented) {start : World σ}
    (fresh : ∀ index, ∃ artifact playbook, start.runs index = .of artifact playbook)
    (distinct : ∀ index other, other ≠ index → (start.runs index).playbook ≠ .promote →
      (start.runs other).playbook ≠ .promote →
        (start.runs other).artifact.repositoryName ≠ (start.runs index).artifact.repositoryName)
    (events : List Event) : Along (step modules sha256) Exclusive start events := by
  have uploading : ∀ past index,
      .createDistribution ∈ ((runFrom (step modules sha256) start past).runs index).todo →
        (start.runs index).playbook ≠ .promote := by
    intro past index member promotes
    obtain ⟨artifact, playbook, here⟩ := fresh index
    have queued := (runs_runFrom documented sha256 start past index).2.2.subset member
    rw [here] at promotes queued
    cases promotes
    simp [Run.of, Playbook.tasks] at queued
  intro past event _
  cases event with
  | fail index => trivial
  | advance index =>
      intro here other different same underway
      rw [(runs_runFrom documented sha256 start past index).1,
        (runs_runFrom documented sha256 start past other).1] at same
      exact distinct index other different (uploading past index here)
        (uploading past other underway.1) same

theorem exclusive_of_alone (documented : modules.Documented) {start : World σ}
    (fresh : ∀ index, ∃ artifact playbook, start.runs index = .of artifact playbook)
    (alone : ∀ index ≠ upload, (start.runs index).playbook = .promote) (events : List Event) :
    Along (step modules sha256) Exclusive start events := by
  refine exclusive_of_distinct documented fresh (fun index other different first second => ?_) events
  have same : index = upload := by_contra fun elsewhere => first (alone index elsewhere)
  have also : other = upload := by_contra fun elsewhere => second (alone other elsewhere)
  exact absurd (also.trans same.symm) different

theorem Ledger.start {start : World σ}
    (fresh : ∀ index, ∃ artifact playbook, start.runs index = .of artifact playbook)
    (uploads : start.runs upload = .of artifact (.upload foundFiles uploadChecksum))
    (others : ∀ index ≠ upload,
      (start.runs index).artifact.distributionName = artifact.distributionName →
        start.runs index = .of artifact .promote)
    (unborn : modules.distributions start.server artifact.distributionName = none) :
    Ledger modules sha256 artifact upload foundFiles uploadChecksum start := by
  constructor
  · intro index
    obtain ⟨artifact, playbook, here⟩ := fresh index
    rw [here]
    exact .of _ artifact playbook
  · intro index
    obtain ⟨artifact, playbook, here⟩ := fresh index
    rw [here]
    exact List.suffix_refl _
  · intro index failed
    obtain ⟨artifact, playbook, here⟩ := fresh index
    rw [here] at failed
    cases failed
  · rw [uploads]
    exact ⟨rfl, rfl⟩
  · intro index other named
    rw [others index other named]
    exact ⟨rfl, rfl⟩
  · intro index _
    obtain ⟨artifact, playbook, here⟩ := fresh index
    rw [here]
    exact .of _ artifact playbook
  · intro distribution found
    rw [unborn] at found
    cases found

theorem Ledger.run (documented : modules.Documented) {start : World σ} {events : List Event}
    (ledger : Ledger modules sha256 artifact upload foundFiles uploadChecksum start)
    (exclusive : Along (Artifacts.step modules sha256) Exclusive start events) :
    Ledger modules sha256 artifact upload foundFiles uploadChecksum
      (runFrom (Artifacts.step modules sha256) start events) :=
  invariant_runFrom (fun _ _ ledger possible => Ledger.step documented ledger possible) ledger
    exclusive

/-- A promotion that completes has released the artifact. -/
theorem Ledger.released {index : Nat}
    (ledger : Ledger modules sha256 artifact upload foundFiles uploadChecksum world)
    (promotes : (world.runs index).artifact = artifact ∧ (world.runs index).playbook = .promote)
    (completed : (world.runs index).Completed) :
    ∃ distribution,
      modules.distributions world.server artifact.distributionName = some distribution ∧
        distribution.contentGuard = "release" := by
  have named : (world.runs index).artifact.distributionName = artifact.distributionName := by
    rw [promotes.1]
  exact (ledger.marks index named).guarded promotes.2 completed.2 (by simp [completed.1])

/-- Whatever runs interleave and fail, the distribution of an artifact that one run uploads serves
the file of that run with its checksum. Only a promotion releases it, and one that completes has. -/
theorem artifact_release_exact (documented : modules.Documented) {start : World σ}
    {events : List Event}
    (fresh : ∀ index, ∃ artifact playbook, start.runs index = .of artifact playbook)
    (uploads : start.runs upload = .of artifact (.upload foundFiles uploadChecksum))
    (others : ∀ index ≠ upload,
      (start.runs index).artifact.distributionName = artifact.distributionName →
        start.runs index = .of artifact .promote)
    (unborn : modules.distributions start.server artifact.distributionName = none)
    (exclusive : Along (step modules sha256) Exclusive start events) {final : World σ}
    (ends : final = runFrom (step modules sha256) start events) :
    (∀ distribution,
      modules.distributions final.server artifact.distributionName = some distribution →
        Released modules sha256 artifact foundFiles uploadChecksum
          (∃ index, Promoting artifact (final.runs index)) final.server distribution) ∧
    ((final.runs upload).Completed →
      modules.distributions final.server artifact.distributionName ≠ none) ∧
    ∀ index, start.runs index = .of artifact .promote → (final.runs index).Completed →
      ∃ distribution,
        modules.distributions final.server artifact.distributionName = some distribution ∧
          distribution.contentGuard = "release" := by
  have initial : Ledger modules sha256 artifact upload foundFiles uploadChecksum start :=
    .start fresh uploads others unborn
  have ledger : Ledger modules sha256 artifact upload foundFiles uploadChecksum final := by
    rw [ends]
    exact initial.run documented exclusive
  refine ⟨fun distribution found => (ledger.served distribution found).2, ?_, ?_⟩
  · rintro ⟨finished, unfailed⟩
    have named : (final.runs upload).artifact.distributionName = artifact.distributionName := by
      rw [ledger.uploads.1]
    refine (ledger.marks upload named).created ?_ unfailed ?_
    · simp [ledger.uploads.2]
    · simp [finished]
  · intro index begins completed
    obtain ⟨sameArtifact, samePlaybook, _⟩ := runs_runFrom documented sha256 start events index
    rw [← ends, begins] at sameArtifact samePlaybook
    exact ledger.released ⟨sameArtifact, samePlaybook⟩ completed

end Ledgers

/-- A server whose publications are numbered, with references of as many digits. -/
structure Server where
  repositories : String → Option Files
  publications : List Files
  distributions : String → Option Distribution

def Server.empty : Server := ⟨fun _ => none, [], fun _ => none⟩

def Server.store (server : Server) (repository : String) (files : Files) : Server :=
  { server with repositories := Function.update server.repositories repository (some files) }

def Server.distribute (server : Server) (name : String) (distribution : Distribution) : Server :=
  { server with distributions := Function.update server.distributions name (some distribution) }

def Server.present (server : Server) : Change → Server × Bool
  | .repository name =>
      (server.store name ((server.repositories name).getD fun _ => none), true)
  | .content repository relativePath content =>
      match server.repositories repository with
      | none => (server, false)
      | some files =>
          (server.store repository (Function.update files relativePath (some content)), true)
  | .distribution name basePath publication contentGuard =>
      let kept := (server.distributions name).bind Distribution.publication
      (server.distribute name ⟨basePath, publication.or kept, contentGuard⟩, true)

def publicationHref (number : Nat) : String := String.ofList (List.replicate number '1')

def Server.publish (server : Server) (repository : String) : Server × Option String :=
  match server.repositories repository with
  | none => (server, none)
  | some files =>
      ({ server with publications := server.publications ++ [files] },
        some (publicationHref server.publications.length))

def serverModules : Modules Server where
  repositories := Server.repositories
  publications server href := server.publications[href.length]?
  distributions := Server.distributions
  present := Server.present
  publish := Server.publish
  find server name := some (server.distributions name).isSome

theorem serverModules_publish (server : Server) (repository : String) :
    serverModules.Stays server (server.publish repository).1 := by
  unfold Server.publish
  split
  · exact .refl server
  · refine ⟨rfl, rfl, fun href files found => ?_⟩
    exact (List.getElem?_append_left (List.getElem?_eq_some_iff.mp found).1).trans found

theorem serverModules_documented : serverModules.Documented where
  made server change done := by
    cases change with
    | repository name => exact .repository (Function.update_self _ _ _)
    | content repository relativePath content =>
        cases stored : server.repositories repository with
        | none => simp [serverModules, Server.present, stored] at done
        | some files =>
            simp only [serverModules, Server.present, stored]
            exact .content stored (Function.update_self _ _ _)
    | distribution name basePath publication contentGuard =>
        exact .distribution (Function.update_self _ _ _)
  failed server change failed := by
    cases change with
    | repository name => cases failed
    | content repository relativePath content =>
        cases stored : server.repositories repository with
        | none =>
            simp only [serverModules, Server.present, stored]
            exact Or.inl (.refl server)
        | some files => simp [serverModules, Server.present, stored] at failed
    | distribution name basePath publication contentGuard => cases failed
  otherRepositories server change name other := by
    cases change with
    | repository named =>
        exact Function.update_of_ne (fun same => other (congrArg some same.symm)) _ _
    | content repository relativePath content =>
        simp only [serverModules, Server.present]
        split
        · rfl
        · exact Function.update_of_ne (fun same => other (congrArg some same.symm)) _ _
    | distribution named basePath publication contentGuard => rfl
  otherDistributions server change name other := by
    cases change with
    | repository named => rfl
    | content repository relativePath content =>
        simp only [serverModules, Server.present]
        split <;> rfl
    | distribution named basePath publication contentGuard =>
        exact Function.update_of_ne (fun same => other (congrArg some same.symm)) _ _
  keptPublications server change href files found := by
    cases change with
    | repository named => exact found
    | content repository relativePath content =>
        simp only [serverModules, Server.present]
        split <;> exact found
    | distribution named basePath publication contentGuard => exact found
  published := serverModules_publish
  publishes server repository href made := by
    cases stored : server.repositories repository with
    | none => simp [serverModules, Server.publish, stored] at made
    | some files =>
        simp only [serverModules, Server.publish, stored, Option.some.injEq] at made
        subst made
        refine ⟨files, stored, ?_⟩
        simp [serverModules, Server.publish, stored, publicationHref]
  found server name found := by
    simpa [serverModules, Option.isSome_iff_ne_none] using found

def amphoraImage : Artifact :=
  ⟨"amphora-images-2026.1", "amphora-images/2026.1", "2026.1-20261103T134107"⟩

def amphoraFiles : List (String × String) := [("amphora-x64-haproxy.qcow2", "QFI")]

/-- One run promotes the image too early, and others of its name wait. -/
def amphoraWorld : World Server where
  server := .empty
  runs index := .of amphoraImage (if index = 0 then .upload amphoraFiles true else .promote)

def amphoraEvents : List Event :=
  [.advance 0, .advance 0, .advance 2, .advance 0, .advance 0, .advance 0, .advance 0, .fail 0,
    .advance 1, .advance 1, .advance 1]

theorem artifact_release_exact_amphora :
    let final := runFrom (step serverModules fun content => content ++ "#") amphoraWorld amphoraEvents
    ∃ distribution files,
      serverModules.distributions final.server amphoraImage.distributionName = some distribution ∧
      distribution.contentGuard = "release" ∧
      serverModules.serves final.server distribution = some files ∧
      files "amphora-x64-haproxy.qcow2" = some "QFI" ∧
      files "amphora-x64-haproxy.qcow2.sha256" = some "QFI# amphora-x64-haproxy.qcow2" := by
  have fresh : ∀ index, ∃ artifact playbook, amphoraWorld.runs index = .of artifact playbook :=
    fun index => ⟨_, _, rfl⟩
  have uploads : amphoraWorld.runs 0 = .of amphoraImage (.upload amphoraFiles true) := rfl
  have others : ∀ index ≠ 0,
      (amphoraWorld.runs index).artifact.distributionName = amphoraImage.distributionName →
        amphoraWorld.runs index = .of amphoraImage .promote := by
    intro index other _
    simp [amphoraWorld, other]
  have alone : ∀ index ≠ 0, (amphoraWorld.runs index).playbook = .promote := by
    intro index other
    simp [amphoraWorld, Run.of, other]
  have exclusive : Along (step serverModules fun content => content ++ "#") Exclusive amphoraWorld
      amphoraEvents := exclusive_of_alone serverModules_documented fresh alone amphoraEvents
  obtain ⟨serves, _, guards⟩ :=
    artifact_release_exact serverModules_documented fresh uploads others rfl exclusive rfl
  obtain ⟨distribution, found, release⟩ := guards 1 rfl (by decide)
  obtain ⟨files, served, contents⟩ := (serves distribution found).holds
  exact ⟨distribution, files, found, release, served, contents.artifact _ _ rfl,
    contents.checksum rfl _ _ rfl⟩

end Artifacts
