import KayobeConfig.Octavia.History

/-!
What a run of `octavia-amphora-image-register.yml` that completes has done, and that a run completes
after any failures of earlier ones.
-/

namespace Octavia

open Library

section Runs

variable {md5 : String → String} {update : List Image → Option (List Image)}
  {before : List Image} {world : World}

/-- What a run that has completed leaves: Octavia takes the image with the data of the file, and to
delete this image, if the run has added it, brings back what Octavia took before. -/
structure Registered (md5 : String → String) (settings : Settings) (begun world : World)
    (content : String) : Prop where
  fetched : download settings begun.file = some content
  chosen : ∃ image, chosen world.images = some image ∧ image.checksum = some (md5 content) ∧
    world.images.filter Image.named = [image]
  rollback : history world.images = history begun.images ∨
    history (world.images.eraseP Image.tagged) = history begun.images

theorem Stage.suffix (stage : Stage md5 before world) :
    world.run.todo <:+ .precheck :: .downloadImage :: registerTasks := by
  cases stage with
  | ended todo =>
      rw [todo]
      exact List.nil_suffix
  | preparing earlier early todo =>
      obtain ⟨done, all⟩ := early
      exact ⟨done, by rw [todo, ← List.append_assoc, all]; rfl⟩
  | checking todo => exact ⟨[.precheck, .downloadImage, .getChecksum], by rw [todo]; rfl⟩
  | checked earlier content early todo =>
      obtain ⟨done, all⟩ := early
      refine ⟨[.precheck, .downloadImage, .getChecksum, .assertExists] ++ done, ?_⟩
      rw [todo, List.append_assoc, ← List.append_assoc done, all]
      rfl
  | queried content todo =>
      refine ⟨[.precheck, .downloadImage, .getChecksum, .assertExists, .installPackages,
        .setUpVirtualenv, .queryImage], ?_⟩
      rw [todo]
      rfl
  | renamed content todo =>
      refine ⟨[.precheck, .downloadImage, .getChecksum, .assertExists, .installPackages,
        .setUpVirtualenv, .queryImage, .renameOld], ?_⟩
      rw [todo]
      rfl
  | completed content image todo =>
      rw [todo]
      exact List.nil_suffix

/-- The file of a run that has not failed, from the one that was there at its start. -/
structure Fetches (settings : Settings) (start : Option String) (world : World) : Prop where
  given : world.run.settings = settings
  file : world.run.failed = false →
    world.file = if .downloadImage ∈ world.run.todo then start else download settings start

section Fetching

variable {settings : Settings} {start : Option String}

theorem Fetches.fails (fetches : Fetches settings start world) : Fetches settings start world.fails :=
  ⟨fetches.given, fun unfailed => by cases unfailed⟩

theorem Fetches.advance (fetches : Fetches settings start world) (stage : Stage md5 before world) :
    Fetches settings start (advance md5 update world) := by
  cases todo : world.run.todo with
  | nil =>
      unfold Octavia.advance
      rw [todo]
      exact fetches
  | cons task rest =>
      rw [advance_cons todo]
      cases performed : perform md5 update { world with run.todo := rest } task with
      | none =>
          rw [Option.getD_none]
          exact ⟨fetches.given, fun unfailed => by cases unfailed⟩
      | some next =>
          rw [Option.getD_some]
          obtain ⟨sameSettings, sameTodo, sameFailed, file⟩ := perform_kept performed
          refine ⟨sameSettings.trans fetches.given, fun unfailed => ?_⟩
          have before := fetches.file (sameFailed.symm.trans unfailed)
          have distinct : world.run.todo.Nodup := stage.suffix.sublist.nodup (by decide)
          rw [todo, List.nodup_cons] at distinct
          dsimp only at file sameTodo
          rw [file, sameTodo]
          by_cases downloads : task = .downloadImage
          · rw [downloads] at distinct
            rw [if_pos downloads, if_neg distinct.1, fetches.given, before, todo, downloads,
              if_pos List.mem_cons_self]
          · have same : .downloadImage ∈ world.run.todo ↔ .downloadImage ∈ rest := by
              rw [todo, List.mem_cons, or_iff_right (Ne.symm downloads)]
            rw [if_neg downloads, before, if_congr same rfl rfl]

theorem Fetches.step (fetches : Fetches settings start world) (stage : Stage md5 before world)
    {event : Event} (ongoing : event.ongoing = true) :
    Fetches settings start (step md5 update world event) := by
  cases event with
  | start settings => cases ongoing
  | copy content => cases ongoing
  | rollback => cases ongoing
  | advance => exact fetches.advance stage
  | fail afterEffect =>
      unfold Octavia.step
      dsimp only
      split
      · exact fetches
      · cases afterEffect with
        | false => exact fetches.fails
        | true => exact (fetches.advance stage).fails
  | interrupt =>
      unfold Octavia.step interrupt
      dsimp only
      split
      · exact ⟨fetches.given, fun unfailed => by cases unfailed⟩
      · exact fetches
  | others images => exact ⟨fetches.given, fetches.file⟩

theorem underway_run (underway : Underway md5 before world)
    (fetches : Fetches settings start world) {events : List Event}
    (ongoing : ∀ event ∈ events, event.ongoing = true)
    (possible : Along (step md5 update) Possible world events) :
    Underway md5 before (runFrom (step md5 update) world events) ∧
      Fetches settings start (runFrom (step md5 update) world events) := by
  induction events generalizing world with
  | nil => exact ⟨underway, fetches⟩
  | cons event events ih =>
      obtain ⟨now, later⟩ := along_cons.mp possible
      have here := ongoing event List.mem_cons_self
      have next : Underway md5 before (step md5 update world event) := underway.step here now
      have also : Fetches settings start (step md5 update world event) :=
        fetches.step underway.stage here
      exact ih next also (fun other member => ongoing other (List.mem_cons_of_mem _ member)) later

end Fetching

theorem registered_of_completed {settings : Settings} {begun : World}
    (underway : Underway md5 (history begun.images) world)
    (fetches : Fetches settings begun.file world) (completed : world.run.Completed) :
    ∃ content, Registered md5 settings begun world content := by
  cases underway.stage with
  | ended todo failed => exact absurd (failed.symm.trans completed.2) (by decide)
  | preparing earlier early todo => simp [todo, Run.Completed, registerTasks] at completed
  | checking todo => simp [todo, Run.Completed, registerTasks] at completed
  | checked earlier content early todo => simp [todo, Run.Completed, queryTasks] at completed
  | queried content todo => simp [todo, Run.Completed, replaceTasks] at completed
  | renamed content todo => simp [todo, Run.Completed] at completed
  | completed content image todo file chooses named checksum earlier =>
      refine ⟨content, ?_, ⟨image, chooses, checksum, ?_⟩, ?_⟩
      · have fetched := fetches.file completed.2
        rw [todo, if_neg List.not_mem_nil] at fetched
        exact fetched.symm.trans file
      · have member : image ∈ world.images.filter Image.named :=
          List.mem_filter.mpr ⟨List.mem_of_find?_eq_some chooses, named⟩
        rcases underway.orderly.named_cases with absent | ⟨only, one, _⟩
        · simp [absent] at member
        · rw [one, List.mem_singleton] at member
          rw [one, member]
      · rw [history_rollback]
        exact earlier

/-- Nothing that the run does fails, and nothing else concerns it. -/
def Event.smooth : Event → Bool
  | .advance | .others _ => true
  | _ => false

theorem Event.smooth_ongoing {event : Event} (smooth : event.smooth = true) :
    event.ongoing = true := by
  cases event with
  | advance => rfl
  | others images => rfl
  | start settings => cases smooth
  | fail afterEffect => cases smooth
  | interrupt => cases smooth
  | copy content => cases smooth
  | rollback => cases smooth

section Smooth

variable {settings : Settings} {start : Option String} {content : String}
  (user : settings.osUsername = "octavia") (project : settings.osProjectName = "service")
  (available : download settings start = some content)

include user project available

/-- With the credentials of Octavia and an image file, no task of a run has a reason to fail. -/
theorem Underway.performs (underway : Underway md5 before world)
    (fetches : Fetches settings start world) (unfailed : world.run.failed = false)
    {task : Task} {rest : List Task} (todo : world.run.todo = task :: rest) :
    ∃ next, perform md5 update { world with run.todo := rest } task = some next := by
  have stage := underway.stage
  cases stage with
  | ended done => simp [done] at todo
  | preparing earlier early queue =>
      rcases suffix_pair early with rfl | rfl | rfl
      · cases queue.symm.trans todo
        have known := fetches.given
        refine ⟨{ world with run.todo := .downloadImage :: registerTasks }, ?_⟩
        simp [perform, known, user, project, registerTasks]
      · cases queue.symm.trans todo
        exact ⟨_, rfl⟩
      · cases queue.symm.trans todo
        exact ⟨_, rfl⟩
  | checking queue checksum =>
      cases queue.symm.trans todo
      have file := fetches.file unfailed
      rw [queue, if_neg (by decide), available] at file
      simp [perform, checksum, file]
  | checked earlier content early queue =>
      rcases suffix_pair early with rfl | rfl | rfl
      · cases queue.symm.trans todo
        exact ⟨_, rfl⟩
      · cases queue.symm.trans todo
        exact ⟨_, rfl⟩
      · cases queue.symm.trans todo
        exact ⟨_, rfl⟩
  | queried content queue file checksum info =>
      cases queue.symm.trans todo
      unfold perform
      dsimp only
      split
      · next renames =>
          have one : (world.images.filter Image.named).length = 1 := by
            rw [info, List.filter_filter] at renames
            simpa using renames.2
          simp [imageSet, one]
      · exact ⟨_, rfl⟩
  | renamed content queue file checksum absent =>
      cases queue.symm.trans todo
      unfold perform
      dsimp only
      split
      · next replaces =>
          rw [register_new file (absent replaces)]
          exact ⟨_, rfl⟩
      · exact ⟨_, rfl⟩
  | completed content image done => simp [done] at todo

theorem Underway.proceeds (underway : Underway md5 before world)
    (fetches : Fetches settings start world) (unfailed : world.run.failed = false) :
    (Octavia.advance md5 update world).run.failed = false ∧
      (Octavia.advance md5 update world).run.todo = world.run.todo.tail := by
  cases todo : world.run.todo with
  | nil =>
      unfold Octavia.advance
      rw [todo]
      exact ⟨unfailed, todo⟩
  | cons task rest =>
      obtain ⟨next, performed⟩ : ∃ next,
          perform md5 update { world with run.todo := rest } task = some next :=
        underway.performs user project available fetches unfailed todo
      obtain ⟨_, sameTodo, sameFailed, _⟩ := perform_kept performed
      rw [advance_cons todo, performed, Option.getD_some]
      exact ⟨sameFailed.trans unfailed, sameTodo⟩

theorem smooth_run (underway : Underway md5 before world) (fetches : Fetches settings start world)
    (unfailed : world.run.failed = false) {events : List Event}
    (smooth : ∀ event ∈ events, event.smooth = true)
    (possible : Along (step md5 update) Possible world events) :
    (runFrom (step md5 update) world events).run.failed = false ∧
      (runFrom (step md5 update) world events).run.todo =
        world.run.todo.drop (events.count .advance) := by
  induction events generalizing world with
  | nil => exact ⟨unfailed, rfl⟩
  | cons event events ih =>
      obtain ⟨now, later⟩ := along_cons.mp possible
      have here := smooth event List.mem_cons_self
      have ongoing := Event.smooth_ongoing here
      have next : Underway md5 before (step md5 update world event) := underway.step ongoing now
      have also : Fetches settings start (step md5 update world event) :=
        fetches.step underway.stage ongoing
      have rest := fun unfailed => ih next also unfailed
        (fun other member => smooth other (List.mem_cons_of_mem _ member)) later
      cases event with
      | advance =>
          obtain ⟨fine, shorter⟩ : (step md5 update world .advance).run.failed = false ∧
              (step md5 update world .advance).run.todo = world.run.todo.tail :=
            underway.proceeds user project available fetches unfailed
          obtain ⟨completes, todo⟩ := rest fine
          refine ⟨completes, todo.trans ?_⟩
          rw [shorter, List.count_cons_self, List.drop_tail]
      | others images =>
          rw [List.count_cons_of_ne (by simp)]
          exact rest unfailed
      | start settings => cases here
      | fail afterEffect => cases here
      | interrupt => cases here
      | copy content => cases here
      | rollback => cases here

end Smooth

section Whole

variable {start begun final : World} {past events : List Event} {settings : Settings}
  {content : String}
  (orderly : Orderly start.images) (idle : start.run.todo = [])
  (possible : Along (step md5 update) Possible start (past ++ .start settings :: events))
  (begins : begun = runFrom (step md5 update) start past)
  (ends : final = runFrom (step md5 update) start (past ++ .start settings :: events))

include orderly idle possible begins ends

theorem started_underway :
    Underway md5 (history begun.images) (step md5 update begun (.start settings)) ∧
    Along (step md5 update) Possible (step md5 update begun (.start settings)) events ∧
    final = runFrom (step md5 update) (step md5 update begun (.start settings)) events := by
  obtain ⟨earlier, later⟩ := along_append.mp possible
  rw [← begins] at later
  have tidy : Tidy md5 begun := by
    rw [begins]
    exact Tidy.run ⟨orderly, .inl idle⟩ earlier
  refine ⟨.start tidy.1 settings, (along_cons.mp later).2, ?_⟩
  rw [ends, runFrom_append, ← begins]
  rfl

theorem final_underway (ongoing : ∀ event ∈ events, event.ongoing = true) :
    Underway md5 (history begun.images) final ∧ Fetches settings begun.file final := by
  obtain ⟨starts, meanwhile, same⟩ := started_underway orderly idle possible begins ends
  have fetches : Fetches settings begun.file (step md5 update begun (.start settings)) :=
    ⟨rfl, fun _ => rfl⟩
  rw [same]
  exact underway_run starts fetches ongoing meanwhile

/-- A run that completes registers its file, whatever has happened before it and whatever others
do meanwhile. -/
theorem completed_registers (ongoing : ∀ event ∈ events, event.ongoing = true)
    (completed : final.run.Completed) : ∃ content, Registered md5 settings begun final content := by
  obtain ⟨underway, fetched⟩ := final_underway orderly idle possible begins ends ongoing
  exact registered_of_completed underway fetched completed

/-- However earlier runs have failed, the next one in which nothing fails completes. -/
theorem registration_recovers (smooth : ∀ event ∈ events, event.smooth = true)
    (all : 9 ≤ events.count .advance) (user : settings.osUsername = "octavia")
    (project : settings.osProjectName = "service")
    (available : download settings begun.file = some content) :
    final.run.Completed ∧ Registered md5 settings begun final content := by
  obtain ⟨starts, meanwhile, same⟩ := started_underway orderly idle possible begins ends
  have fetches : Fetches settings begun.file (step md5 update begun (.start settings)) :=
    ⟨rfl, fun _ => rfl⟩
  have completed : final.run.Completed := by
    obtain ⟨unfailed, todo⟩ := smooth_run user project available starts fetches rfl smooth meanwhile
    rw [← same] at unfailed todo
    refine ⟨todo.trans (List.drop_eq_nil_of_le ?_), unfailed⟩
    have length : (step md5 update begun (.start settings)).run.todo.length = 9 := rfl
    omega
  obtain ⟨underway, fetched⟩ := final_underway orderly idle possible begins ends
    fun event member => Event.smooth_ongoing (smooth event member)
  obtain ⟨found, registered⟩ := registered_of_completed underway fetched completed
  have known : found = content := Option.some.inj (registered.fetched.symm.trans available)
  rw [known] at registered
  exact ⟨completed, registered⟩

end Whole

end Runs

theorem completed_registers_recovered :
    let final := runFrom (step md5Of fun _ => none) amphoraStart
      (brokenRun ++ .start octaviaSettings :: List.replicate 9 .advance)
    ∃ image, chosen final.images = some image ∧ image.checksum = some "QFI2#" := by
  have possible : Along (step md5Of fun _ => none) Possible amphoraStart
    (brokenRun ++ .start octaviaSettings :: List.replicate 9 .advance) := by decide
  obtain ⟨content, registered⟩ := completed_registers amphoraStart_orderly rfl possible rfl rfl
    (by decide) (by decide)
  have fetched : content = "QFI2" := Option.some.inj registered.fetched.symm
  obtain ⟨image, chooses, checksum, _⟩ := registered.chosen
  exact ⟨image, chooses, by rw [checksum, fetched]; rfl⟩

theorem registration_recovers_recovered :
    let final := runFrom (step md5Of fun _ => none) amphoraStart
      (brokenRun ++ .start octaviaSettings :: List.replicate 9 .advance)
    final.run.Completed ∧ ∃ image, final.images.filter Image.named = [image] ∧
      image.checksum = some "QFI2#" := by
  have possible : Along (step md5Of fun _ => none) Possible amphoraStart
    (brokenRun ++ .start octaviaSettings :: List.replicate 9 .advance) := by decide
  obtain ⟨completed, registered⟩ := registration_recovers amphoraStart_orderly rfl possible rfl rfl
    (by decide) (by decide) rfl rfl rfl
  obtain ⟨image, _, checksum, only⟩ := registered.chosen
  exact ⟨completed, image, only, checksum⟩

end Octavia
