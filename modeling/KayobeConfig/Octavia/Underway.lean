import KayobeConfig.Octavia.Registration

/-!
What a run of `octavia-amphora-image-register.yml` relies on from task to task, and that its tasks,
their failures and what others do keep the images orderly.
-/

namespace Octavia

open Library

variable (md5 : String → String) (update : List Image → Option (List Image))

/-- How far a run has come, with what it relies on. Before it, Octavia chose from `before`. -/
inductive Stage (before : List Image) (world : World) : Prop
  | ended : world.run.todo = [] → world.run.failed = true → Stage before world
  | preparing (earlier : List Task) : earlier <:+ [.precheck, .downloadImage] →
      world.run.todo = earlier ++ registerTasks → Stage before world
  | checking : world.run.todo = registerTasks.tail →
      world.run.imageChecksum = world.file.map md5 → Stage before world
  | checked (earlier : List Task) (content : String) :
      earlier <:+ [.installPackages, .setUpVirtualenv] → world.run.todo = earlier ++ queryTasks →
      world.file = some content → world.run.imageChecksum = some (md5 content) → Stage before world
  | queried (content : String) : world.run.todo = replaceTasks → world.file = some content →
      world.run.imageChecksum = some (md5 content) →
      world.run.imageInfo = world.images.filter Image.named → Stage before world
  | renamed (content : String) : world.run.todo = [.registerNew] → world.file = some content →
      world.run.imageChecksum = some (md5 content) →
      (world.run.replaces = true → world.images.filter Image.named = []) →
      (world.run.replaces = false → world.run.imageInfo = world.images.filter Image.named) →
      Stage before world
  | completed (content : String) (image : Image) : world.run.todo = [] → world.file = some content →
      chosen world.images = some image → image.named = true → image.checksum = some (md5 content) →
      (history world.images = before ∨ (history world.images).tail = before) → Stage before world

/-- A run under way, or what has become of it. -/
structure Underway (before : List Image) (world : World) : Prop where
  orderly : Orderly world.images
  history : world.run.todo ≠ [] → history world.images = before
  stage : Stage md5 before world

section Runs

variable {md5} {update} {before : List Image} {world : World}

theorem fails_underway (orderly : Orderly world.images) : Underway md5 before world.fails := by
  refine ⟨orderly, ?_, .ended rfl rfl⟩
  intro busy
  exact absurd rfl busy

theorem Underway.start (orderly : Orderly world.images) (settings : Settings) :
    Underway md5 (Octavia.history world.images) (step md5 update world (.start settings)) := by
  refine ⟨orderly, fun _ => rfl, ?_⟩
  exact .preparing [.precheck, .downloadImage] (List.suffix_refl _) rfl

theorem Underway.others (underway : Underway md5 before world) {images : List Image}
    (sameTagged : images.filter Image.tagged = world.images.filter Image.tagged)
    (sameNamed : images.filter Image.named = world.images.filter Image.named) :
    Underway md5 before { world with images := images } := by
  have sameHistory : Octavia.history images = Octavia.history world.images := by
    unfold Octavia.history
    rw [sameTagged]
  refine ⟨underway.orderly.congr sameTagged sameNamed, ?_, ?_⟩
  · intro busy
    rw [sameHistory]
    exact underway.history busy
  · cases underway.stage with
    | ended todo failed => exact .ended todo failed
    | preparing earlier early todo => exact .preparing earlier early todo
    | checking todo checksum => exact .checking todo checksum
    | checked earlier content early todo file checksum =>
        exact .checked earlier content early todo file checksum
    | queried content todo file checksum info =>
        exact .queried content todo file checksum (info.trans sameNamed.symm)
    | renamed content todo file checksum absent present =>
        refine .renamed content todo file checksum ?_ ?_
        · intro replaces
          exact sameNamed.trans (absent replaces)
        · intro keeps
          exact (present keeps).trans sameNamed.symm
    | completed content image todo file chooses named checksum earlier =>
        refine .completed content image todo file ?_ named checksum ?_
        · exact (chosen_congr sameTagged).trans chooses
        · rw [sameHistory]
          exact earlier

theorem suffix_pair {earlier : List Task} {first second : Task}
    (early : earlier <:+ [first, second]) :
    earlier = [first, second] ∨ earlier = [second] ∨ earlier = [] := by
  simpa [List.suffix_cons_iff] using early

theorem Underway.goes (underway : Underway md5 before world) (busy : world.run.todo ≠ [])
    {next : World} (images : next.images = world.images) (stage : Stage md5 before next) :
    Underway md5 before next := by
  refine ⟨?_, fun _ => ?_, stage⟩
  · rw [images]
    exact underway.orderly
  · rw [images]
    exact underway.history busy

theorem Underway.prepares (underway : Underway md5 before world) {earlier : List Task}
    (early : earlier <:+ [.precheck, .downloadImage])
    (todo : world.run.todo = earlier ++ registerTasks) :
    Underway md5 before (advance md5 update world) := by
  have busy : world.run.todo ≠ [] := by simp [todo, registerTasks]
  rcases suffix_pair early with rfl | rfl | rfl
  · rw [advance_cons todo]
    unfold perform
    dsimp only
    split
    · exact fails_underway underway.orderly
    · exact underway.goes busy rfl (.preparing [.downloadImage] (List.suffix_cons _ _) rfl)
  · rw [advance_cons todo]
    exact underway.goes busy rfl (.preparing [] List.nil_suffix rfl)
  · rw [advance_cons todo]
    exact underway.goes busy rfl (.checking rfl rfl)

theorem Underway.asserts (underway : Underway md5 before world)
    (todo : world.run.todo = registerTasks.tail)
    (checksum : world.run.imageChecksum = world.file.map md5) :
    Underway md5 before (advance md5 update world) := by
  have busy : world.run.todo ≠ [] := by simp [todo, registerTasks]
  rw [advance_cons todo]
  unfold perform
  cases file : world.file with
  | none =>
      rw [file, Option.map_none] at checksum
      simp only [checksum, Option.map_none, Option.getD_none]
      exact fails_underway underway.orderly
  | some content =>
      rw [file, Option.map_some] at checksum
      simp only [checksum, Option.map_some, Option.getD_some]
      exact underway.goes busy rfl (.checked [.installPackages, .setUpVirtualenv] content
        (List.suffix_refl _) rfl rfl rfl)

theorem Underway.queries (underway : Underway md5 before world) {earlier : List Task}
    {content : String} (early : earlier <:+ [.installPackages, .setUpVirtualenv])
    (todo : world.run.todo = earlier ++ queryTasks) (file : world.file = some content)
    (checksum : world.run.imageChecksum = some (md5 content)) :
    Underway md5 before (advance md5 update world) := by
  have busy : world.run.todo ≠ [] := by simp [todo, queryTasks]
  rcases suffix_pair early with rfl | rfl | rfl
  · rw [advance_cons todo]
    exact underway.goes busy rfl
      (.checked [.setUpVirtualenv] content (List.suffix_cons _ _) rfl file checksum)
  · rw [advance_cons todo]
    exact underway.goes busy rfl (.checked [] content List.nil_suffix rfl file checksum)
  · rw [advance_cons todo]
    exact underway.goes busy rfl (.queried content rfl file checksum rfl)

theorem Underway.renames (underway : Underway md5 before world) {content : String}
    (todo : world.run.todo = replaceTasks) (file : world.file = some content)
    (checksum : world.run.imageChecksum = some (md5 content))
    (info : world.run.imageInfo = world.images.filter Image.named) :
    Underway md5 before (advance md5 update world) := by
  have busy : world.run.todo ≠ [] := by simp [todo, replaceTasks]
  have queried : world.run.imageInfo.filter Image.named = world.images.filter Image.named := by
    rw [info, List.filter_filter]
    simp
  rw [advance_cons todo]
  unfold perform
  dsimp only
  split
  · next renames =>
      have one : (world.images.filter Image.named).length = 1 := by
        rw [← queried]
        exact renames.2
      simp only [imageSet, one, if_true, Option.map_some, Option.getD_some]
      refine ⟨orderly_rename _ _, fun _ => ?_, .renamed content rfl file checksum ?_ ?_⟩
      · exact (history_rename _ _).trans (underway.history busy)
      · intro _
        exact filter_rename_named _ _
      · intro keeps
        exact absurd (renames.1.symm.trans keeps) (by decide)
  · next keeps =>
      refine underway.goes busy rfl (.renamed content rfl file checksum ?_ fun _ => info)
      intro replaces
      rcases underway.orderly.named_cases with absent | ⟨image, one, _⟩
      · exact absent
      · exact absurd ⟨replaces, by simp [queried, one]⟩ keeps

theorem Underway.registers (underway : Underway md5 before world) {content : String}
    (todo : world.run.todo = [.registerNew]) (file : world.file = some content)
    (checksum : world.run.imageChecksum = some (md5 content))
    (absent : world.run.replaces = true → world.images.filter Image.named = [])
    (present : world.run.replaces = false → world.run.imageInfo = world.images.filter Image.named) :
    Underway md5 before (advance md5 update world) := by
  have busy : world.run.todo ≠ [] := by simp [todo]
  rw [advance_cons todo]
  unfold perform
  dsimp only
  split
  · next replaces =>
      have unnamed := absent replaces
      rw [register_new file unnamed, Option.map_some, Option.getD_some]
      refine ⟨orderly_newImage unnamed _, fun running => absurd rfl running, ?_⟩
      have chooses : chosen (newImage (some (md5 content)) :: world.images) =
          some (newImage (some (md5 content))) := by
        unfold chosen
        rw [List.find?_cons_of_pos]
        rw [newImage_tagged]
        rfl
      refine .completed content (newImage (some (md5 content))) rfl file chooses
        (newImage_named _) rfl (.inr ?_)
      rw [history_newImage, List.tail_cons]
      exact underway.history busy
  · next keeps =>
      have info := present (Bool.not_eq_true _ ▸ keeps)
      have matching : ∃ image ∈ world.images.filter Image.named,
          image.checksum = some (md5 content) := by
        unfold Run.replaces at keeps
        simp only [info, checksum] at keeps
        simpa [and_assoc] using keeps
      obtain ⟨image, member, same⟩ := matching
      have named := List.of_mem_filter member
      have chooses : chosen world.images = some image := by
        rcases underway.orderly.named_cases with absent | ⟨only, one, first⟩
        · simp [absent] at member
        · rw [one, List.mem_singleton] at member
          obtain ⟨older, newest⟩ := List.head?_eq_some_iff.mp first
          rw [chosen_eq, newest, List.find?_cons_of_pos, member]
          simp [Image.active, ← member, same]
      refine underway.goes busy rfl ?_
      exact .completed content image rfl file chooses named same (.inl (underway.history busy))

theorem Underway.advance (underway : Underway md5 before world) :
    Underway md5 before (advance md5 update world) := by
  have stage := underway.stage
  cases stage with
  | ended todo failed =>
      have idle : Octavia.advance md5 update world = world := by
        unfold Octavia.advance
        rw [todo]
      rw [idle]
      exact underway
  | preparing earlier early todo => exact underway.prepares early todo
  | checking todo checksum => exact underway.asserts todo checksum
  | checked earlier content early todo file checksum =>
      exact underway.queries early todo file checksum
  | queried content todo file checksum info => exact underway.renames todo file checksum info
  | renamed content todo file checksum absent present =>
      exact underway.registers todo file checksum absent present
  | completed content image todo file chooses named checksum earlier =>
      have idle : Octavia.advance md5 update world = world := by
        unfold Octavia.advance
        rw [todo]
      rw [idle]
      exact underway

theorem Underway.interrupts (underway : Underway md5 before world) :
    Underway md5 before (interrupt world) := by
  unfold interrupt
  split
  · next uploads =>
      have unnamed : world.images.filter Image.named = [] := by
        simpa using uploads.2.2
      exact ⟨orderly_newImage unnamed none, fun running => absurd rfl running, .ended rfl rfl⟩
  · exact underway

/-- The events of a run and of others, which neither begin a run nor come between two. -/
def Event.ongoing : Event → Bool
  | .start _ | .copy _ | .rollback => false
  | .advance | .fail _ | .interrupt | .others _ => true

theorem Underway.step (underway : Underway md5 before world) {event : Event}
    (ongoing : event.ongoing = true) (possible : Possible world event) :
    Underway md5 before (step md5 update world event) := by
  cases event with
  | start settings => cases ongoing
  | copy content => cases ongoing
  | rollback => cases ongoing
  | advance => exact underway.advance
  | fail afterEffect =>
      unfold Octavia.step
      dsimp only
      split
      · exact underway
      · cases afterEffect with
        | false => exact fails_underway underway.orderly
        | true =>
            have after : Underway md5 before (Octavia.advance md5 update world) := underway.advance
            exact fails_underway after.orderly
  | interrupt => exact underway.interrupts
  | others images => exact underway.others possible.1 possible.2

/-- No run is under way, or one that began with orderly images. -/
def Tidy (md5 : String → String) (world : World) : Prop :=
  Orderly world.images ∧ (world.run.todo = [] ∨ ∃ before, Underway md5 before world)

theorem Underway.tidy (underway : Underway md5 before world) : Tidy md5 world :=
  ⟨underway.orderly, .inr ⟨before, underway⟩⟩

theorem Tidy.idle_ongoing (orderly : Orderly world.images) (idle : world.run.todo = [])
    {event : Event} (ongoing : event.ongoing = true) (possible : Possible world event) :
    Tidy md5 (step md5 update world event) := by
  cases event with
  | start settings => cases ongoing
  | copy content => cases ongoing
  | rollback => cases ongoing
  | advance =>
      unfold step advance
      simp only [idle]
      exact ⟨orderly, .inl idle⟩
  | fail afterEffect =>
      unfold step
      simp only [idle, if_true]
      exact ⟨orderly, .inl idle⟩
  | interrupt =>
      unfold step interrupt
      simp only [idle, List.nil_eq, reduceCtorEq, false_and, if_false]
      exact ⟨orderly, .inl idle⟩
  | others images => exact ⟨orderly.congr possible.1 possible.2, .inl idle⟩

theorem Tidy.step (tidy : Tidy md5 world) (event : Event) (possible : Possible world event) :
    Tidy md5 (step md5 update world event) := by
  obtain ⟨orderly, state⟩ := tidy
  cases ongoing : event.ongoing with
  | true =>
      rcases state with idle | ⟨before, underway⟩
      · exact idle_ongoing orderly idle ongoing possible
      · exact (underway.step ongoing possible).tidy
  | false =>
      cases event with
      | start settings => exact (Underway.start orderly settings).tidy
      | copy content => exact ⟨orderly, .inl possible⟩
      | rollback => exact ⟨orderly.rollback, .inl possible⟩
      | advance => cases ongoing
      | fail afterEffect => cases ongoing
      | interrupt => cases ongoing
      | others images => cases ongoing

theorem Tidy.run (tidy : Tidy md5 world) {events : List Event}
    (possible : Along (Octavia.step md5 update) Possible world events) :
    Tidy md5 (runFrom (Octavia.step md5 update) world events) :=
  invariant_runFrom (fun _ event tidy possible => tidy.step event possible) tidy possible

end Runs

end Octavia
