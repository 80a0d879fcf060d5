import KayobeConfig.Octavia.Underway

/-!
The images that Octavia may choose from, over many runs of `octavia-amphora-image-register.yml`.
-/

namespace Octavia

open Library

section Runs

variable {md5 : String → String} {update : List Image → Option (List Image)}
  {before : List Image} {world : World}

theorem Stage.registers {rest : List Task} (stage : Stage md5 before world)
    (todo : world.run.todo = .registerNew :: rest) : ∃ content, world.file = some content ∧
      (world.run.replaces = true → world.images.filter Image.named = []) := by
  cases stage with
  | ended done => simp [done] at todo
  | preparing earlier early queue =>
      rcases suffix_pair early with rfl | rfl | rfl <;> simp [queue, registerTasks] at todo
  | checking queue => simp [queue, registerTasks] at todo
  | checked earlier content early queue =>
      rcases suffix_pair early with rfl | rfl | rfl <;> simp [queue, queryTasks] at todo
  | queried content queue => simp [queue, replaceTasks] at todo
  | renamed content queue file checksum absent => exact ⟨content, file, absent⟩
  | completed content image done => simp [done] at todo

/-- A step leaves the images to choose from, or it adds one at the front: an upload without data, or
one with the data of the file that is there. -/
def Grows (md5 : String → String) (before after : World) : Prop :=
  history after.images = history before.images ∨
    ∃ checksum, (checksum = none ∨ before.file.map md5 = checksum) ∧
      history after.images = (newImage checksum).unlabelled :: history before.images

theorem grows_advance (tidy : Tidy md5 world) : Grows md5 world (advance md5 update world) := by
  cases todo : world.run.todo with
  | nil =>
      unfold advance
      rw [todo]
      exact .inl rfl
  | cons task rest =>
      rw [advance_cons todo]
      unfold perform
      cases task with
      | precheck =>
          dsimp only
          split <;> exact .inl rfl
      | downloadImage => exact .inl rfl
      | getChecksum => exact .inl rfl
      | assertExists =>
          dsimp only
          cases world.run.imageChecksum <;> exact .inl rfl
      | installPackages => exact .inl rfl
      | setUpVirtualenv => exact .inl rfl
      | queryImage => exact .inl rfl
      | renameOld =>
          dsimp only [imageSet]
          split
          · split
            · exact .inl (history_rename _ _)
            · exact .inl rfl
          · exact .inl rfl
      | registerNew =>
          have underway : ∃ before, Underway md5 before world := by
            rcases tidy.2 with idle | underway
            · simp [todo] at idle
            · exact underway
          obtain ⟨before, underway⟩ := underway
          obtain ⟨content, file, absent⟩ := underway.stage.registers todo
          dsimp only
          split
          · next replaces =>
              rw [register_new file (absent replaces), Option.map_some, Option.getD_some]
              refine .inr ⟨some (md5 content), .inr ?_, history_newImage _ _⟩
              rw [file, Option.map_some]
          · exact .inl rfl

theorem grows_step (tidy : Tidy md5 world) {event : Event} (possible : Possible world event)
    (kept : event ≠ .rollback) : Grows md5 world (step md5 update world event) := by
  have advanced : Grows md5 world (advance md5 update world) := grows_advance tidy
  cases event with
  | start settings => exact .inl rfl
  | copy content => exact .inl rfl
  | rollback => exact absurd rfl kept
  | advance => exact advanced
  | fail afterEffect =>
      unfold step
      dsimp only
      split
      · exact .inl rfl
      · cases afterEffect with
        | false => exact .inl rfl
        | true => exact advanced
  | interrupt =>
      unfold step interrupt
      dsimp only
      split
      · exact .inr ⟨none, .inl rfl, history_newImage none world.images⟩
      · exact .inl rfl
  | others images =>
      left
      unfold history step
      rw [possible.1]

theorem grows_run {start : World} {events : List Event} (tidy : Tidy md5 start)
    (possible : Along (step md5 update) Possible start events) (kept : .rollback ∉ events) :
    Along (step md5 update) (fun world event => Grows md5 world (step md5 update world event))
      start events := by
  induction events generalizing start with
  | nil => exact along_nil
  | cons event events ih =>
      rw [List.mem_cons, not_or] at kept
      obtain ⟨now, later⟩ := along_cons.mp possible
      refine along_cons.mpr ⟨grows_step tidy now fun first => kept.1 first.symm, ?_⟩
      exact ih (tidy.step event now) later kept.2

theorem Grows.suffix {before after : World} (grows : Grows md5 before after) :
    history before.images <:+ history after.images := by
  rcases grows with same | ⟨checksum, _, longer⟩
  · rw [same]
  · rw [longer]
    exact List.suffix_cons _ _

theorem history_suffix {start : World} {events : List Event}
    (grow : Along (step md5 update)
      (fun world event => Grows md5 world (step md5 update world event)) start events) :
    history start.images <:+ history (runFrom (step md5 update) start events).images := by
  induction events generalizing start with
  | nil => exact List.suffix_refl _
  | cons event events ih =>
      obtain ⟨now, later⟩ := along_cons.mp grow
      exact now.suffix.trans (ih later)

/-- Whatever fails, no image is lost, and what is added is an upload without data or has the data
of the file that was there. Octavia is not left without an image. -/
theorem images_kept {start final : World} {events : List Event} (orderly : Orderly start.images)
    (idle : start.run.todo = []) (possible : Along (step md5 update) Possible start events)
    (kept : .rollback ∉ events) (ends : final = runFrom (step md5 update) start events) :
    Orderly final.images ∧
    Along (step md5 update) (fun world event => Grows md5 world (step md5 update world event))
      start events ∧
    history start.images <:+ history final.images ∧
    ((chosen start.images).isSome = true → (chosen final.images).isSome = true) := by
  have tidy : Tidy md5 start := ⟨orderly, .inl idle⟩
  have grow : Along (step md5 update)
      (fun world event => Grows md5 world (step md5 update world event)) start events :=
    grows_run tidy possible kept
  have suffix : history start.images <:+ history final.images := by
    rw [ends]
    exact history_suffix grow
  refine ⟨?_, grow, suffix, ?_⟩
  · rw [ends]
    exact (tidy.run possible).1
  · rw [chosen_isSome_iff, chosen_isSome_iff]
    rintro ⟨image, member, active⟩
    exact ⟨image, suffix.subset member, active⟩

end Runs

def octaviaSettings : Settings := ⟨"octavia", "service", true, .content "QFI2", "20261103T134107"⟩

def amphoraStart : World where
  images := [⟨"cirros", [], some "CIR#"⟩, newImage (some "QFI1#")]
  file := none
  run := { Run.of octaviaSettings with todo := [] }

/-- A run whose upload breaks off. -/
def brokenRun : List Event :=
  .start octaviaSettings :: List.replicate 8 .advance ++ [.interrupt]

def md5Of (content : String) : String := content ++ "#"

theorem amphoraStart_orderly : Orderly amphoraStart.images := by
  constructor <;> decide

theorem images_kept_broken :
    let final := runFrom (step md5Of fun _ => none) amphoraStart brokenRun
    Orderly final.images ∧ (chosen final.images).isSome = true := by
  have possible : Along (step md5Of fun _ => none) Possible amphoraStart brokenRun := by decide
  obtain ⟨orderly, _, _, chosen⟩ := images_kept amphoraStart_orderly rfl possible (by decide) rfl
  exact ⟨orderly, chosen (by decide)⟩

end Octavia
