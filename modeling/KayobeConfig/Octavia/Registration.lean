import KayobeConfig.Library.Transfers

/-!
The playbook `octavia-amphora-image-register.yml` in many runs, one after another. A run can
fail at any task, before or after the task has had its effect, while others use the project
for other images. Octavia takes the newest active image that has its tag.
-/

namespace Octavia

open Library

def amphoraName : String := "amphora-x64-haproxy"

def amphoraTag : String := "amphora"

/-- An image has a checksum once it has its data. -/
structure Image where
  name : String
  tags : List String
  checksum : Option String
  deriving DecidableEq

def Image.named (image : Image) : Bool := image.name = amphoraName

def Image.tagged (image : Image) : Bool := amphoraTag ∈ image.tags

def Image.active (image : Image) : Bool := image.checksum.isSome

/-- What a rename keeps of an image. -/
def Image.unlabelled (image : Image) : Image := { image with name := "" }

inductive Task
  | precheck
  | downloadImage
  | getChecksum
  | assertExists
  | installPackages
  | setUpVirtualenv
  | queryImage
  | renameOld
  | registerNew
  deriving DecidableEq

/-- What the server answers to `get_url`, which asks for a file that is newer than the one there. -/
inductive Response
  | content (image : String)
  | notModified
  deriving DecidableEq

structure Settings where
  osUsername : String
  osProjectName : String
  downloadAmphoraFromArk : Bool
  response : Response
  isoBasicShort : String
  deriving DecidableEq

structure Run where
  settings : Settings
  todo : List Task
  imageChecksum : Option String
  imageInfo : List Image
  failed : Bool

def replaceTasks : List Task := [.renameOld, .registerNew]

def queryTasks : List Task := .queryImage :: replaceTasks

def registerTasks : List Task :=
  .getChecksum :: .assertExists :: .installPackages :: .setUpVirtualenv :: queryTasks

def Run.of (settings : Settings) : Run :=
  ⟨settings, .precheck :: .downloadImage :: registerTasks, none, [], false⟩

def Run.fails (run : Run) : Run := { run with todo := [], failed := true }

def Run.Completed (run : Run) : Prop := run.todo = [] ∧ run.failed = false

instance (run : Run) : Decidable run.Completed := inferInstanceAs (Decidable (_ ∧ _))

/-- The condition of the block that replaces the image. -/
def Run.replaces (run : Run) : Bool :=
  (run.imageInfo.filter Image.named).all fun image => image.checksum ≠ run.imageChecksum

/-- The images of the project, the newest first, and the image file of the first controller. -/
structure World where
  images : List Image
  file : Option String
  run : Run

def Image.rename (isoBasicShort : String) (image : Image) : Image :=
  if image.named then { image with name := amphoraName ++ "-" ++ isoBasicShort } else image

/-- `openstack image set` with a name, which has to be the name of one image. -/
def imageSet (isoBasicShort : String) (images : List Image) : Option (List Image) :=
  if (images.filter Image.named).length = 1 then some (images.map (Image.rename isoBasicShort))
  else none

variable (md5 : String → String) (update : List Image → Option (List Image))

def newImage (checksum : Option String) : Image := ⟨amphoraName, [amphoraTag], checksum⟩

/-- `update` is what `openstack.cloud.image` does where there are images of the name. -/
def register (file : Option String) (images : List Image) : Option (List Image) :=
  if images.all fun image => !image.named then
    file.map fun content => newImage (some (md5 content)) :: images
  else update images

def download (settings : Settings) (file : Option String) : Option String :=
  match settings.downloadAmphoraFromArk, settings.response with
  | true, .content image => some image
  | _, _ => file

/-- A task, or none where it fails. -/
def perform (world : World) : Task → Option World
  | .precheck =>
      let { osUsername, osProjectName, .. } := world.run.settings
      if osUsername ≠ "octavia" ∨ osProjectName ≠ "service" then none else some world
  | .downloadImage => some { world with file := download world.run.settings world.file }
  | .getChecksum => some { world with run.imageChecksum := world.file.map md5 }
  | .assertExists => world.run.imageChecksum.map fun _ => world
  | .installPackages | .setUpVirtualenv => some world
  | .queryImage => some { world with run.imageInfo := world.images.filter Image.named }
  | .renameOld =>
      if world.run.replaces ∧ (world.run.imageInfo.filter Image.named).length = 1 then
        (imageSet world.run.settings.isoBasicShort world.images).map ({ world with images := · })
      else some world
  | .registerNew =>
      if world.run.replaces then
        (register md5 update world.file world.images).map ({ world with images := · })
      else some world

def World.fails (world : World) : World := { world with run := world.run.fails }

def advance (world : World) : World :=
  match world.run.todo with
  | [] => world
  | task :: rest =>
      let next := { world with run.todo := rest }
      (perform md5 update next task).getD next.fails

/-- The upload of the new image ends before Glance has its data. -/
def interrupt (world : World) : World :=
  if world.run.todo = [.registerNew] ∧ world.run.replaces = true ∧
      (world.images.all fun image => !image.named) = true then
    { world with images := newImage none :: world.images, run := world.run.fails }
  else world

/-- What happens, with what operators do between the runs: a rollback deletes the newest image. -/
inductive Event
  | start (settings : Settings)
  | advance
  | fail (afterEffect : Bool)
  | interrupt
  | others (images : List Image)
  | copy (content : String)
  | rollback
  deriving DecidableEq

def step (world : World) : Event → World
  | .start settings => { world with run := .of settings }
  | .advance => advance md5 update world
  | .fail afterEffect =>
      if world.run.todo = [] then world
      else if afterEffect then (advance md5 update world).fails
      else world.fails
  | .interrupt => interrupt world
  | .others images => { world with images := images }
  | .copy content => { world with file := some content }
  | .rollback => { world with images := world.images.eraseP Image.tagged }

/-- One run at a time, and others leave the images of amphorae alone. -/
def Possible (world : World) : Event → Prop
  | .start _ | .copy _ | .rollback => world.run.todo = []
  | .others images => images.filter Image.tagged = world.images.filter Image.tagged ∧
      images.filter Image.named = world.images.filter Image.named
  | .advance | .fail _ | .interrupt => True

instance (world : World) (event : Event) : Decidable (Possible world event) := by
  cases event <;> unfold Possible <;> infer_instance

def chosen (images : List Image) : Option Image :=
  images.find? fun image => image.tagged && image.active

/-- The images that Octavia may choose from but for their names, the newest first. -/
def history (images : List Image) : List Image :=
  (images.filter Image.tagged).map Image.unlabelled

/-- Only the newest of the images with the tag may have the name, and no other image has it. -/
structure Orderly (images : List Image) : Prop where
  tagged : ∀ image ∈ images.filter Image.named, image.tagged = true
  newest : ∀ image ∈ (images.filter Image.tagged).tail, image.named = false

section Images

variable {md5} {update} {images others : List Image}

theorem Orderly.congr (orderly : Orderly images)
    (sameTagged : others.filter Image.tagged = images.filter Image.tagged)
    (sameNamed : others.filter Image.named = images.filter Image.named) : Orderly others := by
  constructor
  · rw [sameNamed]
    exact orderly.tagged
  · rw [sameTagged]
    exact orderly.newest

theorem Orderly.named_eq (orderly : Orderly images) :
    images.filter Image.named = (images.filter Image.tagged).filter Image.named := by
  rw [List.filter_filter]
  apply List.filter_congr
  intro image member
  cases named : image.named with
  | false => simp
  | true => simpa using (orderly.tagged image (List.mem_filter.mpr ⟨member, named⟩)).symm

theorem Orderly.named_cases (orderly : Orderly images) :
    images.filter Image.named = [] ∨
      ∃ image, images.filter Image.named = [image] ∧
        (images.filter Image.tagged).head? = some image := by
  rw [orderly.named_eq]
  cases newest : images.filter Image.tagged with
  | nil => exact .inl rfl
  | cons image older =>
      have others : older.filter Image.named = [] := by
        rw [List.filter_eq_nil_iff]
        intro other member
        have unnamed := orderly.newest other (by rw [newest]; exact member)
        simp [unnamed]
      cases named : image.named with
      | false => exact .inl (by simp [named, others])
      | true => exact .inr ⟨image, by simp [named, others], rfl⟩

theorem chosen_eq (images : List Image) :
    chosen images = (images.filter Image.tagged).find? Image.active := by
  unfold chosen
  rw [List.find?_filter]
  congr 1
  funext image
  simp

theorem chosen_congr (same : others.filter Image.tagged = images.filter Image.tagged) :
    chosen others = chosen images := by
  rw [chosen_eq, chosen_eq, same]

theorem rename_tagged (isoBasicShort : String) (image : Image) :
    (image.rename isoBasicShort).tagged = image.tagged := by
  unfold Image.rename
  cases image.named <;> rfl

theorem rename_unlabelled (isoBasicShort : String) (image : Image) :
    (image.rename isoBasicShort).unlabelled = image.unlabelled := by
  unfold Image.rename
  cases image.named <;> rfl

theorem rename_named (isoBasicShort : String) (image : Image) :
    (image.rename isoBasicShort).named = false := by
  unfold Image.rename
  cases named : image.named with
  | false => simpa using named
  | true =>
      have longer : amphoraName ++ "-" ++ isoBasicShort ≠ amphoraName := by
        intro same
        have lengths := congrArg String.length same
        simp only [String.length_append] at lengths
        have dash : "-".length = 1 := rfl
        omega
      simp [Image.named, longer]

theorem filter_rename_tagged (isoBasicShort : String) (images : List Image) :
    (images.map (Image.rename isoBasicShort)).filter Image.tagged =
      (images.filter Image.tagged).map (Image.rename isoBasicShort) := by
  rw [List.filter_map]
  congr 1
  apply List.filter_congr
  intro image _
  exact rename_tagged isoBasicShort image

theorem filter_rename_named (isoBasicShort : String) (images : List Image) :
    (images.map (Image.rename isoBasicShort)).filter Image.named = [] := by
  rw [List.filter_eq_nil_iff]
  intro image member
  obtain ⟨old, _, rfl⟩ := List.mem_map.mp member
  simp [rename_named]

theorem history_rename (isoBasicShort : String) (images : List Image) :
    history (images.map (Image.rename isoBasicShort)) = history images := by
  unfold history
  rw [filter_rename_tagged, List.map_map]
  apply List.map_congr_left
  intro image _
  exact rename_unlabelled isoBasicShort image

theorem orderly_rename (isoBasicShort : String) (images : List Image) :
    Orderly (images.map (Image.rename isoBasicShort)) := by
  constructor
  · simp [filter_rename_named]
  · intro image member
    have listed := List.mem_of_mem_tail member
    rw [filter_rename_tagged] at listed
    obtain ⟨old, _, rfl⟩ := List.mem_map.mp listed
    exact rename_named isoBasicShort old

theorem newImage_named (checksum : Option String) : (newImage checksum).named = true := by
  simp [newImage, Image.named]

theorem newImage_tagged (checksum : Option String) : (newImage checksum).tagged = true := by
  simp [newImage, Image.tagged]

theorem history_newImage (checksum : Option String) (images : List Image) :
    history (newImage checksum :: images) = (newImage checksum).unlabelled :: history images := by
  unfold history
  rw [List.filter_cons_of_pos (newImage_tagged checksum)]
  rfl

theorem orderly_newImage (unnamed : images.filter Image.named = []) (checksum : Option String) :
    Orderly (newImage checksum :: images) := by
  constructor
  · rw [List.filter_cons_of_pos (newImage_named checksum), unnamed]
    simpa using newImage_tagged checksum
  · rw [List.filter_cons_of_pos (newImage_tagged checksum), List.tail_cons]
    intro image member
    have absent := List.filter_eq_nil_iff.mp unnamed image (List.mem_of_mem_filter member)
    simpa using absent

theorem register_new {file : Option String} {content : String} (here : file = some content)
    (unnamed : images.filter Image.named = []) :
    register md5 update file images = some (newImage (some (md5 content)) :: images) := by
  have all : (images.all fun image => !image.named) = true := by simpa using unnamed
  simp only [register, all, if_true, here, Option.map_some]

theorem filter_eraseP (predicate : Image → Bool) (images : List Image) :
    (images.eraseP predicate).filter predicate = (images.filter predicate).tail := by
  induction images with
  | nil => rfl
  | cons image images ih =>
      cases holds : predicate image with
      | true => simp [holds]
      | false => simp [holds, ih]

theorem history_rollback (images : List Image) :
    history (images.eraseP Image.tagged) = (history images).tail := by
  unfold history
  rw [filter_eraseP, List.map_tail]

theorem Orderly.rollback (orderly : Orderly images) : Orderly (images.eraseP Image.tagged) := by
  constructor
  · intro image member
    exact orderly.tagged image ((List.eraseP_sublist.filter _).subset member)
  · intro image member
    rw [filter_eraseP] at member
    exact orderly.newest image (List.mem_of_mem_tail member)

/-- Octavia has an image to choose where one of its images has data. -/
theorem chosen_isSome_iff (images : List Image) :
    (chosen images).isSome = true ↔ ∃ image ∈ history images, image.active = true := by
  rw [chosen_eq, List.find?_isSome]
  unfold history
  simp only [List.mem_map, exists_exists_and_eq_and]
  rfl

end Images

section Tasks

variable {md5} {update} {world : World}

theorem advance_cons {task : Task} {rest : List Task} (todo : world.run.todo = task :: rest) :
    advance md5 update world =
      (perform md5 update { world with run.todo := rest } task).getD
        ({ world with run.todo := rest } : World).fails := by
  unfold advance
  rw [todo]

theorem perform_kept {next : World} {task : Task}
    (performed : perform md5 update world task = some next) :
    next.run.settings = world.run.settings ∧ next.run.todo = world.run.todo ∧
      next.run.failed = world.run.failed ∧
      next.file = if task = .downloadImage then download world.run.settings world.file
        else world.file := by
  unfold perform at performed
  cases task with
  | precheck =>
      dsimp only at performed
      split at performed
      · cases performed
      · cases performed
        exact ⟨rfl, rfl, rfl, rfl⟩
  | assertExists =>
      obtain ⟨_, _, rfl⟩ := Option.map_eq_some_iff.mp performed
      exact ⟨rfl, rfl, rfl, rfl⟩
  | renameOld =>
      dsimp only at performed
      split at performed
      · obtain ⟨_, _, rfl⟩ := Option.map_eq_some_iff.mp performed
        exact ⟨rfl, rfl, rfl, rfl⟩
      · cases performed
        exact ⟨rfl, rfl, rfl, rfl⟩
  | registerNew =>
      dsimp only at performed
      split at performed
      · obtain ⟨_, _, rfl⟩ := Option.map_eq_some_iff.mp performed
        exact ⟨rfl, rfl, rfl, rfl⟩
      · cases performed
        exact ⟨rfl, rfl, rfl, rfl⟩
  | downloadImage =>
      cases performed
      exact ⟨rfl, rfl, rfl, rfl⟩
  | getChecksum =>
      cases performed
      exact ⟨rfl, rfl, rfl, rfl⟩
  | installPackages =>
      cases performed
      exact ⟨rfl, rfl, rfl, rfl⟩
  | setUpVirtualenv =>
      cases performed
      exact ⟨rfl, rfl, rfl, rfl⟩
  | queryImage =>
      cases performed
      exact ⟨rfl, rfl, rfl, rfl⟩

end Tasks

end Octavia
