import KayobeConfig.Smartmon.Exporter

/-!
The DWPD ratings. `get-nvme-drives.yml` appends an entry for every discovered model
whose exact name the list does not have, and writes the list without escaping a name. The
exporter keeps the last entry of each trimmed lower-case name, so an appended entry can
take the place of a configured one.
-/

namespace Smartmon

open Library

variable {R : PyRuntime}

def loadEntry (mapping : Dict String R.Float) : PyValue R.Float → Except PyError (Dict String R.Float)
  | .dict fields => do
      let modelName := strip (R.str ((fields.lookup "model_name").getD (.str "")))
      let ratedValue ← coerceNumeric ((fields.lookup "rated_dwpd").getD .none)
      match ratedValue with
      | none => return mapping
      | some rating =>
          return if modelName = "" then mapping else mapping.set (R.lower modelName) rating
  | _ => .ok mapping

def listField (fields : List (String × PyValue R.Float)) (key : String) : Option (List (PyValue R.Float)) :=
  match fields.lookup key with
  | some (.list items) => some items
  | _ => none

def dataIterable : PyValue R.Float → List (PyValue R.Float)
  | .dict fields =>
      ((listField fields "stackhpc_dwpd_ratings").or (listField fields "dwpd_values")).getD []
  | .list items => items
  | _ => []

/-- `load_dwpd_ratings`, on nothing when the file is missing or is not JSON. -/
def loadDwpdRatings (data : Option (PyValue R.Float)) : Except PyError (Dict String R.Float) :=
  (data.elim [] dataIterable).foldlM loadEntry Dict.empty

inductive PlaybookError
  | undefinedField
  | unhashable

def isHashable : PyValue R.Float → Bool
  | .list _ => false
  | .dict _ => false
  | _ => true

def modelName : PyValue R.Float → Except PlaybookError (PyValue R.Float)
  | .dict fields =>
      match fields.lookup "model_name", fields.lookup "rated_dwpd" with
      | some name, some _ => if isHashable name then .ok name else .error .unhashable
      | _, _ => .error .undefinedField
  | _ => .error .undefinedField

def isModel (model : String) : PyValue R.Float → Bool
  | .str name => name == model
  | _ => false

/-- Jinja's filter, which keeps the first of the names that differ in case only. -/
def uniqueIgnoringCase (R : PyRuntime) (names : List String) : List String :=
  names.foldl (fun kept name =>
    if kept.any fun other => R.lower other == R.lower name then kept else kept ++ [name]) []

def allNvmeModels (R : PyRuntime) (hosts : List (List String)) : List String :=
  uniqueIgnoringCase R (hosts.map (uniqueIgnoringCase R)).flatten

def newModels (existingModelNames : List (PyValue R.Float)) (models : List String) : List String :=
  models.filter fun model => !existingModelNames.any (isModel model)

def newEntry (R : PyRuntime) (model : String) : PyValue R.Float :=
  .dict [("model_name", .str model), ("rated_dwpd", .int 1)]

/-- The list that the playbook builds, for the models discovered on each host. -/
def newDwpdList (hosts : List (List String)) (existing : List (PyValue R.Float)) :
    Except PlaybookError (List (PyValue R.Float)) := do
  let existingModelNames ← existing.mapM modelName
  return existing ++ (newModels existingModelNames (allNvmeModels R hosts)).map (newEntry R)

def entryField (entry : PyValue R.Float) (key : String) : PyValue R.Float :=
  match entry with
  | .dict fields => (fields.lookup key).getD .none
  | _ => .none

section File

/- How Jinja prints a value, and what YAML reads under `stackhpc_dwpd_ratings`. -/
variable (render : PyValue R.Float → List Char)
  (fromYaml : List Char → Option (List (PyValue R.Float)))

def entryText (item : PyValue R.Float) : List Char :=
  "  - model_name: \"".toList ++ render (entryField item "model_name") ++
    "\"\n    rated_dwpd: ".toList ++ render (entryField item "rated_dwpd") ++ ['\n']

def fileText (newDwpdList : List (PyValue R.Float)) : List Char :=
  "---\nstackhpc_dwpd_ratings:\n".toList ++ newDwpdList.flatMap (entryText render)

/-- The list that is read after the playbook. It does not write an empty one. -/
def rewritten (newDwpdList : List (PyValue R.Float)) : Option (List (PyValue R.Float)) :=
  if newDwpdList.isEmpty then some [] else fromYaml (fileText render newDwpdList)

end File

def loadList (entries : List (PyValue R.Float)) : Except PyError (Dict String R.Float) :=
  loadDwpdRatings (some (.list entries))

/-- The rating that `get_rated_dwpd` takes from an entry of the list. -/
def configuredRating (ratings : Dict String R.Float) (model : String) : Option R.Float :=
  if model = "" then none else ratings.get? (strip (R.lower model))

def nameText (R : PyRuntime) (name : PyValue R.Float) : PyValue R.Float := .str (R.str name)

/-- The same name, as a text, and the same number. -/
structure SameEntry (entry read : PyValue R.Float) : Prop where
  name : ∃ value, modelName entry = .ok value ∧ modelName read = .ok (nameText R value)
  rating : coerceNumeric (entryField read "rated_dwpd") =
    coerceNumeric (entryField entry "rated_dwpd")

section File

variable (render : PyValue R.Float → List Char)
  (fromYaml : List Char → Option (List (PyValue R.Float)))

/-- The list read after the playbook has the entries that it built and the rating of a
model, and a second run changes nothing. -/
structure RatingKept (hosts : List (List String)) (built read : List (PyValue R.Float))
    (ratings : Dict String R.Float) (model : String) : Prop where
  same : List.Forall₂ SameEntry built read
  kept : ∀ rating, configuredRating ratings model = some rating →
    ∃ newRatings, loadList read = .ok newRatings ∧ getRatedDwpd newRatings model = rating
  settled : ∃ again unchanged, newDwpdList hosts read = .ok again ∧
    rewritten render fromYaml again = some unchanged ∧ List.Forall₂ SameEntry read unchanged

/-- YAML reads the text of the file as the entries it was written from, and again the text
of what it has read. -/
def ReadsBack (entries : List (PyValue R.Float)) : Prop :=
  ∃ read, rewritten render fromYaml entries = some read ∧ List.Forall₂ SameEntry entries read ∧
    ∃ again, rewritten render fromYaml read = some again ∧ List.Forall₂ SameEntry read again

end File

def addDefault (ratings : Dict String R.Float) (model : String) : Dict String R.Float :=
  if strip model = "" then ratings else ratings.set (R.lower (strip model)) (R.ofBool true)

theorem loadEntry_new (ratings : Dict String R.Float) (model : String) :
    loadEntry ratings (newEntry R model) = .ok (addDefault ratings model) := by
  have one : coerceNumeric (.int 1 : PyValue R.Float) = .ok (some (R.ofBool true)) := by
    have converted : R.ofInt 1 = some (R.ofBool true) := R.ofInt_bool true
    simp [coerceNumeric, floatOfNumber, converted, Except.map]
  have name : (([("model_name", .str model), ("rated_dwpd", .int 1)] :
      List (String × PyValue R.Float)).lookup "model_name").getD (.str "") = .str model := rfl
  have rated : (([("model_name", .str model), ("rated_dwpd", .int 1)] :
      List (String × PyValue R.Float)).lookup "rated_dwpd").getD .none = .int 1 := rfl
  simp only [loadEntry, newEntry, name, rated, one, ok_bind, R.str_text]
  rfl

theorem foldlM_loadEntry_new (models : List String) (ratings : Dict String R.Float) :
    (models.map (newEntry R)).foldlM loadEntry ratings = .ok (models.foldl addDefault ratings) := by
  induction models generalizing ratings with
  | nil => rfl
  | cons model models ih =>
      rw [List.map_cons, List.foldlM_cons, loadEntry_new, ok_bind, ih, List.foldl_cons]

theorem addDefault_get? (ratings : Dict String R.Float) (model key : String) :
    (addDefault ratings model).get? key =
      if strip model ≠ "" ∧ R.lower (strip model) = key then some (R.ofBool true)
      else ratings.get? key := by
  unfold addDefault
  by_cases empty : strip model = ""
  · simp [empty]
  · simp [empty, eq_comm]

theorem addDefaults_get? (models : List String) (ratings : Dict String R.Float) (key : String) :
    (models.foldl addDefault ratings).get? key =
      if ∃ model ∈ models, strip model ≠ "" ∧ R.lower (strip model) = key then
        some (R.ofBool true)
      else ratings.get? key := by
  induction models using List.reverseRecOn with
  | nil => simp
  | append_singleton models last ih =>
      rw [List.foldl_append, List.foldl_cons, List.foldl_nil, addDefault_get?, ih]
      simp only [List.mem_append, List.mem_singleton, or_and_right, exists_or, exists_eq_left]
      by_cases named : strip last ≠ "" ∧ R.lower (strip last) = key
      · rw [if_pos named, if_pos (Or.inr named)]
      · simp only [named, if_false, or_false]

theorem loadList_append {existing : List (PyValue R.Float)} {ratings : Dict String R.Float}
    (loaded : loadList existing = .ok ratings) (models : List String) :
    loadList (existing ++ models.map (newEntry R)) = .ok (models.foldl addDefault ratings) := by
  have listed : existing.foldlM loadEntry Dict.empty = .ok ratings := loaded
  change (existing ++ models.map (newEntry R)).foldlM loadEntry Dict.empty = _
  rw [List.foldlM_append, listed, ok_bind, foldlM_loadEntry_new]

theorem modelName_fields {entry value : PyValue R.Float} (named : modelName entry = .ok value) :
    ∃ fields, entry = .dict fields ∧ fields.lookup "model_name" = some value := by
  unfold modelName at named
  split at named
  · rename_i fields
    split at named
    · rename_i name rated found _
      split at named
      · cases named
        exact ⟨fields, rfl, found⟩
      · cases named
    · cases named
  · cases named

theorem loadEntry_same {entry read : PyValue R.Float} (same : SameEntry entry read)
    (mapping : Dict String R.Float) : loadEntry mapping read = loadEntry mapping entry := by
  obtain ⟨⟨value, named, readNamed⟩, rating⟩ := same
  obtain ⟨fields, rfl, found⟩ := modelName_fields named
  obtain ⟨others, rfl, readFound⟩ := modelName_fields readNamed
  simp only [entryField] at rating
  simp only [loadEntry, found, readFound, nameText, Option.getD_some, R.str_text, rating]

theorem loadList_same {entries read : List (PyValue R.Float)}
    (same : List.Forall₂ SameEntry entries read) : loadList read = loadList entries := by
  change read.foldlM loadEntry Dict.empty = entries.foldlM loadEntry Dict.empty
  generalize (Dict.empty : Dict String R.Float) = ratings
  induction same generalizing ratings with
  | nil => rfl
  | @cons entry readEntry entries read first _ ih =>
      rw [List.foldlM_cons, List.foldlM_cons, loadEntry_same first]
      exact congrArg _ (funext ih)

theorem mapM_modelName_same {entries read names : List (PyValue R.Float)}
    (same : List.Forall₂ SameEntry entries read) (named : entries.mapM modelName = .ok names) :
    read.mapM modelName = .ok (names.map (nameText R)) := by
  rw [mapM_ok_iff] at named ⊢
  induction same generalizing names with
  | nil =>
      cases named
      exact List.Forall₂.nil
  | cons first _ ih =>
      cases named with
      | cons step rest =>
          obtain ⟨value, own, readNamed⟩ := first.name
          cases own.symm.trans step
          exact List.Forall₂.cons readNamed (ih rest)

theorem mapM_modelName_new (models : List String) :
    (models.map (newEntry R)).mapM modelName = .ok (models.map PyValue.str) := by
  rw [mapM_ok_iff, List.forall₂_map_left_iff, List.forall₂_map_right_iff, List.forall₂_same]
  exact fun model _ => rfl

theorem isModel_text {model : String} {name : PyValue R.Float} (known : isModel model name = true) :
    isModel model (nameText R name) = true := by
  unfold nameText
  cases name with
  | str text =>
      rw [R.str_text]
      exact known
  | _ => cases known

theorem newModels_settled (names : List (PyValue R.Float)) (models : List String) :
    newModels ((names ++ (newModels names models).map PyValue.str).map (nameText R)) models =
      [] := by
  unfold newModels
  rw [List.filter_eq_nil_iff]
  intro model member
  rw [Bool.not_eq_true', Bool.not_eq_false, List.any_map, List.any_eq_true]
  by_cases known : names.any (isModel model) = true
  · obtain ⟨name, among, isName⟩ := List.any_eq_true.mp known
    exact ⟨name, List.mem_append_left _ among, isModel_text isName⟩
  · refine ⟨.str model, List.mem_append_right _ (List.mem_map_of_mem (List.mem_filter.mpr
      ⟨member, by simpa using known⟩)), ?_⟩
    simp [isModel, nameText, R.str_text]

theorem newDwpdList_settled {hosts : List (List String)}
    {existing built read : List (PyValue R.Float)}
    (listed : newDwpdList hosts existing = .ok built) (same : List.Forall₂ SameEntry built read) :
    newDwpdList hosts read = .ok read := by
  obtain ⟨names, named, list⟩ := except_bind_ok.mp listed
  cases list
  have allNamed : (existing ++ (newModels names (allNvmeModels R hosts)).map (newEntry R)).mapM
      modelName = .ok (names ++ (newModels names (allNvmeModels R hosts)).map PyValue.str) := by
    rw [List.mapM_append, named, ok_bind, mapM_modelName_new]
    rfl
  unfold newDwpdList
  rw [mapM_modelName_same same allNamed, ok_bind, newModels_settled, List.map_nil, List.append_nil]
  rfl

/-- The models that the playbook considers new. -/
def consideredNew (existing : List (PyValue R.Float)) (hosts : List (List String)) : List String :=
  (allNvmeModels R hosts).filter fun model => !existing.any fun entry =>
    match modelName entry with
    | .ok name => isModel model name
    | .error _ => false

theorem newModels_considered {existing names : List (PyValue R.Float)}
    (named : existing.mapM modelName = .ok names) (hosts : List (List String)) :
    newModels names (allNvmeModels R hosts) = consideredNew existing hosts := by
  unfold newModels consideredNew
  apply List.filter_congr
  intro model _
  congr 1
  have related := (mapM_ok_iff _ _ _).mp named
  clear named
  induction related with
  | nil => rfl
  | @cons entry name existing names step _ ih =>
      rw [List.any_cons, List.any_cons, ih, step]

/-- No model that the playbook considers new is stored under the key of this one, or the
configured rating is the default one anyway. -/
def NotOverridden (hosts : List (List String)) (existing : List (PyValue R.Float))
    (ratings : Dict String R.Float) (model : String) : Prop :=
  ∀ rating, configuredRating ratings model = some rating →
    (∃ new ∈ consideredNew existing hosts, strip new ≠ "" ∧
      R.lower (strip new) = strip (R.lower model)) → rating = R.ofBool true

theorem getRatedDwpd_addDefaults {ratings : Dict String R.Float} {model : String}
    {rating : R.Float} (configured : configuredRating ratings model = some rating)
    (models : List String) :
    getRatedDwpd (models.foldl addDefault ratings) model = rating ↔
      ((∃ new ∈ models, strip new ≠ "" ∧ R.lower (strip new) = strip (R.lower model)) →
        rating = R.ofBool true) := by
  unfold configuredRating at configured
  unfold getRatedDwpd
  split at configured
  · cases configured
  · rename_i nonempty
    rw [if_neg nonempty, addDefaults_get?, configured]
    split
    · rename_i overridden
      exact ⟨fun same _ => same.symm, fun default => (default overridden).symm⟩
    · rename_i untouched
      exact ⟨fun _ overridden => absurd overridden untouched, fun _ => rfl⟩

theorem newDwpdList_considered {hosts : List (List String)} {existing built : List (PyValue R.Float)}
    (listed : newDwpdList hosts existing = .ok built) :
    built = existing ++ (consideredNew existing hosts).map (newEntry R) := by
  obtain ⟨names, named, list⟩ := except_bind_ok.mp listed
  rw [← newModels_considered named]
  exact (Except.ok.inj list).symm

def configuredDrive : List (PyValue wholeRuntime.Float) :=
  [.dict [("model_name", .str "SAMSUNG MZQL23T8HCLS"), ("rated_dwpd", .float (3 : Int))]]

def configuredRatings : Dict String wholeRuntime.Float :=
  Dict.empty.set "samsung mzql23t8hcls" (3 : Int)

theorem configuredDrive_loads : loadList configuredDrive = .ok configuredRatings := by
  rfl

def printed : PyValue wholeRuntime.Float → List Char
  | .int value => (toString value).toList
  | .float value => (wholeRuntime.repr value).toList
  | .str text => text.toList
  | _ => []

def readWritten (entries : List (PyValue wholeRuntime.Float)) (text : List Char) :
    Option (List (PyValue wholeRuntime.Float)) :=
  if text = fileText printed entries then some entries else none

def twoHosts : List (List String) :=
  [["SAMSUNG MZQL23T8HCLS"], ["INTEL SSDPE2KX010T8", "Samsung MZQL23T8HCLS"]]

def twoDrives : List (PyValue wholeRuntime.Float) :=
  configuredDrive ++ [newEntry wholeRuntime "INTEL SSDPE2KX010T8"]

end Smartmon
