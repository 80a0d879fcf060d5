import KayobeConfig.CloudFacts.HostVars

/-!
`group_hostvars_by_var` of `filter_plugins/filters.py`, with which `get-cloud-facts.yml` lists
the hosts of each value of a fact.
-/

namespace CloudFacts

open Library

/-- Python takes equal numbers for one key of a dictionary. -/
inductive Key (Float : Type)
  | none
  | number (value : Int)
  | float (value : Float)
  | str (value : String)
  deriving DecidableEq

/-- Either the filter's own error, or one that it does not catch. -/
inductive GroupError
  | filter (error : FilterError)
  | typeError
  deriving DecidableEq

variable {Float : Type} (whole : Float → Option Int) (repr : String → String)

/-- `whole` is the integer that a float equals. Lists and dictionaries are no keys, and hostvars
hold no objects. -/
def keyOf : PyValue Float → Option (Key Float)
  | .none => some .none
  | .bool value => some (.number (if value then 1 else 0))
  | .int value => some (.number value)
  | .float value => some (((whole value).map Key.number).getD (.float value))
  | .str value => some (.str value)
  | .list _ | .dict _ | .object _ | .function => none

variable (var : String) (subkey : Option String)

def indivHostVar (host : String) (vars : Dict String (PyValue Float)) :
    Except GroupError (PyValue Float) :=
  match vars.get? var, subkey with
  | none, _ => .error (.filter (variableNotFound repr var host var))
  | some value, none => .ok value
  | some (.dict entries), some key =>
      match entries.lookup key with
      | none => .error (.filter (variableNotFound repr var host key))
      | some value => .ok value
  | some _, some _ => .error .typeError

abbrev Groups (Float : Type) := Dict (Key Float) (PyValue Float × List String)

/-- A host with the value that was read for it. -/
structure Read (Float : Type) where
  key : Key Float
  value : PyValue Float
  host : String

variable [DecidableEq Float]

/-- `setdefault` keeps the value that was the key first. -/
def addToGroup (groups : Groups Float) (read : Read Float) : Groups Float :=
  match groups.get? read.key with
  | none => groups.set read.key (read.value, [read.host])
  | some (first, hosts) => groups.set read.key (first, hosts ++ [read.host])

def readKey (hostVars : String × Dict String (PyValue Float)) : Except GroupError (Read Float) := do
  let value ← indivHostVar repr var subkey hostVars.1 hostVars.2
  match keyOf whole value with
  | none => .error .typeError
  | some key => .ok ⟨key, value, hostVars.1⟩

def groupHostvarsByVar (hostvars : HostVars Float) : Except GroupError (Groups Float) :=
  hostvars.entries.foldlM (fun groups hostVars => do
    return addToGroup groups (← readKey whole repr var subkey hostVars)) Dict.empty

/-- The hosts of each key, with the value of the first of them. The keys are in the order in which
they first appear. -/
structure Grouped (reads : List (Read Float)) (groups : Groups Float) : Prop where
  keys : groups.keys = unique (reads.map Read.key)
  hosts : ∀ key, groups.get? key =
    (reads.find? fun read => read.key = key).map fun first =>
      (first.value, (reads.filter fun read => read.key = key).map Read.host)

/-- What a host has under the variable, or under the subkey of the dictionary there. -/
inductive HasValue (vars : Dict String (PyValue Float)) : PyValue Float → Prop
  | plain {value} : subkey = none → vars.get? var = some value → HasValue vars value
  | nested {key entries value} : subkey = some key → vars.get? var = some (.dict entries) →
      entries.lookup key = some value → HasValue vars value

/-- Equal numbers have one key. -/
inductive HasKey : PyValue Float → Key Float → Prop
  | none : HasKey .none .none
  | bool (value : Bool) : HasKey (.bool value) (.number (if value then 1 else 0))
  | int (value : Int) : HasKey (.int value) (.number value)
  | whole {value number} : whole value = some number → HasKey (.float value) (.number number)
  | float {value} : whole value = none → HasKey (.float value) (.float value)
  | str (value : String) : HasKey (.str value) (.str value)

structure Reads (hostVars : String × Dict String (PyValue Float)) (read : Read Float) : Prop where
  host : read.host = hostVars.1
  value : HasValue var subkey hostVars.2 read.value
  key : HasKey whole read.value read.key

/-- The error of a host without a value, or with one that cannot be a key. -/
inductive Lacks (hostVars : String × Dict String (PyValue Float)) : GroupError → Prop
  | noVariable : hostVars.2.get? var = none →
      Lacks hostVars (.filter (.ansibleFilterError ("Variable " ++ var ++ " not found for host " ++
        hostVars.1 ++ " in hostvars: " ++ repr var)))
  | noSubkey {key entries} : subkey = some key → hostVars.2.get? var = some (.dict entries) →
      entries.lookup key = none →
        Lacks hostVars (.filter (.ansibleFilterError ("Variable " ++ var ++ " not found for host " ++
          hostVars.1 ++ " in hostvars: " ++ repr key)))
  | notDict {key value} : subkey = some key → hostVars.2.get? var = some value →
      (∀ entries, value ≠ .dict entries) → Lacks hostVars .typeError
  | unhashable {value} : HasValue var subkey hostVars.2 value →
      (∀ key, ¬HasKey whole value key) → Lacks hostVars .typeError

section Groups

variable {whole} {repr} {var} {subkey}

omit [DecidableEq Float] in
theorem keyOf_eq_some_iff {value : PyValue Float} {key : Key Float} :
    keyOf whole value = some key ↔ HasKey whole value key := by
  constructor
  · intro made
    cases value with
    | float number =>
        cases exact : whole number with
        | none =>
            simp only [keyOf, exact, Option.map_none, Option.getD_none, Option.some.injEq] at made
            exact made ▸ .float exact
        | some integer =>
            simp only [keyOf, exact, Option.map_some, Option.getD_some, Option.some.injEq] at made
            exact made ▸ .whole exact
    | none =>
        cases made
        exact .none
    | bool value =>
        cases made
        exact .bool value
    | int value =>
        cases made
        exact .int value
    | str value =>
        cases made
        exact .str value
    | _ => cases made
  · intro has
    cases has with
    | whole exact => simp [keyOf, exact]
    | float exact => simp [keyOf, exact]
    | _ => rfl

omit [DecidableEq Float] in
theorem indivHostVar_ok_iff {host : String} {vars : Dict String (PyValue Float)}
    {value : PyValue Float} :
    indivHostVar repr var subkey host vars = .ok value ↔ HasValue var subkey vars value := by
  constructor
  · intro found
    unfold indivHostVar at found
    split at found
    · cases found
    · cases found
      exact .plain rfl (by assumption)
    · split at found
      · cases found
      · cases found
        exact .nested rfl (by assumption) (by assumption)
    · cases found
  · intro has
    unfold indivHostVar
    cases has with
    | plain only held => simp [only, held]
    | nested named held looked => simp [named, held, looked]

omit [DecidableEq Float] in
theorem indivHostVar_error {host : String} {vars : Dict String (PyValue Float)}
    {error : GroupError} (failed : indivHostVar repr var subkey host vars = .error error) :
    Lacks whole repr var subkey (host, vars) error := by
  unfold indivHostVar at failed
  split at failed
  · cases failed
    exact .noVariable (by assumption)
  · cases failed
  · split at failed
    · cases failed
      exact .noSubkey rfl (by assumption) (by assumption)
    · cases failed
  · rename_i notDict held
    cases failed
    exact .notDict rfl held fun entries same => notDict entries same

omit [DecidableEq Float] in
theorem readKey_ok_iff {hostVars : String × Dict String (PyValue Float)} {read : Read Float} :
    readKey whole repr var subkey hostVars = .ok read ↔ Reads whole var subkey hostVars read := by
  unfold readKey
  rw [except_bind_ok]
  simp only [indivHostVar_ok_iff]
  constructor
  · rintro ⟨value, has, made⟩
    cases found : keyOf whole value with
    | none => simp [found] at made
    | some key =>
        simp only [found] at made
        cases made
        exact ⟨rfl, has, keyOf_eq_some_iff.mp found⟩
  · intro reads
    refine ⟨read.value, reads.value, ?_⟩
    rw [keyOf_eq_some_iff.mpr reads.key, ← reads.host]

omit [DecidableEq Float] in
theorem indivHostVar_eq_error_of_not_dict {host key : String}
    {vars : Dict String (PyValue Float)} {value : PyValue Float} (held : vars.get? var = some value)
    (notDict : ∀ entries, value ≠ .dict entries) :
    indivHostVar repr var (some key) host vars = .error .typeError := by
  unfold indivHostVar
  rw [held]
  cases value with
  | dict entries => exact absurd rfl (notDict entries)
  | _ => rfl

omit [DecidableEq Float] in
theorem readKey_error_iff {hostVars : String × Dict String (PyValue Float)} {error : GroupError} :
    readKey whole repr var subkey hostVars = .error error ↔
      Lacks whole repr var subkey hostVars error := by
  constructor
  · intro failed
    unfold readKey at failed
    cases read : indivHostVar repr var subkey hostVars.1 hostVars.2 with
    | error failure =>
        rw [read] at failed
        cases failed
        exact indivHostVar_error read
    | ok value =>
        have has := indivHostVar_ok_iff.mp read
        rw [read] at failed
        cases made : keyOf whole value with
        | some key => simp [made, bind, Except.bind] at failed
        | none =>
            simp only [bind, Except.bind, made] at failed
            cases failed
            refine .unhashable has fun key isKey => ?_
            rw [keyOf_eq_some_iff.mpr isKey] at made
            cases made
  · intro lacks
    unfold readKey
    cases lacks with
    | noVariable absent =>
        simp only [indivHostVar, absent]
        rfl
    | noSubkey named held missing =>
        simp only [indivHostVar, named, held, missing]
        rfl
    | notDict named held notDict =>
        rw [named, indivHostVar_eq_error_of_not_dict held notDict]
        rfl
    | @unhashable value has noKey =>
        have made : keyOf whole value = none :=
          Option.eq_none_iff_forall_ne_some.mpr fun key made =>
            noKey key (keyOf_eq_some_iff.mp made)
        rw [indivHostVar_ok_iff.mpr has]
        simp only [bind, Except.bind, made]

theorem addToGroup_keys (groups : Groups Float) (read : Read Float) :
    (addToGroup groups read).keys = appendNew groups.keys read.key := by
  unfold addToGroup
  split
  · exact assign_keys _ _ _
  · exact assign_keys _ _ _

theorem addToGroup_get? (groups : Groups Float) (read : Read Float) (key : Key Float) :
    (addToGroup groups read).get? key =
      if key = read.key then
        some (match groups.get? key with
          | none => (read.value, [read.host])
          | some (first, hosts) => (first, hosts ++ [read.host]))
      else groups.get? key := by
  unfold addToGroup
  by_cases same : key = read.key
  · rw [← same, if_pos rfl]
    cases found : groups.get? key with
    | none => simp
    | some group => simp
  · rw [if_neg same]
    cases groups.get? read.key with
    | none => simp [same]
    | some group => simp [same]

theorem grouped_foldl (reads : List (Read Float)) :
    Grouped reads (reads.foldl addToGroup Dict.empty) := by
  induction reads using List.reverseRecOn with
  | nil => exact ⟨rfl, fun _ => rfl⟩
  | append_singleton reads last ih =>
      constructor
      · rw [List.foldl_append, List.foldl_cons, List.foldl_nil, addToGroup_keys, ih.keys,
          List.map_append, List.map_singleton, unique_snoc]
      · intro key
        rw [List.foldl_append, List.foldl_cons, List.foldl_nil, addToGroup_get?, ih.hosts key,
          List.find?_append, List.filter_append]
        by_cases same : key = last.key
        · subst same
          rw [if_pos rfl]
          cases first : reads.find? fun read => read.key = last.key with
          | none =>
              have fresh : (reads.filter fun read => read.key = last.key) = [] := by
                rw [List.filter_eq_nil_iff]
                exact fun read member => List.find?_eq_none.mp first read member
              simp [fresh]
          | some read => simp
        · simp [same, Ne.symm same]

omit [DecidableEq Float] in
theorem succeeds_readKey_iff (repr : String → String)
    {hostVars : String × Dict String (PyValue Float)} :
    Succeeds (readKey whole repr var subkey hostVars) ↔
      ∃ read, Reads whole var subkey hostVars read := by
  constructor
  · rintro ⟨read, ok⟩
    exact ⟨read, readKey_ok_iff.mp ok⟩
  · rintro ⟨read, reads⟩
    exact ⟨read, readKey_ok_iff.mpr reads⟩

/-- Where every host has the variable, with a value that can be a key, the hosts are grouped by
their values in order. Otherwise the first host that does not have one decides the error. -/
theorem groupHostvarsByVar_exact (hostvars : HostVars Float) :
    (∀ groups, groupHostvarsByVar whole repr var subkey hostvars = .ok groups →
      ∃ reads, List.Forall₂ (Reads whole var subkey) hostvars.entries reads ∧
        Grouped reads groups) ∧
    ∀ error, groupHostvarsByVar whole repr var subkey hostvars = .error error ↔
      ∃ earlier hostVars later, hostvars.entries = earlier ++ hostVars :: later ∧
        (∀ other ∈ earlier, ∃ read, Reads whole var subkey other read) ∧
        Lacks whole repr var subkey hostVars error := by
  unfold groupHostvarsByVar
  rw [foldlM_read]
  constructor
  · intro groups grouped
    obtain ⟨reads, mapped, same⟩ := except_bind_ok.mp grouped
    cases same
    exact ⟨reads, ((mapM_ok_iff _ _ _).mp mapped).imp fun _ _ => readKey_ok_iff.mp,
      grouped_foldl reads⟩
  · intro error
    simp only [← succeeds_readKey_iff repr, ← readKey_error_iff]
    rw [← mapM_error_iff]
    cases hostvars.entries.mapM (readKey whole repr var subkey) with
    | error failure =>
        constructor
        · intro failed
          cases failed
          rfl
        · intro failed
          cases failed
          rfl
    | ok reads =>
        constructor
        · intro impossible
          cases impossible
        · intro impossible
          cases impossible

end Groups

end CloudFacts
