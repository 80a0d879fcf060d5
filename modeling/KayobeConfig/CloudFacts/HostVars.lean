import KayobeConfig.Library.Dict
import KayobeConfig.Library.Loops
import KayobeConfig.Library.Python

/-!
`get_hostvars_by_host` of `filter_plugins/filters.py`, with which `get-cloud-facts.yml`
lists the containers of each host. The mark of a skipped task is overwritten before the
next host.
-/

namespace CloudFacts

open Library

variable {Float : Type} (isZero : Float → Bool) (repr : String → String)

abbrev HostVars (Float : Type) := Dict String (Dict String (PyValue Float))

inductive FilterError
  | ansibleFilterError (message : String)
  | attributeError
  deriving DecidableEq

def truthy : PyValue Float → Bool
  | .none => false
  | .bool value => value
  | .int value => value ≠ 0
  | .float value => !isZero value
  | .str value => value ≠ ""
  | .list items => !items.isEmpty
  | .dict entries => !entries.isEmpty
  | .object _ => true
  | .function => true

def variableNotFound (var host missing : String) : FilterError :=
  .ansibleFilterError
    ("Variable " ++ var ++ " not found for host " ++ host ++ " in hostvars: " ++ repr missing)

def markSkipped (host : String) (result : Dict String (PyValue Float)) (key : String) :
    Dict String (PyValue Float) :=
  if key = "skipped" then result.set host (.str "No data") else result

variable (var : String) (subkey : Option String)

def addHost (result : Dict String (PyValue Float))
    (hostVars : String × Dict String (PyValue Float)) :
    Except FilterError (Dict String (PyValue Float)) :=
  let (host, vars) := hostVars
  match vars.get? var with
  | none => .error (variableNotFound repr var host var)
  | some (.dict entries) =>
      let result := (entries.map Prod.fst).foldl (markSkipped host) result
      match subkey with
      | none =>
          .ok (result.set host (if truthy isZero (.dict entries) then .dict entries else .list []))
      | some key =>
          match entries.lookup key with
          | none => .error (variableNotFound repr var host key)
          | some value => .ok (result.set host (if truthy isZero value then value else .list []))
  | some _ => .error .attributeError

def getHostvarsByHost (hostvars : HostVars Float) : Except FilterError (Dict String (PyValue Float)) :=
  hostvars.entries.foldlM (addHost isZero repr var subkey) Dict.empty

def Skipped (entries : List (String × PyValue Float)) : Prop := "skipped" ∈ entries.map Prod.fst

def selected (subkey : Option String) (entries : List (String × PyValue Float)) :
    Option (PyValue Float) :=
  match subkey with
  | none => some (.dict entries)
  | some key => entries.lookup key

def orEmpty (value : PyValue Float) : PyValue Float := if truthy isZero value then value else .list []

/-- Some host lacks the variable, or its task was not skipped and the subkey is missing. -/
def Lacking (hostvars : HostVars Float) : Prop :=
  ∃ hostVars ∈ hostvars.entries, hostVars.2.get? var = none ∨
    ∃ entries, hostVars.2.get? var = some (.dict entries) ∧ ¬Skipped entries ∧
      selected subkey entries = none

structure Reports (hostvars : HostVars Float) : Prop where
  raises : (∃ message, getHostvarsByHost isZero repr var subkey hostvars =
    .error (.ansibleFilterError message)) ↔ Lacking var subkey hostvars
  hosts : ∀ result, getHostvarsByHost isZero repr var subkey hostvars = .ok result →
    result.keys = hostvars.keys
  skipped : ∀ result, getHostvarsByHost isZero repr var subkey hostvars = .ok result →
    ∀ host vars entries, hostvars.get? host = some vars → vars.get? var = some (.dict entries) →
      Skipped entries → result.get? host = some (.str "No data")
  values : ∀ result, getHostvarsByHost isZero repr var subkey hostvars = .ok result →
    ∀ host vars entries, hostvars.get? host = some vars → vars.get? var = some (.dict entries) →
      ¬Skipped entries → result.get? host = (selected subkey entries).map (orEmpty isZero)

def readHost (hostVars : String × Dict String (PyValue Float)) :
    Except FilterError (String × PyValue Float) :=
  match hostVars.2.get? var with
  | none => .error (variableNotFound repr var hostVars.1 var)
  | some (.dict entries) =>
      match selected subkey entries with
      | none => .error (variableNotFound repr var hostVars.1 (subkey.getD ""))
      | some value => .ok (hostVars.1, orEmpty isZero value)
  | some _ => .error .attributeError

theorem set_markSkipped (host : String) (keys : List String) (value : PyValue Float)
    (result : Dict String (PyValue Float)) :
    (keys.foldl (markSkipped host) result).set host value = result.set host value := by
  induction keys generalizing result with
  | nil => rfl
  | cons key keys ih =>
      rw [List.foldl_cons, ih]
      unfold markSkipped
      split
      · exact Dict.set_set result host (.str "No data") value
      · rfl

/-- What is set for a host does not depend on the mark. -/
theorem addHost_eq (result : Dict String (PyValue Float))
    (hostVars : String × Dict String (PyValue Float)) :
    addHost isZero repr var subkey result hostVars = (do
      let read ← readHost isZero repr var subkey hostVars
      return result.set read.1 read.2) := by
  unfold addHost readHost
  obtain ⟨host, vars⟩ := hostVars
  cases found : vars.get? var with
  | none =>
      simp only [found]
      rfl
  | some value =>
      cases value with
      | dict entries =>
          simp only [found, set_markSkipped, selected]
          cases subkey with
          | none => rfl
          | some key =>
              cases read : entries.lookup key with
              | none =>
                  simp only [read]
                  rfl
              | some value =>
                  simp only [read]
                  rfl
      | _ =>
          simp only [found]
          rfl

theorem readHost_host {hostVars : String × Dict String (PyValue Float)}
    {entry : String × PyValue Float} (read : readHost isZero repr var subkey hostVars = .ok entry) :
    entry.1 = hostVars.1 := by
  unfold readHost at read
  split at read
  · cases read
  · split at read
    · cases read
    · cases read
      rfl
  · cases read

theorem readHosts_keys {hostvars : List (String × Dict String (PyValue Float))}
    {entries : List (String × PyValue Float)}
    (read : List.Forall₂ (fun hostVars entry => readHost isZero repr var subkey hostVars = .ok entry)
      hostvars entries) : entries.map Prod.fst = hostvars.map Prod.fst := by
  induction read with
  | nil => rfl
  | cons first _ ih => rw [List.map_cons, List.map_cons, ih, readHost_host isZero repr var subkey first]

/-- A successful call gives every host, in order, what is read for it. -/
theorem getHostvarsByHost_ok_iff (hostvars : HostVars Float) (result : Dict String (PyValue Float)) :
    getHostvarsByHost isZero repr var subkey hostvars = .ok result ↔
      List.Forall₂ (fun hostVars entry => readHost isZero repr var subkey hostVars = .ok entry)
        hostvars.entries result.entries := by
  unfold getHostvarsByHost
  have asRead := foldlM_read (readHost isZero repr var subkey)
    (fun result entry => Dict.set result entry.1 entry.2) hostvars.entries Dict.empty
  simp only [← addHost_eq] at asRead
  rw [asRead, except_bind_ok]
  have setAll {entries : List (String × PyValue Float)}
      (read : List.Forall₂ (fun hostVars entry => readHost isZero repr var subkey hostVars = .ok entry)
        hostvars.entries entries) :
      (entries.foldl (fun result entry => result.set entry.1 entry.2) Dict.empty).entries = entries := by
    apply Dict.entries_foldl_set entries Dict.empty
    have fresh := hostvars.unique
    rw [← readHosts_keys isZero repr var subkey read] at fresh
    exact fresh
  constructor
  · rintro ⟨entries, mapped, same⟩
    cases same
    have read := (mapM_ok_iff _ _ _).mp mapped
    rw [setAll read]
    exact read
  · intro read
    refine ⟨result.entries, (mapM_ok_iff _ _ _).mpr read, congrArg Except.ok ?_⟩
    exact Dict.ext (setAll read)

def AllDicts (hostvars : HostVars Float) : Prop :=
  ∀ hostVars ∈ hostvars.entries, ∀ value, hostVars.2.get? var = some value →
    ∃ entries, value = .dict entries

/-- What the call reports exactly: a skipped task only where the subkey happens to hold
the same text. -/
def ShownSkipped (hostvars : HostVars Float) : Prop :=
  ∀ hostVars ∈ hostvars.entries, ∀ entries, hostVars.2.get? var = some (.dict entries) →
    Skipped entries → ∃ key, subkey = some key ∧ entries.lookup key = some (.str "No data")

section AllDicts

variable {isZero repr var subkey} {hostvars : HostVars Float} {result : Dict String (PyValue Float)}

theorem readHost_ok_iff {hostVars : String × Dict String (PyValue Float)}
    {entry : String × PyValue Float} :
    readHost isZero repr var subkey hostVars = .ok entry ↔
      ∃ entries, hostVars.2.get? var = some (.dict entries) ∧
        ∃ value, selected subkey entries = some value ∧ entry = (hostVars.1, orEmpty isZero value) := by
  unfold readHost
  split
  · rename_i absent
    simp [absent]
  · rename_i entries found
    cases chosen : selected subkey entries with
    | none => simp [found, chosen]
    | some value => simp [found, chosen, eq_comm]
  · rename_i value other found
    simp only [found, Option.some.injEq, reduceCtorEq, false_iff, not_exists, not_and]
    intro entries same
    exact absurd same (other entries)

theorem readHost_error (allDicts : AllDicts var hostvars)
    {hostVars : String × Dict String (PyValue Float)} (among : hostVars ∈ hostvars.entries)
    {failure : FilterError} (failed : readHost isZero repr var subkey hostVars = .error failure) :
    ∃ message, failure = .ansibleFilterError message := by
  unfold readHost at failed
  split at failed
  · cases failed
    exact ⟨_, rfl⟩
  · split at failed
    · cases failed
      exact ⟨_, rfl⟩
    · cases failed
  · rename_i value other found
    obtain ⟨entries, same⟩ := allDicts hostVars among value found
    exact absurd same (other entries)

theorem raises_iff (allDicts : AllDicts var hostvars) :
    (∃ message, getHostvarsByHost isZero repr var subkey hostvars =
      .error (.ansibleFilterError message)) ↔
      ¬Succeeds (getHostvarsByHost isZero repr var subkey hostvars) := by
  constructor
  · rintro ⟨message, failed⟩ ⟨result, returned⟩
    rw [failed] at returned
    cases returned
  · intro unsuccessful
    cases called : getHostvarsByHost isZero repr var subkey hostvars with
    | ok result => exact absurd ⟨result, called⟩ unsuccessful
    | error failure =>
        obtain ⟨hostVars, among, before, failed⟩ := foldlM_error called
        rw [addHost_eq] at failed
        cases read : readHost isZero repr var subkey hostVars with
        | ok entry =>
            rw [read] at failed
            cases failed
        | error earlier =>
            rw [read] at failed
            cases failed
            obtain ⟨message, same⟩ := readHost_error allDicts among read
            exact ⟨message, by rw [same]⟩

theorem succeeds_iff (isZero : Float → Bool) (repr : String → String) (hostvars : HostVars Float) :
    Succeeds (getHostvarsByHost isZero repr var subkey hostvars) ↔
      ∀ hostVars ∈ hostvars.entries, ∃ entries, hostVars.2.get? var = some (.dict entries) ∧
        ∃ value, selected subkey entries = some value := by
  apply succeeds_foldlM
  intro hostVars _ result
  rw [addHost_eq, succeeds_bind_pure]
  constructor
  · rintro ⟨entry, read⟩
    obtain ⟨entries, found, value, chosen, _⟩ := readHost_ok_iff.mp read
    exact ⟨entries, found, value, chosen⟩
  · rintro ⟨entries, found, value, chosen⟩
    exact ⟨_, readHost_ok_iff.mpr ⟨entries, found, value, chosen, rfl⟩⟩

theorem result_get (returned : getHostvarsByHost isZero repr var subkey hostvars = .ok result)
    {host : String} {vars : Dict String (PyValue Float)} {entries : List (String × PyValue Float)}
    (present : hostvars.get? host = some vars) (found : vars.get? var = some (.dict entries)) :
    result.get? host = (selected subkey entries).map (orEmpty isZero) := by
  rw [← Dict.mem_entries_iff] at present
  obtain ⟨entry, among, read⟩ :=
    forall₂_exists ((getHostvarsByHost_ok_iff isZero repr var subkey hostvars result).mp returned) present
  obtain ⟨_, same, value, chosen, rfl⟩ := readHost_ok_iff.mp read
  rw [found] at same
  cases same
  rw [chosen, Option.map_some, ← Dict.mem_entries_iff]
  exact among

theorem result_keys (returned : getHostvarsByHost isZero repr var subkey hostvars = .ok result) :
    result.keys = hostvars.keys :=
  readHosts_keys isZero repr var subkey
    ((getHostvarsByHost_ok_iff isZero repr var subkey hostvars result).mp returned)

theorem orEmpty_noData_iff {value : PyValue Float} :
    orEmpty isZero value = .str "No data" ↔ value = .str "No data" := by
  unfold orEmpty
  constructor
  · intro shown
    split at shown
    · exact shown
    · cases shown
  · rintro rfl
    rfl

/-- The value read for a skipped task is never the mark, unless the subkey holds its text. -/
theorem selected_noData_iff {entries : List (String × PyValue Float)} :
    (selected subkey entries).map (orEmpty isZero) = some (.str "No data") ↔
      ∃ key, subkey = some key ∧ entries.lookup key = some (.str "No data") := by
  rw [Option.map_eq_some_iff]
  simp only [orEmpty_noData_iff, exists_eq_right]
  cases subkey with
  | none => simp [selected]
  | some key => simp [selected]

theorem not_succeeds_of_lacking (isZero : Float → Bool) (repr : String → String)
    (lacking : Lacking var subkey hostvars) :
    ¬Succeeds (getHostvarsByHost isZero repr var subkey hostvars) := by
  intro successful
  rw [succeeds_iff] at successful
  obtain ⟨hostVars, among, absent | ⟨entries, found, _, unselected⟩⟩ := lacking
  · obtain ⟨entries, found, _⟩ := successful hostVars among
    rw [absent] at found
    cases found
  · obtain ⟨others, same, value, chosen⟩ := successful hostVars among
    rw [found] at same
    cases same
    rw [unselected] at chosen
    cases chosen

theorem succeeds_of_shownSkipped (isZero : Float → Bool) (repr : String → String)
    (allDicts : AllDicts var hostvars)
    (complete : ¬Lacking var subkey hostvars) (shown : ShownSkipped var subkey hostvars) :
    Succeeds (getHostvarsByHost isZero repr var subkey hostvars) := by
  rw [succeeds_iff]
  intro hostVars among
  cases found : hostVars.2.get? var with
  | none => exact absurd ⟨hostVars, among, Or.inl found⟩ complete
  | some value =>
      obtain ⟨entries, rfl⟩ := allDicts hostVars among value found
      refine ⟨entries, rfl, ?_⟩
      cases chosen : selected subkey entries with
      | some value => exact ⟨value, rfl⟩
      | none =>
          by_cases marked : Skipped entries
          · obtain ⟨key, rfl, read⟩ := shown hostVars among entries found marked
            rw [selected, read] at chosen
            cases chosen
          · exact absurd ⟨hostVars, among, Or.inr ⟨entries, found, marked, chosen⟩⟩ complete

/-- Where every value is a dict, skipped hosts are reported exactly when the call has to
raise for another host or no skipped host is without the text under the subkey. -/
theorem reports_iff (isZero : Float → Bool) (repr : String → String) (var : String)
    (subkey : Option String) (hostvars : HostVars Float) (allDicts : AllDicts var hostvars) :
    Reports isZero repr var subkey hostvars ↔
      Lacking var subkey hostvars ∨ ShownSkipped var subkey hostvars := by
  constructor
  · intro reports
    by_cases lacking : Lacking var subkey hostvars
    · exact Or.inl lacking
    · right
      rw [← reports.raises, raises_iff allDicts, not_not] at lacking
      obtain ⟨result, returned⟩ := lacking
      intro hostVars among entries found marked
      have present := (Dict.mem_entries_iff hostvars hostVars.1 hostVars.2).mp among
      have reported := reports.skipped result returned _ _ entries present found marked
      rw [result_get returned present found] at reported
      exact selected_noData_iff.mp reported
  · intro condition
    by_cases lacking : Lacking var subkey hostvars
    · have unsuccessful := not_succeeds_of_lacking isZero repr lacking
      exact {
        raises := iff_of_true ((raises_iff allDicts).mpr unsuccessful) lacking
        hosts := fun result returned => absurd ⟨result, returned⟩ unsuccessful
        skipped := fun result returned => absurd ⟨result, returned⟩ unsuccessful
        values := fun result returned => absurd ⟨result, returned⟩ unsuccessful
      }
    · have shown := condition.resolve_left lacking
      have successful := succeeds_of_shownSkipped isZero repr allDicts lacking shown
      refine ⟨?_, fun result returned => result_keys returned, ?_, ?_⟩
      · rw [raises_iff allDicts]
        exact iff_of_false (not_not_intro successful) lacking
      · intro result returned host vars entries present found marked
        have among := (Dict.mem_entries_iff hostvars host vars).mpr present
        rw [result_get returned present found]
        exact selected_noData_iff.mpr (shown (host, vars) among entries found marked)
      · intro result returned host vars entries present found _
        exact result_get returned present found

end AllDicts

def skippedContainersList : HostVars Nat :=
  ⟨[("node1", ⟨[("containers_list", .dict [("changed", .bool false), ("skipped", .bool true),
    ("skip_reason", .str "Conditional result was False")])], by decide⟩)], by decide⟩

theorem allDicts_skippedContainersList : AllDicts "containers_list" skippedContainersList := by
  intro hostVars among value found
  rw [List.mem_singleton.mp among] at found
  cases found
  exact ⟨_, rfl⟩

theorem reports_iff_skippedContainersList :
    Reports (· = 0) id "containers_list" (some "stdout_lines") skippedContainersList ↔
      Lacking "containers_list" (some "stdout_lines") skippedContainersList ∨
        ShownSkipped "containers_list" (some "stdout_lines") skippedContainersList :=
  reports_iff _ _ _ _ _ allDicts_skippedContainersList

theorem skipped_host_raises :
    ¬Reports (· = 0) id "containers_list" (some "stdout_lines") skippedContainersList := by
  intro reports
  obtain ⟨hostVars, among, lacking⟩ := reports.raises.mp ⟨_, rfl⟩
  rw [List.mem_singleton.mp among] at lacking
  rcases lacking with absent | ⟨entries, found, unskipped, _⟩
  · cases absent
  · cases found
    exact unskipped (by simp [Skipped])

end CloudFacts
