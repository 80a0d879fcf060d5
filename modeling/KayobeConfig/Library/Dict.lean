import Mathlib.Data.List.Induction
import Mathlib.Data.List.Nodup
import Mathlib.Data.List.Sort

/-!
Insertion-ordered collections without repeats: lists, and dictionaries with unique
keys. Also the first element of a stable sort by a key function.
-/

namespace Library

def appendNew {α : Type*} [DecidableEq α] (values : List α) (value : α) : List α :=
  if value ∈ values then values else values ++ [value]

@[simp] theorem mem_appendNew {α : Type*} [DecidableEq α] (values : List α) (value other : α) :
    other ∈ appendNew values value ↔ other ∈ values ∨ other = value := by
  unfold appendNew
  split
  · rename_i present
    exact ⟨Or.inl, by rintro (old | rfl); exacts [old, present]⟩
  · simp

theorem appendNew_nodup {α : Type*} [DecidableEq α] {values : List α} (unique : values.Nodup)
    (value : α) : (appendNew values value).Nodup := by
  unfold appendNew
  split
  · exact unique
  · rename_i fresh
    refine List.nodup_append.mpr ⟨unique, List.nodup_singleton value, ?_⟩
    rintro _ old _ new rfl
    exact fresh (List.mem_singleton.mp new ▸ old)

def unique {α : Type*} [DecidableEq α] (values : List α) : List α := values.foldl appendNew []

theorem unique_snoc {α : Type*} [DecidableEq α] (values : List α) (value : α) :
    unique (values ++ [value]) = appendNew (unique values) value := by
  unfold unique
  rw [List.foldl_append, List.foldl_cons, List.foldl_nil]

@[simp] theorem mem_unique {α : Type*} [DecidableEq α] (values : List α) (value : α) :
    value ∈ unique values ↔ value ∈ values := by
  induction values using List.reverseRecOn with
  | nil => rfl
  | append_singleton values last ih => simp [unique_snoc, ih]

theorem unique_nodup {α : Type*} [DecidableEq α] (values : List α) : (unique values).Nodup := by
  induction values using List.reverseRecOn with
  | nil => exact List.nodup_nil
  | append_singleton values last ih =>
      rw [unique_snoc]
      exact appendNew_nodup ih last

theorem find?_unique {α : Type*} [DecidableEq α] (wanted : α → Bool) (values : List α) :
    (unique values).find? wanted = values.find? wanted := by
  induction values using List.reverseRecOn with
  | nil => rfl
  | append_singleton values last ih =>
      rw [unique_snoc, List.find?_append, ← ih]
      unfold appendNew
      split
      · rename_i present
        cases found : (unique values).find? wanted with
        | some first => rfl
        | none =>
            have unwanted := List.find?_eq_none.mp found last present
            simp [unwanted]
      · rw [List.find?_append]

def assign {κ ν : Type*} [DecidableEq κ] (key : κ) (value : ν) : List (κ × ν) → List (κ × ν)
  | [] => [(key, value)]
  | entry :: rest =>
      if entry.1 = key then (key, value) :: rest else entry :: assign key value rest

theorem assign_keys {κ ν : Type*} [DecidableEq κ] (key : κ) (value : ν) (entries : List (κ × ν)) :
    (assign key value entries).map Prod.fst = appendNew (entries.map Prod.fst) key := by
  induction entries with
  | nil => simp [assign, appendNew]
  | cons entry rest ih =>
      simp only [assign, appendNew]
      by_cases same : entry.1 = key
      · simp [same]
      · simp only [same, if_false, List.map_cons, ih, appendNew, List.mem_cons, Ne.symm same,
          false_or]
        split <;> simp

theorem assign_lookup {κ ν : Type*} [DecidableEq κ] (key other : κ) (value : ν)
    (entries : List (κ × ν)) :
    (assign key value entries).lookup other =
      if other = key then some value else entries.lookup other := by
  induction entries with
  | nil =>
      by_cases same : other = key <;> simp [assign, same]
  | cons entry rest ih =>
      obtain ⟨name, old⟩ := entry
      simp only [assign]
      by_cases replaced : name = key
      · subst name
        by_cases same : other = key
        · simp [same]
        · have skipped : (other == key) = false := by simpa using same
          simp [same, List.lookup_cons, skipped]
      · by_cases same : other = key
        · subst other
          have skipped : (key == name) = false := by simpa using Ne.symm replaced
          simp [replaced, List.lookup_cons, skipped, ih]
        · simp [replaced, same, List.lookup_cons, ih]

theorem assign_assign {κ ν : Type*} [DecidableEq κ] (key : κ) (earlier value : ν)
    (entries : List (κ × ν)) :
    assign key value (assign key earlier entries) = assign key value entries := by
  induction entries with
  | nil => simp [assign]
  | cons entry rest ih =>
      by_cases same : entry.1 = key
      · simp [assign, same]
      · simp [assign, same, ih]

theorem assign_fresh {κ ν : Type*} [DecidableEq κ] (key : κ) (value : ν) (entries : List (κ × ν))
    (fresh : key ∉ entries.map Prod.fst) : assign key value entries = entries ++ [(key, value)] := by
  induction entries with
  | nil => rfl
  | cons entry rest ih =>
      rw [List.map_cons, List.mem_cons, not_or] at fresh
      rw [assign, if_neg (Ne.symm fresh.1), ih fresh.2, List.cons_append]

/-- A dictionary lists each key once, in the order in which keys were first set. -/
structure Dict (κ ν : Type*) where
  entries : List (κ × ν)
  unique : (entries.map Prod.fst).Nodup

namespace Dict

variable {κ ν : Type*} [DecidableEq κ]

def empty : Dict κ ν := ⟨[], List.nodup_nil⟩

def keys (dict : Dict κ ν) : List κ := dict.entries.map Prod.fst

def get? (dict : Dict κ ν) (key : κ) : Option ν := dict.entries.lookup key

def set (dict : Dict κ ν) (key : κ) (value : ν) : Dict κ ν :=
  ⟨assign key value dict.entries, by
    rw [assign_keys]
    exact appendNew_nodup dict.unique key⟩

def setdefault (dict : Dict κ ν) (key : κ) (value : ν) : Dict κ ν :=
  if (dict.get? key).isSome then dict else dict.set key value

omit [DecidableEq κ] in
theorem ext {first second : Dict κ ν} (same : first.entries = second.entries) : first = second := by
  cases first
  cases second
  cases same
  rfl

theorem mem_keys (dict : Dict κ ν) (key : κ) : key ∈ dict.keys ↔ (dict.get? key).isSome := by
  simp [keys, get?]

theorem mem_keys_of_get? {dict : Dict κ ν} {key : κ} {value : ν}
    (found : dict.get? key = some value) : key ∈ dict.keys := by
  rw [mem_keys, found]
  rfl

theorem exists_of_mem_keys {dict : Dict κ ν} {key : κ} (member : key ∈ dict.keys) :
    ∃ value, dict.get? key = some value :=
  Option.isSome_iff_exists.mp ((mem_keys dict key).mp member)

theorem mem_entries_iff (dict : Dict κ ν) (key : κ) (value : ν) :
    (key, value) ∈ dict.entries ↔ dict.get? key = some value := by
  obtain ⟨entries, unique⟩ := dict
  simp only [get?]
  induction entries with
  | nil => simp
  | cons entry rest ih =>
      obtain ⟨name, old⟩ := entry
      simp only [List.map_cons, List.nodup_cons] at unique
      rw [List.mem_cons, ih unique.2, List.lookup_cons]
      by_cases same : key = name
      · subst name
        have absent : List.lookup key rest = none := by
          rw [List.lookup_eq_none_iff]
          intro later member
          have different : key ≠ later.1 := by
            rintro rfl
            exact unique.1 (List.mem_map_of_mem member)
          simpa using different
        simp [absent, eq_comm]
      · have skipped : (key == name) = false := by simpa using same
        simp [same, skipped]

@[simp] theorem get?_empty (key : κ) : (empty : Dict κ ν).get? key = none := rfl

@[simp] theorem get?_set (dict : Dict κ ν) (key other : κ) (value : ν) :
    (dict.set key value).get? other = if other = key then some value else dict.get? other :=
  assign_lookup key other value dict.entries

theorem set_set (dict : Dict κ ν) (key : κ) (earlier value : ν) :
    (dict.set key earlier).set key value = dict.set key value := by
  simp only [set, assign_assign]

/-- Setting new keys one after another appends their entries. -/
theorem entries_foldl_set (pairs : List (κ × ν)) (dict : Dict κ ν)
    (fresh : (dict.keys ++ pairs.map Prod.fst).Nodup) :
    (pairs.foldl (fun dict pair => dict.set pair.1 pair.2) dict).entries = dict.entries ++ pairs := by
  induction pairs generalizing dict with
  | nil => simp
  | cons pair pairs ih =>
      have absent : pair.1 ∉ dict.keys := by
        intro present
        rw [List.nodup_append] at fresh
        exact fresh.2.2 pair.1 present pair.1 (by simp) rfl
      have added : (dict.set pair.1 pair.2).entries = dict.entries ++ [pair] :=
        assign_fresh pair.1 pair.2 dict.entries absent
      have later : ((dict.set pair.1 pair.2).keys ++ pairs.map Prod.fst).Nodup := by
        rw [keys, added, List.map_append, List.append_assoc]
        exact fresh
      rw [List.foldl_cons, ih _ later, added, List.append_assoc, List.singleton_append]

theorem mem_keys_set (dict : Dict κ ν) (key other : κ) (value : ν) :
    other ∈ (dict.set key value).keys ↔ other = key ∨ other ∈ dict.keys := by
  rw [mem_keys, mem_keys, get?_set]
  split <;> simp_all

def combine (first second : Dict κ ν) : Dict κ ν :=
  second.entries.foldl (fun dict entry => dict.set entry.1 entry.2) first

theorem get?_foldl_sets (pairs : List (κ × ν)) (distinct : (pairs.map Prod.fst).Nodup)
    (dict : Dict κ ν) (key : κ) :
    (pairs.foldl (fun dict pair => dict.set pair.1 pair.2) dict).get? key =
      (pairs.lookup key).or (dict.get? key) := by
  induction pairs generalizing dict with
  | nil => rfl
  | cons pair pairs ih =>
      rw [List.map_cons, List.nodup_cons] at distinct
      rw [List.foldl_cons, ih distinct.2, get?_set, List.lookup_cons]
      by_cases same : key = pair.1
      · have absent : pairs.lookup key = none := by
          rw [List.lookup_eq_none_iff]
          intro later member
          have different : key ≠ later.1 := by
            rintro rfl
            exact distinct.1 (same ▸ List.mem_map_of_mem member)
          simpa using different
        have found : (key == pair.1) = true := by simpa using same
        rw [absent, found, if_pos same]
        rfl
      · have skipped : (key == pair.1) = false := by simpa using same
        rw [skipped, if_neg same]

theorem get?_combine (first second : Dict κ ν) (key : κ) :
    (combine first second).get? key = (second.get? key).or (first.get? key) :=
  get?_foldl_sets second.entries second.unique first key

def erase (dict : Dict κ ν) (key : κ) : Dict κ ν :=
  ⟨dict.entries.filter fun entry => entry.1 ≠ key,
    dict.unique.sublist ((List.filter_sublist).map Prod.fst)⟩

@[simp] theorem get?_erase (dict : Dict κ ν) (key other : κ) :
    (dict.erase key).get? other = if other = key then none else dict.get? other := by
  apply Option.ext
  intro value
  rw [← mem_entries_iff, erase, List.mem_filter, mem_entries_iff]
  split
  · rename_i same
    simp [same]
  · rename_i different
    simp [different]

theorem get?_foldl_erase (keys : List κ) (dict : Dict κ ν) (other : κ) :
    (keys.foldl erase dict).get? other = if other ∈ keys then none else dict.get? other := by
  induction keys generalizing dict with
  | nil => simp
  | cons key keys ih =>
      rw [List.foldl_cons, ih, get?_erase]
      by_cases same : other = key
      · simp [same]
      · simp [same]

theorem get?_foldl_set {α : Type*} (key : α → κ) (value : α → ν) (inputs : List α)
    (dict : Dict κ ν) {other : κ} (unset : ∀ input ∈ inputs, key input ≠ other) :
    (inputs.foldl (fun dict input => dict.set (key input) (value input)) dict).get? other =
      dict.get? other := by
  induction inputs generalizing dict with
  | nil => rfl
  | cons input inputs ih =>
      have differs := unset input List.mem_cons_self
      rw [List.foldl_cons, ih _ fun later member => unset later (List.mem_cons_of_mem input member),
        get?_set, if_neg (Ne.symm differs)]

@[simp] theorem get?_setdefault (dict : Dict κ ν) (key other : κ) (value : ν) :
    (dict.setdefault key value).get? other =
      if other = key then some ((dict.get? key).getD value) else dict.get? other := by
  unfold setdefault
  cases found : dict.get? key with
  | none => simp
  | some present =>
      by_cases same : other = key
      · simp [same, found]
      · simp [same]

end Dict

section SortedBy

variable {α κ : Type*} [LinearOrder κ]

def sortedBy (key : α → κ) (values : List α) : List α :=
  values.insertionSort fun left right => key left ≤ key right

@[simp] theorem mem_sortedBy (key : α → κ) (values : List α) (value : α) :
    value ∈ sortedBy key values ↔ value ∈ values :=
  List.mem_insertionSort _

theorem sortedBy_pairwise (key : α → κ) (values : List α) :
    (sortedBy key values).Pairwise fun left right => key left ≤ key right := by
  have total : Std.Total fun left right : α => key left ≤ key right :=
    ⟨fun left right => le_total (key left) (key right)⟩
  have transitive : IsTrans α fun left right => key left ≤ key right :=
    ⟨fun _ _ _ first second => le_trans first second⟩
  exact List.pairwise_insertionSort _ values

theorem sortedBy_nonempty (key : α → κ) {values : List α} {value : α} (member : value ∈ values) :
    ∃ first rest, sortedBy key values = first :: rest := by
  cases sorted : sortedBy key values with
  | nil =>
      have impossible := (mem_sortedBy key values value).mpr member
      simp [sorted] at impossible
  | cons first rest => exact ⟨first, rest, rfl⟩

theorem sortedBy_least (key : α → κ) {values : List α} {first : α} {rest : List α}
    (sorted : sortedBy key values = first :: rest) :
    first ∈ values ∧ ∀ value ∈ values, key first ≤ key value := by
  have ordered := sortedBy_pairwise key values
  rw [sorted, List.pairwise_cons] at ordered
  constructor
  · rw [← mem_sortedBy key, sorted]
    exact List.mem_cons_self
  · intro value member
    rw [← mem_sortedBy key, sorted, List.mem_cons] at member
    rcases member with same | later
    · rw [same]
    · exact ordered.1 value later

end SortedBy

end Library
