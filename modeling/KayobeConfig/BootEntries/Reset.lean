import KayobeConfig.Library.Dict
import KayobeConfig.Library.Loops
import KayobeConfig.Library.Text

/-!
`maintenance/reset-bls-entries.yml` on the directory of boot loader entries: copies that do
not overwrite, then deletions, over one list of names taken before.
-/

namespace BootEntries

open Library

abbrev Name := List Char

variable {Content : Type}

abbrev Directory (Content : Type) := Dict Name Content

inductive Operation
  | copy (source dest : Name)
  | remove (name : Name)
  deriving DecidableEq

inductive Failure
  | sourceNotFound (source : Name)

def perform (directory : Directory Content) : Operation → Except Failure (Directory Content)
  | .copy source dest =>
      match directory.get? source with
      | none => .error (.sourceNotFound source)
      | some content =>
          .ok (if (directory.get? dest).isSome then directory else directory.set dest content)
  | .remove name => .ok (directory.erase name)

def entriesPath : Name := "/boot/loader/entries/".toList

def confExtension : Name := ".conf".toList

def isLowerHex (char : Char) : Bool := char.isDigit || ('a' ≤ char && char ≤ 'f')

def isHex (char : Char) : Bool := isLowerHex char || ('A' ≤ char && char ≤ 'F')

/-- The files that `find` lists. It leaves out hidden ones. -/
def find (directory : Directory Content) : List Name :=
  (directory.keys.filter fun name => confExtension.isSuffixOf name && name.head? ≠ some '.').map
    (entriesPath ++ ·)

def basename (path : Name) : Name := (path.reverse.takeWhile (· ≠ '/')).reverse

/-- The machine ID has no character that is special in a regular expression. -/
def wrongEntries (machineId : Name) (directory : Directory Content) : List Name :=
  ((find directory).filter fun path => !decide (machineId <:+: path)).map basename

def renamed (machineId name : Name) : Name := machineId ++ name.dropWhile isLowerHex

def operations (machineId : Name) (directory : Directory Content) : List Operation :=
  let wrong := wrongEntries machineId directory
  wrong.map (fun item => .copy item (renamed machineId item)) ++ wrong.map .remove

def run (done : List Operation) (directory : Directory Content) :
    Except Failure (Directory Content) :=
  done.foldlM perform directory

def entryName (id suffix : Name) : Name := id ++ '-' :: suffix ++ confExtension

def IsId (id : Name) : Prop := id.length = 32 ∧ id.all isLowerHex = true

def IsMachineId (id : Name) : Prop := id.length = 32 ∧ id.all isHex = true

def WellNamed (machineId : Name) (directory : Directory Content) : Prop :=
  ∀ name ∈ directory.keys, ∃ id suffix, IsId id ∧ '/' ∉ suffix ∧ ¬machineId <:+: suffix ∧
    name = entryName id suffix

def HasEntry (directory : Directory Content) (suffix : Name) : Prop :=
  ∃ id, id.length = 32 ∧ entryName id suffix ∈ directory.keys

structure Renamed (machineId : Name) (before final : Directory Content) : Prop where
  unchanged : ∀ suffix content, before.get? (entryName machineId suffix) = some content →
    final.get? (entryName machineId suffix) = some content
  present : ∀ suffix, HasEntry before suffix → ∃ content,
    final.get? (entryName machineId suffix) = some content ∧
      ∃ id, id.length = 32 ∧ before.get? (entryName id suffix) = some content
  single : ∀ id suffix, id.length = 32 → entryName id suffix ∈ final.keys → id = machineId
  others : ∀ name ∈ final.keys, ∃ suffix, HasEntry before suffix ∧ name = entryName machineId suffix

structure LosesNoKernel (machineId : Name) (before : Directory Content) : Prop where
  finished : ∃ final, run (operations machineId before) before = .ok final ∧
    Renamed machineId before final
  interrupted : ∀ done, done <+: operations machineId before → ∃ state,
    run done before = .ok state ∧ ∀ suffix, HasEntry before suffix → HasEntry state suffix

theorem basename_append {name : Name} (flat : '/' ∉ name) : basename (entriesPath ++ name) = name := by
  have kept : ∀ char ∈ name.reverse, decide (char ≠ '/') = true := by
    intro char among
    apply decide_eq_true
    rintro rfl
    exact flat (List.mem_reverse.mp among)
  unfold basename
  rw [List.reverse_append, List.takeWhile_append_of_pos kept, List.reverse_append,
    List.reverse_reverse]
  rfl

theorem entryName_inj {id other suffix rest : Name} (size : id.length = other.length)
    (same : entryName id suffix = entryName other rest) : id = other ∧ suffix = rest := by
  unfold entryName at same
  rw [List.append_assoc, List.append_assoc] at same
  obtain ⟨ids, suffixes⟩ := List.append_inj same size
  exact ⟨ids, List.append_cancel_right (List.cons.inj suffixes).2⟩

theorem renamed_entryName (machineId : Name) {id : Name} (lower : id.all isLowerHex = true)
    (suffix : Name) : renamed machineId (entryName id suffix) = entryName machineId suffix := by
  unfold renamed entryName
  rw [List.append_assoc, List.dropWhile_append_of_pos (List.all_eq_true.mp lower), List.append_assoc]
  rfl

/-- Only an entry's id can hold the machine ID. -/
theorem mid_infix_path_iff {machineId id suffix : Name} (valid : IsMachineId machineId)
    (size : id.length = 32) (elsewhere : ¬machineId <:+: suffix) :
    machineId <:+: entriesPath ++ entryName id suffix ↔ id = machineId := by
  obtain ⟨long, hex⟩ := valid
  have absent {char : Char} (special : isHex char = false) : char ∉ machineId := by
    intro among
    rw [List.all_eq_true.mp hex char among] at special
    cases special
  have short {part : Name} (shorter : part.length < 32) : ¬machineId <:+: part := by
    intro inside
    have bound := inside.length_le
    omega
  have directory : entriesPath = "/boot/loader/entries".toList ++ ['/'] := by decide
  have ending : confExtension = '.' :: "conf".toList := by decide
  have parts : entriesPath ++ entryName id suffix =
      "/boot/loader/entries".toList ++ '/' :: (id ++ '-' :: (suffix ++ '.' :: "conf".toList)) := by
    simp only [directory, ending, entryName, List.append_assoc, List.cons_append, List.nil_append]
  have slash : '/' ∉ machineId := absent rfl
  have hyphen : '-' ∉ machineId := absent rfl
  have dot : '.' ∉ machineId := absent rfl
  have outside : ¬machineId <:+: "/boot/loader/entries".toList := short (by decide)
  have extension : ¬machineId <:+: "conf".toList := short (by decide)
  rw [parts, infix_append_separator slash, infix_append_separator hyphen,
    infix_append_separator dot, or_iff_right outside, or_iff_left (not_or.mpr ⟨elsewhere, extension⟩)]
  constructor
  · intro inside
    exact (inside.eq_of_length (by omega)).symm
  · rintro rfl
    exact List.infix_rfl

theorem entryName_flat {id suffix : Name} (valid : IsId id) (flat : '/' ∉ suffix) :
    '/' ∉ entryName id suffix := by
  have outside : '/' ∉ id := fun among => absurd (List.all_eq_true.mp valid.2 '/' among) (by decide)
  have extension : '/' ∉ confExtension := by decide
  simp [entryName, outside, flat, extension]

theorem entryName_listed {id : Name} (valid : IsId id) (suffix : Name) :
    (confExtension.isSuffixOf (entryName id suffix) && (entryName id suffix).head? ≠ some '.') =
      true := by
  obtain ⟨size, lower⟩ := valid
  cases id with
  | nil => cases size
  | cons first rest =>
      rw [List.all_cons, Bool.and_eq_true] at lower
      have visible : first ≠ '.' := by
        rintro rfl
        exact absurd lower.1 (by decide)
      have ends : confExtension <:+ entryName (first :: rest) suffix := List.suffix_append _ _
      rw [Bool.and_eq_true, List.isSuffixOf_iff_suffix]
      exact ⟨ends, by simp [entryName, visible]⟩

section Reset

variable {machineId : Name} {before state : Directory Content}

theorem mem_wrongEntries_iff (valid : IsMachineId machineId) (named : WellNamed machineId before)
    (name : Name) : name ∈ wrongEntries machineId before ↔ name ∈ before.keys ∧
      ∃ id suffix, IsId id ∧ id ≠ machineId ∧ name = entryName id suffix := by
  unfold wrongEntries find
  simp only [List.mem_map, List.mem_filter, Bool.not_eq_true', decide_eq_false_iff_not]
  constructor
  · rintro ⟨_, ⟨⟨key, ⟨among, _⟩, rfl⟩, rejected⟩, rfl⟩
    obtain ⟨id, suffix, isId, flat, elsewhere, rfl⟩ := named key among
    rw [mid_infix_path_iff valid isId.1 elsewhere] at rejected
    rw [basename_append (entryName_flat isId flat)]
    exact ⟨among, id, suffix, isId, rejected, rfl⟩
  · rintro ⟨among, id, suffix, isId, different, rfl⟩
    obtain ⟨other, rest, otherId, flat, elsewhere, same⟩ := named _ among
    obtain ⟨rfl, rfl⟩ := entryName_inj (isId.1.trans otherId.1.symm) same
    refine ⟨_, ⟨⟨_, ⟨among, entryName_listed isId suffix⟩, rfl⟩, ?_⟩,
      basename_append (entryName_flat isId flat)⟩
    rw [mid_infix_path_iff valid isId.1 elsewhere]
    exact different

/-- After the copies of some entries. -/
structure Copied (machineId : Name) (before : Directory Content) (sources : List Name)
    (state : Directory Content) : Prop where
  kept : ∀ name content, before.get? name = some content → state.get? name = some content
  origin : ∀ name content, state.get? name = some content → before.get? name = some content ∨
    ∃ source ∈ sources, renamed machineId source = name ∧ before.get? source = some content
  copied : ∀ source ∈ sources, (state.get? (renamed machineId source)).isSome = true

theorem copied_start (machineId : Name) (before : Directory Content) :
    Copied machineId before [] before :=
  ⟨fun _ _ present => present, fun _ _ present => Or.inl present, by simp⟩

theorem Copied.step {sources : List Name} (copied : Copied machineId before sources state)
    {source : Name} (present : source ∈ before.keys) :
    ∃ next, perform state (.copy source (renamed machineId source)) = .ok next ∧
      Copied machineId before (sources ++ [source]) next := by
  obtain ⟨content, found⟩ := Dict.exists_of_mem_keys present
  have readable := copied.kept source content found
  unfold perform
  simp only [readable]
  split
  · rename_i existing
    refine ⟨state, rfl, copied.kept, ?_, ?_⟩
    · intro name content shown
      rcases copied.origin name content shown with old | ⟨other, among, same, old⟩
      · exact Or.inl old
      · exact Or.inr ⟨other, List.mem_append_left _ among, same, old⟩
    · intro other among
      rcases List.mem_append.mp among with earlier | last
      · exact copied.copied other earlier
      · rw [List.mem_singleton.mp last]
        exact existing
  · rename_i missing
    refine ⟨_, rfl, ?_, ?_, ?_⟩
    · intro name old shown
      have different : name ≠ renamed machineId source := by
        rintro rfl
        rw [copied.kept _ old shown] at missing
        exact missing rfl
      rw [Dict.get?_set, if_neg different]
      exact copied.kept name old shown
    · intro name shownContent shown
      rw [Dict.get?_set] at shown
      split at shown
      · rename_i same
        cases shown
        exact Or.inr ⟨source, by simp, same.symm, found⟩
      · rcases copied.origin name shownContent shown with old | ⟨other, among, same, old⟩
        · exact Or.inl old
        · exact Or.inr ⟨other, List.mem_append_left _ among, same, old⟩
    · intro other among
      rw [Dict.get?_set]
      split
      · rfl
      · rename_i different
        rcases List.mem_append.mp among with earlier | last
        · exact copied.copied other earlier
        · exact absurd (congrArg (renamed machineId) (List.mem_singleton.mp last)) different

/-- Any part of the copies succeeds. -/
theorem run_copies (sources : List Name) (present : ∀ source ∈ sources, source ∈ before.keys) :
    ∃ state, run (sources.map fun item => .copy item (renamed machineId item)) before = .ok state ∧
      Copied machineId before sources state := by
  unfold run
  rw [List.foldlM_map]
  have looped := foldlM_rule
    (fun state item => perform state (.copy item (renamed machineId item)))
    (Copied machineId before) sources
    (fun finished source state among copied => copied.step (present source among))
    [] before (copied_start machineId before)
  exact looped

theorem run_removes (names : List Name) (state : Directory Content) :
    run (names.map .remove) state = .ok (names.foldl Dict.erase state) := by
  unfold run
  induction names generalizing state with
  | nil => rfl
  | cons name names ih => exact ih (state.erase name)

theorem machineEntry_right (valid : IsMachineId machineId) (named : WellNamed machineId before)
    (suffix : Name) : entryName machineId suffix ∉ wrongEntries machineId before := by
  rw [mem_wrongEntries_iff valid named]
  rintro ⟨_, id, rest, isId, different, same⟩
  exact different (entryName_inj (valid.1.trans isId.1.symm) same).1.symm

theorem wrongEntries_present (valid : IsMachineId machineId) (named : WellNamed machineId before) :
    ∀ name ∈ wrongEntries machineId before, name ∈ before.keys :=
  fun name wrong => ((mem_wrongEntries_iff valid named name).mp wrong).1

/-- A file that is there after all copies has one of the original contents of its suffix,
and its name has the machine ID unless it is still to be removed. -/
theorem Copied.source (valid : IsMachineId machineId) (named : WellNamed machineId before)
    (copied : Copied machineId before (wrongEntries machineId before) state) {name : Name}
    {content : Content} (shown : state.get? name = some content)
    (right : name ∉ wrongEntries machineId before) :
    ∃ suffix, name = entryName machineId suffix ∧
      ∃ id, id.length = 32 ∧ before.get? (entryName id suffix) = some content := by
  rcases copied.origin name content shown with old | ⟨source, wrong, rfl, old⟩
  · have among : name ∈ before.keys := Dict.mem_keys_of_get? old
    obtain ⟨id, suffix, isId, _, _, rfl⟩ := named name among
    have same : id = machineId := by
      by_contra different
      exact right ((mem_wrongEntries_iff valid named _).mpr ⟨among, id, suffix, isId, different, rfl⟩)
    rw [same] at old ⊢
    exact ⟨suffix, rfl, machineId, valid.1, old⟩
  · obtain ⟨_, id, suffix, isId, _, rfl⟩ := (mem_wrongEntries_iff valid named _).mp wrong
    exact ⟨suffix, renamed_entryName machineId isId.2 suffix, id, isId.1, old⟩

theorem Copied.present (valid : IsMachineId machineId) (named : WellNamed machineId before)
    (copied : Copied machineId before (wrongEntries machineId before) state) {suffix : Name}
    (entry : HasEntry before suffix) :
    ∃ content, state.get? (entryName machineId suffix) = some content := by
  obtain ⟨id, size, among⟩ := entry
  obtain ⟨other, rest, isId, _, _, same⟩ := named _ among
  obtain ⟨rfl, rfl⟩ := entryName_inj (size.trans isId.1.symm) same
  by_cases right : id = machineId
  · rw [right] at among
    obtain ⟨content, old⟩ := Dict.exists_of_mem_keys among
    exact ⟨content, copied.kept _ content old⟩
  · have wrong := (mem_wrongEntries_iff valid named _).mpr ⟨among, id, suffix, isId, right, rfl⟩
    have shown := copied.copied _ wrong
    rw [renamed_entryName machineId isId.2, Option.isSome_iff_exists] at shown
    exact shown

theorem Copied.renamed (valid : IsMachineId machineId) (named : WellNamed machineId before)
    (copied : Copied machineId before (wrongEntries machineId before) state) :
    Renamed machineId before ((wrongEntries machineId before).foldl Dict.erase state) := by
  have left (name : Name) := Dict.get?_foldl_erase (wrongEntries machineId before) state name
  have origin {name : Name}
      (among : name ∈ ((wrongEntries machineId before).foldl Dict.erase state).keys) :
      ∃ suffix, name = entryName machineId suffix ∧ HasEntry before suffix := by
    rw [Dict.mem_keys, left] at among
    split at among
    · cases among
    · rename_i right
      obtain ⟨content, shown⟩ := Option.isSome_iff_exists.mp among
      obtain ⟨suffix, same, id, size, old⟩ := copied.source valid named shown right
      exact ⟨suffix, same, id, size, Dict.mem_keys_of_get? old⟩
  refine ⟨?_, ?_, ?_, ?_⟩
  · intro suffix content old
    rw [left, if_neg (machineEntry_right valid named suffix)]
    exact copied.kept _ content old
  · intro suffix entry
    obtain ⟨content, shown⟩ := copied.present valid named entry
    have right := machineEntry_right valid named suffix
    obtain ⟨other, same, id, size, old⟩ := copied.source valid named shown right
    obtain ⟨_, rfl⟩ := entryName_inj rfl same
    rw [left, if_neg right]
    exact ⟨content, shown, id, size, old⟩
  · intro id suffix size among
    obtain ⟨other, same, _⟩ := origin among
    exact (entryName_inj (size.trans valid.1.symm) same).1
  · intro name among
    obtain ⟨suffix, same, entry⟩ := origin among
    exact ⟨suffix, entry, same⟩

theorem run_append (first second : List Operation) (state : Directory Content) :
    run (first ++ second) state = (run first state >>= run second) := by
  unfold run
  rw [List.foldlM_append]

theorem interrupted_hasEntry (valid : IsMachineId machineId) (named : WellNamed machineId before)
    (done : List Operation) (begun : done <+: operations machineId before) :
    ∃ state, run done before = .ok state ∧
      ∀ suffix, HasEntry before suffix → HasEntry state suffix := by
  have present := wrongEntries_present valid named
  unfold operations at begun
  rcases List.prefix_or_prefix_of_prefix begun (List.prefix_append _ _) with copying | removing
  · obtain ⟨sources, some, rfl⟩ := List.prefix_map_iff.mp copying
    obtain ⟨state, ran, copied⟩ := run_copies sources
      fun source among => present source (some.subset among)
    refine ⟨state, ran, ?_⟩
    rintro suffix ⟨id, size, among⟩
    obtain ⟨content, old⟩ := Dict.exists_of_mem_keys among
    exact ⟨id, size, Dict.mem_keys_of_get? (copied.kept _ content old)⟩
  · obtain ⟨removes, rfl⟩ := removing
    rw [List.prefix_append_right_inj] at begun
    obtain ⟨names, some, rfl⟩ := List.prefix_map_iff.mp begun
    obtain ⟨state, ran, copied⟩ := run_copies (wrongEntries machineId before) present
    refine ⟨names.foldl Dict.erase state, ?_, ?_⟩
    · rw [run_append, ran, ok_bind, run_removes]
    · intro suffix entry
      obtain ⟨content, shown⟩ := copied.present valid named entry
      have right := machineEntry_right valid named suffix
      refine ⟨machineId, valid.1, ?_⟩
      rw [Dict.mem_keys, Dict.get?_foldl_erase, if_neg fun among => right (some.subset among), shown]
      rfl

/-- Resetting loses no entry, wherever it stops. -/
theorem reset_losesNoKernel (machineId : Name) (before : Directory Content)
    (valid : IsMachineId machineId) (named : WellNamed machineId before) :
    LosesNoKernel machineId before := by
  refine ⟨?_, interrupted_hasEntry valid named⟩
  obtain ⟨state, ran, copied⟩ := run_copies (wrongEntries machineId before)
    (wrongEntries_present valid named)
  refine ⟨_, ?_, copied.renamed valid named⟩
  rw [operations, run_append, ran, ok_bind, run_removes]

end Reset

def hostId : Name := List.replicate 32 'a'

def imageId : Name := List.replicate 32 'b'

def imageEntries : Directory Nat :=
  ⟨[(entryName imageId "5.14.0".toList, 1), (entryName imageId "5.15.0".toList, 2),
    (entryName hostId "5.15.0".toList, 3)], by decide +kernel⟩

theorem reset_losesNoKernel_imageEntries : LosesNoKernel hostId imageEntries := by
  have valid : IsMachineId hostId := ⟨by decide, by decide⟩
  refine reset_losesNoKernel hostId imageEntries valid ?_
  intro name among
  have outside {suffix : Name} (shorter : suffix.length < 32) : ¬hostId <:+: suffix := by
    intro inside
    have bound : hostId.length ≤ suffix.length := inside.length_le
    rw [valid.1] at bound
    omega
  have lower : IsId imageId ∧ IsId hostId := ⟨⟨by decide, by decide⟩, by decide, by decide⟩
  simp only [Dict.keys, imageEntries, List.map_cons, List.map_nil, List.mem_cons, List.not_mem_nil,
    or_false] at among
  rcases among with rfl | rfl | rfl
  · exact ⟨imageId, _, lower.1, by decide, outside (by decide), rfl⟩
  · exact ⟨imageId, _, lower.1, by decide, outside (by decide), rfl⟩
  · exact ⟨hostId, _, lower.2, by decide, outside (by decide), rfl⟩

end BootEntries
