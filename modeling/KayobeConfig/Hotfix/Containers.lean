import Mathlib.Data.List.SplitOn
import KayobeConfig.Library.Dict
import KayobeConfig.Library.Regex

/-!
`fixes/hotfix-containers.yml`: the containers over which it loops. The regular expression
is searched in the names joined by newlines, and before that in the printed list of them.
-/

namespace Hotfix

open Library

def isNameChar (char : Char) : Bool := char.isAlphanum || ['_', '.', '-'].contains char

structure ContainerName where
  chars : List Char
  nonempty : chars ≠ []
  allowed : chars.all isNameChar = true

/-- A regular expression without groups, compiled with or without the multiline flag. -/
structure Pattern where
  source : String
  compile : Bool → Matcher

structure Vars (File : Type) where
  containerHotfixCommand : String
  containerHotfixFiles : List File
  containerHotfixContainerRegex : Pattern
  containerHotfixRestartContainers : Bool

inductive Failure
  | invalidInput
  | noContainersMatched (stdoutLines : List (List Char))

def inputsInvalid {File : Type} (vars : Vars File) : Bool :=
  vars.containerHotfixContainerRegex.source == "" ||
    vars.containerHotfixCommand == "" && vars.containerHotfixFiles.isEmpty

/-- The output of `docker ps` without its last newline. -/
def containersList (names : List ContainerName) : List Char :=
  ['\n'].intercalate (names.map ContainerName.chars)

def printedList (items : List (List Char)) : List Char :=
  '[' :: [',', ' '].intercalate (items.map fun item => '\'' :: item ++ ['\'']) ++ [']']

/-- A search that finds nothing gives Python's `None`, which is not the empty string. -/
def hotfixContainers (regex : Pattern) (names : List ContainerName) : Option (List Char) :=
  let printed := printedList ((containersList names).splitOn '\n')
  (search (regex.compile false) printed).map (slice printed)

def containerLoop (regex : Pattern) (names : List ContainerName) : List (List Char) :=
  unique (findall (regex.compile true) (containersList names))

variable {File : Type}

def play (vars : Vars File) (names : List ContainerName) : Except Failure (List (List Char)) :=
  if inputsInvalid vars then .error .invalidInput
  else if hotfixContainers vars.containerHotfixContainerRegex names = some [] then
    .error (.noContainersMatched (names.map ContainerName.chars))
  else .ok (containerLoop vars.containerHotfixContainerRegex names)

/-- The values that the play hotfixes. It hotfixes none if it fails before. -/
def hotfixed (vars : Vars File) (names : List ContainerName) : List (List Char) :=
  (play vars names).toOption.getD []

def restarted (vars : Vars File) (names : List ContainerName) : List (List Char) :=
  if vars.containerHotfixRestartContainers then hotfixed vars names else []

def matchesEntirely (regex : Pattern) (name : ContainerName) : Bool :=
  fullmatch (regex.compile false) name.chars

def lines : Nat → List ContainerName → List (ContainerName × Nat × Nat)
  | _, [] => []
  | start, name :: names =>
      (name, start, start + name.chars.length) :: lines (start + name.chars.length + 1) names

def matchingLines (regex : Pattern) (names : List ContainerName) : List (Nat × Nat) :=
  ((lines 0 names).filter fun line => matchesEntirely regex line.1).map Prod.snd

/-- The play hotfixes the containers whose entire name matches, and restarts those. -/
structure Reaches (vars : Vars File) (names : List ContainerName) : Prop where
  once : (hotfixed vars names).Nodup
  exactly : ∀ value, value ∈ hotfixed vars names ↔ ∃ name ∈ names,
    name.chars = value ∧ matchesEntirely vars.containerHotfixContainerRegex name = true
  restarts : vars.containerHotfixRestartContainers = true →
    restarted vars names = hotfixed vars names

/-- No value is a piece of a name that by chance spells another container's. -/
def FoundOnLines (regex : Pattern) (names : List ContainerName) : Prop :=
  hotfixContainers regex names ≠ some [] →
    spans (regex.compile true) (containersList names) = matchingLines regex names

/-- The expression takes every matching name as a whole where its line starts and matches
nowhere else; or it matches no name and finds the empty string in the printed list. -/
def TakesLines (regex : Pattern) (names : List ContainerName) : Prop :=
  if hotfixContainers regex names = some [] then ∀ name ∈ names, matchesEntirely regex name = false
  else Finds (regex.compile true) (containersList names) 0 ((containersList names).length + 1)
    (matchingLines regex names)

theorem lines_ordered (wanted : ContainerName × Nat × Nat → Bool) (start : Nat)
    (names : List ContainerName) :
    Ordered start (((lines start names).filter wanted).map Prod.snd) := by
  induction names generalizing start with
  | nil => trivial
  | cons name names ih =>
      have positive := List.length_pos_of_ne_nil name.nonempty
      rw [lines, List.filter_cons]
      split
      · refine ⟨Nat.le_refl start, ?_, (ih _).mono ?_⟩
        · dsimp only
          omega
        · dsimp only
          omega
      · exact (ih _).mono (by omega)

theorem lines_fst (start : Nat) (names : List ContainerName) :
    (lines start names).map Prod.fst = names := by
  induction names generalizing start with
  | nil => rfl
  | cons name names ih => rw [lines, List.map_cons, ih]

theorem slice_append (before name after : List Char) :
    slice (before ++ (name ++ after)) (before.length, before.length + name.length) = name := by
  simp [slice]

theorem containersList_cons (name : ContainerName) (names : List ContainerName) :
    ∃ after, containersList (name :: names) = name.chars ++ after := by
  cases names with
  | nil => exact ⟨[], by simp [containersList]⟩
  | cons next names =>
      exact ⟨'\n' :: containersList (next :: names), by simp [containersList, List.intercalate_cons_cons]⟩

theorem line_slice (names : List ContainerName) (before : List Char)
    {line : ContainerName × Nat × Nat} (among : line ∈ lines before.length names) :
    slice (before ++ containersList names) line.2 = line.1.chars ∧
      line.2.1 ≤ (before ++ containersList names).length := by
  induction names generalizing before with
  | nil => cases among
  | cons name names ih =>
      obtain ⟨after, split⟩ := containersList_cons name names
      rw [lines, List.mem_cons] at among
      rcases among with rfl | later
      · rw [split]
        refine ⟨slice_append before name.chars after, ?_⟩
        rw [List.length_append]
        exact Nat.le_add_right _ _
      · cases names with
        | nil => cases later
        | cons next names =>
            have regroup : before ++ containersList (name :: next :: names) =
                (before ++ name.chars ++ ['\n']) ++ containersList (next :: names) := by
              simp [containersList, List.intercalate_cons_cons]
            rw [regroup]
            apply ih (before ++ name.chars ++ ['\n'])
            simpa [Nat.add_assoc] using later

theorem mem_slice_matchingLines (regex : Pattern) (names : List ContainerName) (value : List Char) :
    value ∈ (matchingLines regex names).map (slice (containersList names)) ↔
      ∃ name ∈ names, name.chars = value ∧ matchesEntirely regex name = true := by
  have sliced {line : ContainerName × Nat × Nat} (among : line ∈ lines 0 names) :
      slice (containersList names) line.2 = line.1.chars := (line_slice names [] among).1
  unfold matchingLines
  rw [List.map_map, List.mem_map]
  constructor
  · rintro ⟨line, kept, rfl⟩
    obtain ⟨among, matched⟩ := List.mem_filter.mp kept
    refine ⟨line.1, ?_, (sliced among).symm, matched⟩
    rw [← lines_fst 0 names]
    exact List.mem_map_of_mem among
  · rintro ⟨name, among, rfl, matched⟩
    rw [← lines_fst 0 names] at among
    obtain ⟨line, listed, rfl⟩ := List.mem_map.mp among
    exact ⟨line, List.mem_filter.mpr ⟨listed, matched⟩, sliced listed⟩

theorem spans_eq_matchingLines_iff (regex : Pattern) (names : List ContainerName) :
    spans (regex.compile true) (containersList names) = matchingLines regex names ↔
      Finds (regex.compile true) (containersList names) 0 ((containersList names).length + 1)
        (matchingLines regex names) := by
  apply spans_eq_iff
  · exact lines_ordered (fun line => matchesEntirely regex line.1) 0 names
  · intro span among
    obtain ⟨line, kept, rfl⟩ := List.mem_map.mp among
    exact (line_slice names [] (List.mem_filter.mp kept).1).2

section Play

variable {vars : Vars File} {names : List ContainerName}

theorem hotfixed_of_emptyMatch
    (stopped : hotfixContainers vars.containerHotfixContainerRegex names = some []) :
    hotfixed vars names = [] := by
  unfold hotfixed play
  split
  · rfl
  · rfl

theorem hotfixed_of_passed (valid : inputsInvalid vars = false)
    (passed : hotfixContainers vars.containerHotfixContainerRegex names ≠ some []) :
    hotfixed vars names = containerLoop vars.containerHotfixContainerRegex names := by
  unfold hotfixed play
  rw [if_neg (by simp [valid]), if_neg passed]
  rfl

theorem hotfixed_nodup (vars : Vars File) (names : List ContainerName) :
    (hotfixed vars names).Nodup := by
  unfold hotfixed play
  split
  · exact List.nodup_nil
  · split
    · exact List.nodup_nil
    · exact unique_nodup _

/-- The play reaches exactly the matching containers, each found on its own line, exactly
when the expression takes the lines of matching names and nothing else. -/
theorem reaches_iff_takesLines (vars : Vars File) (names : List ContainerName)
    (valid : inputsInvalid vars = false) :
    Reaches vars names ∧ FoundOnLines vars.containerHotfixContainerRegex names ↔
      TakesLines vars.containerHotfixContainerRegex names := by
  have restarts : vars.containerHotfixRestartContainers = true →
      restarted vars names = hotfixed vars names := fun requested => if_pos requested
  unfold TakesLines
  split
  · rename_i stopped
    have nothing := hotfixed_of_emptyMatch stopped
    constructor
    · intro ⟨reaches, _⟩ name among
      rw [Bool.eq_false_iff]
      intro matched
      have reached := (reaches.exactly name.chars).mpr ⟨name, among, rfl, matched⟩
      rw [nothing] at reached
      cases reached
    · intro none
      refine ⟨⟨hotfixed_nodup vars names, ?_, restarts⟩, fun passed => absurd stopped passed⟩
      intro value
      rw [nothing]
      refine iff_of_false List.not_mem_nil ?_
      rintro ⟨name, among, _, matched⟩
      rw [none name among] at matched
      cases matched
  · rename_i passed
    rw [← spans_eq_matchingLines_iff]
    constructor
    · intro ⟨_, onLines⟩
      exact onLines passed
    · intro onLines
      refine ⟨⟨hotfixed_nodup vars names, ?_, restarts⟩, fun _ => onLines⟩
      intro value
      rw [hotfixed_of_passed valid passed, containerLoop, mem_unique, findall, onLines]
      exact mem_slice_matchingLines _ names value

end Play

/-- An expression that accepts one given text. -/
def literalPattern (text : String) : Pattern where
  source := text
  compile _ := ofPieces ((literal text).map fun accepts => ⟨accepts, false⟩)

def novaApi : ContainerName := ⟨"nova_api".toList, by decide, by decide⟩

def hotfixNova : Vars Unit := ⟨"/tmp/quick-fix.sh", [], literalPattern "nova", false⟩

theorem reaches_iff_takesLines_nova :
    Reaches hotfixNova [novaApi] ∧ FoundOnLines (literalPattern "nova") [novaApi] ↔
      TakesLines (literalPattern "nova") [novaApi] :=
  reaches_iff_takesLines hotfixNova [novaApi] rfl

theorem nova_hotfixed : ¬Reaches hotfixNova [novaApi] := by
  intro reaches
  have looped : "nova".toList ∈ hotfixed hotfixNova [novaApi] := by decide
  obtain ⟨name, among, same, _⟩ := (reaches.exactly _).mp looped
  rw [List.mem_singleton.mp among] at same
  exact absurd same (by decide)

end Hotfix
