import KayobeConfig.Library.Regex

/-!
The command with which `tools/growroot.yml` grows the partition of the root PV. It takes
the disk and the partition number from the name of the PV.
-/

namespace GrowRoot

open Library

def isLowerAlphanumeric (char : Char) : Bool := char.isLower || char.isDigit

def partitionPieces : List Piece :=
  [⟨isLowerAlphanumeric, true⟩, ⟨Char.isDigit, true⟩, ⟨(· == 'p'), false⟩, ⟨Char.isDigit, true⟩]

def hasPartitionMark (pvName : List Char) : Bool :=
  match search (ofPieces partitionPieces) pvName with
  | none => false
  | some span => !(slice pvName span).isEmpty

def diskTmp (pvName : List Char) : List Char := pvName.dropLast

def disk (pvName : List Char) : List Char :=
  if hasPartitionMark pvName then (diskTmp pvName).dropLast else diskTmp pvName

def partNum (pvName : List Char) : List Char := pvName.getLast?.toList

/-- There is no command if the volume group has no PV. -/
def growPartition (pvNames : List (List Char)) : Option (List (List Char)) :=
  pvNames.head?.map fun pvName => ["growpart".toList, disk pvName, partNum pvName]

def endsInDigit (device : List Char) : Bool := device.getLast?.any Char.isDigit

def partitionName (device : List Char) (number : Nat) : List Char :=
  if endsInDigit device then device ++ 'p' :: Nat.toDigits 10 number
  else device ++ Nat.toDigits 10 number

/-- The command that is run when the root PV is a partition of a disk. -/
def GrowsPartition (device : List Char) (number : Nat) (others : List (List Char)) : Prop :=
  growPartition (partitionName device number :: others) =
    some ["growpart".toList, device, Nat.toDigits 10 number]

/-- A part that reads like the end of a partition name after a digit. -/
def Marked (text : List Char) : Prop :=
  ∃ x y z, [x, y, 'p', z] <:+: text ∧ isLowerAlphanumeric x = true ∧ y.isDigit = true ∧
    z.isDigit = true

def EndsMarked (text : List Char) : Prop :=
  ∃ x y, [x, y, 'p'] <:+ text ∧ isLowerAlphanumeric x = true ∧ y.isDigit = true

def EndsNumbered (text : List Char) : Prop :=
  ∃ x y, [x, y] <:+ text ∧ isLowerAlphanumeric x = true ∧ y.isDigit = true

/-- The expression tells the layout of the device's partitions. -/
def ShowsLayout (device : List Char) : Prop :=
  if endsInDigit device then Marked device ∨ EndsNumbered device
  else ¬Marked device ∧ ¬EndsMarked device

theorem exists_append_singleton {chars : List Char} (nonempty : chars ≠ []) :
    ∃ start last, chars = start ++ [last] :=
  ⟨_, _, (List.dropLast_concat_getLast nonempty).symm⟩

theorem isLowerAlphanumeric_of_isDigit {char : Char} (digit : char.isDigit = true) :
    isLowerAlphanumeric char = true := by
  simp [isLowerAlphanumeric, digit]

theorem marked_of_begins (before : List Char) {chars : List Char}
    (begins : Begins partitionPieces chars) :
    Marked (before ++ chars) := by
  obtain ⟨letters, _, rfl, lettered, isLetter, _, digits, _, rfl, numbered, isDigit, _, mark, _, rfl,
    _, isMark, single, number, after, rfl, counted, isNumber, _⟩ := begins
  obtain ⟨digits, y, rfl⟩ := exists_append_singleton numbered
  have nonempty : letters ++ digits ≠ [] := by simp [lettered]
  obtain ⟨middle, x, inside⟩ := exists_append_singleton nonempty
  obtain ⟨m, rfl⟩ := List.length_eq_one_iff.mp (single rfl)
  obtain ⟨z, rest, rfl⟩ := List.exists_cons_of_ne_nil counted
  simp only [List.all_append, List.all_cons, List.all_nil, Bool.and_true, Bool.and_eq_true,
    beq_iff_eq] at isMark isNumber isDigit
  subst m
  have accepted : isLowerAlphanumeric x = true := by
    have among : x ∈ letters ++ digits := by simp [inside]
    rcases List.mem_append.mp among with letter | digit
    · exact List.all_eq_true.mp isLetter x letter
    · exact isLowerAlphanumeric_of_isDigit (List.all_eq_true.mp isDigit.1 x digit)
  refine ⟨x, y, z, ⟨before ++ middle, rest ++ after, ?_⟩, accepted, isDigit.2, isNumber.1⟩
  have shown : letters ++ (digits ++ [y] ++ (['p'] ++ (z :: rest ++ after))) =
      (letters ++ digits) ++ (y :: 'p' :: z :: (rest ++ after)) := by
    simp
  rw [shown, inside]
  simp

theorem begins_of_mark {x y z : Char} (letter : isLowerAlphanumeric x = true)
    (digit : y.isDigit = true) (number : z.isDigit = true) (after : List Char) :
    Begins partitionPieces ([x, y, 'p', z] ++ after) :=
  ⟨[x], [y, 'p', z] ++ after, rfl, by simp, by simp [letter], by simp,
    [y], ['p', z] ++ after, rfl, by simp, by simp [digit], by simp,
    ['p'], z :: after, rfl, by simp, by simp, by simp,
    [z], after, rfl, by simp, by simp [number], by simp, trivial⟩

theorem search_partition_iff (pvName : List Char) :
    search (ofPieces partitionPieces) pvName ≠ none ↔ Marked pvName := by
  rw [Ne, search_eq_none_iff]
  simp only [not_forall, ← Ne.eq_def, ofPieces_ne_nil_iff]
  constructor
  · rintro ⟨position, _, begins⟩
    have marked := marked_of_begins (pvName.take position) begins
    rw [List.take_append_drop] at marked
    exact marked
  · rintro ⟨x, y, z, ⟨before, after, rfl⟩, letter, digit, number⟩
    refine ⟨before.length, by simp, ?_⟩
    rw [List.append_assoc, List.drop_left]
    exact begins_of_mark letter digit number after

theorem hasPartitionMark_iff (pvName : List Char) : hasPartitionMark pvName = true ↔ Marked pvName := by
  rw [← search_partition_iff]
  unfold hasPartitionMark
  cases found : search (ofPieces partitionPieces) pvName with
  | none => simp
  | some span =>
      have long := search_ofPieces_length found
      have nonempty : slice pvName span ≠ [] := by
        intro empty
        rw [empty] at long
        cases long
      simp [nonempty]

theorem marked_append_digit {text : List Char} {digit : Char} (isDigit : digit.isDigit = true) :
    Marked (text ++ [digit]) ↔ Marked text ∨ EndsMarked text := by
  unfold Marked EndsMarked
  constructor
  · rintro ⟨x, y, z, inside, letter, number, last⟩
    rcases List.infix_concat_iff.mp inside with ends | inside
    · right
      rcases List.suffix_concat_iff.mp ends with impossible | ⟨start, split, ends⟩
      · cases impossible
      · have parts : [x, y, 'p'] ++ [z] = start ++ [digit] := split
        obtain ⟨rfl, _⟩ := List.append_inj' parts rfl
        exact ⟨x, y, ends, letter, number⟩
    · exact Or.inl ⟨x, y, z, inside, letter, number, last⟩
  · rintro (⟨x, y, z, inside, letter, number, last⟩ | ⟨x, y, ⟨start, rfl⟩, letter, number⟩)
    · exact ⟨x, y, z, inside.trans (List.prefix_append text [digit]).isInfix, letter, number, last⟩
    · exact ⟨x, y, digit, ⟨start, [], by simp⟩, letter, number, isDigit⟩

theorem marked_append_p {text : List Char} : Marked (text ++ ['p']) ↔ Marked text := by
  unfold Marked
  constructor
  · rintro ⟨x, y, z, inside, letter, number, last⟩
    rcases List.infix_concat_iff.mp inside with ends | inside
    · rcases List.suffix_concat_iff.mp ends with impossible | ⟨start, split, _⟩
      · cases impossible
      · have parts : [x, y, 'p'] ++ [z] = start ++ ['p'] := split
        obtain ⟨_, same⟩ := List.append_inj' parts rfl
        rw [(List.cons.inj same).1] at last
        exact absurd last (by decide)
    · exact ⟨x, y, z, inside, letter, number, last⟩
  · rintro ⟨x, y, z, inside, letter, number, last⟩
    exact ⟨x, y, z, inside.trans (List.prefix_append text ['p']).isInfix, letter, number, last⟩

theorem endsMarked_append_p {text : List Char} : EndsMarked (text ++ ['p']) ↔ EndsNumbered text := by
  unfold EndsMarked EndsNumbered
  constructor
  · rintro ⟨x, y, ends, letter, number⟩
    rcases List.suffix_concat_iff.mp ends with impossible | ⟨start, split, ends⟩
    · cases impossible
    · have parts : [x, y] ++ ['p'] = start ++ ['p'] := split
      obtain ⟨rfl, _⟩ := List.append_inj' parts rfl
      exact ⟨x, y, ends, letter, number⟩
  · rintro ⟨x, y, ⟨start, rfl⟩, letter, number⟩
    exact ⟨x, y, ⟨start, by simp⟩, letter, number⟩

theorem disk_iff {device : List Char} {digit : Char} (isDigit : digit.isDigit = true) :
    disk (if endsInDigit device then device ++ ['p', digit] else device ++ [digit]) = device ↔
      ShowsLayout device := by
  unfold ShowsLayout
  split
  · have parts : device ++ ['p', digit] = (device ++ ['p']) ++ [digit] := by simp
    rw [parts, ← marked_append_p, ← endsMarked_append_p, ← marked_append_digit isDigit,
      ← hasPartitionMark_iff, disk, diskTmp, List.dropLast_concat, List.dropLast_concat]
    cases hasPartitionMark (device ++ ['p'] ++ [digit]) with
    | true => simp
    | false => simp
  · rw [← not_or, ← marked_append_digit isDigit, ← hasPartitionMark_iff, disk, diskTmp,
      List.dropLast_concat]
    cases marked : hasPartitionMark (device ++ [digit]) with
    | false => simp
    | true =>
        have nonempty : device ≠ [] := by
          rintro rfl
          obtain ⟨x, y, z, inside, _⟩ := (hasPartitionMark_iff _).mp marked
          have long := inside.length_le
          simp at long
        have positive := List.length_pos_of_ne_nil nonempty
        refine iff_of_false ?_ (by simp)
        intro same
        have size := congrArg List.length same
        rw [if_pos rfl, List.length_dropLast] at size
        omega

theorem partitionName_of_lt {number : Nat} (single : number < 10) (device : List Char) :
    partitionName device number = if endsInDigit device then device ++ ['p', number.digitChar]
      else device ++ [number.digitChar] := by
  unfold partitionName
  rw [Nat.toDigits_of_lt_base single]

theorem partNum_partitionName (device : List Char) (number : Nat) :
    partNum (partitionName device number) =
      [(Nat.toDigits 10 number).getLast Nat.toDigits_ne_nil] := by
  unfold partNum partitionName
  split
  · rw [← List.singleton_append, ← List.append_assoc, List.getLast?_append_of_ne_nil _ Nat.toDigits_ne_nil,
      List.getLast?_eq_some_getLast Nat.toDigits_ne_nil, Option.toList_some]
  · rw [List.getLast?_append_of_ne_nil _ Nat.toDigits_ne_nil,
      List.getLast?_eq_some_getLast Nat.toDigits_ne_nil, Option.toList_some]

theorem partNum_iff (device : List Char) (number : Nat) :
    partNum (partitionName device number) = Nat.toDigits 10 number ↔ number < 10 := by
  rw [partNum_partitionName]
  have single := Nat.length_toDigits_le_iff (b := 10) (n := number) (k := 1) (by omega) (by omega)
  constructor
  · intro same
    rw [Nat.pow_one, ← same] at single
    exact single.mp (Nat.le_refl 1)
  · intro small
    simp [Nat.toDigits_of_lt_base small]

/-- The right partition is grown exactly for one-digit numbers on devices whose names show
the layout of their partitions to the expression. -/
theorem growsPartition_iff (device : List Char) (number : Nat) (others : List (List Char)) :
    GrowsPartition device number others ↔ number < 10 ∧ ShowsLayout device := by
  have fields : GrowsPartition device number others ↔
      disk (partitionName device number) = device ∧
        partNum (partitionName device number) = Nat.toDigits 10 number := by
    simp [GrowsPartition, growPartition]
  rw [fields, partNum_iff, and_comm]
  refine and_congr_right fun single => ?_
  rw [partitionName_of_lt single]
  exact disk_iff (by rw [Nat.isDigit_digitChar, decide_eq_true single])

theorem tenth_partition : ¬GrowsPartition "/dev/sda".toList 10 [] := by
  unfold GrowsPartition
  decide

end GrowRoot
