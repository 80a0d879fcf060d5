import Mathlib.Data.List.DropRight
import Mathlib.Data.List.Infix

/-!
Text operations on strings, computed on their characters: splitting, joining and
stripping with the laws by which they undo one another, and the part of regular
expression matching that fixed-shape patterns need.
-/

namespace Library

inductive PyError
  | keyError
  | indexError
  | valueError
  | typeError
  | attributeError
  | overflowError
  | jsonDecodeError
  | recursionError
  | assertionError
  deriving DecidableEq, Repr

def startswith (text start : String) : Bool := start.toList.isPrefixOf text.toList

def replaceChar (old new : Char) (text : String) : String :=
  String.ofList (text.toList.map fun char => if char = old then new else char)

abbrev Atom := Char → Bool

def literal (text : String) : List Atom := text.toList.map fun wanted char => char == wanted

def matchAtoms : List Atom → List Char → Bool
  | [], [] => true
  | atom :: atoms, char :: chars => atom char && matchAtoms atoms chars
  | _, _ => false

def matchPlus (atom : Atom) (chars : List Char) : Bool := !chars.isEmpty && chars.all atom

/-- `$` holds at the end of the text and before a final newline. -/
def beforeEnd (accepts : List Char → Bool) (text : String) : Bool :=
  accepts text.toList || (text.toList.getLast? == some '\n' && accepts text.toList.dropLast)

/-- `split(separator, 1)` into two parts. There is no second part without a separator. -/
def splitFirst (separator : Char) : List Char → Option (List Char × List Char)
  | [] => none
  | char :: chars =>
      if char = separator then some ([], chars)
      else (splitFirst separator chars).map fun parts => (char :: parts.1, parts.2)

def stripOf (unwanted : Char → Bool) (chars : List Char) : List Char :=
  (chars.dropWhile unwanted).rdropWhile unwanted

def isSpace (char : Char) : Bool :=
  char.toNat ∈ [0x9, 0xA, 0xB, 0xC, 0xD, 0x1C, 0x1D, 0x1E, 0x1F, 0x20, 0x85, 0xA0, 0x1680, 0x2000,
    0x2001, 0x2002, 0x2003, 0x2004, 0x2005, 0x2006, 0x2007, 0x2008, 0x2009, 0x200A, 0x2028, 0x2029,
    0x202F, 0x205F, 0x3000]

def isLineBreak (char : Char) : Bool :=
  char.toNat ∈ [0xA, 0xB, 0xC, 0xD, 0x1C, 0x1D, 0x1E, 0x85, 0x2028, 0x2029]

def strip (text : String) : String := String.ofList (stripOf isSpace text.toList)

def words (text : String) : List String :=
  ((text.toList.splitOnP isSpace).filter fun word => !word.isEmpty).map String.ofList

def contains (text wanted : String) : Bool := text.toList.tails.any wanted.toList.isPrefixOf

def asciiLower (text : String) : String := String.ofList (text.toList.map Char.toLower)

def asciiUpper (text : String) : String := String.ofList (text.toList.map Char.toUpper)

theorem startswith_iff (text start : String) :
    startswith text start = true ↔ start.toList <+: text.toList := by
  simp [startswith]

theorem contains_iff (text wanted : String) :
    contains text wanted = true ↔ wanted.toList <:+: text.toList := by
  unfold contains
  simp only [List.any_eq_true, List.mem_tails, List.isPrefixOf_iff_prefix, List.infix_iff_prefix_suffix,
    and_comm]

theorem matchAtoms_nil (atoms : List Atom) : matchAtoms atoms [] = atoms.isEmpty := by
  cases atoms <;> rfl

theorem matchAtoms_length {atoms : List Atom} {chars : List Char}
    (matched : matchAtoms atoms chars = true) : chars.length = atoms.length := by
  induction atoms generalizing chars with
  | nil =>
      cases chars with
      | nil => rfl
      | cons char chars => cases matched
  | cons atom atoms ih =>
      cases chars with
      | nil => cases matched
      | cons char chars =>
          simp only [matchAtoms, Bool.and_eq_true] at matched
          rw [List.length_cons, List.length_cons, ih matched.2]

theorem matchAtoms_append (first second : List Atom) (chars : List Char) :
    matchAtoms (first ++ second) chars = true ↔
      ∃ before after, chars = before ++ after ∧ matchAtoms first before = true ∧
        matchAtoms second after = true := by
  induction first generalizing chars with
  | nil =>
      constructor
      · intro matched
        exact ⟨[], chars, rfl, rfl, matched⟩
      · rintro ⟨before, after, rfl, empty, matched⟩
        cases before with
        | nil => exact matched
        | cons char before => cases empty
  | cons atom first ih =>
      cases chars with
      | nil =>
          constructor
          · intro impossible
            cases impossible
          · rintro ⟨before, after, joined, matched, _⟩
            obtain ⟨rfl, _⟩ := List.append_eq_nil_iff.mp joined.symm
            cases matched
      | cons char chars =>
          simp only [List.cons_append, matchAtoms, Bool.and_eq_true, ih]
          constructor
          · rintro ⟨holds, before, after, rfl, matched, rest⟩
            exact ⟨char :: before, after, rfl, by simp [matchAtoms, holds, matched], rest⟩
          · rintro ⟨before, after, joined, matched, rest⟩
            cases before with
            | nil => cases matched
            | cons other before =>
                obtain ⟨rfl, rfl⟩ := List.cons.inj joined
                simp only [matchAtoms, Bool.and_eq_true] at matched
                exact ⟨matched.1, before, after, rfl, matched.2, rest⟩

theorem matchAtoms_literal (text : String) (chars : List Char) :
    matchAtoms (literal text) chars = true ↔ chars = text.toList := by
  unfold literal
  induction text.toList generalizing chars with
  | nil => cases chars <;> simp [matchAtoms]
  | cons wanted rest ih =>
      cases chars with
      | nil => simp [matchAtoms]
      | cons char chars => simp [matchAtoms, ih]

theorem matchAtoms_replicate (count : Nat) (atom : Atom) (chars : List Char) :
    matchAtoms (List.replicate count atom) chars = true ↔
      chars.length = count ∧ ∀ char ∈ chars, atom char = true := by
  induction count generalizing chars with
  | zero => cases chars <;> simp [matchAtoms]
  | succ count ih =>
      cases chars with
      | nil => simp [List.replicate_succ, matchAtoms]
      | cons char chars =>
          simp only [List.replicate_succ, matchAtoms, Bool.and_eq_true, ih, List.length_cons,
            Nat.add_right_cancel_iff, List.forall_mem_cons]
          exact and_left_comm

theorem beforeEnd_iff (accepts : List Char → Bool) (text : String) :
    beforeEnd accepts text = true ↔
      ∃ chars, accepts chars = true ∧ (text.toList = chars ∨ text.toList = chars ++ ['\n']) := by
  simp only [beforeEnd, Bool.or_eq_true, Bool.and_eq_true, beq_iff_eq]
  constructor
  · rintro (whole | ⟨last, accepted⟩)
    · exact ⟨text.toList, whole, Or.inl rfl⟩
    · exact ⟨text.toList.dropLast, accepted, Or.inr (List.dropLast_append_getLast? _ last).symm⟩
  · rintro ⟨chars, accepted, rfl | ended⟩
    · exact Or.inl accepted
    · right
      rw [ended]
      exact ⟨by simp, by simpa using accepted⟩

theorem beforeEnd_nonempty {accepts : List Char → Bool} {text : String}
    (proper : accepts [] = false) (matched : beforeEnd accepts text = true) : text ≠ "" := by
  rintro rfl
  simp [beforeEnd, proper] at matched

theorem splitFirst_append {separator : Char} {before : List Char} (absent : separator ∉ before)
    (after : List Char) :
    splitFirst separator (before ++ separator :: after) = some (before, after) := by
  induction before with
  | nil => simp [splitFirst]
  | cons char chars ih =>
      simp only [List.mem_cons, not_or] at absent
      simp [splitFirst, Ne.symm absent.1, ih absent.2]

theorem splitFirst_some {separator : Char} {chars before after : List Char}
    (found : splitFirst separator chars = some (before, after)) :
    chars = before ++ separator :: after ∧ separator ∉ before := by
  induction chars generalizing before with
  | nil => simp [splitFirst] at found
  | cons char chars ih =>
      simp only [splitFirst] at found
      split at found
      · rename_i same
        cases found
        simp [same]
      · rename_i different
        obtain ⟨⟨first, rest⟩, tail, same⟩ := Option.map_eq_some_iff.mp found
        cases same
        obtain ⟨joined, absent⟩ := ih tail
        exact ⟨by simp [joined], by simp [absent, Ne.symm different]⟩

theorem splitOn_pieces {separator : Char} {text piece : List Char}
    (member : piece ∈ text.splitOn separator) : separator ∉ piece ∧ piece ⊆ text := by
  induction text generalizing piece with
  | nil => simp_all
  | cons char chars ih =>
      rw [List.splitOn_cons_eq_if_modifyHead] at member
      split at member
      · rcases List.mem_cons.mp member with rfl | later
        · simp
        · exact ⟨(ih later).1, List.subset_cons_of_subset char (ih later).2⟩
      · rename_i different
        cases pieces : chars.splitOn separator with
        | nil => exact absurd pieces (List.splitOn_ne_nil separator chars)
        | cons first rest =>
            rw [pieces, List.modifyHead_cons, List.mem_cons] at member
            rcases member with rfl | later
            · have listed : first ∈ chars.splitOn separator := pieces ▸ List.mem_cons_self
              obtain ⟨absent, inside⟩ := ih listed
              have other : separator ≠ char := fun same => different (by simp [same])
              exact ⟨List.not_mem_cons_of_ne_of_not_mem other absent, List.cons_subset_cons char inside⟩
            · have listed : piece ∈ chars.splitOn separator :=
                pieces ▸ List.mem_cons_of_mem first later
              obtain ⟨absent, inside⟩ := ih listed
              exact ⟨absent, List.subset_cons_of_subset char inside⟩

theorem splitOn_lines {separator : Char} {lines : List (List Char)}
    (whole : ∀ line ∈ lines, separator ∉ line) :
    (lines.flatMap fun line => line ++ [separator]).splitOn separator = lines ++ [[]] := by
  induction lines with
  | nil => rfl
  | cons line lines ih =>
      obtain ⟨first, rest⟩ := List.forall_mem_cons.mp whole
      rw [List.flatMap_cons, List.append_assoc, List.singleton_append,
        List.splitOn_append_cons_self_of_not_mem first, ih rest]
      rfl

theorem intercalate_free {separator other : Char} (different : other ≠ separator)
    {texts : List (List Char)} (free : ∀ text ∈ texts, other ∉ text) :
    other ∉ [separator].intercalate texts := by
  induction texts with
  | nil => simp
  | cons text texts ih =>
      have rest := ih fun later member => free later (List.mem_cons_of_mem text member)
      cases texts with
      | nil => simpa using free text
      | cons next others =>
          rw [List.intercalate_cons_cons]
          simp only [List.mem_append, List.mem_singleton, not_or]
          exact ⟨⟨free text List.mem_cons_self, different⟩, rest⟩

def Trimmed (unwanted : Char → Bool) (chars : List Char) : Prop :=
  (∀ char ∈ chars.head?, unwanted char = false) ∧ ∀ char ∈ chars.getLast?, unwanted char = false

instance {unwanted : Char → Bool} {chars : List Char} : Decidable (Trimmed unwanted chars) :=
  @instDecidableAnd _ _ (Option.decidableForallMem _) (Option.decidableForallMem _)

theorem stripOf_eq_self {unwanted : Char → Bool} {chars : List Char}
    (trimmed : Trimmed unwanted chars) : stripOf unwanted chars = chars := by
  have front : chars.dropWhile unwanted = chars := by
    cases chars with
    | nil => rfl
    | cons char chars =>
        have kept : unwanted char = false := trimmed.1 char (by simp)
        simp [kept]
  unfold stripOf
  rw [front, List.rdropWhile_eq_self_iff]
  intro nonempty
  simpa using trimmed.2 _ (List.getLast?_eq_some_getLast nonempty)

theorem stripOf_surrounded {unwanted : Char → Bool} {left right : Char} {chars : List Char}
    (dropsLeft : unwanted left = true) (dropsRight : unwanted right = true)
    (trimmed : Trimmed unwanted chars) :
    stripOf unwanted (left :: chars ++ [right]) = chars := by
  cases chars with
  | nil => simp [stripOf, dropsLeft, dropsRight, List.rdropWhile_nil]
  | cons char chars =>
      have kept : unwanted char = false := trimmed.1 char (by simp)
      have back := stripOf_eq_self trimmed
      unfold stripOf at back ⊢
      simp only [List.cons_append, List.dropWhile_cons, dropsLeft, kept, if_true,
        Bool.false_eq_true, if_false] at back ⊢
      rw [← List.cons_append, List.rdropWhile_concat_pos _ _ _ dropsRight]
      simpa using back

theorem stripOf_trimmed (unwanted : Char → Bool) (chars : List Char) :
    Trimmed unwanted (stripOf unwanted chars) := by
  constructor
  · intro char first
    have subset := List.rdropWhile_prefix unwanted (chars.dropWhile unwanted)
    have head : char ∈ (chars.dropWhile unwanted).head? := by
      obtain ⟨rest, joined⟩ := subset
      rw [← joined]
      cases stripped : stripOf unwanted chars with
      | nil => simp [stripped] at first
      | cons next others =>
          simp only [stripped, List.head?_cons, Option.mem_some_iff] at first
          subst first
          unfold stripOf at stripped
          simp [stripped]
    rw [Option.mem_def] at head
    cases dropped : chars.dropWhile unwanted with
    | nil => simp [dropped] at head
    | cons next others =>
        simp only [dropped, List.head?_cons, Option.some.injEq] at head
        subst next
        have kept := List.head_dropWhile_not unwanted (l := chars) (by simp [dropped])
        simpa [dropped] using kept
  · intro char last
    have nonempty : stripOf unwanted chars ≠ [] := by
      intro empty
      simp [empty] at last
    have kept := List.rdropWhile_last_not unwanted (chars.dropWhile unwanted) nonempty
    rw [Option.mem_def, List.getLast?_eq_some_getLast nonempty, Option.some.injEq] at last
    subst last
    simpa [stripOf] using kept

theorem mem_of_mem_stripOf {unwanted : Char → Bool} {chars : List Char} {char : Char}
    (member : char ∈ stripOf unwanted chars) : char ∈ chars :=
  (List.dropWhile_sublist unwanted).mem
    ((List.rdropWhile_prefix unwanted _).sublist.mem member)

theorem infix_separator_cons {word : List Char} {separator : Char} (absent : separator ∉ word)
    (after : List Char) :
    word <:+: separator :: after ↔ word <:+: after := by
  rw [List.infix_cons_iff]
  constructor
  · rintro (start | inside)
    · cases word with
      | nil => exact List.nil_infix
      | cons first rest =>
          have same := (List.cons_prefix_cons.mp start).1
          exact absurd (same ▸ List.mem_cons_self) absent
    · exact inside
  · exact Or.inr

theorem infix_append_separator {word : List Char} {separator : Char} (absent : separator ∉ word)
    (before after : List Char) :
    word <:+: before ++ separator :: after ↔ word <:+: before ∨ word <:+: after := by
  rw [List.infix_append_iff, infix_separator_cons absent]
  constructor
  · rintro (inBefore | inAfter | ⟨left, right, rfl, ends, starts⟩)
    · exact Or.inl inBefore
    · exact Or.inr inAfter
    · cases right with
      | nil =>
          rw [List.append_nil]
          exact Or.inl ends.isInfix
      | cons first rest =>
          have same := (List.cons_prefix_cons.mp starts).1
          exact absurd (by simp [same]) absent
  · rintro (inBefore | inAfter)
    · exact Or.inl inBefore
    · exact Or.inr (Or.inl inAfter)

end Library
