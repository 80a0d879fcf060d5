import KayobeConfig.Library.Text

/-!
Searching a text as Python's `re` does, for any regular expression. An expression is
given by the ends that its matches from a position can have, the first choice first.
-/

namespace Library

abbrev Matcher := List Char → Nat → List Nat

def slice (text : List Char) (span : Nat × Nat) : List Char :=
  (text.drop span.1).take (span.2 - span.1)

def search (matcher : Matcher) (text : List Char) : Option (Nat × Nat) :=
  (List.range (text.length + 1)).findSome? fun position =>
    (matcher text position).head?.map fun stop => (position, stop)

def fullmatch (matcher : Matcher) (text : List Char) : Bool := (matcher text 0).contains text.length

/-- The matches from left to right that do not overlap. Just after an empty match only
another one is taken at the same place. -/
def spansFrom (matcher : Matcher) (text : List Char) : Nat → Nat → Nat → List (Nat × Nat)
  | 0, _, _ => []
  | left + 1, position, resume =>
      if position < resume then spansFrom matcher text left (position + 1) resume
      else match matcher text position with
        | [] => spansFrom matcher text left (position + 1) resume
        | stop :: others =>
            if stop = position then
              (position, position) :: match others.find? fun other => other ≠ position with
                | none => spansFrom matcher text left (position + 1) resume
                | some other => (position, other) :: spansFrom matcher text left (position + 1) other
            else (position, stop) :: spansFrom matcher text left (position + 1) stop

def spans (matcher : Matcher) (text : List Char) : List (Nat × Nat) :=
  spansFrom matcher text (text.length + 1) 0 0

def findall (matcher : Matcher) (text : List Char) : List (List Char) :=
  (spans matcher text).map (slice text)

/-- Spans that are not empty and follow one another from a position on. -/
def Ordered : Nat → List (Nat × Nat) → Prop
  | _, [] => True
  | position, span :: rest => position ≤ span.1 ∧ span.1 < span.2 ∧ Ordered span.2 rest

def Covers (span : Nat × Nat) (position : Nat) : Prop := span.1 ≤ position ∧ position < span.2

theorem Ordered.mono {first second : Nat} {list : List (Nat × Nat)} (earlier : first ≤ second)
    (ordered : Ordered second list) : Ordered first list := by
  cases list with
  | nil => trivial
  | cons span rest => exact ⟨earlier.trans ordered.1, ordered.2⟩

theorem Ordered.start_ge {position : Nat} {list : List (Nat × Nat)} (ordered : Ordered position list)
    {span : Nat × Nat} (among : span ∈ list) : position ≤ span.1 := by
  induction list generalizing position with
  | nil => cases among
  | cons first rest ih =>
      obtain ⟨start, forward, later⟩ := ordered
      rcases List.mem_cons.mp among with same | among
      · rw [same]
        exact start
      · have after := ih later among
        omega

theorem Ordered.succ {position : Nat} {list : List (Nat × Nat)} (ordered : Ordered position list)
    (ahead : ∀ span ∈ list, span.1 ≠ position) : Ordered (position + 1) list := by
  cases list with
  | nil => trivial
  | cons span rest =>
      have start := ordered.1
      have different := ahead span List.mem_cons_self
      exact ⟨by omega, ordered.2⟩

theorem Ordered.head_of_start {position : Nat} {list : List (Nat × Nat)}
    (ordered : Ordered position list) {span : Nat × Nat} (among : span ∈ list)
    (start : span.1 = position) : ∃ rest, list = span :: rest := by
  cases list with
  | nil => cases among
  | cons first rest =>
      rcases List.mem_cons.mp among with same | later
      · exact ⟨rest, by rw [same]⟩
      · obtain ⟨lower, forward, after⟩ := ordered
        have beyond := after.start_ge later
        omega

/-- From a position to a limit the expression first ends a match that starts a span where
the span ends, and matches nothing outside the spans. -/
structure Finds (matcher : Matcher) (text : List Char) (position limit : Nat)
    (list : List (Nat × Nat)) : Prop where
  taken : ∀ span ∈ list, (matcher text span.1).head? = some span.2
  idle : ∀ other, position ≤ other → other < limit → (∀ span ∈ list, ¬Covers span other) →
    matcher text other = []

section Spans

variable {matcher : Matcher} {text : List Char}

theorem spansFrom_start_ge {left position resume : Nat} {span : Nat × Nat}
    (among : span ∈ spansFrom matcher text left position resume) : position ≤ span.1 := by
  induction left generalizing position resume with
  | zero => cases among
  | succ left ih =>
      rw [spansFrom] at among
      split at among
      · have later := ih among
        omega
      · split at among
        · have later := ih among
          omega
        · split at among
          · rcases List.mem_cons.mp among with same | among
            · rw [same]
            · split at among
              · have later := ih among
                omega
              · rcases List.mem_cons.mp among with same | among
                · rw [same]
                · have later := ih among
                  omega
          · rcases List.mem_cons.mp among with same | among
            · rw [same]
            · have later := ih among
              omega

theorem Finds.idle_of_start {position limit : Nat} {list : List (Nat × Nat)}
    (finds : Finds matcher text position limit list) (inside : position < limit)
    (ordered : Ordered (position + 1) list) : matcher text position = [] := by
  refine finds.idle position (Nat.le_refl position) inside ?_
  intro span among covers
  have later := ordered.start_ge among
  have start := covers.1
  omega

theorem finds_succ_iff {position limit : Nat} {list : List (Nat × Nat)}
    (silent : matcher text position = []) :
    Finds matcher text (position + 1) limit list ↔ Finds matcher text position limit list := by
  constructor
  · intro finds
    refine ⟨finds.taken, ?_⟩
    intro other lower upper uncovered
    by_cases first : other = position
    · rw [first]
      exact silent
    · exact finds.idle other (by omega) upper uncovered
  · intro finds
    exact ⟨finds.taken, fun other lower => finds.idle other (by omega)⟩

theorem finds_cons_iff {position limit : Nat} {span : Nat × Nat} {rest : List (Nat × Nat)}
    (start : span.1 = position) (forward : span.1 < span.2) :
    Finds matcher text position limit (span :: rest) ↔
      (matcher text position).head? = some span.2 ∧ Finds matcher text span.2 limit rest := by
  constructor
  · intro finds
    have first := finds.taken span List.mem_cons_self
    rw [start] at first
    refine ⟨first, fun later among => finds.taken later (List.mem_cons_of_mem span among), ?_⟩
    intro other lower upper uncovered
    refine finds.idle other (by omega) upper (List.forall_mem_cons.mpr ⟨?_, uncovered⟩)
    intro covers
    have before := covers.2
    omega
  · rintro ⟨first, finds⟩
    rw [← start] at first
    refine ⟨List.forall_mem_cons.mpr ⟨first, finds.taken⟩, ?_⟩
    intro other lower upper uncovered
    rw [List.forall_mem_cons] at uncovered
    have beyond : span.2 ≤ other := by
      by_contra inside
      exact uncovered.1 ⟨by omega, by omega⟩
    exact finds.idle other beyond upper uncovered.2

/-- At a match the spans start with it, and the search resumes at its end. -/
theorem spansFrom_match (left : Nat) {position resume stop : Nat} {others : List Nat}
    (due : ¬position < resume) (matched : matcher text position = stop :: others) :
    ∃ later, spansFrom matcher text (left + 1) position resume = (position, stop) :: later ∧
      (stop ≠ position → later = spansFrom matcher text left (position + 1) stop) := by
  rw [spansFrom, if_neg due, matched]
  by_cases empty : stop = position
  · subst stop
    exact ⟨_, if_pos rfl, fun different => absurd rfl different⟩
  · exact ⟨_, if_neg empty, fun _ => rfl⟩

end Spans

theorem spansFrom_eq_iff (matcher : Matcher) (text : List Char) (left position resume : Nat)
    (list : List (Nat × Nat)) (ordered : Ordered (max position resume) list)
    (within : ∀ span ∈ list, span.1 < position + left) :
    spansFrom matcher text left position resume = list ↔
      Finds matcher text (max position resume) (position + left) list := by
  induction left generalizing position resume list with
  | zero =>
      cases list with
      | nil =>
          refine iff_of_true rfl ⟨by simp, ?_⟩
          intro other lower upper
          omega
      | cons span rest =>
          have start := ordered.1
          have bound := within span List.mem_cons_self
          omega
  | succ left ih =>
      have shift : position + (left + 1) = position + 1 + left := by omega
      rw [shift] at within ⊢
      by_cases early : position < resume
      · have same : max position resume = max (position + 1) resume := by omega
        rw [same] at ordered ⊢
        rw [spansFrom, if_pos early]
        exact ih (position + 1) resume list ordered within
      · have here : max position resume = position := by omega
        have next : max (position + 1) resume = position + 1 := by omega
        rw [here] at ordered ⊢
        cases matched : matcher text position with
        | nil =>
            have unmatched : spansFrom matcher text (left + 1) position resume =
                spansFrom matcher text left (position + 1) resume := by
              rw [spansFrom, if_neg early, matched]
            rw [unmatched, ← finds_succ_iff matched]
            by_cases start : ∃ span ∈ list, span.1 = position
            · obtain ⟨span, among, start⟩ := start
              refine iff_of_false ?_ ?_
              · rintro rfl
                have later := spansFrom_start_ge among
                omega
              · intro finds
                have taken := finds.taken span among
                rw [start, matched] at taken
                cases taken
            · have ahead := ih (position + 1) resume list
              rw [next] at ahead
              exact ahead (ordered.succ fun span among same => start ⟨span, among, same⟩) within
        | cons stop others =>
            obtain ⟨later, found, resumes⟩ := spansFrom_match left early matched
            rw [found]
            by_cases start : ∃ span ∈ list, span.1 = position
            · obtain ⟨span, among, start⟩ := start
              obtain ⟨rest, rfl⟩ := ordered.head_of_start among start
              obtain ⟨_, forward, after⟩ := ordered
              rw [finds_cons_iff start forward, matched, List.head?_cons, Option.some.injEq,
                List.cons.injEq, Prod.ext_iff, start]
              simp only [true_and]
              refine and_congr_right ?_
              intro same
              have beyond : max (position + 1) span.2 = span.2 := by omega
              have ahead := ih (position + 1) span.2 rest
              rw [beyond] at ahead
              rw [resumes (by omega), same]
              exact ahead after fun later among => within later (List.mem_cons_of_mem span among)
            · refine iff_of_false ?_ ?_
              · rintro rfl
                exact start ⟨_, List.mem_cons_self, rfl⟩
              · intro finds
                have silent := finds.idle_of_start (by omega)
                  (ordered.succ fun span among same => start ⟨span, among, same⟩)
                rw [matched] at silent
                cases silent

/-- The search finds given spans exactly when each is the first choice at its start and
nothing matches outside them. -/
theorem spans_eq_iff (matcher : Matcher) (text : List Char) (list : List (Nat × Nat))
    (ordered : Ordered 0 list) (within : ∀ span ∈ list, span.1 ≤ text.length) :
    spans matcher text = list ↔ Finds matcher text 0 (text.length + 1) list := by
  have whole := spansFrom_eq_iff matcher text (text.length + 1) 0 0 list ordered
    fun span among => by have bound := within span among; omega
  rw [Nat.zero_add] at whole
  exact whole

theorem search_eq_none_iff (matcher : Matcher) (text : List Char) :
    search matcher text = none ↔ ∀ position ≤ text.length, matcher text position = [] := by
  unfold search
  simp only [List.findSome?_eq_none_iff, List.mem_range, Option.map_eq_none_iff,
    List.head?_eq_none_iff, Nat.lt_succ_iff]

/-- A character of a class, once or one or more times. -/
structure Piece where
  accepts : Atom
  repeats : Bool

def Piece.ends (piece : Piece) (text : List Char) (position : Nat) : List Nat :=
  let run := ((text.drop position).takeWhile piece.accepts).length
  if piece.repeats then (List.range run).reverse.map fun extra => position + (extra + 1)
  else if 0 < run then [position + 1] else []

def ofPieces : List Piece → Matcher
  | [], _, position => [position]
  | piece :: pieces, text, position =>
      (piece.ends text position).flatMap (ofPieces pieces text)

/-- A text begins with a part for each piece. -/
def Begins : List Piece → List Char → Prop
  | [], _ => True
  | piece :: pieces, chars => ∃ run after, chars = run ++ after ∧ run ≠ [] ∧
      run.all piece.accepts = true ∧ (piece.repeats = false → run.length = 1) ∧ Begins pieces after

theorem le_takeWhile_iff (accepts : Atom) (chars : List Char) (size : Nat) :
    size ≤ (chars.takeWhile accepts).length ↔ ∃ run after, chars = run ++ after ∧
      run.all accepts = true ∧ run.length = size := by
  constructor
  · intro fits
    refine ⟨(chars.takeWhile accepts).take size,
      (chars.takeWhile accepts).drop size ++ chars.dropWhile accepts, ?_, ?_, ?_⟩
    · rw [← List.append_assoc, List.take_append_drop, List.takeWhile_append_dropWhile]
    · rw [List.all_eq_true]
      intro char among
      exact List.all_eq_true.mp List.all_takeWhile char (List.mem_of_mem_take among)
    · rw [List.length_take]
      omega
  · rintro ⟨run, after, rfl, accepted, rfl⟩
    rw [List.takeWhile_append_of_pos (List.all_eq_true.mp accepted), List.length_append]
    exact Nat.le_add_right _ _

theorem mem_pieceEnds_iff (piece : Piece) (text : List Char) (position stop : Nat) :
    stop ∈ piece.ends text position ↔ ∃ run after, text.drop position = run ++ after ∧ run ≠ [] ∧
      run.all piece.accepts = true ∧ (piece.repeats = false → run.length = 1) ∧
        stop = position + run.length := by
  have fits := le_takeWhile_iff piece.accepts (text.drop position)
  unfold Piece.ends
  dsimp only
  split
  · rename_i repeats
    simp only [List.mem_map, List.mem_reverse, List.mem_range, Nat.lt_iff_add_one_le, fits, repeats]
    constructor
    · rintro ⟨extra, ⟨run, after, split, accepted, size⟩, rfl⟩
      refine ⟨run, after, split, ?_, accepted, by simp, by omega⟩
      rintro rfl
      cases size
    · rintro ⟨run, after, split, nonempty, accepted, _, rfl⟩
      have positive := List.length_pos_of_ne_nil nonempty
      exact ⟨run.length - 1, ⟨run, after, split, accepted, by omega⟩, by omega⟩
  · rename_i once
    have single := fits 1
    rw [Bool.not_eq_true] at once
    constructor
    · intro among
      split at among
      · rename_i positive
        obtain ⟨run, after, split, accepted, size⟩ := single.mp positive
        refine ⟨run, after, split, ?_, accepted, fun _ => size, ?_⟩
        · rintro rfl
          cases size
        · rw [List.mem_singleton.mp among, size]
      · cases among
    · rintro ⟨run, after, split, _, accepted, size, rfl⟩
      have size := size once
      have positive : 0 < ((text.drop position).takeWhile piece.accepts).length :=
        single.mpr ⟨run, after, split, accepted, size⟩
      rw [if_pos positive, size]
      exact List.mem_singleton_self _

theorem ofPieces_stop {pieces : List Piece} {text : List Char} {position stop : Nat}
    (among : stop ∈ ofPieces pieces text position) :
    ∃ matched after, text.drop position = matched ++ after ∧ stop = position + matched.length ∧
      pieces.length ≤ matched.length := by
  induction pieces generalizing position with
  | nil => exact ⟨[], text.drop position, rfl, List.mem_singleton.mp among, Nat.le_refl 0⟩
  | cons piece pieces ih =>
      obtain ⟨middle, first, rest⟩ := List.mem_flatMap.mp among
      obtain ⟨run, after, split, nonempty, _, _, rfl⟩ := (mem_pieceEnds_iff _ _ _ _).mp first
      obtain ⟨matched, final, later, same, long⟩ := ih rest
      have positive := List.length_pos_of_ne_nil nonempty
      rw [← List.drop_drop, split, List.drop_left] at later
      refine ⟨run ++ matched, final, ?_, ?_, ?_⟩
      · rw [split, later, List.append_assoc]
      · rw [same, List.length_append]
        omega
      · rw [List.length_append, List.length_cons]
        omega

theorem ofPieces_ne_nil_iff (pieces : List Piece) (text : List Char) (position : Nat) :
    ofPieces pieces text position ≠ [] ↔ Begins pieces (text.drop position) := by
  induction pieces generalizing position with
  | nil => simp [ofPieces, Begins]
  | cons piece pieces ih =>
      rw [ofPieces, Ne, List.flatMap_eq_nil_iff]
      simp only [not_forall, exists_prop, ih, mem_pieceEnds_iff, Begins]
      constructor
      · rintro ⟨_, ⟨run, after, split, nonempty, accepted, once, rfl⟩, rest⟩
        refine ⟨run, after, split, nonempty, accepted, once, ?_⟩
        rw [← List.drop_drop, split, List.drop_left] at rest
        exact rest
      · rintro ⟨run, after, split, nonempty, accepted, once, rest⟩
        refine ⟨_, ⟨run, after, split, nonempty, accepted, once, rfl⟩, ?_⟩
        rw [← List.drop_drop, split, List.drop_left]
        exact rest

theorem search_some {matcher : Matcher} {text : List Char} {span : Nat × Nat}
    (found : search matcher text = some span) : (matcher text span.1).head? = some span.2 := by
  obtain ⟨position, _, taken⟩ := List.exists_of_findSome?_eq_some found
  obtain ⟨stop, first, rfl⟩ := Option.map_eq_some_iff.mp taken
  exact first

theorem search_ofPieces_length {pieces : List Piece} {text : List Char} {span : Nat × Nat}
    (found : search (ofPieces pieces) text = some span) :
    pieces.length ≤ (slice text span).length := by
  obtain ⟨matched, after, split, stop, long⟩ := ofPieces_stop (List.mem_of_head? (search_some found))
  have exact_size : span.2 - span.1 = matched.length := by omega
  rw [slice, split, exact_size, List.take_left]
  exact long

end Library
