import KayobeConfig.Library.Runs
import KayobeConfig.Library.Loops

/-!
Systems whose actions move a value from one cell to another: where the value of a cell
comes from, and what the cells hold after actions none of which reads what another writes.
-/

namespace Library

variable {σ α κ ν : Type*} {step : σ → α → σ} {holds : σ → κ → ν}

theorem runFrom_append (start : σ) (earlier later : List α) :
    runFrom step start (earlier ++ later) = runFrom step (runFrom step start earlier) later :=
  List.foldl_append

theorem runFrom_snoc (start : σ) (actions : List α) (last : α) :
    runFrom step start (actions ++ [last]) = step (runFrom step start actions) last := by
  rw [runFrom_append]
  rfl

theorem along_append {condition : σ → α → Prop} {start : σ} {earlier later : List α} :
    Along step condition start (earlier ++ later) ↔
      Along step condition start earlier ∧ Along step condition (runFrom step start earlier) later := by
  induction earlier generalizing start with
  | nil => exact ⟨fun all => ⟨along_nil, all⟩, fun all => all.2⟩
  | cons action earlier ih =>
      rw [List.cons_append, along_cons, along_cons, ih, and_assoc]
      rfl

theorem along_snoc {condition : σ → α → Prop} {start : σ} {actions : List α} {last : α} :
    Along step condition start (actions ++ [last]) ↔
      Along step condition start actions ∧ condition (runFrom step start actions) last := by
  rw [along_append, along_cons]
  exact ⟨fun all => ⟨all.1, all.2.1⟩, fun all => ⟨all.1, all.2, along_nil⟩⟩

theorem holds_runFrom {actions : List α} {cell : κ}
    (kept : ∀ action ∈ actions, ∀ state, holds (step state action) cell = holds state cell)
    (start : σ) : holds (runFrom step start actions) cell = holds start cell :=
  foldl_frame (fun state => holds state cell) kept start

/-- At some point of the run, its start and its end included, the property holds. -/
def Sometime (step : σ → α → σ) (property : σ → Prop) (start : σ) (actions : List α) : Prop :=
  ∃ past, past <+: actions ∧ property (runFrom step start past)

theorem Sometime.extend {property : σ → Prop} {start : σ} {actions longer : List α}
    (sometime : Sometime step property start actions) (early : actions <+: longer) :
    Sometime step property start longer := by
  obtain ⟨past, before, holding⟩ := sometime
  exact ⟨past, before.trans early, holding⟩

/-- What a cell holds at the end, it held at the start or one of its sources held on the way. -/
theorem holds_origin {Feeds : κ → Prop} {cell : κ} {actions : List α}
    (moves : ∀ action ∈ actions, ∀ state, holds (step state action) cell = holds state cell ∨
      ∃ source, Feeds source ∧ (holds (step state action) cell = holds state source ∨
        holds (step state action) cell = holds (step state action) source)) (start : σ) :
    holds (runFrom step start actions) cell = holds start cell ∨
      ∃ source, Feeds source ∧ Sometime step
        (fun state => holds (runFrom step start actions) cell = holds state source) start actions := by
  induction actions using List.reverseRecOn with
  | nil => exact Or.inl rfl
  | append_singleton actions last ih =>
      have early : actions <+: actions ++ [last] := List.prefix_append actions [last]
      have moved := moves last (by simp) (runFrom step start actions)
      have ends : runFrom step start (actions ++ [last]) = step (runFrom step start actions) last :=
        runFrom_snoc start actions last
      rw [← ends] at moved
      rcases moved with kept | ⟨source, feeds, before | now⟩
      · rw [kept]
        rcases ih fun action member => moves action (by simp [member]) with
          same | ⟨source, feeds, sometime⟩
        · exact Or.inl same
        · exact Or.inr ⟨source, feeds, sometime.extend early⟩
      · exact Or.inr ⟨source, feeds, actions, early, before⟩
      · exact Or.inr ⟨source, feeds, actions ++ [last], List.prefix_refl _, now⟩

section Stage

variable {works : σ → α → Prop} {reads writes : α → κ} [DecidableEq κ]

def lastWriter (writes : α → κ) (actions : List α) (cell : κ) : Option α :=
  actions.reverse.find? fun action => writes action = cell

theorem lastWriter_snoc (actions : List α) (last : α) (cell : κ) :
    lastWriter writes (actions ++ [last]) cell =
      if writes last = cell then some last else lastWriter writes actions cell := by
  unfold lastWriter
  rw [List.reverse_append, List.reverse_singleton, List.singleton_append, List.find?_cons]
  by_cases same : writes last = cell
  · simp [same]
  · simp [same]

theorem lastWriter_some {actions : List α} {cell : κ} {last : α}
    (found : lastWriter writes actions cell = some last) : last ∈ actions ∧ writes last = cell := by
  refine ⟨List.mem_reverse.mp (List.mem_of_find?_eq_some found), ?_⟩
  simpa using List.find?_some found

theorem exists_lastWriter {actions : List α} {action : α} (member : action ∈ actions) :
    ∃ last, lastWriter writes actions (writes action) = some last := by
  cases found : lastWriter writes actions (writes action) with
  | some last => exact ⟨last, rfl⟩
  | none =>
      have unwritten := List.find?_eq_none.mp found action (List.mem_reverse.mpr member)
      simp at unwritten

/-- After actions that leave alone what the others read and write, a cell that was written
holds what the last of its writers read. -/
theorem holds_lastWriter {actions : List α}
    (readsKept : ∀ action ∈ actions, ∀ other ∈ actions, ∀ state,
      holds (step state action) (reads other) = holds state (reads other))
    (writesKept : ∀ action ∈ actions, ∀ other ∈ actions, writes other ≠ writes action → ∀ state,
      holds (step state action) (writes other) = holds state (writes other))
    (moved : ∀ action ∈ actions, ∀ state, works state action →
      holds (step state action) (writes action) = holds state (reads action))
    {start : σ} (possible : Along step works start actions) {cell : κ} {last : α}
    (found : lastWriter writes actions cell = some last) :
    holds (runFrom step start actions) cell = holds start (reads last) := by
  induction actions using List.reverseRecOn with
  | nil => cases found
  | append_singleton actions final ih =>
      obtain ⟨before, now⟩ := along_snoc.mp possible
      have within : ∀ {action}, action ∈ actions → action ∈ actions ++ [final] := fun member => by
        simp [member]
      have isLast : final ∈ actions ++ [final] := by simp
      rw [lastWriter_snoc] at found
      rw [runFrom_snoc]
      by_cases same : writes final = cell
      · rw [if_pos same] at found
        cases found
        rw [← same, moved last isLast _ now]
        exact holds_runFrom (fun action member => readsKept action (within member) last isLast) start
      · rw [if_neg same] at found
        obtain ⟨member, rfl⟩ := lastWriter_some found
        rw [writesKept final isLast last (within member) (Ne.symm same)]
        exact ih (fun action first other second => readsKept action (within first) other (within second))
          (fun action first other second => writesKept action (within first) other (within second))
          (fun action first => moved action (within first)) before found

end Stage

end Library
