import Mathlib.Data.List.Forall2
import Mathlib.Data.List.Induction

/-!
Rules for loops that may raise: what a successful `mapM` did to each element, and
invariant rules for `foldlM` and `foldl` that record which elements are done.
-/

namespace Library

universe u

variable {ε α : Type*} {β γ σ : Type u}

theorem except_bind_ok {first : Except ε β} {next : β → Except ε γ} {result : γ} :
    (first >>= next) = .ok result ↔ ∃ middle, first = .ok middle ∧ next middle = .ok result := by
  cases first with
  | error failure =>
      constructor
      · intro impossible
        cases impossible
      · rintro ⟨middle, impossible, _⟩
        cases impossible
  | ok middle =>
      constructor
      · intro continued
        exact ⟨middle, rfl, continued⟩
      · rintro ⟨_, same, continued⟩
        cases same
        exact continued

theorem mapM_ok_iff (step : α → Except ε β) (inputs : List α) (outputs : List β) :
    inputs.mapM step = .ok outputs ↔
      List.Forall₂ (fun input output => step input = .ok output) inputs outputs := by
  induction inputs generalizing outputs with
  | nil =>
      rw [List.mapM_nil, List.forall₂_nil_left_iff]
      constructor
      · intro done
        cases done
        rfl
      · rintro rfl
        rfl
  | cons input inputs ih =>
      rw [List.mapM_cons, except_bind_ok]
      constructor
      · rintro ⟨first, stepped, continued⟩
        obtain ⟨rest, mapped, done⟩ := except_bind_ok.mp continued
        cases done
        exact List.Forall₂.cons stepped ((ih rest).mp mapped)
      · intro related
        cases related with
        | @cons _ first _ rest stepped tail =>
            exact ⟨first, stepped, except_bind_ok.mpr ⟨rest, (ih rest).mpr tail, rfl⟩⟩

def Succeeds {β : Type*} (result : Except ε β) : Prop := ∃ value, result = .ok value

theorem succeeds_iff_isOk {β : Type*} {result : Except ε β} : Succeeds result ↔ result.isOk = true := by
  cases result with
  | error failure => simp [Succeeds, Except.isOk, Except.toBool]
  | ok value => simp [Succeeds, Except.isOk, Except.toBool]

theorem succeeds_bind {first : Except ε β} {next : β → Except ε γ} :
    Succeeds (first >>= next) ↔ ∃ middle, first = .ok middle ∧ Succeeds (next middle) := by
  constructor
  · rintro ⟨result, continued⟩
    obtain ⟨middle, done, rest⟩ := except_bind_ok.mp continued
    exact ⟨middle, done, result, rest⟩
  · rintro ⟨middle, done, result, rest⟩
    exact ⟨result, except_bind_ok.mpr ⟨middle, done, rest⟩⟩

theorem ok_bind (value : β) (next : β → Except ε γ) : (Except.ok value >>= next) = next value := rfl

theorem succeeds_bind_and {first : Except ε β} {next : β → Except ε γ} {reads continues : Prop}
    (head : Succeeds first ↔ reads) (tail : ∀ middle, Succeeds (next middle) ↔ continues) :
    Succeeds (first >>= next) ↔ reads ∧ continues := by
  rw [succeeds_bind, ← head]
  constructor
  · rintro ⟨middle, done, rest⟩
    exact ⟨⟨middle, done⟩, (tail middle).mp rest⟩
  · rintro ⟨⟨middle, done⟩, rest⟩
    exact ⟨middle, done, (tail middle).mpr rest⟩

theorem succeeds_bind_total {first : Except ε β} {next : β → Except ε γ}
    (total : ∀ middle, Succeeds (next middle)) : Succeeds (first >>= next) ↔ Succeeds first := by
  rw [succeeds_bind]
  exact ⟨fun ⟨middle, done, _⟩ => ⟨middle, done⟩, fun ⟨middle, done⟩ => ⟨middle, done, total middle⟩⟩

theorem succeeds_bind_pure {first : Except ε β} {transform : β → γ} :
    Succeeds (first >>= fun middle => pure (transform middle)) ↔ Succeeds first :=
  succeeds_bind_total fun _ => ⟨_, rfl⟩

theorem forall₂_exists {δ : Type*} {relation : α → δ → Prop} {inputs : List α} {outputs : List δ}
    (related : List.Forall₂ relation inputs outputs) {input : α} (member : input ∈ inputs) :
    ∃ output ∈ outputs, relation input output := by
  induction related with
  | nil => simp at member
  | @cons first output rest outputs holds _ ih =>
      rcases List.mem_cons.mp member with same | later
      · subst input
        exact ⟨output, by simp, holds⟩
      · obtain ⟨found, among, holds⟩ := ih later
        exact ⟨found, by simp [among], holds⟩

theorem mem_mapM {step : α → Except ε β} {inputs : List α} {outputs : List β}
    (mapped : inputs.mapM step = .ok outputs) {output : β} :
    output ∈ outputs ↔ ∃ input ∈ inputs, step input = .ok output := by
  have related := (mapM_ok_iff step inputs outputs).mp mapped
  constructor
  · intro member
    exact forall₂_exists related.flip member
  · rintro ⟨input, member, stepped⟩
    obtain ⟨found, among, same⟩ := forall₂_exists related member
    cases stepped.symm.trans same
    exact among

theorem mapM_total (step : α → Except ε β) (inputs : List α)
    (total : ∀ input ∈ inputs, Succeeds (step input)) : Succeeds (inputs.mapM step) := by
  induction inputs with
  | nil => exact ⟨[], rfl⟩
  | cons input inputs ih =>
      obtain ⟨first, stepped⟩ := total input (by simp)
      obtain ⟨rest, mapped⟩ := ih fun later member => total later (by simp [member])
      refine ⟨first :: rest, ?_⟩
      rw [mapM_ok_iff] at mapped ⊢
      exact List.Forall₂.cons stepped mapped

theorem succeeds_mapM {step : α → Except ε β} {inputs : List α} :
    Succeeds (inputs.mapM step) ↔ ∀ input ∈ inputs, Succeeds (step input) := by
  constructor
  · rintro ⟨outputs, mapped⟩ input member
    obtain ⟨output, _, stepped⟩ := forall₂_exists ((mapM_ok_iff _ _ _).mp mapped) member
    exact ⟨output, stepped⟩
  · exact mapM_total step inputs

/-- A `mapM` fails as its first input does that fails. -/
theorem mapM_error_iff (step : α → Except ε β) (inputs : List α) (failure : ε) :
    inputs.mapM step = .error failure ↔ ∃ earlier input later, inputs = earlier ++ input :: later ∧
      (∀ other ∈ earlier, Succeeds (step other)) ∧ step input = .error failure := by
  induction inputs with
  | nil =>
      rw [List.mapM_nil]
      constructor
      · intro impossible
        cases impossible
      · rintro ⟨earlier, input, later, split, _⟩
        simp at split
  | cons first inputs ih =>
      rw [List.mapM_cons]
      cases stepped : step first with
      | error earlierFailure =>
          constructor
          · intro failed
            cases failed
            exact ⟨[], first, inputs, rfl, by simp, stepped⟩
          · rintro ⟨earlier, input, later, split, succeeds, failed⟩
            cases earlier with
            | nil =>
                cases split
                cases stepped.symm.trans failed
                rfl
            | cons other earlier =>
                cases split
                obtain ⟨value, done⟩ := succeeds first List.mem_cons_self
                cases stepped.symm.trans done
      | ok value =>
          have rest : (Except.ok value >>= fun first => do
              let others ← inputs.mapM step
              return first :: others) = .error failure ↔ inputs.mapM step = .error failure := by
            rw [ok_bind]
            cases inputs.mapM step with
            | error other => exact Iff.rfl
            | ok values =>
                constructor
                · intro impossible
                  cases impossible
                · intro impossible
                  cases impossible
          rw [rest, ih]
          constructor
          · rintro ⟨earlier, input, later, rfl, succeeds, failed⟩
            refine ⟨first :: earlier, input, later, rfl, ?_, failed⟩
            rw [List.forall_mem_cons]
            exact ⟨⟨value, stepped⟩, succeeds⟩
          · rintro ⟨earlier, input, later, split, succeeds, failed⟩
            cases earlier with
            | nil =>
                cases split
                cases stepped.symm.trans failed
            | cons other earlier =>
                cases split
                exact ⟨earlier, input, later, rfl,
                  fun other member => succeeds other (List.mem_cons_of_mem _ member), failed⟩

/-- What a step makes of the inputs, where an error ends the loop or its input is left out. -/
def mapOmitting (omits : ε → Bool) (step : α → Except ε β) : List α → Except ε (List β)
  | [] => .ok []
  | input :: inputs =>
      match step input with
      | .ok output => (mapOmitting omits step inputs).map (output :: ·)
      | .error failure => if omits failure then mapOmitting omits step inputs else .error failure

section Omitting

variable {omits : ε → Bool} {step : α → Except ε β} {inputs : List α} {outputs : List β}

theorem except_map_ok {first : Except ε β} {transform : β → γ} {result : γ} :
    first.map transform = .ok result ↔ ∃ middle, first = .ok middle ∧ transform middle = result := by
  cases first with
  | error failure => simp [Except.map]
  | ok middle => simp [Except.map]

theorem mapOmitting_cons_ok {input : α} {output : β} (stepped : step input = .ok output) :
    mapOmitting omits step (input :: inputs) =
      (mapOmitting omits step inputs).map (output :: ·) := by
  rw [mapOmitting]
  simp only [stepped]

theorem mapOmitting_cons_error {input : α} {failure : ε} (failed : step input = .error failure) :
    mapOmitting omits step (input :: inputs) =
      if omits failure then mapOmitting omits step inputs else .error failure := by
  rw [mapOmitting]
  simp only [failed]

theorem mem_mapOmitting (mapped : mapOmitting omits step inputs = .ok outputs) {output : β} :
    output ∈ outputs ↔ ∃ input ∈ inputs, step input = .ok output := by
  induction inputs generalizing outputs with
  | nil =>
      cases mapped
      simp
  | cons input inputs ih =>
      simp only [List.mem_cons, exists_eq_or_imp]
      cases stepped : step input with
      | ok first =>
          rw [mapOmitting_cons_ok stepped] at mapped
          obtain ⟨rest, later, rfl⟩ := except_map_ok.mp mapped
          rw [List.mem_cons, ih later, Except.ok.injEq, eq_comm]
      | error failure =>
          rw [mapOmitting_cons_error stepped] at mapped
          split at mapped
          · rw [ih mapped]
            simp
          · cases mapped

theorem length_mapOmitting_le (mapped : mapOmitting omits step inputs = .ok outputs) :
    outputs.length ≤ inputs.length := by
  induction inputs generalizing outputs with
  | nil =>
      cases mapped
      exact Nat.le_refl 0
  | cons input inputs ih =>
      cases stepped : step input with
      | ok first =>
          rw [mapOmitting_cons_ok stepped] at mapped
          obtain ⟨rest, later, rfl⟩ := except_map_ok.mp mapped
          exact Nat.succ_le_succ (ih later)
      | error failure =>
          rw [mapOmitting_cons_error stepped] at mapped
          split at mapped
          · exact Nat.le_succ_of_le (ih mapped)
          · cases mapped

/-- A loop that has a related output for each input leaves none out. -/
theorem mapOmitting_related_iff (related : α → β → Prop) (inputs : List α) :
    (∃ outputs, mapOmitting omits step inputs = .ok outputs ∧ List.Forall₂ related inputs outputs) ↔
      ∀ input ∈ inputs, ∃ output, step input = .ok output ∧ related input output := by
  induction inputs with
  | nil => simp [mapOmitting]
  | cons input inputs ih =>
      rw [List.forall_mem_cons, ← ih]
      constructor
      · rintro ⟨outputs, mapped, holds⟩
        cases stepped : step input with
        | ok first =>
            rw [mapOmitting_cons_ok stepped] at mapped
            obtain ⟨rest, later, rfl⟩ := except_map_ok.mp mapped
            cases holds with
            | cons firstHolds restHolds =>
                exact ⟨⟨first, rfl, firstHolds⟩, rest, later, restHolds⟩
        | error failure =>
            rw [mapOmitting_cons_error stepped] at mapped
            split at mapped
            · have short := length_mapOmitting_le mapped
              have same := holds.length_eq
              rw [List.length_cons] at same
              omega
            · cases mapped
      · rintro ⟨⟨output, stepped, firstHolds⟩, rest, later, restHolds⟩
        refine ⟨output :: rest, ?_, .cons firstHolds restHolds⟩
        rw [mapOmitting_cons_ok stepped, later]
        rfl

end Omitting

theorem foldlM_flatMap (step : σ → β → Except ε σ) (expand : α → List β) (inputs : List α)
    (state : σ) : (inputs.flatMap expand).foldlM step state =
      inputs.foldlM (fun state input => (expand input).foldlM step state) state := by
  induction inputs generalizing state with
  | nil => rfl
  | cons input inputs ih =>
      rw [List.flatMap_cons, List.foldlM_append, List.foldlM_cons]
      exact congrArg _ (funext ih)

theorem succeeds_foldlM {step : σ → α → Except ε σ} {reads : α → Prop} (inputs : List α)
    (turn : ∀ input ∈ inputs, ∀ state, Succeeds (step state input) ↔ reads input) (state : σ) :
    Succeeds (inputs.foldlM step state) ↔ ∀ input ∈ inputs, reads input := by
  induction inputs generalizing state with
  | nil => exact ⟨by simp, fun _ => ⟨state, rfl⟩⟩
  | cons input inputs ih =>
      rw [List.foldlM_cons, List.forall_mem_cons]
      exact succeeds_bind_and (turn input List.mem_cons_self state)
        (ih fun later member => turn later (List.mem_cons_of_mem input member))

theorem foldlM_total {step : σ → α → Except ε σ} {inputs : List α}
    (turn : ∀ input ∈ inputs, ∀ state, Succeeds (step state input)) (state : σ) :
    Succeeds (inputs.foldlM step state) := by
  have always : ∀ input ∈ inputs, ∀ state, Succeeds (step state input) ↔ True :=
    fun input member state => iff_of_true (turn input member state) trivial
  exact (succeeds_foldlM inputs always state).mpr fun _ _ => trivial

theorem foldlM_error {step : σ → α → Except ε σ} {inputs : List α} {state : σ} {failure : ε}
    (failed : inputs.foldlM step state = .error failure) :
    ∃ input ∈ inputs, ∃ before, step before input = .error failure := by
  induction inputs generalizing state with
  | nil => cases failed
  | cons input inputs ih =>
      rw [List.foldlM_cons] at failed
      cases stepped : step state input with
      | error earlier =>
          rw [stepped] at failed
          cases failed
          exact ⟨input, List.mem_cons_self, state, stepped⟩
      | ok next =>
          rw [stepped, ok_bind] at failed
          obtain ⟨later, among, before, failedLater⟩ := ih failed
          exact ⟨later, List.mem_cons_of_mem input among, before, failedLater⟩

/-- A loop that reads each input and then updates its state reads them all first. -/
theorem foldlM_read (read : α → Except ε β) (update : γ → β → γ) (inputs : List α) (state : γ) :
    inputs.foldlM (fun state input => do return update state (← read input)) state =
      (do return (← inputs.mapM read).foldl update state) := by
  induction inputs generalizing state with
  | nil => rfl
  | cons input inputs ih =>
      rw [List.foldlM_cons, List.mapM_cons]
      cases read input with
      | error failure => rfl
      | ok value =>
          refine (ih (update state value)).trans ?_
          cases inputs.mapM read with
          | error failure => rfl
          | ok values => rfl

/-- A loop whose every step succeeds and extends the record of finished elements. -/
theorem foldlM_rule (step : σ → α → Except ε σ) (holds : List α → σ → Prop) (inputs : List α)
    (preserved : ∀ finished input state, input ∈ inputs → holds finished state →
      ∃ next, step state input = .ok next ∧ holds (finished ++ [input]) next)
    (finished : List α) (state : σ) (start : holds finished state) :
    ∃ final, inputs.foldlM step state = .ok final ∧ holds (finished ++ inputs) final := by
  induction inputs generalizing finished state with
  | nil => exact ⟨state, rfl, by simpa using start⟩
  | cons input inputs ih =>
      obtain ⟨next, stepped, kept⟩ := preserved finished input state (by simp) start
      obtain ⟨final, looped, done⟩ := ih
        (fun earlier later between member => preserved earlier later between (by simp [member]))
        (finished ++ [input]) next kept
      refine ⟨final, ?_, by simpa using done⟩
      rw [List.foldlM_cons]
      exact except_bind_ok.mpr ⟨next, stepped, looped⟩

/-- What every successful step extends to the record of finished elements holds of a loop that has
succeeded. -/
theorem foldlM_finished {step : σ → α → Except ε σ} (holds : List α → σ → Prop) {inputs : List α}
    (preserved : ∀ finished input state next, step state input = .ok next → holds finished state →
      holds (finished ++ [input]) next)
    (finished : List α) {state final : σ} (start : holds finished state)
    (looped : inputs.foldlM step state = .ok final) : holds (finished ++ inputs) final := by
  induction inputs generalizing finished state with
  | nil =>
      cases looped
      simpa using start
  | cons input inputs ih =>
      rw [List.foldlM_cons] at looped
      obtain ⟨next, stepped, rest⟩ := except_bind_ok.mp looped
      have later := ih _ (preserved finished input state next stepped start) rest
      simpa using later

theorem foldlM_stepped {step : σ → α → Except ε σ} {inputs : List α} {state final : σ}
    (looped : inputs.foldlM step state = .ok final) :
    ∀ input ∈ inputs, ∃ before after, step before input = .ok after := by
  have all := foldlM_finished
    (fun finished _ => ∀ input ∈ finished, ∃ before after, step before input = .ok after)
    (fun finished input before after stepped earlier => by
      rw [List.forall_mem_append, List.forall_mem_singleton]
      exact ⟨earlier, before, after, stepped⟩)
    [] (by simp) looped
  simpa using all

theorem foldl_frame {δ κ : Type*} (observe : δ → κ) {step : δ → α → δ} {inputs : List α}
    (unchanged : ∀ input ∈ inputs, ∀ state, observe (step state input) = observe state) (state : δ) :
    observe (inputs.foldl step state) = observe state := by
  induction inputs generalizing state with
  | nil => rfl
  | cons input inputs ih =>
      rw [List.foldl_cons, ih fun later member => unchanged later (List.mem_cons_of_mem input member)]
      exact unchanged input List.mem_cons_self state

/-- A loop that meets no element twice, and extends the record of finished elements. -/
theorem foldl_distinct {δ : Type*} {step : δ → α → δ} (holds : List α → δ → Prop) {inputs : List α}
    (distinct : inputs.Nodup) (preserved : ∀ finished input state, input ∉ finished →
      holds finished state → holds (finished ++ [input]) (step state input))
    {state : δ} (start : holds [] state) : holds inputs (inputs.foldl step state) := by
  induction inputs using List.reverseRecOn with
  | nil => exact start
  | append_singleton inputs last ih =>
      obtain ⟨earlier, _, apart⟩ := List.nodup_append.mp distinct
      have new : last ∉ inputs := by
        intro member
        exact apart last member last (List.mem_singleton_self last) rfl
      rw [List.foldl_append, List.foldl_cons, List.foldl_nil]
      exact preserved inputs last _ new (ih earlier)

end Library
