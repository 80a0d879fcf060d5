import Mathlib.Data.List.Nodup
import Mathlib.Logic.Function.Basic

/-!
Processes that each have a state of their own: what one of them changes when it moves,
summed over all of them.
-/

namespace Library

variable {κ σ : Type*}

def total (keys : List κ) (weight : κ → σ → Nat) (states : κ → σ) : Nat :=
  keys.foldr (fun key sum => weight key (states key) + sum) 0

theorem total_cons (key : κ) (keys : List κ) (weight : κ → σ → Nat) (states : κ → σ) :
    total (key :: keys) weight states = weight key (states key) + total keys weight states := rfl

theorem le_total {keys : List κ} {key : κ} (member : key ∈ keys) (weight : κ → σ → Nat)
    (states : κ → σ) : weight key (states key) ≤ total keys weight states := by
  induction keys with
  | nil => simp at member
  | cons first keys ih =>
      rw [total_cons]
      rcases List.mem_cons.mp member with same | later
      · subst same
        omega
      · have bound := ih later
        omega

theorem total_mono {light heavy : κ → σ → Nat} (lower : ∀ key state, light key state ≤ heavy key state)
    (keys : List κ) (states : κ → σ) : total keys light states ≤ total keys heavy states := by
  induction keys with
  | nil => exact Nat.le_refl _
  | cons first keys ih =>
      have here := lower first (states first)
      rw [total_cons, total_cons]
      omega

theorem total_eq_zero {keys : List κ} {weight : κ → σ → Nat} {states : κ → σ}
    (none : ∀ key ∈ keys, weight key (states key) = 0) : total keys weight states = 0 := by
  induction keys with
  | nil => rfl
  | cons first keys ih =>
      rw [List.forall_mem_cons] at none
      rw [total_cons, none.1, ih none.2]

theorem exists_of_total_pos {keys : List κ} {weight : κ → σ → Nat} {states : κ → σ}
    (positive : 0 < total keys weight states) : ∃ key ∈ keys, 0 < weight key (states key) := by
  by_contra none
  have zero : total keys weight states = 0 := by
    apply total_eq_zero
    intro key listed
    exact Nat.eq_zero_of_not_pos fun more => none ⟨key, listed, more⟩
  omega

variable [DecidableEq κ]

theorem total_update_of_notMem {keys : List κ} {key : κ} (absent : key ∉ keys)
    (weight : κ → σ → Nat) (states : κ → σ) (state : σ) :
    total keys weight (Function.update states key state) = total keys weight states := by
  induction keys with
  | nil => rfl
  | cons first keys ih =>
      simp only [List.mem_cons, not_or] at absent
      rw [total_cons, total_cons, ih absent.2, Function.update_of_ne (Ne.symm absent.1)]

theorem total_update {keys : List κ} (distinct : keys.Nodup) {key : κ} (member : key ∈ keys)
    (weight : κ → σ → Nat) (states : κ → σ) (state : σ) :
    total keys weight (Function.update states key state) + weight key (states key) =
      total keys weight states + weight key state := by
  induction keys with
  | nil => simp at member
  | cons first keys ih =>
      rw [List.nodup_cons] at distinct
      rw [total_cons, total_cons]
      by_cases same : key = first
      · subst same
        rw [total_update_of_notMem distinct.1, Function.update_self]
        omega
      · have later := ih distinct.2 ((List.mem_cons.mp member).resolve_left same)
        rw [Function.update_of_ne (Ne.symm same)]
        omega

end Library
