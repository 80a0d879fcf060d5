import Mathlib.Data.Set.Basic
import Mathlib.Order.Defs.Unbundled

/-!
Values inherited from the nearest ancestor that has one. A name takes its own
value, else the value of its nearest valued ancestor, else the root value. A walk
from ancestor to ancestor inherits the same value as a search over the valued
names, provided each step goes to the nearest member of some set of names that
contains every valued one.
-/

namespace Library

variable {α β : Type*}

def IsNearest (above : α → α → Prop) (names : Set α) (name parent : α) : Prop :=
  parent ∈ names ∧ above parent name ∧
    ∀ other ∈ names, above other name → other = parent ∨ above other parent

def valued (value : α → Option β) : Set α := {name | (value name).isSome}

def Inherits (above : α → α → Prop) (value : α → Option β) (root : β) (name : α) (found : β) : Prop :=
  value name = some found ∨
    value name = none ∧
      ((∃ parent, IsNearest above (valued value) name parent ∧ value parent = some found) ∨
        (∀ other ∈ valued value, ¬above other name) ∧ found = root)

/-- The value found by walking up, where each step may use its own set of names. -/
inductive Walk (above : α → α → Prop) (value : α → Option β) (root : β) : α → β → Prop
  | here {name found} : value name = some found → Walk above value root name found
  | up {name parent found} (names : Set α) : value name = none → valued value ⊆ names →
      IsNearest above names name parent → Walk above value root parent found →
      Walk above value root name found
  | top {name} (names : Set α) : value name = none → valued value ⊆ names →
      (∀ other ∈ names, ¬above other name) → Walk above value root name root

variable {above : α → α → Prop} {value : α → Option β} {root : β}

theorem IsNearest.of_unvalued [IsTrans α above] {names : Set α} {name parent ancestor : α}
    (covers : valued value ⊆ names) (nearest : IsNearest above names name parent)
    (absent : value parent = none)
    (next : IsNearest above (valued value) parent ancestor) :
    IsNearest above (valued value) name ancestor := by
  refine ⟨next.1, Trans.trans next.2.1 nearest.2.1, ?_⟩
  intro other member higher
  rcases nearest.2.2 other (covers member) higher with same | beyond
  · subst other
    simp [valued, absent] at member
  · exact next.2.2 other member beyond

theorem Walk.inherits [IsTrans α above] {name : α} {found : β}
    (walk : Walk above value root name found) : Inherits above value root name found := by
  induction walk with
  | here own => exact Or.inl own
  | @up name parent found names absent covers nearest _ ih =>
      refine Or.inr ⟨absent, ?_⟩
      rcases ih with own | ⟨missing, ⟨ancestor, next, inherited⟩ | ⟨none, isRoot⟩⟩
      · refine Or.inl ⟨parent, ⟨by simp [valued, own], nearest.2.1, ?_⟩, own⟩
        intro other member higher
        exact nearest.2.2 other (covers member) higher
      · exact Or.inl ⟨ancestor, nearest.of_unvalued covers missing next, inherited⟩
      · refine Or.inr ⟨?_, isRoot⟩
        intro other member higher
        rcases nearest.2.2 other (covers member) higher with same | beyond
        · subst other
          simp [valued, missing] at member
        · exact none other member beyond
  | top names absent covers none =>
      exact Or.inr ⟨absent, Or.inr ⟨fun other member => none other (covers member), rfl⟩⟩

theorem IsNearest.unique [IsTrans α above] [Std.Irrefl above] {names : Set α}
    {name left right : α} (first : IsNearest above names name left)
    (second : IsNearest above names name right) : left = right := by
  rcases first.2.2 right second.1 second.2.1 with same | rightHigher
  · exact same.symm
  · rcases second.2.2 left first.1 first.2.1 with same | leftHigher
    · exact same
    · exact absurd (Trans.trans leftHigher rightHigher : above left left) (irrefl left)

theorem Inherits.unique [IsTrans α above] [Std.Irrefl above] {name : α} {left right : β}
    (first : Inherits above value root name left) (second : Inherits above value root name right) :
    left = right := by
  rcases first with own | ⟨absent, first⟩
  · rcases second with own' | ⟨absent', _⟩
    · exact Option.some.inj (own.symm.trans own')
    · simp [own] at absent'
  · rcases second with own' | ⟨_, second⟩
    · simp [own'] at absent
    · rcases first with ⟨parent, nearest, inherited⟩ | ⟨none, isRoot⟩
      · rcases second with ⟨parent', nearest', inherited'⟩ | ⟨none', _⟩
        · rw [nearest.unique nearest', inherited'] at inherited
          exact (Option.some.inj inherited).symm
        · exact absurd nearest.2.1 (none' parent nearest.1)
      · rcases second with ⟨parent', nearest', _⟩ | ⟨_, isRoot'⟩
        · exact absurd nearest'.2.1 (none parent' nearest'.1)
        · rw [isRoot, isRoot']

end Library
