import KayobeConfig.Ovn.Turns

/-!
Running the script twice. A second run takes the same turns, and each of them finds its
work done unless another turn has placed its HA chassis differently.
-/

namespace Ovn

open Library

variable {Name Uuid : Type} [DecidableEq Name] [DecidableEq Uuid]

def Consistent (placed : List (Uuid × Nat)) : Prop :=
  ∀ uuid place other, (uuid, place) ∈ placed → (uuid, other) ∈ placed → place = other

/-- A second run finds the priorities of the first and prints no update. -/
structure Idempotent (db : Northbound Name Uuid) (priority : Uuid → Int) : Prop where
  unchanged : (left (realign true db (left (realign true db priority)).priority)).priority =
    (left (realign true db priority)).priority
  quiet : ¬Updates (left (realign true db (left (realign true db priority)).priority)).output

omit [DecidableEq Name] in
theorem takeTurns_updates (db : Northbound Name Uuid) (list : List (Turn Name Uuid))
    (state : State Name Uuid) (inSchema : InSchema state.priority) :
    Updates (left (list.foldlM (takeTurn db) state)).output ↔
      Updates state.output ∨
        ¬∀ placed ∈ placements list, state.priority placed.1 = maxPriority - placed.2 := by
  induction list generalizing state with
  | nil => simp [placements, left, pure, Except.pure]
  | cons turn list ih =>
      rw [List.foldlM_cons]
      cases turn with
      | stop => simp [placements, takeTurn, left, bind, Except.bind]
      | say line silent =>
          have rest := ih (state.echo line) inSchema
          rw [updates_echo, silent, or_iff_left Bool.false_ne_true] at rest
          exact rest
      | put uuid index =>
          by_cases fits : (index : Int) ≤ maxPriority
          · obtain ⟨next, taken, written, printed⟩ := takeTurn_put db state fits
            rw [taken, ok_bind, ih next (written ▸ inSchema.update fits), printed, placements,
              if_pos fits, List.forall_mem_cons]
            by_cases same : state.priority uuid = maxPriority - index
            · rw [written, ← same, Function.update_eq_self]
              simp [same]
            · simp [same]
          · rw [takeTurn_put_stops inSchema fits, placements, if_neg fits]
            simp [left, bind, Except.bind]

omit [DecidableEq Name] in
theorem takeTurns_inSchema (db : Northbound Name Uuid) (list : List (Turn Name Uuid))
    (state : State Name Uuid) (inSchema : InSchema state.priority) :
    InSchema (left (list.foldlM (takeTurn db) state)).priority := by
  induction list generalizing state with
  | nil => exact inSchema
  | cons turn list ih =>
      rw [List.foldlM_cons]
      cases turn with
      | stop => exact inSchema
      | say line _ => exact ih (state.echo line) inSchema
      | put uuid index =>
          by_cases fits : (index : Int) ≤ maxPriority
          · obtain ⟨next, taken, written, _⟩ := takeTurn_put db state fits
            rw [taken, ok_bind]
            exact ih next (written ▸ inSchema.update fits)
          · rw [takeTurn_put_stops inSchema fits]
            exact inSchema

/-- After a first run every HA chassis has the priority of each of its places exactly
when it has but one place. -/
theorem settled_iff_consistent (placed : List (Uuid × Nat)) (priority : Uuid → Int) :
    (∀ put ∈ placed, (placed.map placeWrite).foldl overwrite priority put.1 = maxPriority - put.2) ↔
      Consistent placed := by
  simp only [foldl_overwrite]
  constructor
  · intro settled uuid index other member among
    have same : maxPriority - (index : Int) = maxPriority - (other : Int) :=
      (settled (uuid, index) member).symm.trans (settled (uuid, other) among)
    omega
  · intro consistent put member
    rw [lastWritten_last]
    cases found : placed.reverse.find? fun other => other.1 = put.1 with
    | none =>
        have absent := List.find?_eq_none.mp found put (List.mem_reverse.mpr member)
        simp at absent
    | some last =>
        obtain ⟨uuid, index⟩ := last
        have same : uuid = put.1 := by simpa using List.find?_some found
        subst uuid
        have among : (put.1, index) ∈ placed := List.mem_reverse.mp (List.mem_of_find?_eq_some found)
        simp [consistent put.1 index put.2 among member]

/-- For priorities that the schema allows, a second run finds nothing to do exactly when
no two turns of the script place one HA chassis differently. -/
theorem realign_idempotent_iff (db : Northbound Name Uuid) (priority : Uuid → Int)
    (inSchema : InSchema priority) :
    Idempotent db priority ↔ Consistent (placements (turns db)) := by
  have asTurns : ∀ start, realign true db start =
      (turns db).foldlM (takeTurn db) ⟨start, [.mode true]⟩ := realign_turns true db
  have first := realign_left db priority inSchema
  have firstInSchema := takeTurns_inSchema db (turns db) ⟨priority, [.mode true]⟩ inSchema
  rw [← asTurns] at firstInSchema
  have second := realign_left db _ firstInSchema
  have printed := takeTurns_updates db (turns db) ⟨_, [.mode true]⟩ firstInSchema
  rw [← asTurns] at printed
  have startsQuiet : ¬Updates [(Line.mode true : Line Name)] := by simp [Updates, Line.isUpdate]
  rw [or_iff_right startsQuiet, first, settled_iff_consistent] at printed
  constructor
  · intro idempotent
    by_contra inconsistent
    exact idempotent.quiet (printed.mpr inconsistent)
  · intro consistent
    refine ⟨?_, fun updated => printed.mp updated consistent⟩
    rw [second, first]
    exact foldl_overwrite_twice _ _

def crossedRouters : Northbound String Nat where
  ports := [⟨"lrp-gw-a", .word "router-a", some true, some "external", ["ctl1", "ctl2"]⟩,
    ⟨"lrp-a", .word "router-a", some false, some "shared", []⟩,
    ⟨"lrp-gw-b", .word "router-b", some true, some "external", ["ctl2", "ctl1"]⟩,
    ⟨"lrp-b", .word "router-b", some false, some "shared", []⟩]
  haChassisGroup network := if network = "shared" then some [1, 2] else none
  chassisName uuid := if uuid = 1 then "ctl1" else "ctl2"

theorem realign_updates_again : ¬Idempotent crossedRouters fun _ => 0 :=
  fun idempotent => idempotent.quiet ⟨.updated "ctl1" 32766 32767, by decide, rfl⟩

theorem realign_idempotent_iff_crossedRouters :
    Idempotent crossedRouters (fun _ => 0) ↔ Consistent (placements (turns crossedRouters)) :=
  realign_idempotent_iff crossedRouters (fun _ => 0) fun _ => by simp [maxPriority]

end Ovn
