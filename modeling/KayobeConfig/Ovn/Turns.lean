import KayobeConfig.Ovn.Realign

/-!
The nested loops of the script as one list of turns. Which turns a run takes, and which
of them stops it, does not depend on the priorities: they decide only whether a turn
has something to change.
-/

namespace Ovn

open Library

variable {Name Uuid : Type} [DecidableEq Name] [DecidableEq Uuid]

def Line.isUpdate : Line Name → Bool
  | .updated _ _ _ => true
  | _ => false

inductive Turn (Name Uuid : Type)
  | stop
  | say (line : Line Name) (silent : line.isUpdate = false)
  | put (uuid : Uuid) (place : Nat)

def takeTurn (db : Northbound Name Uuid) (state : State Name Uuid) :
    Turn Name Uuid → Shell Name Uuid (State Name Uuid)
  | .stop => .error state
  | .say line _ => .ok (state.echo line)
  | .put uuid place =>
      let current := state.priority uuid
      let desired := maxPriority - place
      if current ≠ desired then do
        let state ← state.setPriority uuid desired
        return state.echo (.updated (db.chassisName uuid) current desired)
      else .ok (state.echo (.noChange (db.chassisName uuid) current))

def showTurn (db : Northbound Name Uuid) (state : State Name Uuid) :
    Turn Name Uuid → Shell Name Uuid (State Name Uuid)
  | .stop => .error state
  | .say line _ => .ok (state.echo line)
  | .put uuid place =>
      let current := state.priority uuid
      let desired := maxPriority - place
      if current ≠ desired then
        .ok (state.echo (.wouldUpdate (db.chassisName uuid) current desired))
      else .ok (state.echo (.noChange (db.chassisName uuid) current))

def turnOf (apply : Bool) (db : Northbound Name Uuid) :
    State Name Uuid → Turn Name Uuid → Shell Name Uuid (State Name Uuid) :=
  if apply then takeTurn db else showTurn db

def chassisTurns (db : Northbound Name Uuid) (gatewayChassis : List Name) (uuid : Uuid) :
    List (Turn Name Uuid) :=
  ((gatewayChassis.idxOf? (db.chassisName uuid)).map (Turn.put uuid)).toList

def portTurns (db : Northbound Name Uuid) (gatewayChassis : List Name)
    (port : LogicalRouterPort Name) : List (Turn Name Uuid) :=
  match port.isExtGw, port.networkName with
  | none, _ => [.stop]
  | some true, _ => []
  | some false, none => [.stop]
  | some false, some network =>
      match db.haChassisGroup network with
      | none => [.say (.noHaGroup port.name network) rfl]
      | some haChassis =>
          .say (.port port.name network) rfl ::
            haChassis.flatMap (chassisTurns db gatewayChassis)

def routerTurns (db : Northbound Name Uuid) (extPort : LogicalRouterPort Name) :
    List (Turn Name Uuid) :=
  match extPort.routerName, extPort.gatewayChassis with
  | .absent, _ => [.stop]
  | .empty, _ => [.say (.noRouterName extPort.name) rfl]
  | .word router, [] => [.say (.noGatewayChassis router) rfl]
  | .word router, activeGateway :: others =>
      .say (.router router extPort.name activeGateway) rfl ::
        (routerPorts db router).flatMap (portTurns db (activeGateway :: others))

def turns (db : Northbound Name Uuid) : List (Turn Name Uuid) := (extPorts db).flatMap (routerTurns db)

def left : Shell Name Uuid (State Name Uuid) → State Name Uuid
  | .ok state => state
  | .error state => state

/-- The places given before a turn stops the script. The schema has no negative priorities. -/
def placements : List (Turn Name Uuid) → List (Uuid × Nat)
  | [] => []
  | .stop :: _ => []
  | .say _ _ :: later => placements later
  | .put uuid place :: later =>
      if (place : Int) ≤ maxPriority then (uuid, place) :: placements later else []

def Updates (output : List (Line Name)) : Prop := ∃ line ∈ output, line.isUpdate = true

def placeWrite (placed : Uuid × Nat) : Write Uuid Int :=
  fun key => if key = placed.1 then some (maxPriority - placed.2) else none

def InSchema (priority : Uuid → Int) : Prop := ∀ uuid, 0 ≤ priority uuid ∧ priority uuid ≤ maxPriority

omit [DecidableEq Name] in
theorem foldlM_say (apply : Bool) (db : Northbound Name Uuid) (state : State Name Uuid)
    (line : Line Name) (silent : line.isUpdate = false) (list : List (Turn Name Uuid)) :
    (.say line silent :: list).foldlM (turnOf apply db) state =
      list.foldlM (turnOf apply db) (state.echo line) := by
  cases apply <;> rfl

section Put

variable {db : Northbound Name Uuid} {state : State Name Uuid} {uuid : Uuid} {place : Nat}

omit [DecidableEq Name] in
theorem takeTurn_same (current : state.priority uuid = maxPriority - place) :
    takeTurn db state (.put uuid place) =
      .ok (state.echo (.noChange (db.chassisName uuid) (state.priority uuid))) := by
  simp [takeTurn, current]

omit [DecidableEq Name] in
theorem takeTurn_writes (different : state.priority uuid ≠ maxPriority - place)
    (fits : (place : Int) ≤ maxPriority) :
    takeTurn db state (.put uuid place) =
      .ok (State.echo ⟨Function.update state.priority uuid (maxPriority - place), state.output⟩
        (.updated (db.chassisName uuid) (state.priority uuid) (maxPriority - place))) := by
  have allowed : 0 ≤ maxPriority - (place : Int) ∧ maxPriority - (place : Int) ≤ maxPriority := by
    omega
  simp only [takeTurn, State.setPriority, ne_eq, different, not_false_iff, if_true, allowed,
    and_self]
  rfl

omit [DecidableEq Name] in
theorem takeTurn_refused (different : state.priority uuid ≠ maxPriority - place)
    (tooFar : ¬(place : Int) ≤ maxPriority) : takeTurn db state (.put uuid place) = .error state := by
  have refused : ¬(0 ≤ maxPriority - (place : Int) ∧ maxPriority - (place : Int) ≤ maxPriority) := by
    omega
  simp only [takeTurn, State.setPriority, ne_eq, different, not_false_iff, if_true, refused, if_false]
  rfl

omit [DecidableEq Name] [DecidableEq Uuid] in
theorem updates_echo (state : State Name Uuid) (line : Line Name) :
    Updates (state.echo line).output ↔ Updates state.output ∨ line.isUpdate = true := by
  simp only [Updates, State.echo, List.mem_append, List.mem_singleton, or_and_right, exists_or,
    exists_eq_left]

omit [DecidableEq Name] in
theorem takeTurn_put (db : Northbound Name Uuid) (state : State Name Uuid)
    (fits : (place : Int) ≤ maxPriority) :
    ∃ next, takeTurn db state (.put uuid place) = .ok next ∧
      next.priority = Function.update state.priority uuid (maxPriority - place) ∧
      (Updates next.output ↔ Updates state.output ∨ state.priority uuid ≠ maxPriority - place) := by
  by_cases current : state.priority uuid = maxPriority - place
  · refine ⟨_, takeTurn_same current, ?_, ?_⟩
    · rw [← current, Function.update_eq_self]
      rfl
    · rw [updates_echo]
      simp [current, Line.isUpdate]
  · refine ⟨_, takeTurn_writes current fits, rfl, ?_⟩
    rw [updates_echo]
    simp [current, Line.isUpdate]

omit [DecidableEq Name] in
theorem takeTurn_put_stops (inSchema : InSchema state.priority)
    (tooFar : ¬(place : Int) ≤ maxPriority) : takeTurn db state (.put uuid place) = .error state := by
  have bounds := inSchema uuid
  exact takeTurn_refused (by omega) tooFar

omit [DecidableEq Name] in
theorem InSchema.update (inSchema : InSchema state.priority) (fits : (place : Int) ≤ maxPriority) :
    InSchema (Function.update state.priority uuid (maxPriority - place)) := by
  intro key
  rw [Function.update_apply]
  split
  · omega
  · exact inSchema key

end Put

omit [DecidableEq Name] in
theorem takeTurns_priority (db : Northbound Name Uuid) (list : List (Turn Name Uuid))
    (state : State Name Uuid) (inSchema : InSchema state.priority) :
    (left (list.foldlM (takeTurn db) state)).priority =
      ((placements list).map placeWrite).foldl overwrite state.priority := by
  induction list generalizing state with
  | nil => rfl
  | cons turn list ih =>
      rw [List.foldlM_cons]
      cases turn with
      | stop => rfl
      | say line _ => exact ih (state.echo line) inSchema
      | put uuid index =>
          by_cases fits : (index : Int) ≤ maxPriority
          · obtain ⟨next, taken, written, _⟩ := takeTurn_put db state fits
            rw [taken, ok_bind, ih next (written ▸ inSchema.update fits), written, placements,
              if_pos fits, List.map_cons, List.foldl_cons]
            congr 1
            funext key
            simp only [Function.update_apply, overwrite, placeWrite]
            split <;> rfl
          · rw [takeTurn_put_stops inSchema fits, placements, if_neg fits]
            rfl

theorem lastWritten_last (placed : List (Uuid × Nat)) (uuid : Uuid) :
    lastWritten (placed.map placeWrite) uuid =
      ((placed.reverse.find? fun put => put.1 = uuid).map Prod.snd).map (maxPriority - ·) := by
  induction placed using List.reverseRecOn with
  | nil => rfl
  | append_singleton earlier last ih =>
      rw [List.map_append, List.map_singleton, lastWritten_append, ih, List.reverse_append,
        List.reverse_singleton, List.singleton_append, List.find?_cons]
      by_cases same : last.1 = uuid
      · simp [lastWritten, placeWrite, same]
      · have other : uuid ≠ last.1 := fun equal => same equal.symm
        simp [lastWritten, placeWrite, same, other]

theorem updateChassis_turns (apply : Bool) (db : Northbound Name Uuid)
    (gatewayChassis : List Name) (state : State Name Uuid) (uuid : Uuid) :
    updateChassis apply db gatewayChassis state uuid =
      (chassisTurns db gatewayChassis uuid).foldlM (turnOf apply db) state := by
  unfold updateChassis chassisTurns
  cases found : gatewayChassis.idxOf? (db.chassisName uuid) with
  | none =>
      have unlisted : desiredPriority gatewayChassis (db.chassisName uuid) = none := by
        unfold desiredPriority
        rw [found]
        rfl
      simp only [unlisted]
      rfl
  | some place =>
      have listed : desiredPriority gatewayChassis (db.chassisName uuid) =
          some (maxPriority - place) := by
        unfold desiredPriority
        rw [found]
        rfl
      simp only [listed, Option.map_some, Option.toList_some, List.foldlM_cons, List.foldlM_nil,
        bind_pure]
      cases apply with
      | true => rfl
      | false => rfl

theorem processPort_turns (apply : Bool) (db : Northbound Name Uuid)
    (gatewayChassis : List Name) (state : State Name Uuid) (port : LogicalRouterPort Name) :
    processPort apply db gatewayChassis state port =
      (portTurns db gatewayChassis port).foldlM (turnOf apply db) state := by
  unfold processPort portTurns
  cases port.isExtGw with
  | none => cases apply <;> rfl
  | some isExternal =>
      cases isExternal with
      | true => rfl
      | false =>
          cases port.networkName with
          | none => cases apply <;> rfl
          | some network =>
              simp only
              cases db.haChassisGroup network with
              | none => cases apply <;> rfl
              | some haChassis =>
                  refine Eq.trans ?_ (foldlM_say apply db state (.port port.name network) rfl _).symm
                  simp only [foldlM_flatMap, ← updateChassis_turns]

theorem processRouter_turns (apply : Bool) (db : Northbound Name Uuid)
    (state : State Name Uuid) (extPort : LogicalRouterPort Name) :
    processRouter apply db state extPort =
      (routerTurns db extPort).foldlM (turnOf apply db) state := by
  unfold processRouter routerTurns
  cases extPort.routerName with
  | absent => cases apply <;> rfl
  | empty => cases apply <;> rfl
  | word router =>
      cases extPort.gatewayChassis with
      | nil => cases apply <;> rfl
      | cons activeGateway others =>
          refine Eq.trans ?_
            (foldlM_say apply db state (.router router extPort.name activeGateway) rfl _).symm
          simp only [foldlM_flatMap, ← processPort_turns]

/-- The nested loops of the script take its turns one after another. -/
theorem realign_turns (apply : Bool) (db : Northbound Name Uuid) (priority : Uuid → Int) :
    realign apply db priority = (turns db).foldlM (turnOf apply db) ⟨priority, [.mode apply]⟩ := by
  unfold realign turns
  simp only [foldlM_flatMap, ← processRouter_turns]

/-- What the script leaves when it ends, finished or stopped. -/
theorem realign_left (db : Northbound Name Uuid) (priority : Uuid → Int)
    (inSchema : InSchema priority) :
    (left (realign true db priority)).priority =
      ((placements (turns db)).map placeWrite).foldl overwrite priority := by
  rw [realign_turns]
  exact takeTurns_priority db (turns db) ⟨priority, [.mode true]⟩ inSchema

end Ovn
