import KayobeConfig.Ovn.Turns

/-!
The dry run against the run that applies. Both take the same turns, the dry run with the
first priorities throughout. They part at an HA chassis that is visited again after a
turn that found its priority wrong.
-/

namespace Ovn

open Library

variable {Name Uuid : Type} [DecidableEq Name] [DecidableEq Uuid]

def Line.wouldUpdate? : Line Name → Option (Name × Int × Int)
  | .wouldUpdate chassis current desired => some (chassis, current, desired)
  | _ => none

def Line.updated? : Line Name → Option (Name × Int × Int)
  | .updated chassis current desired => some (chassis, current, desired)
  | _ => none

/-- The places given before a read that fails. -/
def places : List (Turn Name Uuid) → List (Uuid × Nat)
  | [] => []
  | .stop :: _ => []
  | .say _ _ :: later => places later
  | .put uuid place :: later => (uuid, place) :: places later

structure Change (Uuid : Type) where
  haChassis : Uuid
  current : Int
  desired : Int
  deriving DecidableEq

def Change.named (db : Northbound Name Uuid) (change : Change Uuid) : Name × Int × Int :=
  (db.chassisName change.haChassis, change.current, change.desired)

/-- The changes that a run reports, with the rows of the HA chassis. -/
def changes (apply : Bool) : (Uuid → Int) → List (Uuid × Nat) → List (Change Uuid)
  | _, [] => []
  | priority, (uuid, place) :: later =>
      if priority uuid = maxPriority - place then changes apply priority later
      else if apply then
        if (place : Int) ≤ maxPriority then
          ⟨uuid, priority uuid, maxPriority - place⟩ ::
            changes apply (Function.update priority uuid (maxPriority - place)) later
        else []
      else ⟨uuid, priority uuid, maxPriority - place⟩ :: changes apply priority later

/-- The dry run writes nothing and shows what a run with apply=yes reports. -/
structure Previews (db : Northbound Name Uuid) (priority : Uuid → Int) : Prop where
  unchanged : (left (realign false db priority)).priority = priority
  sameChanges : changes false priority (places (turns db)) = changes true priority (places (turns db))
  sameLines : (left (realign false db priority)).output.filterMap Line.wouldUpdate? =
    (left (realign true db priority)).output.filterMap Line.updated?

/-- A place that asks for another priority than the first one is the last for its HA
chassis, and the schema has its priority. -/
def Steady (priority : Uuid → Int) : List (Uuid × Nat) → Prop
  | [] => True
  | (uuid, place) :: later =>
      (priority uuid ≠ maxPriority - place →
        (place : Int) ≤ maxPriority ∧ ∀ put ∈ later, put.1 ≠ uuid) ∧ Steady priority later

section Turns

variable {db : Northbound Name Uuid} {uuid : Uuid} {place : Nat}

omit [DecidableEq Name] [DecidableEq Uuid] in
theorem echo_updated (state : State Name Uuid) (line : Line Name) :
    (state.echo line).output.filterMap Line.updated? =
      state.output.filterMap Line.updated? ++ (line.updated?).toList := by
  rw [State.echo, List.filterMap_append]
  cases shown : line.updated? <;> simp [shown]

omit [DecidableEq Name] [DecidableEq Uuid] in
theorem echo_wouldUpdate (state : State Name Uuid) (line : Line Name) :
    (state.echo line).output.filterMap Line.wouldUpdate? =
      state.output.filterMap Line.wouldUpdate? ++ (line.wouldUpdate?).toList := by
  rw [State.echo, List.filterMap_append]
  cases shown : line.wouldUpdate? <;> simp [shown]

omit [DecidableEq Name] [DecidableEq Uuid] in
theorem updated_of_silent {line : Line Name} (silent : line.isUpdate = false) :
    line.updated? = none := by
  cases line with
  | updated chassis current desired => cases silent
  | _ => rfl

omit [DecidableEq Name] in
theorem showTurn_put (db : Northbound Name Uuid) (state : State Name Uuid) (uuid : Uuid)
    (place : Nat) :
    ∃ line, turnOf false db state (.put uuid place) = .ok (state.echo line) ∧
      line.wouldUpdate? = if state.priority uuid = maxPriority - place then none
        else some (db.chassisName uuid, state.priority uuid, maxPriority - place) := by
  by_cases current : state.priority uuid = maxPriority - place
  · refine ⟨.noChange (db.chassisName uuid) (state.priority uuid), ?_, ?_⟩
    · simp [turnOf, showTurn, current]
    · rw [if_pos current]
      rfl
  · refine ⟨.wouldUpdate (db.chassisName uuid) (state.priority uuid) (maxPriority - place), ?_, ?_⟩
    · simp [turnOf, showTurn, current]
    · rw [if_neg current]
      rfl

omit [DecidableEq Name] in
theorem showTurns_priority (db : Northbound Name Uuid) (list : List (Turn Name Uuid))
    (state : State Name Uuid) :
    (left (list.foldlM (turnOf false db) state)).priority = state.priority := by
  induction list generalizing state with
  | nil => rfl
  | cons turn list ih =>
      rw [List.foldlM_cons]
      cases turn with
      | stop => rfl
      | say line _ => exact ih (state.echo line)
      | put uuid place =>
          obtain ⟨line, shown, _⟩ := showTurn_put db state uuid place
          rw [shown, ok_bind]
          exact ih (state.echo line)

omit [DecidableEq Name] in
theorem showTurns_lines (db : Northbound Name Uuid) (list : List (Turn Name Uuid))
    (quiet : ∀ line silent, .say line silent ∈ list → line.wouldUpdate? = none)
    (state : State Name Uuid) :
    (left (list.foldlM (turnOf false db) state)).output.filterMap Line.wouldUpdate? =
      state.output.filterMap Line.wouldUpdate? ++
        (changes false state.priority (places list)).map (Change.named db) := by
  induction list generalizing state with
  | nil => simp [left, places, changes, pure, Except.pure]
  | cons turn list ih =>
      have later := ih fun line silent among => quiet line silent (List.mem_cons_of_mem turn among)
      rw [List.foldlM_cons]
      cases turn with
      | stop => simp [left, turnOf, showTurn, places, changes, bind, Except.bind]
      | say line silent =>
          have rest := later (state.echo line)
          rw [echo_wouldUpdate, quiet line silent List.mem_cons_self, Option.toList_none,
            List.append_nil] at rest
          exact rest
      | put uuid place =>
          obtain ⟨line, shown, reported⟩ := showTurn_put db state uuid place
          rw [shown, ok_bind, later (state.echo line), echo_wouldUpdate, reported, places, changes]
          by_cases current : state.priority uuid = maxPriority - place
          · simp [current, State.echo]
          · simp [current, State.echo, Change.named]

omit [DecidableEq Name] in
theorem takeTurns_lines (db : Northbound Name Uuid) (list : List (Turn Name Uuid))
    (state : State Name Uuid) :
    (left (list.foldlM (turnOf true db) state)).output.filterMap Line.updated? =
      state.output.filterMap Line.updated? ++
        (changes true state.priority (places list)).map (Change.named db) := by
  induction list generalizing state with
  | nil => simp [left, places, changes, pure, Except.pure]
  | cons turn list ih =>
      rw [List.foldlM_cons]
      cases turn with
      | stop => simp [left, turnOf, takeTurn, places, changes, bind, Except.bind]
      | say line silent =>
          have rest := ih (state.echo line)
          rw [echo_updated, updated_of_silent silent, Option.toList_none, List.append_nil] at rest
          exact rest
      | put uuid place =>
          have taken : turnOf true db state (.put uuid place) = takeTurn db state (.put uuid place) :=
            rfl
          rw [taken, places, changes]
          by_cases current : state.priority uuid = maxPriority - place
          · rw [takeTurn_same current, ok_bind, ih, echo_updated]
            simp [current, State.echo, Line.updated?]
          · by_cases fits : (place : Int) ≤ maxPriority
            · rw [takeTurn_writes current fits, ok_bind, ih, echo_updated]
              simp [current, fits, State.echo, Line.updated?, Change.named]
            · rw [takeTurn_refused current fits]
              simp [current, fits, left, bind, Except.bind]

end Turns

section Changes

variable {priority current : Uuid → Int} {puts : List (Uuid × Nat)} {change : Change Uuid}

theorem dryChange_current (reported : change ∈ changes false priority puts) :
    change.current = priority change.haChassis := by
  induction puts with
  | nil => simp [changes] at reported
  | cons put puts ih =>
      obtain ⟨uuid, place⟩ := put
      rw [changes] at reported
      split at reported
      · exact ih reported
      · rw [if_neg Bool.false_ne_true, List.mem_cons] at reported
        rcases reported with first | later
        · rw [first]
        · exact ih later

theorem firstChange_current {later : List (Change Uuid)}
    (reported : changes true priority puts = change :: later) :
    change.current = priority change.haChassis := by
  induction puts with
  | nil => simp [changes] at reported
  | cons put puts ih =>
      obtain ⟨uuid, place⟩ := put
      rw [changes] at reported
      split at reported
      · exact ih reported
      · rw [if_pos rfl] at reported
        split at reported
        · obtain ⟨first, _⟩ := List.cons.inj reported
          rw [← first]
        · cases reported

theorem agree_update_iff {uuid : Uuid} {desired : Int}
    (different : priority uuid ≠ desired) :
    (∀ put ∈ puts, Function.update current uuid desired put.1 = priority put.1) ↔
      (∀ put ∈ puts, put.1 ≠ uuid) ∧ ∀ put ∈ puts, current put.1 = priority put.1 := by
  rw [← forall₂_and]
  refine forall₂_congr fun put _ => ?_
  rw [Function.update_apply]
  split
  · rename_i same
    simp [same, different.symm]
  · rename_i other
    simp [other]

/-- The two runs report the same changes exactly when they agree on the priorities of the
HA chassis still to come and no turn disturbs them. -/
theorem changes_eq_iff (inSchema : InSchema priority) (puts : List (Uuid × Nat))
    (current : Uuid → Int) :
    changes false priority puts = changes true current puts ↔
      (∀ put ∈ puts, current put.1 = priority put.1) ∧ Steady priority puts := by
  induction puts generalizing current with
  | nil => simp [changes, Steady]
  | cons put puts ih =>
      obtain ⟨uuid, place⟩ := put
      rw [List.forall_mem_cons]
      by_cases agree : current uuid = priority uuid
      · by_cases settled : priority uuid = maxPriority - place
        · simp only [changes, Steady, agree, settled, if_true, ne_eq, not_true_eq_false, false_implies,
            true_and]
          exact ih current
        · by_cases fits : (place : Int) ≤ maxPriority
          · simp only [changes, Steady, agree, settled, fits, Bool.false_eq_true, if_false, if_true,
              List.cons.injEq, true_and, ne_eq, not_false_eq_true, true_implies]
            rw [ih, agree_update_iff settled, and_comm (a := ∀ put ∈ puts, put.1 ≠ uuid), and_assoc]
          · simp [changes, Steady, agree, settled, fits]
      · refine iff_of_false ?_ fun steady => agree steady.1.1
        intro same
        by_cases settled : priority uuid = maxPriority - place
        · have bounds := inSchema uuid
          have fits : (place : Int) ≤ maxPriority := by omega
          have different : current uuid ≠ maxPriority - place := by omega
          have reported : (⟨uuid, current uuid, maxPriority - place⟩ : Change Uuid) ∈
              changes false priority ((uuid, place) :: puts) := by
            rw [same, changes, if_neg different, if_pos rfl, if_pos fits]
            exact List.mem_cons_self
          exact agree (dryChange_current reported)
        · rw [changes, if_neg settled, if_neg Bool.false_ne_true] at same
          exact agree (firstChange_current same.symm).symm

end Changes

omit [DecidableEq Uuid] in
theorem portTurns_quiet (db : Northbound Name Uuid) (gatewayChassis : List Name)
    (port : LogicalRouterPort Name) (line : Line Name) (silent : line.isUpdate = false)
    (among : .say line silent ∈ portTurns db gatewayChassis port) : line.wouldUpdate? = none := by
  unfold portTurns at among
  split at among
  · simp at among
  · simp at among
  · simp at among
  · split at among
    · simp only [List.mem_singleton] at among
      rw [Turn.say.inj among]
      rfl
    · simp only [List.mem_cons, List.mem_flatMap, chassisTurns, Option.mem_toList,
        Option.map_eq_some_iff, reduceCtorEq, and_false, exists_false, or_false] at among
      rw [Turn.say.inj among]
      rfl

omit [DecidableEq Uuid] in
theorem turns_quiet (db : Northbound Name Uuid) (line : Line Name) (silent : line.isUpdate = false)
    (among : .say line silent ∈ turns db) : line.wouldUpdate? = none := by
  obtain ⟨extPort, _, among⟩ := List.mem_flatMap.mp among
  unfold routerTurns at among
  split at among
  · simp at among
  · simp only [List.mem_singleton] at among
    rw [Turn.say.inj among]
    rfl
  · simp only [List.mem_singleton] at among
    rw [Turn.say.inj among]
    rfl
  · simp only [List.mem_cons] at among
    rcases among with same | among
    · rw [Turn.say.inj same]
      rfl
    · obtain ⟨port, _, among⟩ := List.mem_flatMap.mp among
      exact portTurns_quiet db _ port line silent among

/-- For priorities that the schema allows, the dry run shows what the other run reports
exactly when no HA chassis gets another place after one that changes its priority. -/
theorem dryRun_previews_iff (db : Northbound Name Uuid) (priority : Uuid → Int)
    (inSchema : InSchema priority) : Previews db priority ↔ Steady priority (places (turns db)) := by
  have same := changes_eq_iff inSchema (places (turns db)) priority
  rw [and_iff_right fun _ _ => rfl] at same
  constructor
  · intro previews
    exact same.mp previews.sameChanges
  · intro steady
    have dry := showTurns_lines db (turns db) (turns_quiet db) ⟨priority, [.mode false]⟩
    have applied := takeTurns_lines db (turns db) ⟨priority, [.mode true]⟩
    rw [← realign_turns] at dry applied
    refine ⟨?_, same.mpr steady, ?_⟩
    · rw [realign_turns]
      exact showTurns_priority db (turns db) _
    · rw [dry, applied, same.mpr steady]
      rfl

def sharedNetwork : Northbound String Nat where
  ports := [⟨"lrp-gw-a", .word "router-a", some true, some "external", ["ctl1"]⟩,
    ⟨"lrp-a", .word "router-a", some false, some "shared", []⟩,
    ⟨"lrp-gw-b", .word "router-b", some true, some "external", ["ctl1"]⟩,
    ⟨"lrp-b", .word "router-b", some false, some "shared", []⟩]
  haChassisGroup network := if network = "shared" then some [1] else none
  chassisName _ := "ctl1"

theorem dryRun_previews_iff_sharedNetwork :
    Previews sharedNetwork (fun _ => 0) ↔ Steady (fun _ => 0) (places (turns sharedNetwork)) :=
  dryRun_previews_iff sharedNetwork (fun _ => 0) fun _ => by simp [maxPriority]

theorem dryRun_shows_twice : ¬Previews sharedNetwork fun _ => 0 :=
  fun previews => absurd previews.sameLines (by decide)

end Ovn
