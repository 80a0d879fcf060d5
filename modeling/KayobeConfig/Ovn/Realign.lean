import KayobeConfig.Library.Overwrite

/-!
The script of `fixes/ovn-fix-chassis-priorities.yml` on an OVN northbound database.
Names and row identifiers are words of the shell. The script stops at the first
command that fails, and what it has written and printed by then stays.
-/

namespace Ovn

open Library

variable {Name Uuid : Type} [DecidableEq Name] [DecidableEq Uuid]

inductive ExternalId (Name : Type)
  | absent
  | empty
  | word (name : Name)
  deriving DecidableEq

/-- `isExtGw` tells whether the external id is `True`, if there is one. The gateway
chassis are listed by descending priority. -/
structure LogicalRouterPort (Name : Type) where
  name : Name
  routerName : ExternalId Name
  isExtGw : Option Bool
  networkName : Option Name
  gatewayChassis : List Name
  deriving DecidableEq

structure Northbound (Name Uuid : Type) where
  ports : List (LogicalRouterPort Name)
  haChassisGroup : Name → Option (List Uuid)
  chassisName : Uuid → Name

inductive Line (Name : Type)
  | mode (apply : Bool)
  | noRouterName (port : Name)
  | noGatewayChassis (router : Name)
  | router (router port activeGateway : Name)
  | noHaGroup (port network : Name)
  | port (port network : Name)
  | updated (chassis : Name) (current desired : Int)
  | wouldUpdate (chassis : Name) (current desired : Int)
  | noChange (chassis : Name) (current : Int)
  deriving DecidableEq

structure State (Name Uuid : Type) where
  priority : Uuid → Int
  output : List (Line Name)

/-- A command sequence goes on in a new state or stops in one. -/
abbrev Shell (Name Uuid : Type) := Except (State Name Uuid)

def maxPriority : Int := 32767

def State.echo (state : State Name Uuid) (line : Line Name) : State Name Uuid :=
  { state with output := state.output ++ [line] }

/-- `ovn-nbctl set`, which fails on a priority that the schema does not allow. -/
def State.setPriority (state : State Name Uuid) (uuid : Uuid) (desired : Int) :
    Shell Name Uuid (State Name Uuid) :=
  if 0 ≤ desired ∧ desired ≤ maxPriority then
    .ok { state with priority := Function.update state.priority uuid desired }
  else .error state

def desiredPriority (gatewayChassis : List Name) (chassis : Name) : Option Int :=
  (gatewayChassis.idxOf? chassis).map fun index => maxPriority - index

variable (apply : Bool) (db : Northbound Name Uuid)

def updateChassis (gatewayChassis : List Name) (state : State Name Uuid) (uuid : Uuid) :
    Shell Name Uuid (State Name Uuid) :=
  let chassis := db.chassisName uuid
  let current := state.priority uuid
  match desiredPriority gatewayChassis chassis with
  | none => .ok state
  | some desired =>
      if current ≠ desired then
        if apply then do
          let state ← state.setPriority uuid desired
          return state.echo (.updated chassis current desired)
        else .ok (state.echo (.wouldUpdate chassis current desired))
      else .ok (state.echo (.noChange chassis current))

def processPort (gatewayChassis : List Name) (state : State Name Uuid)
    (port : LogicalRouterPort Name) : Shell Name Uuid (State Name Uuid) :=
  match port.isExtGw with
  | none => .error state
  | some true => .ok state
  | some false =>
      match port.networkName with
      | none => .error state
      | some network =>
          match db.haChassisGroup network with
          | none => .ok (state.echo (.noHaGroup port.name network))
          | some haChassis =>
              haChassis.foldlM (updateChassis apply db gatewayChassis)
                (state.echo (.port port.name network))

def routerPorts (router : Name) : List (LogicalRouterPort Name) :=
  db.ports.filter fun port => port.routerName = .word router

def processRouter (state : State Name Uuid) (extPort : LogicalRouterPort Name) :
    Shell Name Uuid (State Name Uuid) :=
  match extPort.routerName with
  | .absent => .error state
  | .empty => .ok (state.echo (.noRouterName extPort.name))
  | .word router =>
      match extPort.gatewayChassis with
      | [] => .ok (state.echo (.noGatewayChassis router))
      | activeGateway :: _ =>
          (routerPorts db router).foldlM (processPort apply db extPort.gatewayChassis)
            (state.echo (.router router extPort.name activeGateway))

def extPorts : List (LogicalRouterPort Name) := db.ports.filter fun port => port.isExtGw = some true

def realign (priority : Uuid → Int) : Shell Name Uuid (State Name Uuid) :=
  (extPorts db).foldlM (processRouter apply db) ⟨priority, [.mode apply]⟩

end Ovn
