import KayobeConfig.Ovn.Turns

/-!
What the script leaves in the HA chassis groups, also when a command of it fails. An HA
chassis ends up with the priority of the last place it is given, or keeps its own.
-/

namespace Ovn

open Library

variable {Name Uuid : Type} [DecidableEq Name] [DecidableEq Uuid]

def Before (chassis : List Name) (first second : Name) : Prop :=
  ∃ i j, chassis.idxOf? first = some i ∧ chassis.idxOf? second = some j ∧ i < j

def portGroup (db : Northbound Name Uuid) (port : LogicalRouterPort Name) : Option (List Uuid) :=
  if port.isExtGw = some true then none else port.networkName.bind db.haChassisGroup

/-- The active gateway leads every group of its router's networks, and the members that
the gateway list has are in its order. -/
def Aligned (db : Northbound Name Uuid) (priority : Uuid → Int) : Prop :=
  ∀ extPort ∈ extPorts db, ∀ router, extPort.routerName = .word router →
    ∀ activeGateway others, extPort.gatewayChassis = activeGateway :: others →
      ∀ port ∈ routerPorts db router, ∀ haChassis, portGroup db port = some haChassis →
        (∀ member ∈ haChassis, db.chassisName member = activeGateway →
          ∀ other ∈ haChassis, other ≠ member → priority other < priority member) ∧
        ∀ member ∈ haChassis, ∀ other ∈ haChassis,
          Before extPort.gatewayChassis (db.chassisName member) (db.chassisName other) →
            priority other < priority member

/-- The last place that an HA chassis is given before the script ends. -/
def lastPlace (db : Northbound Name Uuid) (uuid : Uuid) : Option Nat :=
  ((placements (turns db)).reverse.find? fun placed => placed.1 = uuid).map Prod.snd

/-- By the last places, or the old priority of an HA chassis that is given none. -/
def Outranks (db : Northbound Name Uuid) (priority : Uuid → Int) (member other : Uuid) : Prop :=
  match lastPlace db member, lastPlace db other with
  | some i, some j => i < j
  | some i, none => priority other < maxPriority - i
  | none, some j => maxPriority - j < priority member
  | none, none => priority other < priority member

/-- No gateway list that comes later takes back what this list asks of the group. -/
structure Agrees (db : Northbound Name Uuid) (priority : Uuid → Int) (gatewayChassis : List Name)
    (haChassis : List Uuid) : Prop where
  leads : ∀ member ∈ haChassis, gatewayChassis.head? = some (db.chassisName member) →
    ∀ other ∈ haChassis, other ≠ member → Outranks db priority member other
  ordered : ∀ member ∈ haChassis, ∀ other ∈ haChassis,
    Before gatewayChassis (db.chassisName member) (db.chassisName other) →
      Outranks db priority member other

theorem realign_priority (db : Northbound Name Uuid) (priority : Uuid → Int)
    (inSchema : InSchema priority) (uuid : Uuid) :
    (left (realign true db priority)).priority uuid = match lastPlace db uuid with
      | some place => maxPriority - place
      | none => priority uuid := by
  rw [realign_left db priority inSchema, foldl_overwrite, lastWritten_last]
  unfold lastPlace
  cases ((placements (turns db)).reverse.find? fun placed => placed.1 = uuid).map Prod.snd <;> rfl

theorem realign_lt_iff (db : Northbound Name Uuid) (priority : Uuid → Int)
    (inSchema : InSchema priority) (member other : Uuid) :
    (left (realign true db priority)).priority other <
        (left (realign true db priority)).priority member ↔ Outranks db priority member other := by
  rw [realign_priority db priority inSchema, realign_priority db priority inSchema]
  unfold Outranks
  cases lastPlace db member with
  | none => cases lastPlace db other <;> rfl
  | some i =>
      cases lastPlace db other with
      | none => rfl
      | some j =>
          simp only
          omega

/-- For priorities that the schema allows, wherever the script ends. -/
theorem realign_aligned_iff (db : Northbound Name Uuid) (priority : Uuid → Int)
    (inSchema : InSchema priority) :
    Aligned db (left (realign true db priority)).priority ↔
      ∀ extPort ∈ extPorts db, ∀ router, extPort.routerName = .word router →
        ∀ port ∈ routerPorts db router, ∀ haChassis, portGroup db port = some haChassis →
          Agrees db priority extPort.gatewayChassis haChassis := by
  unfold Aligned
  simp only [realign_lt_iff db priority inSchema]
  constructor
  · intro aligned extPort isExt router routed port isPort haChassis grouped
    cases gateways : extPort.gatewayChassis with
    | nil =>
        constructor
        · simp
        · rintro member _ other _ ⟨i, _, first, _⟩
          simp at first
    | cons activeGateway others =>
        obtain ⟨leads, ordered⟩ := aligned extPort isExt router routed activeGateway others gateways
          port isPort haChassis grouped
        rw [gateways] at ordered
        refine ⟨?_, ordered⟩
        intro member inside head
        exact leads member inside (Option.some.inj head).symm
  · intro agrees extPort isExt router routed activeGateway others gateways port isPort haChassis grouped
    have agreed := agrees extPort isExt router routed port isPort haChassis grouped
    refine ⟨?_, agreed.ordered⟩
    rintro member inside rfl
    exact agreed.leads member inside (by rw [gateways, List.head?_cons])

def singleRouter (gatewayChassis : List String) : Northbound String Nat where
  ports := [⟨"lrp-gw", .word "router", some true, some "external", gatewayChassis⟩,
    ⟨"lrp-internal", .word "router", some false, some "internal", []⟩]
  haChassisGroup network := if network = "internal" then some [1, 2] else none
  chassisName uuid := if uuid = 1 then "ctl1" else "ctl2"

def namelessRouter : Northbound String Nat :=
  { singleRouter ["ctl1", "ctl2"] with
    ports := (singleRouter ["ctl1", "ctl2"]).ports ++
      [⟨"lrp-gw-2", .absent, some true, some "external", ["ctl2", "ctl1"]⟩] }

theorem realign_aligned_iff_namelessRouter :
    (∃ state, realign true namelessRouter (fun _ => 0) = .error state) ∧
      (Aligned namelessRouter (left (realign true namelessRouter fun _ => 0)).priority ↔
        ∀ extPort ∈ extPorts namelessRouter, ∀ router, extPort.routerName = .word router →
          ∀ port ∈ routerPorts namelessRouter router, ∀ haChassis,
            portGroup namelessRouter port = some haChassis →
              Agrees namelessRouter (fun _ => 0) extPort.gatewayChassis haChassis) :=
  ⟨⟨_, rfl⟩, realign_aligned_iff namelessRouter (fun _ => 0) fun _ => by simp [maxPriority]⟩

theorem realign_unlisted_member :
    ∃ final, realign true (singleRouter ["ctl1"]) (fun uuid => if uuid = 1 then 1 else 32767) =
        .ok final ∧ ¬Aligned (singleRouter ["ctl1"]) final.priority := by
  refine ⟨_, rfl, ?_⟩
  intro aligned
  have leads := (aligned _ List.mem_cons_self "router" rfl "ctl1" [] rfl
    ⟨"lrp-internal", .word "router", some false, some "internal", []⟩ (by decide) [1, 2] rfl).1
  exact absurd (leads 1 (by decide) rfl 2 (by decide) (by decide)) (by decide)

end Ovn
