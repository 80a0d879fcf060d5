import Mathlib.Data.String.Basic
import KayobeConfig.Library.Dict
import KayobeConfig.Library.Loops
import KayobeConfig.Library.Text

/-!
The play of `add-port-groups.yml` over a group of bonded nodes. Every host reads its
ports and the list of port groups before any host creates one, and every host creates
its port group before any host associates its ports.
-/

namespace PortGroups

open Library

variable {Uuid : Type}

structure Node (Uuid : Type) where
  uuid : Uuid
  name : Option String
  deriving DecidableEq

structure Port (Uuid : Type) where
  uuid : Uuid
  node : Uuid
  address : String
  physicalNetwork : Option String
  portGroup : Option Uuid
  deriving DecidableEq

structure PortGroup (Uuid : Type) where
  uuid : Uuid
  node : Uuid
  name : Option String
  address : Option String
  deriving DecidableEq

structure Ironic (Uuid : Type) where
  nodes : List (Node Uuid)
  ports : List (Port Uuid)
  groups : List (PortGroup Uuid)

/-- Names and addresses of port groups are unique: creating a second one is a conflict. -/
def Ironic.createPortGroup (newUuid : List (PortGroup Uuid) → Uuid) (ironic : Ironic Uuid)
    (node : Uuid) (name address : String) : Option (Ironic Uuid) :=
  if ironic.groups.any fun group => group.name = some name || group.address = some address then none
  else some { ironic with
    groups := ironic.groups ++ [⟨newUuid ironic.groups, node, some name, some address⟩] }

def Ironic.showPortGroup (ironic : Ironic Uuid) (name : String) : Option (PortGroup Uuid) :=
  ironic.groups.find? fun group => group.name = some name

/-- What one run has done. A failed host takes no further task. -/
structure Run (Uuid : Type) where
  ironic : Ironic Uuid
  failed : List String
  created : List String
  associated : List Uuid

def Run.fail (run : Run Uuid) (inventoryHostname : String) : Run Uuid :=
  { run with failed := run.failed ++ [inventoryHostname] }

/-- `render` prints the table of port groups, and `newUuid` picks the next identifier. -/
structure Client (Uuid : Type) where
  render : List (PortGroup Uuid) → String
  newUuid : List (PortGroup Uuid) → Uuid

def baremetalUuid (ironic : Ironic Uuid) (inventoryHostname : String) : Option Uuid :=
  (ironic.nodes.find? fun node => node.name = some inventoryHostname).map Node.uuid

theorem baremetalUuid_injective {ironic : Ironic Uuid} {host other : String} {uuid : Uuid}
    (distinct : (ironic.nodes.map Node.uuid).Nodup)
    (first : baremetalUuid ironic host = some uuid)
    (second : baremetalUuid ironic other = some uuid) : host = other := by
  unfold baremetalUuid at first second
  obtain ⟨node, found, rfl⟩ := Option.map_eq_some_iff.mp first
  obtain ⟨same, alsoFound, agree⟩ := Option.map_eq_some_iff.mp second
  have equal := List.inj_on_of_nodup_map distinct (List.mem_of_find?_eq_some alsoFound)
    (List.mem_of_find?_eq_some found) agree
  have named := List.find?_some found
  have alsoNamed := List.find?_some alsoFound
  simp only [decide_eq_true_eq] at named alsoNamed
  rw [equal, named] at alsoNamed
  exact Option.some.inj alsoNamed

/-- The conditions of the task in order. The second one has no value without a port. -/
def mayCreate (existingPortGroups inventoryHostname : String) (ports : List (Port Uuid)) :
    Option Bool :=
  if contains existingPortGroups inventoryHostname then some false
  else match ports with
    | [] => none
    | port :: _ => some (!contains existingPortGroups port.address)

theorem mayCreate_true_iff {table host : String} {ports : List (Port Uuid)} :
    mayCreate table host ports = some true ↔ contains table host = false ∧
      ∃ first rest, ports = first :: rest ∧ contains table first.address = false := by
  unfold mayCreate
  cases contains table host with
  | true => simp
  | false =>
      cases ports with
      | nil => simp
      | cons first rest => simp

theorem mayCreate_none {table host : String} {ports : List (Port Uuid)}
    (undefined : mayCreate table host ports = none) : ports = [] := by
  unfold mayCreate at undefined
  cases ports with
  | nil => rfl
  | cons first rest => split at undefined <;> simp at undefined

variable [DecidableEq Uuid] (network : String) (client : Client Uuid)

/-- A port cannot join a port group of another node. -/
def Ironic.setPortGroup (ironic : Ironic Uuid) (group : PortGroup Uuid) (item : Port Uuid) :
    Option (Ironic Uuid) :=
  if item.node = group.node then some { ironic with
    ports := ironic.ports.map fun port =>
      if port.uuid = item.uuid then { port with portGroup := some group.uuid } else port }
  else none

/-- The list stays undefined where the query finds no port, which is `[]` here. -/
def baremetalPorts (ironic : Ironic Uuid) (inventoryHostname : String) : List (Port Uuid) :=
  match baremetalUuid ironic inventoryHostname with
  | none => []
  | some uuid => (sortedBy Port.address ironic.ports).filter fun port =>
      port.node = uuid && port.physicalNetwork = some network

/-- `listed` is Ironic at the time of the lists. -/
def createPortGroup (listed : Ironic Uuid) (run : Run Uuid) (inventoryHostname : String) : Run Uuid :=
  let ports := baremetalPorts network listed inventoryHostname
  match baremetalUuid listed inventoryHostname,
      mayCreate (client.render listed.groups) inventoryHostname ports, ports with
  | some _, some false, _ => run
  | some uuid, some true, port :: _ =>
      match run.ironic.createPortGroup client.newUuid uuid inventoryHostname port.address with
      | none => run.fail inventoryHostname
      | some ironic =>
          { run with ironic := ironic, created := run.created ++ [inventoryHostname] }
  | _, _, _ => run.fail inventoryHostname

def associatePort (inventoryHostname : String) (group : PortGroup Uuid) (run : Run Uuid)
    (item : Port Uuid) : Run Uuid :=
  match run.ironic.setPortGroup group item with
  | none => run.fail inventoryHostname
  | some ironic => { run with ironic := ironic, associated := run.associated ++ [item.uuid] }

def associatePorts (listed : Ironic Uuid) (run : Run Uuid) (inventoryHostname : String) : Run Uuid :=
  let ports := baremetalPorts network listed inventoryHostname
  if inventoryHostname ∈ run.failed then run
  else match run.ironic.showPortGroup inventoryHostname with
    | none => run.fail inventoryHostname
    | some group =>
        if ports = [] then run.fail inventoryHostname
        else if ports.any fun port => port.portGroup.isNone then
          ports.foldl (associatePort inventoryHostname group) run
        else run

def createAll (ironic : Ironic Uuid) (hosts : List String) : Run Uuid :=
  hosts.foldl (createPortGroup network client ironic) ⟨ironic, [], [], []⟩

def playbook (ironic : Ironic Uuid) (hosts : List String) : Run Uuid :=
  hosts.foldl (associatePorts network ironic) (createAll network client ironic hosts)

/-- Ironic's own keys: the identifiers, the addresses of ports and their port groups. -/
structure Ironic.WellFormed (ironic : Ironic Uuid) : Prop where
  nodes : (ironic.nodes.map Node.uuid).Nodup
  ports : (ironic.ports.map Port.uuid).Nodup
  addresses : (ironic.ports.map Port.address).Nodup
  references : ∀ port ∈ ironic.ports, ∀ uuid, port.portGroup = some uuid →
    uuid ∈ ironic.groups.map PortGroup.uuid

/-- The table shows the name and the address of each port group. -/
structure Client.Lawful : Prop where
  names : ∀ groups, ∀ group ∈ groups, ∀ name, group.name = some name →
    contains (client.render groups) name = true
  addresses : ∀ groups, ∀ group ∈ groups, ∀ address, group.address = some address →
    contains (client.render groups) address = true
  fresh : ∀ groups, client.newUuid groups ∉ groups.map PortGroup.uuid

section Ports

variable {network : String} {ironic : Ironic Uuid} {host other : String} {port : Port Uuid}

theorem mem_baremetalPorts : port ∈ baremetalPorts network ironic host ↔
    port ∈ ironic.ports ∧ baremetalUuid ironic host = some port.node ∧
      port.physicalNetwork = some network := by
  unfold baremetalPorts
  cases found : baremetalUuid ironic host with
  | none => simp
  | some uuid =>
      simp only [List.mem_filter, mem_sortedBy, Bool.and_eq_true, decide_eq_true_eq,
        Option.some.injEq, @eq_comm _ uuid]

theorem baremetalPorts_node {sibling : Port Uuid} (first : port ∈ baremetalPorts network ironic host)
    (second : sibling ∈ baremetalPorts network ironic host) : port.node = sibling.node :=
  Option.some.inj ((mem_baremetalPorts.mp first).2.1.symm.trans (mem_baremetalPorts.mp second).2.1)

theorem mem_map_uuid (distinct : (ironic.ports.map Port.uuid).Nodup) (member : port ∈ ironic.ports) :
    port.uuid ∈ (baremetalPorts network ironic host).map Port.uuid ↔
      port ∈ baremetalPorts network ironic host := by
  constructor
  · intro listed
    obtain ⟨item, itemMember, agree⟩ := List.mem_map.mp listed
    have equal : item = port := List.inj_on_of_nodup_map distinct
      (mem_baremetalPorts.mp itemMember).1 member agree
    exact equal ▸ itemMember
  · exact List.mem_map_of_mem

theorem baremetalPorts_disjoint (distinct : (ironic.nodes.map Node.uuid).Nodup)
    (first : port ∈ baremetalPorts network ironic host)
    (second : port ∈ baremetalPorts network ironic other) : host = other :=
  baremetalUuid_injective distinct (mem_baremetalPorts.mp first).2.1
    (mem_baremetalPorts.mp second).2.1

end Ports

section Quiet

variable {network : String} {client : Client Uuid} {ironic : Ironic Uuid}

/-- A host passes the task over, fails for want of a port, or asks for its port group. -/
theorem createPortGroup_cases (network : String) (client : Client Uuid) (ironic : Ironic Uuid)
    (run : Run Uuid) (host : String) :
    (mayCreate (client.render ironic.groups) host (baremetalPorts network ironic host) ≠ some true ∧
      createPortGroup network client ironic run host = run) ∨
    (baremetalPorts network ironic host = [] ∧
      createPortGroup network client ironic run host = run.fail host) ∨
    ∃ first rest, baremetalPorts network ironic host = first :: rest ∧
      mayCreate (client.render ironic.groups) host (first :: rest) = some true ∧
      createPortGroup network client ironic run host =
        match run.ironic.createPortGroup client.newUuid first.node host first.address with
        | none => run.fail host
        | some next => { run with ironic := next, created := run.created ++ [host] } := by
  unfold createPortGroup
  dsimp only
  cases ports : baremetalPorts network ironic host with
  | nil =>
      cases baremetalUuid ironic host with
      | none => exact Or.inr (Or.inl ⟨rfl, rfl⟩)
      | some uuid =>
          cases decision : mayCreate (client.render ironic.groups) host ([] : List (Port Uuid)) with
          | none => exact Or.inr (Or.inl ⟨rfl, rfl⟩)
          | some allowed =>
              cases allowed with
              | false => exact Or.inl ⟨by simp, rfl⟩
              | true => exact Or.inr (Or.inl ⟨rfl, rfl⟩)
  | cons first rest =>
      have found : baremetalUuid ironic host = some first.node :=
        (mem_baremetalPorts.mp (ports ▸ List.mem_cons_self)).2.1
      rw [found]
      cases decision : mayCreate (client.render ironic.groups) host (first :: rest) with
      | none => cases mayCreate_none decision
      | some allowed =>
          cases allowed with
          | false => exact Or.inl ⟨by simp, rfl⟩
          | true => exact Or.inr (Or.inr ⟨first, rest, rfl, decision, rfl⟩)

theorem createPortGroup_skips {run : Run Uuid} {host : String}
    (skips : mayCreate (client.render ironic.groups) host (baremetalPorts network ironic host) ≠
      some true) : (createPortGroup network client ironic run host).created = run.created := by
  rcases createPortGroup_cases network client ironic run host with
    ⟨_, same⟩ | ⟨_, failed⟩ | ⟨first, rest, ports, allowed, _⟩
  · rw [same]
  · rw [failed]
    rfl
  · rw [ports] at skips
    exact absurd allowed skips

theorem createPortGroup_associated (network : String) (client : Client Uuid) (ironic : Ironic Uuid)
    (run : Run Uuid) (host : String) :
    (createPortGroup network client ironic run host).associated = run.associated := by
  unfold createPortGroup
  dsimp only
  split
  · rfl
  · split <;> rfl
  · rfl

theorem associatePorts_skips {run : Run Uuid} {host : String}
    (grouped : ∀ port ∈ baremetalPorts network ironic host, port.portGroup ≠ none) :
    (associatePorts network ironic run host).associated = run.associated := by
  have none : ((baremetalPorts network ironic host).any fun port => port.portGroup.isNone) =
      false := by
    rw [List.any_eq_false]
    intro port member
    simpa using grouped port member
  unfold associatePorts
  dsimp only
  rw [none]
  split
  · rfl
  · split
    · rfl
    · split <;> rfl

theorem associatePort_created (host : String) (group : PortGroup Uuid) (run : Run Uuid)
    (item : Port Uuid) : (associatePort host group run item).created = run.created := by
  unfold associatePort
  split <;> rfl

theorem associatePorts_created (network : String) (ironic : Ironic Uuid) (run : Run Uuid)
    (host : String) : (associatePorts network ironic run host).created = run.created := by
  unfold associatePorts
  dsimp only
  split
  · rfl
  · split
    · rfl
    · rename_i group _
      split
      · rfl
      · split
        · apply foldl_frame Run.created
          intro item _ state
          exact associatePort_created host group state item
        · rfl

end Quiet

section Association

variable {network : String} {ironic : Ironic Uuid} {run : Run Uuid} {host other : String}
  {group : PortGroup Uuid}

variable (network ironic run host group) in
/-- The host associates its ports with the group. -/
structure Assigns : Prop where
  remains : host ∉ run.failed
  shown : run.ironic.showPortGroup host = some group
  ungrouped : ∃ port ∈ baremetalPorts network ironic host, port.portGroup = none
  owned : ∀ port ∈ baremetalPorts network ironic host, port.node = group.node

theorem foldl_associatePort (items : List (Port Uuid)) (run : Run Uuid)
    (owned : ∀ item ∈ items, item.node = group.node) :
    (items.foldl (associatePort host group) run).failed = run.failed ∧
      (items.foldl (associatePort host group) run).ironic = { run.ironic with
        ports := run.ironic.ports.map fun port =>
          if port.uuid ∈ items.map Port.uuid then { port with portGroup := some group.uuid }
          else port } := by
  induction items generalizing run with
  | nil => simp
  | cons item items ih =>
      have set : run.ironic.setPortGroup group item = some { run.ironic with
          ports := run.ironic.ports.map fun port =>
            if port.uuid = item.uuid then { port with portGroup := some group.uuid } else port } :=
        if_pos (owned item List.mem_cons_self)
      obtain ⟨failed, ports⟩ := ih (associatePort host group run item)
        fun later member => owned later (List.mem_cons_of_mem item member)
      rw [List.foldl_cons]
      refine ⟨failed.trans ?_, ports.trans ?_⟩
      · unfold associatePort
        rw [set]
      · unfold associatePort
        rw [set]
        simp only [List.map_map, List.map_cons, List.mem_cons, Ironic.mk.injEq, true_and, and_true]
        apply List.map_congr_left
        intro port _
        by_cases same : port.uuid = item.uuid
        · simp [same]
        · simp [same]

theorem associatePort_refused {item : Port Uuid} (refused : item.node ≠ group.node) :
    (associatePort host group run item).ironic = run.ironic := by
  have set : run.ironic.setPortGroup group item = none := if_neg refused
  unfold associatePort
  rw [set]
  rfl

theorem associatePorts_assigns (assigns : Assigns network ironic run host group) :
    (associatePorts network ironic run host).failed = run.failed ∧
      (associatePorts network ironic run host).ironic = { run.ironic with
        ports := run.ironic.ports.map fun port =>
          if port.uuid ∈ (baremetalPorts network ironic host).map Port.uuid then
            { port with portGroup := some group.uuid }
          else port } := by
  obtain ⟨port, member, free⟩ := assigns.ungrouped
  have nonempty : baremetalPorts network ironic host ≠ [] := List.ne_nil_of_mem member
  have any : ((baremetalPorts network ironic host).any fun port => port.portGroup.isNone) =
      true := by
    rw [List.any_eq_true]
    exact ⟨port, member, by rw [free]; rfl⟩
  have same : associatePorts network ironic run host =
      (baremetalPorts network ironic host).foldl (associatePort host group) run := by
    unfold associatePorts
    dsimp only
    rw [if_neg assigns.remains, assigns.shown]
    dsimp only
    rw [if_neg nonempty, if_pos any]
  rw [same]
  exact foldl_associatePort _ run assigns.owned

theorem associatePorts_ironic (idle : ∀ group, ¬Assigns network ironic run host group) :
    (associatePorts network ironic run host).ironic = run.ironic := by
  unfold associatePorts
  dsimp only
  split
  · rfl
  · rename_i remains
    split
    · rfl
    · rename_i group shown
      split
      · rfl
      · split
        · rename_i any
          obtain ⟨port, member, free⟩ := List.any_eq_true.mp any
          apply foldl_frame Run.ironic
          intro item itemMember state
          apply associatePort_refused
          intro sameNode
          apply idle group
          refine ⟨remains, shown, ⟨port, member, Option.isNone_iff_eq_none.mp free⟩, ?_⟩
          intro sibling siblingMember
          exact (baremetalPorts_node siblingMember itemMember).trans sameNode
        · rfl

theorem associatePort_failed (different : other ≠ host) (state : Run Uuid) (item : Port Uuid) :
    (other ∈ (associatePort host group state item).failed) = (other ∈ state.failed) := by
  unfold associatePort
  split
  · simp [Run.fail, different]
  · rfl

theorem associatePorts_failed (different : other ≠ host) :
    other ∈ (associatePorts network ironic run host).failed ↔ other ∈ run.failed := by
  have failing : other ∈ (run.fail host).failed ↔ other ∈ run.failed := by
    simp [Run.fail, different]
  unfold associatePorts
  dsimp only
  split
  · rfl
  · split
    · exact failing
    · split
      · exact failing
      · split
        · apply Eq.to_iff
          apply foldl_frame fun state : Run Uuid => other ∈ state.failed
          intro item _ state
          exact associatePort_failed different state item
        · rfl

end Association

end PortGroups
