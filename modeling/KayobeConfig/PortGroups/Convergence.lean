import KayobeConfig.PortGroups.Playbook

/-!
When the play registers every host in one run, with nothing left for a further run.
The substring tests against the table of port groups decide which hosts it passes over.
-/

namespace PortGroups

open Library

variable {Uuid : Type} [DecidableEq Uuid]

section Statement

variable (network : String) (client : Client Uuid) (ironic : Ironic Uuid)

def Registered (host : String) : Prop :=
  ∃ group ∈ ironic.groups, group.name = some host ∧
    ∀ port ∈ baremetalPorts network ironic host, port.portGroup = some group.uuid

instance decidableRegistered (host : String) : Decidable (Registered network ironic host) :=
  inferInstanceAs (Decidable (∃ group ∈ ironic.groups, group.name = some host ∧
    ∀ port ∈ baremetalPorts network ironic host, port.portGroup = some group.uuid))

/-- No group of another name uses the address of the first port of a host. -/
def AddressesFree (hosts : List String) : Prop :=
  ∀ host ∈ hosts, ∀ first ∈ (baremetalPorts network ironic host).head?,
    ∀ group ∈ ironic.groups, group.address = some first.address → group.name = some host

structure Converges (hosts : List String) : Prop where
  registered : ∀ host ∈ hosts, baremetalPorts network ironic host ≠ [] →
    Registered network (playbook network client ironic hosts).ironic host
  created :
    (playbook network client (playbook network client ironic hosts).ironic hosts).created = []
  associated :
    (playbook network client (playbook network client ironic hosts).ironic hosts).associated = []

def Creates (host : String) : Prop :=
  mayCreate (client.render ironic.groups) host (baremetalPorts network ironic host) = some true

/-- Some port asks for a port group, and the host has one or will create it. -/
structure Registrable (host : String) : Prop where
  ungrouped : ∃ port ∈ baremetalPorts network ironic host, port.portGroup = none
  available : Creates network client ironic host ∨ ∃ group, ironic.showPortGroup host = some group ∧
    ∀ port ∈ baremetalPorts network ironic host, port.node = group.node

structure MadeFor (host : String) (group : PortGroup Uuid) : Prop where
  allowed : Creates network client ironic host
  name : group.name = some host
  port : ∃ port ∈ baremetalPorts network ironic host,
    port.node = group.node ∧ group.address = some port.address

/-- What the creating tasks of some hosts have done. -/
structure Created (before : List String) (news : List (PortGroup Uuid)) (run : Run Uuid) : Prop where
  groups : run.ironic = { ironic with groups := ironic.groups ++ news }
  fresh : ∀ group ∈ news, group.uuid ∉ ironic.groups.map PortGroup.uuid
  origin : ∀ group ∈ news, ∃ host ∈ before, MadeFor network client ironic host group
  made : ∀ host ∈ before, Creates network client ironic host →
    ∃ group ∈ news, group.name = some host
  failed : ∀ host ∈ run.failed, baremetalPorts network ironic host = []

end Statement

section Creation

variable {network : String} {client : Client Uuid} {ironic : Ironic Uuid} {hosts before : List String}
  {news : List (PortGroup Uuid)} {run : Run Uuid} {host : String}

theorem Created.skip (created : Created network client ironic before news run)
    (skips : ¬Creates network client ironic host) :
    Created network client ironic (before ++ [host]) news run := by
  refine ⟨created.groups, created.fresh, ?_, ?_, created.failed⟩
  · intro group member
    obtain ⟨earlier, known, made⟩ := created.origin group member
    exact ⟨earlier, List.mem_append_left [host] known, made⟩
  · intro earlier known allowed
    rcases List.mem_append.mp known with known | last
    · exact created.made earlier known allowed
    · rw [List.mem_singleton] at last
      subst last
      exact absurd allowed skips

theorem Created.fail (created : Created network client ironic before news run)
    (empty : baremetalPorts network ironic host = []) :
    Created network client ironic (before ++ [host]) news (run.fail host) := by
  have skips : ¬Creates network client ironic host := by
    unfold Creates
    rw [mayCreate_true_iff, empty]
    rintro ⟨_, first, rest, impossible, _⟩
    cases impossible
  have skipped := created.skip skips
  refine ⟨skipped.groups, skipped.fresh, skipped.origin, skipped.made, ?_⟩
  intro other member
  rcases List.mem_append.mp member with member | last
  · exact created.failed other member
  · rw [List.mem_singleton.mp last, empty]

theorem not_named (lawful : client.Lawful) (allowed : Creates network client ironic host)
    {group : PortGroup Uuid} (member : group ∈ ironic.groups) : group.name ≠ some host := by
  intro named
  have shown := lawful.names ironic.groups group member host named
  rw [(mayCreate_true_iff.mp allowed).1] at shown
  cases shown

theorem no_conflict (wellFormed : ironic.WellFormed) (lawful : client.Lawful)
    (created : Created network client ironic before news run) (new : host ∉ before)
    (allowed : Creates network client ironic host) {first : Port Uuid} {rest : List (Port Uuid)}
    (ports : baremetalPorts network ironic host = first :: rest) {group : PortGroup Uuid}
    (member : group ∈ ironic.groups ++ news) :
    group.name ≠ some host ∧ group.address ≠ some first.address := by
  have firstMember : first ∈ baremetalPorts network ironic host := by simp [ports]
  rcases List.mem_append.mp member with old | new'
  · refine ⟨not_named lawful allowed old, ?_⟩
    intro addressed
    obtain ⟨_, other, others, same, hidden⟩ := mayCreate_true_iff.mp allowed
    rw [ports] at same
    obtain ⟨rfl, _⟩ := List.cons.inj same
    have shown := lawful.addresses ironic.groups group old first.address addressed
    rw [hidden] at shown
    cases shown
  · obtain ⟨earlier, known, made⟩ := created.origin group new'
    have different : earlier ≠ host := by
      intro same
      exact new (same ▸ known)
    constructor
    · rw [made.name]
      intro same
      exact different (Option.some.inj same)
    · obtain ⟨port, portMember, _, address⟩ := made.port
      rw [address]
      intro same
      have equal : port = first := List.inj_on_of_nodup_map wellFormed.addresses
        (mem_baremetalPorts.mp portMember).1 (mem_baremetalPorts.mp firstMember).1
        (Option.some.inj same)
      subst equal
      exact different (baremetalPorts_disjoint wellFormed.nodes portMember firstMember)

theorem Created.add (lawful : client.Lawful)
    (created : Created network client ironic before news run)
    (allowed : Creates network client ironic host) {first : Port Uuid}
    (member : first ∈ baremetalPorts network ironic host) {next : Run Uuid}
    (groups : next.ironic = { ironic with groups := ironic.groups ++ (news ++
      [⟨client.newUuid (ironic.groups ++ news), first.node, some host, some first.address⟩]) })
    (failed : next.failed = run.failed) :
    Created network client ironic (before ++ [host]) (news ++
      [⟨client.newUuid (ironic.groups ++ news), first.node, some host, some first.address⟩]) next := by
  refine ⟨groups, ?_, ?_, ?_, failed ▸ created.failed⟩
  · intro group among
    rcases List.mem_append.mp among with old | last
    · exact created.fresh group old
    · rw [List.mem_singleton.mp last]
      intro reused
      apply lawful.fresh (ironic.groups ++ news)
      rw [List.map_append]
      exact List.mem_append_left _ reused
  · intro group among
    rcases List.mem_append.mp among with old | last
    · obtain ⟨earlier, known, made⟩ := created.origin group old
      exact ⟨earlier, List.mem_append_left [host] known, made⟩
    · rw [List.mem_singleton.mp last]
      exact ⟨host, by simp, allowed, rfl, first, member, rfl, rfl⟩
  · intro other known otherAllowed
    rcases List.mem_append.mp known with known | last
    · obtain ⟨group, among, named⟩ := created.made other known otherAllowed
      exact ⟨group, List.mem_append_left _ among, named⟩
    · rw [List.mem_singleton.mp last]
      exact ⟨_, List.mem_append_right news (List.mem_singleton_self _), rfl⟩

theorem created_step (wellFormed : ironic.WellFormed) (lawful : client.Lawful)
    (created : Created network client ironic before news run) (new : host ∉ before) :
    ∃ all, Created network client ironic (before ++ [host]) all
      (createPortGroup network client ironic run host) := by
  rcases createPortGroup_cases network client ironic run host with
    ⟨skips, same⟩ | ⟨empty, failed⟩ | ⟨first, rest, ports, allowed, made⟩
  · rw [same]
    exact ⟨news, created.skip skips⟩
  · rw [failed]
    exact ⟨news, created.fail empty⟩
  · rw [← ports] at allowed
    have free (group : PortGroup Uuid) (member : group ∈ ironic.groups ++ news) :=
      no_conflict wellFormed lawful created new allowed ports member
    have added : run.ironic.createPortGroup client.newUuid first.node host first.address =
        some { ironic with groups := ironic.groups ++ (news ++
          [⟨client.newUuid (ironic.groups ++ news), first.node, some host, some first.address⟩]) } := by
      unfold Ironic.createPortGroup
      rw [created.groups, if_neg]
      · rw [List.append_assoc]
      · simp only [List.any_eq_true, not_exists, not_and, Bool.or_eq_true, decide_eq_true_eq, not_or]
        intro group member
        exact free group member
    rw [made, added]
    exact ⟨_, created.add lawful allowed (by simp [ports]) rfl rfl⟩

theorem createAll_created (network : String) (wellFormed : ironic.WellFormed)
    (lawful : client.Lawful) (distinct : hosts.Nodup) :
    ∃ news, Created network client ironic hosts news (createAll network client ironic hosts) := by
  apply foldl_distinct (fun before run => ∃ news, Created network client ironic before news run)
    distinct
  · rintro before host run new ⟨news, created⟩
    exact created_step wellFormed lawful created new
  · refine ⟨[], ?_, by simp, by simp, by simp, by simp⟩
    simp

theorem Created.maker (created : Created network client ironic before news run)
    {group : PortGroup Uuid}
    (found : (news.find? fun group => group.name = some host) = some group) :
    MadeFor network client ironic host group := by
  obtain ⟨maker, _, made⟩ := created.origin group (List.mem_of_find?_eq_some found)
  have named := List.find?_some found
  simp only [decide_eq_true_eq, made.name, Option.some.injEq] at named
  exact named ▸ made

theorem assigns_iff (lawful : client.Lawful)
    (created : Created network client ironic hosts news run) (member : host ∈ hosts)
    (nonempty : baremetalPorts network ironic host ≠ []) :
    (∃ group, Assigns network ironic run host group) ↔ Registrable network client ironic host := by
  have shown : run.ironic.showPortGroup host =
      (ironic.showPortGroup host).or (news.find? fun group => group.name = some host) := by
    unfold Ironic.showPortGroup
    rw [created.groups, List.find?_append]
  constructor
  · rintro ⟨group, assigns⟩
    refine ⟨assigns.ungrouped, ?_⟩
    have found := assigns.shown
    rw [shown] at found
    cases before : ironic.showPortGroup host with
    | some old =>
        rw [before, Option.some_or] at found
        exact Or.inr ⟨group, found, assigns.owned⟩
    | none =>
        rw [before, Option.none_or] at found
        exact Or.inl (created.maker found).allowed
  · rintro ⟨ungrouped, available⟩
    have remains : host ∉ run.failed := by
      intro failed
      exact nonempty (created.failed host failed)
    rcases available with allowed | ⟨group, found, owned⟩
    · have old : ironic.showPortGroup host = none := by
        unfold Ironic.showPortGroup
        rw [List.find?_eq_none]
        intro group known
        simpa using not_named lawful allowed known
      rw [old, Option.none_or] at shown
      obtain ⟨named, new, name⟩ := created.made host member allowed
      cases found : news.find? fun group => group.name = some host with
      | none => simpa [name] using List.find?_eq_none.mp found named new
      | some group =>
          obtain ⟨first, firstMember, node, _⟩ := (created.maker found).port
          refine ⟨group, remains, shown.trans found, ungrouped, ?_⟩
          intro port portMember
          exact (baremetalPorts_node portMember firstMember).trans node
    · refine ⟨group, remains, ?_, ungrouped, owned⟩
      rw [shown, found, Option.some_or]

end Creation

section Association

variable (network : String) (ironic : Ironic Uuid) in
/-- What the associating tasks of some hosts have done. -/
structure Associated (before : List String) (regroup : Port Uuid → Option Uuid)
    (start run : Run Uuid) : Prop where
  regrouped : run.ironic = { start.ironic with
    ports := ironic.ports.map fun port => { port with portGroup := regroup port } }
  failed : ∀ host, host ∉ before → (host ∈ run.failed ↔ host ∈ start.failed)
  assigned : ∀ host ∈ before, ∀ group, Assigns network ironic start host group →
    ∀ port ∈ baremetalPorts network ironic host, regroup port = some group.uuid
  kept : ∀ port, (∀ host ∈ before, ∀ group, Assigns network ironic start host group →
    port ∉ baremetalPorts network ironic host) → regroup port = port.portGroup

variable {network : String} {client : Client Uuid} {ironic : Ironic Uuid} {hosts before : List String}
  {regroup : Port Uuid → Option Uuid} {start run : Run Uuid} {host : String}

theorem Associated.assigns (associated : Associated network ironic before regroup start run)
    (new : host ∉ before) (group : PortGroup Uuid) :
    Assigns network ironic run host group ↔ Assigns network ironic start host group := by
  have shown : run.ironic.showPortGroup host = start.ironic.showPortGroup host := by
    rw [associated.regrouped]
    rfl
  have failed := associated.failed host new
  constructor
  · rintro ⟨remains, found, ungrouped, owned⟩
    exact ⟨fun gone => remains (failed.mpr gone), shown ▸ found, ungrouped, owned⟩
  · rintro ⟨remains, found, ungrouped, owned⟩
    exact ⟨fun gone => remains (failed.mp gone), shown ▸ found, ungrouped, owned⟩

theorem Associated.failed_step (associated : Associated network ironic before regroup start run)
    {other : String} (unseen : other ∉ before ++ [host]) :
    other ∈ (associatePorts network ironic run host).failed ↔ other ∈ start.failed := by
  rw [List.mem_append, List.mem_singleton, not_or] at unseen
  rw [associatePorts_failed unseen.2, associated.failed other unseen.1]

theorem Associated.assign (wellFormed : ironic.WellFormed)
    (associated : Associated network ironic before regroup start run) (new : host ∉ before)
    {group : PortGroup Uuid} (assigns : Assigns network ironic start host group) :
    Associated network ironic (before ++ [host])
      (fun port => if port ∈ baremetalPorts network ironic host then some group.uuid
        else regroup port) start (associatePorts network ironic run host) := by
  obtain ⟨_, effect⟩ := associatePorts_assigns ((associated.assigns new group).mpr assigns)
  refine ⟨?_, fun other unseen => associated.failed_step unseen, ?_, ?_⟩
  · rw [effect, associated.regrouped]
    simp only [List.map_map, Ironic.mk.injEq, true_and, and_true]
    apply List.map_congr_left
    intro port member
    have same : port.uuid ∈ (baremetalPorts network ironic host).map Port.uuid ↔
        port ∈ baremetalPorts network ironic host := mem_map_uuid wellFormed.ports member
    dsimp only [Function.comp_apply]
    by_cases own : port ∈ baremetalPorts network ironic host
    · rw [if_pos (same.mpr own), if_pos own]
    · rw [if_neg (mt same.mp own), if_neg own]
  · intro earlier known other otherAssigns port member
    rcases List.mem_append.mp known with known | last
    · rw [if_neg]
      · exact associated.assigned earlier known other otherAssigns port member
      · intro own
        exact new (baremetalPorts_disjoint wellFormed.nodes own member ▸ known)
    · rw [List.mem_singleton] at last
      subst last
      rw [if_pos member, Option.some.inj (assigns.shown.symm.trans otherAssigns.shown)]
  · intro port untouched
    rw [if_neg (untouched host (by simp) group assigns)]
    apply associated.kept
    intro earlier known
    exact untouched earlier (List.mem_append_left [host] known)

theorem Associated.idle (associated : Associated network ironic before regroup start run)
    (new : host ∉ before) (idle : ∀ group, ¬Assigns network ironic start host group) :
    Associated network ironic (before ++ [host]) regroup start
      (associatePorts network ironic run host) := by
  have runIdle (group : PortGroup Uuid) : ¬Assigns network ironic run host group := by
    intro assigns
    exact idle group ((associated.assigns new group).mp assigns)
  refine ⟨(associatePorts_ironic runIdle).trans associated.regrouped,
    fun other unseen => associated.failed_step unseen, ?_, ?_⟩
  · intro earlier known group assigns
    rcases List.mem_append.mp known with known | last
    · exact associated.assigned earlier known group assigns
    · rw [List.mem_singleton] at last
      subst last
      exact absurd assigns (idle group)
  · intro port untouched
    apply associated.kept
    intro earlier known
    exact untouched earlier (List.mem_append_left [host] known)

theorem associated_step (wellFormed : ironic.WellFormed)
    (associated : Associated network ironic before regroup start run) (new : host ∉ before) :
    ∃ next, Associated network ironic (before ++ [host]) next start
      (associatePorts network ironic run host) := by
  by_cases assigns : ∃ group, Assigns network ironic start host group
  · obtain ⟨group, assigns⟩ := assigns
    exact ⟨_, associated.assign wellFormed new assigns⟩
  · exact ⟨regroup, associated.idle new (not_exists.mp assigns)⟩

theorem associatePorts_associated (network : String) (wellFormed : ironic.WellFormed)
    (distinct : hosts.Nodup) (same : start.ironic.ports = ironic.ports) :
    ∃ regroup, Associated network ironic hosts regroup start
      (hosts.foldl (associatePorts network ironic) start) := by
  apply foldl_distinct
    (fun before run => ∃ regroup, Associated network ironic before regroup start run) distinct
  · rintro before host run new ⟨regroup, associated⟩
    exact associated_step wellFormed associated new
  · refine ⟨Port.portGroup, ?_, by simp, by simp, by simp⟩
    rw [← same, List.map_id'']
    intro port
    rfl

theorem Associated.untouched (wellFormed : ironic.WellFormed)
    (associated : Associated network ironic hosts regroup start run)
    (idle : ∀ group, ¬Assigns network ironic start host group) {port : Port Uuid}
    (member : port ∈ baremetalPorts network ironic host) : regroup port = port.portGroup := by
  apply associated.kept
  intro other _ group assigns own
  have same := baremetalPorts_disjoint wellFormed.nodes own member
  subst same
  exact idle group assigns

end Association

section Table

def header : String := "UUID | Address | Name |\n"

def cell (content : Option String) : List Char := (content.getD "None").toList ++ [' ', '|', ' ']

def tableRow (group : PortGroup Nat) : List Char :=
  group.uuid.repr.toList ++ [' ', '|', ' '] ++ cell group.address ++ cell group.name ++ ['\n']

def tableClient : Client Nat where
  render groups := String.ofList (header.toList ++ groups.flatMap tableRow)
  newUuid groups := (groups.map PortGroup.uuid).foldr max 0 + 1

theorem contains_table {group : PortGroup Nat} {groups : List (PortGroup Nat)} {word : String}
    (member : group ∈ groups) (shown : cell (some word) <:+: tableRow group) :
    contains (tableClient.render groups) word = true := by
  obtain ⟨before, after, rfl⟩ := List.append_of_mem member
  have row : tableRow group <:+: (before ++ group :: after).flatMap tableRow := by
    rw [List.flatMap_append, List.flatMap_cons, ← List.append_assoc]
    exact List.infix_append _ _ _
  have start : word.toList <:+: cell (some word) := (List.prefix_append _ _).isInfix
  have rows : word.toList <:+: (before ++ group :: after).flatMap tableRow :=
    start.trans (shown.trans row)
  rw [contains_iff]
  unfold tableClient
  rw [String.toList_ofList]
  exact rows.trans (List.suffix_append _ _).isInfix

theorem le_foldr_max {uuids : List Nat} {uuid : Nat} (member : uuid ∈ uuids) :
    uuid ≤ uuids.foldr max 0 := by
  induction uuids with
  | nil => cases member
  | cons first rest ih =>
      rw [List.foldr_cons]
      rcases List.mem_cons.mp member with same | later
      · omega
      · have bound := ih later
        omega

theorem tableClient_lawful : tableClient.Lawful := by
  refine ⟨?_, ?_, ?_⟩
  · intro groups group member name named
    apply contains_table member
    rw [← named]
    exact List.infix_append _ _ _
  · intro groups group member address addressed
    apply contains_table member
    rw [← addressed]
    unfold tableRow
    rw [List.append_assoc _ (cell group.name)]
    exact List.infix_append _ _ _
  · intro groups reused
    have bound := le_foldr_max reused
    unfold tableClient at bound
    dsimp only at bound
    omega

end Table

section Convergence

variable {network : String} {client : Client Uuid} {ironic : Ironic Uuid} {hosts : List String}
  {host : String}

theorem playbook_effect (network : String) (wellFormed : ironic.WellFormed) (lawful : client.Lawful)
    (distinct : hosts.Nodup) : ∃ news regroup start,
      Created network client ironic hosts news start ∧
      Associated network ironic hosts regroup start (playbook network client ironic hosts) := by
  obtain ⟨news, created⟩ := createAll_created network wellFormed lawful distinct
  have same : (createAll network client ironic hosts).ironic.ports = ironic.ports := by
    rw [created.groups]
  obtain ⟨regroup, associated⟩ := associatePorts_associated network wellFormed distinct same
  exact ⟨news, regroup, _, created, associated⟩

/-- The ports of a host after a run are those from before, in other port groups. -/
theorem mem_baremetalPorts_played {news : List (PortGroup Uuid)}
    {regroup : Port Uuid → Option Uuid} {start final : Run Uuid}
    (created : Created network client ironic hosts news start)
    (associated : Associated network ironic hosts regroup start final) (port : Port Uuid) :
    port ∈ baremetalPorts network final.ironic host ↔
      ∃ old ∈ baremetalPorts network ironic host, { old with portGroup := regroup old } = port := by
  have uuid : baremetalUuid final.ironic host = baremetalUuid ironic host := by
    rw [associated.regrouped, created.groups]
    rfl
  have ports : final.ironic.ports =
      ironic.ports.map fun port => { port with portGroup := regroup port } := by
    rw [associated.regrouped]
  rw [mem_baremetalPorts, uuid, ports, List.mem_map]
  constructor
  · rintro ⟨⟨old, member, rfl⟩, found, onNetwork⟩
    exact ⟨old, mem_baremetalPorts.mpr ⟨member, found, onNetwork⟩, rfl⟩
  · rintro ⟨old, member, rfl⟩
    obtain ⟨known, found, onNetwork⟩ := mem_baremetalPorts.mp member
    exact ⟨⟨old, known, rfl⟩, found, onNetwork⟩

theorem playbook_ports (wellFormed : ironic.WellFormed) (lawful : client.Lawful)
    (distinct : hosts.Nodup)
    (nonempty : baremetalPorts network (playbook network client ironic hosts).ironic host ≠ []) :
    baremetalPorts network ironic host ≠ [] := by
  obtain ⟨news, regroup, start, created, associated⟩ :=
    playbook_effect network wellFormed lawful distinct
  obtain ⟨port, member⟩ := List.exists_mem_of_ne_nil _ nonempty
  obtain ⟨old, oldMember, _⟩ := (mem_baremetalPorts_played created associated port).mp member
  exact List.ne_nil_of_mem oldMember

theorem playbook_registered_iff (wellFormed : ironic.WellFormed) (lawful : client.Lawful)
    (distinct : hosts.Nodup) (member : host ∈ hosts)
    (nonempty : baremetalPorts network ironic host ≠ []) :
    Registered network (playbook network client ironic hosts).ironic host ↔
      Registered network ironic host ∨ Registrable network client ironic host := by
  obtain ⟨news, regroup, start, created, associated⟩ :=
    playbook_effect network wellFormed lawful distinct
  have groups : (playbook network client ironic hosts).ironic.groups = ironic.groups ++ news := by
    rw [associated.regrouped, created.groups]
  have ports (port : Port Uuid) :
      port ∈ baremetalPorts network (playbook network client ironic hosts).ironic host ↔
        ∃ old ∈ baremetalPorts network ironic host, { old with portGroup := regroup old } = port :=
    mem_baremetalPorts_played created associated port
  unfold Registered
  rw [groups]
  constructor
  · rintro ⟨group, groupMember, named, grouped⟩
    by_cases assigns : ∃ group, Assigns network ironic start host group
    · exact Or.inr ((assigns_iff lawful created member nonempty).mp assigns)
    · have before (port : Port Uuid) (portMember : port ∈ baremetalPorts network ironic host) :
          port.portGroup = some group.uuid := by
        rw [← associated.untouched wellFormed (not_exists.mp assigns) portMember]
        exact grouped _ ((ports _).mpr ⟨port, portMember, rfl⟩)
      obtain ⟨first, firstMember⟩ := List.exists_mem_of_ne_nil _ nonempty
      have known := wellFormed.references first (mem_baremetalPorts.mp firstMember).1 group.uuid
        (before first firstMember)
      rcases List.mem_append.mp groupMember with old | new
      · exact Or.inl ⟨group, old, named, before⟩
      · exact absurd known (created.fresh group new)
  · rintro (⟨group, known, named, grouped⟩ | registrable)
    · have idle (other : PortGroup Uuid) : ¬Assigns network ironic start host other := by
        intro assigns
        obtain ⟨port, portMember, free⟩ := assigns.ungrouped
        rw [grouped port portMember] at free
        cases free
      refine ⟨group, List.mem_append_left news known, named, ?_⟩
      intro port portMember
      obtain ⟨old, oldMember, rfl⟩ := (ports port).mp portMember
      exact (associated.untouched wellFormed idle oldMember).trans (grouped old oldMember)
    · obtain ⟨group, assigns⟩ := (assigns_iff lawful created member nonempty).mpr registrable
      have found := assigns.shown
      unfold Ironic.showPortGroup at found
      rw [created.groups] at found
      refine ⟨group, List.mem_of_find?_eq_some found, by simpa using List.find?_some found, ?_⟩
      intro port portMember
      obtain ⟨old, oldMember, rfl⟩ := (ports port).mp portMember
      exact associated.assigned host member group assigns old oldMember

theorem playbook_created_nil (skips : ∀ host ∈ hosts, ¬Creates network client ironic host) :
    (playbook network client ironic hosts).created = [] := by
  have creating : (createAll network client ironic hosts).created = [] :=
    foldl_frame Run.created (fun host member _ => createPortGroup_skips (skips host member)) _
  rw [← creating]
  apply foldl_frame Run.created
  intro host _ run
  exact associatePorts_created network ironic run host

theorem playbook_associated_nil (grouped : ∀ host ∈ hosts,
    ∀ port ∈ baremetalPorts network ironic host, port.portGroup ≠ none) :
    (playbook network client ironic hosts).associated = [] := by
  have creating : (createAll network client ironic hosts).associated = [] :=
    foldl_frame Run.associated
      (fun host _ run => createPortGroup_associated network client ironic run host) _
  rw [← creating]
  apply foldl_frame Run.associated
  intro host member _
  exact associatePorts_skips (grouped host member)

end Convergence

def bondPort (number node : Nat) (address : String) (portGroup : Option Nat) : Port Nat :=
  ⟨number, node, address, some "bond", portGroup⟩

/-- The host node10 is registered, and the host node1 is not. -/
def node10Registered : Ironic Nat where
  nodes := [⟨1, some "node1"⟩, ⟨2, some "node10"⟩]
  ports := [bondPort 11 1 "52:54:00:00:00:01" none, bondPort 12 1 "52:54:00:00:00:02" none,
    bondPort 21 2 "52:54:00:00:00:11" (some 5), bondPort 22 2 "52:54:00:00:00:12" (some 5)]
  groups := [⟨5, 2, some "node10", some "52:54:00:00:00:11"⟩]

theorem node10Registered_wellFormed : node10Registered.WellFormed := by
  refine ⟨by decide, by decide, by decide, ?_⟩
  simp [node10Registered, bondPort]

def unregistered : Ironic Nat where
  nodes := [⟨1, some "node1"⟩, ⟨2, some "node2"⟩]
  ports := [bondPort 11 1 "52:54:00:00:00:01" none, bondPort 12 1 "52:54:00:00:00:02" none,
    bondPort 21 2 "52:54:00:00:00:11" none, bondPort 22 2 "52:54:00:00:00:12" none]
  groups := []

end PortGroups
