import KayobeConfig.Library.Text
import KayobeConfig.NetworkNames.Relabelling

/-!
When the rules give a label the name of its own network and leave every other label alone.
A rule also matches a label that only ends in its device's name, and a label that another rule
has rewritten.
-/

namespace NetworkNames

open Library

def networkOf (maps : NetworkMaps) (device : Text) : Option Text :=
  (maps.list.find? fun netMap => netMap.deviceName = device).map NetMap.friendlyName

def expectedDevice (maps : NetworkMaps) (device : Text) : Text :=
  match networkOf maps device with
  | some network => network ++ '.' :: device
  | none => device

def expectedInterface (maps : NetworkMaps) (interface : Text) : Text :=
  (networkOf maps interface).getD interface

section Jobs

variable (engine : Engine) (lower : Text → Text) (maps : NetworkMaps) (labels : Labels)

/-- Both jobs give the expected label, whatever the order of the rules. -/
def Precise : Prop :=
  ∀ order : List NetMap, order.Perm (networkMapsBlob lower maps) →
    metricRelabel engine labels (nodeRelabelConfigs order) "device" =
        expectedDevice maps (labels "device") ∧
      metricRelabel engine labels (cadvisorRelabelConfigs order) "interface" =
        expectedInterface maps (labels "interface")

def nodeRewrite : NetMap → Text → Option Text :=
  rewriteLabel engine nodeRule [labels "__name__"]

def cadvisorMatches (netMap : NetMap) (label : Text) : Bool :=
  (engine (deviceRegex netMap.deviceName)
    (joined [labels "__name__", labels "image", label])).isSome

/-- No rule matches another label. A device's label is matched by some rule, each rule that
matches it adds the right network to the whole label, and no other rule matches the result. -/
def NodeUndisturbed : Prop :=
  match networkOf maps (labels "device") with
  | none => ∀ netMap ∈ networkMapsBlob lower maps, nodeRewrite engine labels netMap (labels "device") = none
  | some network =>
      (∃ netMap ∈ networkMapsBlob lower maps,
          nodeRewrite engine labels netMap (labels "device") ≠ none) ∧
        ∀ netMap ∈ networkMapsBlob lower maps, ∀ next,
          nodeRewrite engine labels netMap (labels "device") = some next →
            next = network ++ '.' :: labels "device" ∧
              ∀ other ∈ networkMapsBlob lower maps, other ≠ netMap →
                nodeRewrite engine labels other (network ++ '.' :: labels "device") = none

/-- No rule of another network matches the expected label, and every path of rules of other
networks leaves some rule of the right network matching all along. -/
def CadvisorUndisturbed : Prop :=
  let blob := networkMapsBlob lower maps
  let expected := expectedInterface maps (labels "interface")
  (∀ netMap ∈ blob, cadvisorMatches engine labels netMap expected → netMap.friendlyName = expected) ∧
    (labels "interface" = expected ∨ ∀ path : List NetMap, path.Nodup → path ⊆ blob →
      (∀ netMap ∈ path, netMap.friendlyName ≠ expected) →
        Chained (cadvisorMatches engine labels) NetMap.friendlyName (labels "interface") path →
          ∃ netMap ∈ blob, netMap.friendlyName = expected ∧
            ∀ stop ∈ passed NetMap.friendlyName (labels "interface") path,
              cadvisorMatches engine labels netMap stop)

end Jobs

/-- The second group is what follows one of the separators. -/
def Grouped (engine : Engine) (deviceName : Text) : Prop :=
  ∀ text groups, engine (deviceRegex deviceName) text = some groups →
    ∃ before after, groups = [text, before, after] ∧ text = before ++ ';' :: after

/-- A label with fewer separators, or with as many and more dots. -/
def Ahead (label next : Text) : Prop :=
  next.count ';' < label.count ';' ∨
    next.count ';' = label.count ';' ∧ label.count '.' < next.count '.'

theorem ahead_irreflexive (label : Text) : ¬Ahead label label := by
  unfold Ahead
  omega

theorem ahead_transitive (first second third : Text) (earlier : Ahead first second)
    (later : Ahead second third) : Ahead first third := by
  unfold Ahead at *
  omega

theorem NetMap.free (netMap : NetMap) :
    netMap.friendlyName.count ';' = 0 ∧ netMap.friendlyName.count '.' = 0 := by
  constructor
  · rw [List.count_eq_zero]
    intro member
    rcases netMap.identifier ';' member with letter | same
    · exact absurd letter (by decide)
    · exact absurd same (by decide)
  · rw [List.count_eq_zero]
    intro member
    rcases netMap.identifier '.' member with letter | same
    · exact absurd letter (by decide)
    · exact absurd same (by decide)

theorem joined_pair (first second : Text) : joined [first, second] = first ++ ';' :: second := by
  simp [joined, List.intercalate]

theorem nodeRewrite_ahead {engine : Engine} {labels : Labels} {netMap : NetMap}
    (plain : ';' ∉ labels "__name__") (grouped : Grouped engine netMap.deviceName)
    {label next : Text} (rewritten : nodeRewrite engine labels netMap label = some next) :
    Ahead label next := by
  obtain ⟨groups, matched, rfl⟩ := Option.map_eq_some_iff.mp rewritten
  obtain ⟨before, after, rfl, text⟩ := grouped _ _ matched
  have source : labels "__name__" ++ ';' :: label = before ++ ';' :: after :=
    (joined_pair _ _).symm.trans text
  have result : expand [joined ([labels "__name__"] ++ [label]), before, after]
      (nodeRule netMap).replacement = netMap.friendlyName ++ '.' :: after := by
    simp [expand, nodeRule]
  obtain ⟨separators, dots⟩ := netMap.free
  have counted := congrArg (List.count ';') source
  have none := List.count_eq_zero.mpr plain
  rw [result]
  unfold Ahead
  simp only [List.count_append, List.count_cons_self] at counted ⊢
  rw [List.count_cons_of_ne (by decide : '.' ≠ ';')]
  by_cases whole : ';' ∈ before
  · have positive := List.count_pos_iff.mpr whole
    omega
  · have same := splitFirst_append whole after
    rw [← source, splitFirst_append plain label] at same
    simp only [Option.some.injEq, Prod.mk.injEq] at same
    rw [← same.2]
    omega

/-- One rule adds one dot, so nothing lies between a label and its name in a network. -/
theorem ahead_adjacent (label : Text) {network : Text} (separators : network.count ';' = 0)
    (dots : network.count '.' = 0) :
    Ahead label (network ++ '.' :: label) ∧
      ∀ next, Ahead label next → ¬Ahead next (network ++ '.' :: label) := by
  have separatorCount : (network ++ '.' :: label).count ';' = label.count ';' := by
    rw [List.count_append, List.count_cons_of_ne (by decide : '.' ≠ ';'), separators, Nat.zero_add]
  have dotCount : (network ++ '.' :: label).count '.' = label.count '.' + 1 := by
    rw [List.count_append, List.count_cons_self, dots, Nat.zero_add]
  unfold Ahead
  rw [separatorCount, dotCount]
  refine ⟨by omega, ?_⟩
  intro next
  omega

theorem networkOf_free {maps : NetworkMaps} {device network : Text}
    (found : networkOf maps device = some network) :
    network.count ';' = 0 ∧ network.count '.' = 0 := by
  obtain ⟨netMap, _, rfl⟩ := Option.map_eq_some_iff.mp found
  exact netMap.free

section Results

variable {engine : Engine} {lower : Text → Text} {maps : NetworkMaps} {labels : Labels}

theorem nodePrecise_of_undisturbed (undisturbed : NodeUndisturbed engine lower maps labels) :
    AlwaysYields (nodeRewrite engine labels) (networkMapsBlob lower maps) (labels "device")
      (expectedDevice maps (labels "device")) := by
  unfold NodeUndisturbed at undisturbed
  unfold expectedDevice
  cases found : networkOf maps (labels "device") with
  | none =>
      simp only [found] at undisturbed ⊢
      intro order shuffled
      exact applyRules_of_none fun netMap member => undisturbed netMap (shuffled.mem_iff.mp member)
  | some network =>
      simp only [found] at undisturbed ⊢
      exact alwaysYields_of_once (uniqueBy_nodup _ _) undisturbed.1 undisturbed.2

theorem nodeUndisturbed_of_precise (plain : ';' ∉ labels "__name__")
    (grouped : ∀ netMap ∈ maps.list, Grouped engine netMap.deviceName)
    (precise : AlwaysYields (nodeRewrite engine labels) (networkMapsBlob lower maps)
      (labels "device") (expectedDevice maps (labels "device"))) :
    NodeUndisturbed engine lower maps labels := by
  have progress : ∀ netMap ∈ networkMapsBlob lower maps, ∀ label next,
      nodeRewrite engine labels netMap label = some next → Ahead label next := by
    intro netMap member label next rewritten
    exact nodeRewrite_ahead plain (grouped netMap (mem_of_mem_uniqueBy member)) rewritten
  unfold NodeUndisturbed
  unfold expectedDevice at precise
  cases found : networkOf maps (labels "device") with
  | none =>
      simp only [found] at precise ⊢
      exact (alwaysYields_self_iff ahead_irreflexive ahead_transitive progress _).mp precise
  | some network =>
      simp only [found] at precise ⊢
      obtain ⟨separators, dots⟩ := networkOf_free found
      obtain ⟨ahead, adjacent⟩ := ahead_adjacent (labels "device") separators dots
      exact (alwaysYields_next_iff ahead_irreflexive ahead_transitive progress (uniqueBy_nodup _ _)
        ahead adjacent).mp precise

theorem cadvisorRewrite_assignment (engine : Engine) (labels : Labels) :
    rewriteLabel engine cadvisorRule [labels "__name__", labels "image"] =
      assignment (cadvisorMatches engine labels) NetMap.friendlyName := by
  funext netMap label
  unfold rewriteLabel assignment cadvisorMatches
  cases found : engine (deviceRegex netMap.deviceName)
      (joined [labels "__name__", labels "image", label]) with
  | none => simp [cadvisorRule, found]
  | some groups => simp [cadvisorRule, found, expand]

theorem cadvisorPrecise_iff : AlwaysYields
    (rewriteLabel engine cadvisorRule [labels "__name__", labels "image"])
      (networkMapsBlob lower maps) (labels "interface")
        (expectedInterface maps (labels "interface")) ↔
    CadvisorUndisturbed engine lower maps labels := by
  rw [cadvisorRewrite_assignment]
  exact alwaysYields_assignment_iff (uniqueBy_nodup _ _) _ _

theorem precise_iff_yields : Precise engine lower maps labels ↔
    AlwaysYields (nodeRewrite engine labels) (networkMapsBlob lower maps) (labels "device")
        (expectedDevice maps (labels "device")) ∧
      AlwaysYields (rewriteLabel engine cadvisorRule [labels "__name__", labels "image"])
        (networkMapsBlob lower maps) (labels "interface")
        (expectedInterface maps (labels "interface")) := by
  unfold Precise AlwaysYields nodeRewrite
  simp only [nodeRelabel_device, cadvisorRelabel_interface]
  constructor
  · intro both
    exact ⟨fun order shuffled => (both order shuffled).1, fun order shuffled => (both order shuffled).2⟩
  · rintro ⟨node, cadvisor⟩ order shuffled
    exact ⟨node order shuffled, cadvisor order shuffled⟩

end Results

/-- The names are applied precisely where the rules are undisturbed, and nowhere else. -/
theorem precise_iff (engine : Engine) (lower : Text → Text) (maps : NetworkMaps) (labels : Labels) :
    (NodeUndisturbed engine lower maps labels ∧ CadvisorUndisturbed engine lower maps labels →
        Precise engine lower maps labels) ∧
      (';' ∉ labels "__name__" → (∀ netMap ∈ maps.list, Grouped engine netMap.deviceName) →
        Precise engine lower maps labels →
          NodeUndisturbed engine lower maps labels ∧ CadvisorUndisturbed engine lower maps labels) := by
  rw [precise_iff_yields]
  constructor
  · rintro ⟨node, cadvisor⟩
    exact ⟨nodePrecise_of_undisturbed node, cadvisorPrecise_iff.mpr cadvisor⟩
  · rintro plain grouped ⟨node, cadvisor⟩
    exact ⟨nodeUndisturbed_of_precise plain grouped node, cadvisorPrecise_iff.mp cadvisor⟩

section Plain

def dot (char : Char) : Bool := char ≠ '\n'

def deviceAtoms (deviceName : Text) : List Atom :=
  deviceName.map fun wanted char => if wanted = '.' then dot char else char == wanted

def endsInDevice (deviceName after : Text) : Bool :=
  let rest := after.length - deviceName.length
  (after.take rest).all dot && matchAtoms (deviceAtoms deviceName) (after.drop rest)

/-- The last separator whose two sides are accepted: the first group takes all it can. -/
def lastSplit (accepts : Text → Text → Bool) : Text → Text → Option (Text × Text)
  | _, [] => none
  | before, char :: after =>
      match lastSplit accepts (before ++ [char]) after with
      | some found => some found
      | none => if char = ';' ∧ accepts before after then some (before, after) else none

def deviceOf (regex : Text) : Text := (regex.drop 8).dropLast.dropLast

/-- What Prometheus matches when no device name has a metacharacter other than the dot. -/
def plainEngine : Engine := fun regex text =>
  if regex = defaultRegex then if text.all dot then some [text, text] else none
  else
    (lastSplit (fun before after => before.all dot && endsInDevice (deviceOf regex) after) []
      text).map fun found => [text, found.1, found.2]

theorem lastSplit_some {accepts : Text → Text → Bool} {before text : Text} {found : Text × Text}
    (split : lastSplit accepts before text = some found) :
    before ++ text = found.1 ++ ';' :: found.2 ∧ accepts found.1 found.2 := by
  induction text generalizing before with
  | nil => simp [lastSplit] at split
  | cons char after ih =>
      simp only [lastSplit] at split
      cases later : lastSplit accepts (before ++ [char]) after with
      | some other =>
          rw [later] at split
          cases split
          have whole := ih later
          simpa using whole
      | none =>
          rw [later] at split
          simp only at split
          split at split
          · rename_i here
            cases split
            exact ⟨by rw [here.1], here.2⟩
          · simp at split

theorem lastSplit_free {accepts : Text → Text → Bool} {before text : Text} (absent : ';' ∉ text) :
    lastSplit accepts before text = none := by
  induction text generalizing before with
  | nil => rfl
  | cons char after ih =>
      simp only [List.mem_cons, not_or] at absent
      have different : char ≠ ';' := Ne.symm absent.1
      simp only [lastSplit, ih absent.2, different, false_and, if_false]

theorem lastSplit_only {accepts : Text → Text → Bool} {before name label : Text}
    (plainName : ';' ∉ name) (plainLabel : ';' ∉ label) :
    lastSplit accepts before (name ++ ';' :: label) =
      if accepts (before ++ name) label then some (before ++ name, label) else none := by
  induction name generalizing before with
  | nil => simp [lastSplit, lastSplit_free plainLabel]
  | cons char name ih =>
      simp only [List.mem_cons, not_or] at plainName
      have different : char ≠ ';' := Ne.symm plainName.1
      rw [List.cons_append, lastSplit, ih plainName.2, List.append_assoc, List.singleton_append]
      by_cases accepted : accepts (before ++ char :: name) label
      · simp only [if_pos accepted]
      · simp only [if_neg accepted, different, false_and, if_false]

theorem matchAtoms_device {deviceName : Text} (noDot : '.' ∉ deviceName) (chars : Text) :
    matchAtoms (deviceAtoms deviceName) chars ↔ chars = deviceName := by
  induction deviceName generalizing chars with
  | nil => cases chars <;> simp [deviceAtoms, matchAtoms]
  | cons wanted deviceName ih =>
      simp only [List.mem_cons, not_or] at noDot
      have different : wanted ≠ '.' := Ne.symm noDot.1
      cases chars with
      | nil => simp [deviceAtoms, matchAtoms]
      | cons char chars =>
          have later := ih noDot.2 chars
          simp only [deviceAtoms, List.map_cons, matchAtoms, different, if_false, Bool.and_eq_true,
            beq_iff_eq, List.cons.injEq] at later ⊢
          rw [later]

theorem endsInDevice_iff {deviceName : Text} (noDot : '.' ∉ deviceName) {label : Text}
    (oneLine : '\n' ∉ label) : endsInDevice deviceName label ↔ deviceName <:+ label := by
  have dots (count : Nat) : (label.take count).all dot := by
    rw [List.all_eq_true]
    intro char member
    have different : char ≠ '\n' := fun same => oneLine (same ▸ List.mem_of_mem_take member)
    simpa [dot] using different
  simp only [endsInDevice, dots, Bool.true_and]
  rw [matchAtoms_device noDot, List.suffix_iff_eq_drop]
  exact eq_comm

theorem deviceOf_deviceRegex (deviceName : Text) : deviceOf (deviceRegex deviceName) = deviceName := by
  have shape : (deviceRegex deviceName).drop 8 = deviceName ++ ['$', ')'] := rfl
  unfold deviceOf
  rw [shape]
  simp

theorem deviceRegex_ne_default (deviceName : Text) : deviceRegex deviceName ≠ defaultRegex := by
  intro same
  have lengths := congrArg List.length same
  have short : defaultRegex.length = 4 := rfl
  have long : (deviceRegex deviceName).length = 8 + deviceName.length + 2 := by
    unfold deviceRegex
    rw [List.length_append, List.length_append]
    rfl
  omega

theorem plainEngine_device (deviceName text : Text) : plainEngine (deviceRegex deviceName) text =
    (lastSplit (fun before after => before.all dot && endsInDevice deviceName after) []
      text).map fun found => [text, found.1, found.2] := by
  unfold plainEngine
  rw [if_neg (deviceRegex_ne_default deviceName), deviceOf_deviceRegex]

theorem plainEngine_grouped (deviceName : Text) : Grouped plainEngine deviceName := by
  intro text groups matched
  rw [plainEngine_device] at matched
  obtain ⟨found, split, rfl⟩ := Option.map_eq_some_iff.mp matched
  exact ⟨found.1, found.2, rfl, (lastSplit_some split).1⟩

variable {labels : Labels} {netMap : NetMap}

/-- A rule takes every label that ends in its device's name for the device. -/
theorem nodeRewrite_plain (plainName : ∀ char ∈ labels "__name__", char ≠ ';' ∧ char ≠ '\n')
    (noDot : '.' ∉ netMap.deviceName) {label : Text}
    (plainLabel : ∀ char ∈ label, char ≠ ';' ∧ char ≠ '\n') :
    nodeRewrite plainEngine labels netMap label =
      if netMap.deviceName <:+ label then some (netMap.friendlyName ++ '.' :: label) else none := by
  have name : ';' ∉ labels "__name__" := fun member => (plainName _ member).1 rfl
  have separator : ';' ∉ label := fun member => (plainLabel _ member).1 rfl
  have oneLine : '\n' ∉ label := fun member => (plainLabel _ member).2 rfl
  have dots : (labels "__name__").all dot := by
    rw [List.all_eq_true]
    intro char member
    simpa [dot] using (plainName char member).2
  have source : joined ([labels "__name__"] ++ [label]) = labels "__name__" ++ ';' :: label :=
    joined_pair _ _
  have regex : (nodeRule netMap).regex = deviceRegex netMap.deviceName := rfl
  unfold nodeRewrite rewriteLabel
  rw [regex, plainEngine_device, source, lastSplit_only name separator, List.nil_append, dots,
    Bool.true_and]
  by_cases ends : netMap.deviceName <:+ label
  · rw [if_pos ((endsInDevice_iff noDot oneLine).mpr ends), if_pos ends]
    simp [expand, nodeRule]
  · rw [if_neg (mt (endsInDevice_iff noDot oneLine).mp ends), if_neg ends]
    rfl

/-- Where no device name has a dot, a label that is no device's keeps its value exactly when it
ends in no device's name. -/
theorem nodeUndisturbed_plain_iff {lower : Text → Text} {maps : NetworkMaps}
    (plainName : ∀ char ∈ labels "__name__", char ≠ ';' ∧ char ≠ '\n')
    (noDots : ∀ netMap ∈ maps.list, '.' ∉ netMap.deviceName)
    (plainLabel : ∀ char ∈ labels "device", char ≠ ';' ∧ char ≠ '\n')
    (other : networkOf maps (labels "device") = none) :
    NodeUndisturbed plainEngine lower maps labels ↔
      ∀ netMap ∈ networkMapsBlob lower maps, ¬netMap.deviceName <:+ labels "device" := by
  unfold NodeUndisturbed
  rw [other]
  apply forall₂_congr
  intro netMap member
  rw [nodeRewrite_plain plainName (noDots netMap (mem_of_mem_uniqueBy member)) plainLabel]
  simp

end Plain

def asciiLowerText (text : Text) : Text := text.map Char.toLower

def adminNet : NetMap where
  deviceName := "eth0".toList
  friendlyName := "admin_net".toList
  identifier := by
    have checked : "admin_net".toList.all fun char => char.isAlphanum || char == '_' := by decide
    intro char member
    simpa using List.all_eq_true.mp checked char member

def adminMaps : NetworkMaps where
  list := [adminNet]
  consistent := by
    intro first firstMember second secondMember _
    rw [List.mem_singleton.mp firstMember, List.mem_singleton.mp secondMember]

def seriesOf (device : Text) : Labels := fun label =>
  if label = "__name__" then "node_network_up".toList else device

theorem bridge_renamed :
    ¬Precise plainEngine asciiLowerText adminMaps (seriesOf "vbr-eth0".toList) := by
  intro precise
  have node := (precise (networkMapsBlob asciiLowerText adminMaps) (List.Perm.refl _)).1
  have renamed : metricRelabel plainEngine (seriesOf "vbr-eth0".toList)
      (nodeRelabelConfigs (networkMapsBlob asciiLowerText adminMaps)) "device" =
        "admin_net.vbr-eth0".toList := by decide +kernel
  have expected : expectedDevice adminMaps (seriesOf "vbr-eth0".toList "device") =
    "vbr-eth0".toList := by decide +kernel
  rw [renamed, expected] at node
  exact absurd node (by decide)

theorem adminBlob : networkMapsBlob asciiLowerText adminMaps = [adminNet] := rfl

theorem adminNode_undisturbed :
    NodeUndisturbed plainEngine asciiLowerText adminMaps (seriesOf "eth0".toList) := by
  have found : networkOf adminMaps (seriesOf "eth0".toList "device") = some "admin_net".toList := by
    decide +kernel
  have renamed : nodeRewrite plainEngine (seriesOf "eth0".toList) adminNet
      (seriesOf "eth0".toList "device") =
        some ("admin_net".toList ++ '.' :: seriesOf "eth0".toList "device") := by
    decide +kernel
  unfold NodeUndisturbed
  simp only [found, adminBlob, List.mem_singleton, exists_eq_left, forall_eq]
  refine ⟨by rw [renamed]; simp, ?_⟩
  intro next rewritten
  rw [renamed] at rewritten
  cases rewritten
  exact ⟨rfl, fun different => absurd rfl different⟩

theorem adminCadvisor_undisturbed :
    CadvisorUndisturbed plainEngine asciiLowerText adminMaps (seriesOf "eth0".toList) := by
  have named : adminNet.friendlyName =
      expectedInterface adminMaps (seriesOf "eth0".toList "interface") := by
    decide +kernel
  have matched : cadvisorMatches plainEngine (seriesOf "eth0".toList) adminNet
      (seriesOf "eth0".toList "interface") = true := by
    decide +kernel
  unfold CadvisorUndisturbed
  simp only [adminBlob, List.mem_singleton, exists_eq_left, forall_eq]
  refine ⟨fun _ => named, .inr ?_⟩
  intro path _ inside others _
  have empty : path = [] := by
    rw [List.eq_nil_iff_forall_not_mem]
    intro netMap member
    have same : netMap = adminNet := List.mem_singleton.mp (inside member)
    exact others netMap member (same ▸ named)
  subst empty
  refine ⟨named, ?_⟩
  intro stop member
  obtain rfl := List.mem_singleton.mp member
  exact matched

theorem loopback_precise :
    Precise plainEngine asciiLowerText adminMaps (seriesOf "lo".toList) ∧
      (Precise plainEngine asciiLowerText adminMaps (seriesOf "eth0".toList) ∧
        expectedDevice adminMaps "eth0".toList = "admin_net.eth0".toList) ∧
      (Precise plainEngine asciiLowerText adminMaps (seriesOf "vbr-eth0".toList) →
        NodeUndisturbed plainEngine asciiLowerText adminMaps (seriesOf "vbr-eth0".toList)) := by
  refine ⟨?_, ⟨?_, by decide +kernel⟩, ?_⟩
  · apply (precise_iff _ _ _ _).1
    have none : networkOf adminMaps (seriesOf "lo".toList "device") = none := by decide +kernel
    refine ⟨?_, ?_, .inl ?_⟩
    · unfold NodeUndisturbed
      rw [none]
      decide +kernel
    · decide +kernel
    · decide +kernel
  · exact (precise_iff _ _ _ _).1 ⟨adminNode_undisturbed, adminCadvisor_undisturbed⟩
  · intro precise
    exact ((precise_iff _ _ _ _).2 (by decide) (fun _ _ => plainEngine_grouped _) precise).1

end NetworkNames
