import KayobeConfig.Library.Rewriting

/-!
The relabelling rules that `tools/prometheus.yml.j2` makes of the network maps collected by
`tools/prometheus-network-names.yml`, and what Prometheus does with them.
-/

namespace NetworkNames

open Library

abbrev Text := List Char

/-- A missing label is an empty one. -/
abbrev Labels := String → Text

inductive Piece
  | text (chars : Text)
  | group (index : Nat)

structure RelabelConfig where
  sourceLabels : List String
  regex : Text
  targetLabel : String
  replacement : List Piece

/-- How Prometheus matches a regular expression with a whole text: the text and the groups. -/
abbrev Engine := Text → Text → Option (List Text)

def expand (groups : List Text) (replacement : List Piece) : Text :=
  replacement.flatMap fun
    | .text chars => chars
    | .group index => groups.getD index []

def joined (values : List Text) : Text := [';'].intercalate values

def relabel (engine : Engine) (labels : Labels) (config : RelabelConfig) : Labels :=
  match engine config.regex (joined (config.sourceLabels.map labels)) with
  | none => labels
  | some groups => Function.update labels config.targetLabel (expand groups config.replacement)

def metricRelabel (engine : Engine) (labels : Labels) (configs : List RelabelConfig) : Labels :=
  configs.foldl (relabel engine) labels

/-- A network's name is part of the names of variables. -/
structure NetMap where
  deviceName : Text
  friendlyName : Text
  identifier : ∀ char ∈ friendlyName, char.isAlphanum ∨ char = '_'
  deriving DecidableEq

def NetMap.uniqueId (netMap : NetMap) : Text := netMap.deviceName ++ '_' :: netMap.friendlyName

structure NetworkMaps where
  list : List NetMap
  consistent : ∀ first ∈ list, ∀ second ∈ list,
    first.deviceName = second.deviceName → first.friendlyName = second.friendlyName

/-- The filter `unique` with an attribute, which keeps the first item of each key. -/
def uniqueBy {α κ : Type} [DecidableEq κ] (key : α → κ) : List α → List α
  | [] => []
  | item :: items => item :: (uniqueBy key items).filter fun other => key other ≠ key item

/-- The filter compares the identifiers without their case. -/
def networkMapsBlob (lower : Text → Text) (maps : NetworkMaps) : List NetMap :=
  uniqueBy (fun netMap => lower netMap.uniqueId) maps.list

def defaultRegex : Text := "(.*)".toList

def deviceRegex (deviceName : Text) : Text := "(.*);(.*".toList ++ deviceName ++ "$)".toList

def nodeRule (netMap : NetMap) : RelabelConfig where
  sourceLabels := ["__name__", "device"]
  regex := deviceRegex netMap.deviceName
  targetLabel := "device"
  replacement := [.text netMap.friendlyName, .text ['.'], .group 2]

def cadvisorRule (netMap : NetMap) : RelabelConfig where
  sourceLabels := ["__name__", "image", "interface"]
  regex := deviceRegex netMap.deviceName
  targetLabel := "interface"
  replacement := [.text netMap.friendlyName]

def nodeRelabelConfigs (blob : List NetMap) : List RelabelConfig :=
  ⟨["device"], defaultRegex, "original_device", [.group 1]⟩ :: blob.map nodeRule

def cadvisorRelabelConfigs (blob : List NetMap) : List RelabelConfig :=
  ⟨["interface"], defaultRegex, "original_interface", [.group 1]⟩ :: blob.map cadvisorRule

/-- What a rule makes of its target label, with the values of the other source labels. -/
def rewriteLabel (engine : Engine) (rule : NetMap → RelabelConfig) (values : List Text)
    (netMap : NetMap) (label : Text) : Option Text :=
  (engine (rule netMap).regex (joined (values ++ [label]))).map fun groups =>
    expand groups (rule netMap).replacement

/-- The rules of one job read fixed labels and the one that they write. -/
structure RulesOf (rule : NetMap → RelabelConfig) (context : List String) (written : String) :
    Prop where
  sources : ∀ netMap, (rule netMap).sourceLabels = context ++ [written]
  target : ∀ netMap, (rule netMap).targetLabel = written
  fresh : written ∉ context

theorem nodeRule_rules : RulesOf nodeRule ["__name__"] "device" :=
  ⟨fun _ => rfl, fun _ => rfl, by decide⟩

theorem cadvisorRule_rules : RulesOf cadvisorRule ["__name__", "image"] "interface" :=
  ⟨fun _ => rfl, fun _ => rfl, by decide⟩

theorem relabel_other (engine : Engine) (labels : Labels) (config : RelabelConfig) {label : String}
    (different : label ≠ config.targetLabel) : relabel engine labels config label = labels label := by
  unfold relabel
  cases engine config.regex (joined (config.sourceLabels.map labels)) with
  | none => rfl
  | some groups => exact Function.update_of_ne different _ labels

theorem relabel_rule {rule : NetMap → RelabelConfig} {context : List String} {target : String}
    (rules : RulesOf rule context target) (engine : Engine) (labels : Labels) (netMap : NetMap) :
    relabel engine labels (rule netMap) target =
      (rewriteLabel engine rule (context.map labels) netMap (labels target)).getD (labels target) := by
  have values : (rule netMap).sourceLabels.map labels = context.map labels ++ [labels target] := by
    rw [rules.sources netMap, List.map_append]
    rfl
  unfold relabel rewriteLabel
  rw [values]
  cases engine (rule netMap).regex (joined (context.map labels ++ [labels target])) with
  | none => rfl
  | some groups =>
      rw [rules.target netMap]
      simp

/-- The rules of a job rewrite their target label one after another. -/
theorem metricRelabel_rules {rule : NetMap → RelabelConfig} {context : List String}
    {target : String} (rules : RulesOf rule context target) (engine : Engine) (labels : Labels)
    (order : List NetMap) :
    metricRelabel engine labels (order.map rule) target =
      applyRules (rewriteLabel engine rule (context.map labels)) (labels target) order := by
  induction order generalizing labels with
  | nil => rfl
  | cons netMap order ih =>
      have kept : context.map (relabel engine labels (rule netMap)) = context.map labels := by
        apply List.map_congr_left
        intro label member
        apply relabel_other
        rw [rules.target netMap]
        intro same
        exact rules.fresh (same ▸ member)
      have unfolded : metricRelabel engine labels ((netMap :: order).map rule) =
        metricRelabel engine (relabel engine labels (rule netMap)) (order.map rule) := rfl
      rw [unfolded, ih, kept, relabel_rule rules, applyRules_cons, applyRule]

theorem nodeRelabel_device (engine : Engine) (labels : Labels) (order : List NetMap) :
    metricRelabel engine labels (nodeRelabelConfigs order) "device" =
      applyRules (rewriteLabel engine nodeRule [labels "__name__"]) (labels "device") order := by
  let copied := relabel engine labels ⟨["device"], defaultRegex, "original_device", [.group 1]⟩
  have unfolded : metricRelabel engine labels (nodeRelabelConfigs order) =
    metricRelabel engine copied (order.map nodeRule) := rfl
  have name : copied "__name__" = labels "__name__" := relabel_other _ _ _ (by decide)
  have device : copied "device" = labels "device" := relabel_other _ _ _ (by decide)
  rw [unfolded, metricRelabel_rules nodeRule_rules, device, List.map_cons, List.map_nil, name]

theorem cadvisorRelabel_interface (engine : Engine) (labels : Labels) (order : List NetMap) :
    metricRelabel engine labels (cadvisorRelabelConfigs order) "interface" =
      applyRules (rewriteLabel engine cadvisorRule [labels "__name__", labels "image"])
        (labels "interface") order := by
  let copied := relabel engine labels
    ⟨["interface"], defaultRegex, "original_interface", [.group 1]⟩
  have unfolded : metricRelabel engine labels (cadvisorRelabelConfigs order) =
    metricRelabel engine copied (order.map cadvisorRule) := rfl
  have name : copied "__name__" = labels "__name__" := relabel_other _ _ _ (by decide)
  have image : copied "image" = labels "image" := relabel_other _ _ _ (by decide)
  have interface : copied "interface" = labels "interface" := relabel_other _ _ _ (by decide)
  rw [unfolded, metricRelabel_rules cadvisorRule_rules, interface, List.map_cons, List.map_cons,
    List.map_nil, name, image]

theorem mem_of_mem_uniqueBy {α κ : Type} [DecidableEq κ] {key : α → κ} {items : List α} {item : α}
    (member : item ∈ uniqueBy key items) : item ∈ items := by
  induction items with
  | nil => exact member
  | cons first items ih =>
      rcases List.mem_cons.mp member with same | later
      · exact same ▸ List.mem_cons_self
      · exact List.mem_cons_of_mem first (ih (List.mem_filter.mp later).1)

theorem uniqueBy_nodup {α κ : Type} [DecidableEq κ] (key : α → κ) (items : List α) :
    (uniqueBy key items).Nodup := by
  induction items with
  | nil => exact List.nodup_nil
  | cons first items ih =>
      refine List.nodup_cons.mpr ⟨?_, ih.filter _⟩
      intro member
      have different := (List.mem_filter.mp member).2
      simp at different

end NetworkNames
