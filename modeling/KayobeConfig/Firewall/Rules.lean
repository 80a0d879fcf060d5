import Mathlib.Data.Finmap
import KayobeConfig.Library.Dict
import KayobeConfig.Library.Loops

/-!
The firewalld rule templates of `group_vars/all/firewall`. A rule is a dict from
argument names to values. What a rule is about is its service or port and its zone.
-/

namespace Firewall

open Library

/-- Python's `True` and `False` are the integers 1 and 0. -/
inductive Value
  | none
  | int (number : Int)
  | text (content : String)
  deriving DecidableEq

def Value.truthy : Value → Bool
  | .none => false
  | .int number => number ≠ 0
  | .text content => content ≠ ""

abbrev Rule := Finmap fun _ : String => Value

def ruleOf (arguments : List (String × String)) : Rule :=
  (arguments.map fun argument => ⟨argument.1, Value.text argument.2⟩).toFinmap

structure Ruleset where
  rules : List Rule
  enabled : Bool

structure Host where
  networkInterfaces : List Value
  netZone : Value → Value

inductive RenderError
  | undefinedNetwork
  | conflictingRules
  deriving DecidableEq

/-- A rule without a network, or whose network the host is on and which has a zone. -/
def applicable (host : Host) (rule : Rule) : Bool :=
  match rule.lookup "network" with
  | none => true
  | some network => network ∈ host.networkInterfaces && (host.netZone network).truthy

def withoutState (rule : Rule) : Rule := rule.erase "state"

def failure : Rule := Finmap.singleton "state" (.text "failure")

/-- A rule with neither a zone nor a network is undefined here. -/
def completeZone (host : Host) (rule : Rule) : Option Rule :=
  match rule.lookup "zone" with
  | some _ => some rule
  | none => (rule.lookup "network").map fun network => rule.insert "zone" (host.netZone network)

/-- One turn of the template's inner loop, for a rule with its zone. -/
def formatZoned (host : Host) (formatted : List Rule) (rule : Rule) : List Rule :=
  if rule ∈ formatted then formatted
  -- The placeholder makes the whole list undefined at the end of the template.
  else if withoutState rule ∈ formatted.map withoutState then formatted ++ [failure]
  else if applicable host rule then formatted ++ [rule]
  else formatted

section Default

/- Ansible's template engine may fail on an undefined rule, or do nothing in its turn. It
can depend on whether there are rules that the undefined one is compared with. -/
variable (undefinedFails : Bool → Bool) (host : Host)

def formatRule (formatted : List Rule) (rule : Rule) : Except RenderError (List Rule) :=
  match completeZone host rule with
  | some rule => .ok (formatZoned host formatted rule)
  | none => if undefinedFails (!formatted.isEmpty) then .error .undefinedNetwork else .ok formatted

def formatRuleset (formatted : List Rule) (ruleset : Ruleset) : Except RenderError (List Rule) :=
  if ruleset.enabled then ruleset.rules.foldlM (formatRule undefinedFails host) formatted
  else .ok formatted

def rulesDefault (rulesets : List Ruleset) : Except RenderError (List Rule) := do
  let formatted ← rulesets.foldlM (formatRuleset undefinedFails host) []
  if failure ∈ formatted then .error .conflictingRules
  else return formatted

end Default

def addRule (host : Host) (verified : List Rule) (rule : Rule) : List Rule :=
  if withoutState rule ∈ verified.map withoutState then verified
  else if applicable host rule then verified ++ [rule]
  else verified

def rules (host : Host) (extra default : List Rule) : List Rule :=
  (unique default).foldl (addRule host) extra

inductive Target
  | service (name : Value)
  | port (port : Value)
  deriving DecidableEq

structure Slot where
  target : Target
  zone : Option Value
  deriving DecidableEq

def target (rule : Rule) : Option Target :=
  match rule.lookup "service" with
  | some name => some (.service name)
  | none => (rule.lookup "port").map .port

def slot (rule : Rule) : Option Slot := (target rule).map fun target => ⟨target, rule.lookup "zone"⟩

def state (rule : Rule) : Option Value := rule.lookup "state"

def Conflicts (rule other : Rule) : Prop :=
  (slot rule).isSome ∧ slot rule = slot other ∧ state rule ≠ state other

instance (rule other : Rule) : Decidable (Conflicts rule other) :=
  inferInstanceAs (Decidable (_ ∧ _ ∧ _))

def finalState (rules : List Rule) (about : Slot) : Option Value :=
  (rules.filter fun rule => slot rule = some about).getLast?.bind state

theorem applicable_withoutState (host : Host) (rule : Rule) :
    applicable host (withoutState rule) = applicable host rule := by
  unfold applicable withoutState
  rw [Finmap.lookup_erase_ne (by decide)]

theorem applicable_congr (host : Host) {rule other : Rule}
    (same : withoutState rule = withoutState other) : applicable host rule = applicable host other := by
  rw [← applicable_withoutState, same, applicable_withoutState]

theorem completeZone_zone {host : Host} {rule completed : Rule}
    (done : completeZone host rule = some completed) : (completed.lookup "zone").isSome := by
  unfold completeZone at done
  split at done
  · rename_i zone found
    cases done
    simp [found]
  · obtain ⟨network, _, rfl⟩ := Option.map_eq_some_iff.mp done
    simp

theorem failure_zone : failure.lookup "zone" = none := by
  decide

end Firewall
