import Mathlib.Data.Finset.Basic

/-!
A part of PromQL over any arithmetic: selectors, `delta` over a window, operators
with scalars, and operators that join samples with equal label sets.
-/

namespace Library.PromQL

abbrev Labels := Finset (String × String)

structure Sample (N : Type) where
  name : String
  labels : Labels
  time : Nat
  value : N

inductive Expr
  | selector (name : String)
  | delta (name : String) (window : Nat)
  | times (operand : Expr) (factor : Nat)
  | quotient (operand : Expr) (divisor : Nat)
  | divide (left right : Expr)
  | above (left right : Expr)

def Expr.names : Expr → List String
  | .selector name => [name]
  | .delta name _ => [name]
  | .times operand _ => operand.names
  | .quotient operand _ => operand.names
  | .divide left right => left.names ++ right.names
  | .above left right => left.names ++ right.names

abbrev Vector (N : Type) := Labels → Option N

variable {N : Type} [Sub N] [Mul N] [Div N] [NatCast N] [LT N] [DecidableLT N]

def range (samples : List (Sample N)) (now : Nat) (name : String) (window : Nat)
    (labels : Labels) : List N :=
  (samples.filter fun sample => sample.name = name ∧ sample.labels = labels ∧
    now < sample.time + window ∧ sample.time ≤ now).map Sample.value

def join (combine : N → N → Option N) (left right : Vector N) : Vector N := fun labels =>
  (left labels).bind fun first => (right labels).bind (combine first)

def eval (samples : List (Sample N)) (lookback now : Nat) : Expr → Vector N
  | .selector name => fun labels => (range samples now name lookback labels).getLast?
  | .delta name window => fun labels =>
      match range samples now name window labels with
      | first :: second :: rest => some ((second :: rest).getLastD second - first)
      | _ => none
  | .times operand factor => fun labels => (eval samples lookback now operand labels).map (· * factor)
  | .quotient operand divisor => fun labels => (eval samples lookback now operand labels).map (· / divisor)
  | .divide left right =>
      join (fun first second => some (first / second)) (eval samples lookback now left)
        (eval samples lookback now right)
  | .above left right =>
      join (fun first second => if second < first then some first else none)
        (eval samples lookback now left) (eval samples lookback now right)

omit [Sub N] [Mul N] [Div N] [NatCast N] [LT N] [DecidableLT N] in
theorem range_absent {samples : List (Sample N)} {name : String}
    (absent : ∀ sample ∈ samples, sample.name ≠ name) (now window : Nat) (labels : Labels) :
    range samples now name window labels = [] := by
  unfold range
  rw [List.map_eq_nil_iff, List.filter_eq_nil_iff]
  intro sample member
  simp [absent sample member]

omit [Sub N] [Mul N] [Div N] [NatCast N] [LT N] [DecidableLT N] in
theorem join_absent {combine : N → N → Option N} {left right : Vector N} {labels : Labels}
    (absent : left labels = none ∨ right labels = none) : join combine left right labels = none := by
  unfold join
  rcases absent with missing | missing
  · rw [missing, Option.bind_none]
  · rw [missing]
    cases left labels <;> rfl

/-- Every operator needs all its operands: a name without samples empties the result. -/
theorem eval_absent {samples : List (Sample N)} {name : String}
    (absent : ∀ sample ∈ samples, sample.name ≠ name) (lookback now : Nat) (labels : Labels)
    {expr : Expr} (used : name ∈ expr.names) : eval samples lookback now expr labels = none := by
  induction expr with
  | selector other =>
      obtain rfl := List.mem_singleton.mp used
      simp only [eval, range_absent absent, List.getLast?_nil]
  | delta other window =>
      obtain rfl := List.mem_singleton.mp used
      simp only [eval, range_absent absent]
  | times operand factor ih => simp only [eval, ih used, Option.map_none]
  | quotient operand divisor ih => simp only [eval, ih used, Option.map_none]
  | divide left right ihLeft ihRight =>
      apply join_absent
      rcases List.mem_append.mp used with inLeft | inRight
      · exact Or.inl (ihLeft inLeft)
      · exact Or.inr (ihRight inRight)
  | above left right ihLeft ihRight =>
      apply join_absent
      rcases List.mem_append.mp used with inLeft | inRight
      · exact Or.inl (ihLeft inLeft)
      · exact Or.inr (ihRight inRight)

end Library.PromQL
