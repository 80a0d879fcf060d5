import Mathlib.Data.List.Nodup
import KayobeConfig.Library.Loops

/-!
`tools/loadbalancer-failover.sh` on a list of amphorae taken before its loop. A failover
that succeeds deletes the amphorae of its load balancer, and looking up a deleted one
ends the loop.
-/

namespace Octavia

open Library

structure Amphora where
  id : String
  loadbalancerId : String
  imageId : String
  deriving DecidableEq

inductive Line
  | failingOver (loadbalancer amphora : String)
  | failed (loadbalancer : String)
  deriving DecidableEq

/-- `replaced` are the load balancers whose listed amphorae are deleted. -/
structure State where
  replaced : List String
  issued : List String
  output : List Line

variable (expectedImage : String) (succeeds : String → Nat → Bool)

def isOutdated (amphora : Amphora) : Bool :=
  amphora.imageId ≠ "None" && amphora.imageId ≠ expectedImage

/-- `succeeds` tells how each failover of a load balancer ends. -/
def visit (state : State) (amphora : Amphora) : Except State State :=
  let lbId := amphora.loadbalancerId
  if lbId ∈ state.replaced then .error state
  else if isOutdated expectedImage amphora then
    let output := state.output ++ [.failingOver lbId amphora.id]
    let issued := state.issued ++ [lbId]
    if succeeds lbId (state.issued.count lbId) then .ok ⟨lbId :: state.replaced, issued, output⟩
    else .ok ⟨state.replaced, issued, output ++ [.failed lbId]⟩
  else .ok state

def left : Except State State → State
  | .ok state => state
  | .error state => state

def failover (amphorae : List Amphora) : State :=
  left (amphorae.foldlM (visit expectedImage succeeds) ⟨[], [], []⟩)

structure MissesNobody (amphorae : List Amphora) (final : State) : Prop where
  everyone : ∀ amphora ∈ amphorae, isOutdated expectedImage amphora = true →
    amphora.loadbalancerId ∈ final.issued
  once : final.issued.Nodup

/-- An amphora whose load balancer has an outdated one before it. -/
def Repeats (before : List Amphora) (amphora : Amphora) : Prop :=
  ∃ earlier ∈ before, isOutdated expectedImage earlier = true ∧
    earlier.loadbalancerId = amphora.loadbalancerId

/-- Such an amphora is deleted by now, or it is a reason for another failover. -/
def Disturbs (before : List Amphora) (amphora : Amphora) : Prop :=
  Repeats expectedImage before amphora ∧
    (succeeds amphora.loadbalancerId 0 = true ∨ isOutdated expectedImage amphora = true)

structure FirstDisturbance (amphorae before : List Amphora) (amphora : Amphora)
    (after : List Amphora) : Prop where
  split : amphorae = before ++ amphora :: after
  disturbs : Disturbs expectedImage succeeds before amphora
  first : ∀ earlier other later, before = earlier ++ other :: later →
    ¬Disturbs expectedImage succeeds earlier other

/-- The loop ends there and has nobody left to fail over. -/
def EndsComplete (before : List Amphora) (amphora : Amphora) (after : List Amphora) : Prop :=
  succeeds amphora.loadbalancerId 0 = true ∧ ∀ later ∈ after,
    isOutdated expectedImage later = true → Repeats expectedImage before later

/-- What an undisturbed loop has done. -/
structure Visited (before : List Amphora) (state : State) : Prop where
  issued : ∀ lbId, lbId ∈ state.issued ↔
    ∃ earlier ∈ before, isOutdated expectedImage earlier = true ∧ earlier.loadbalancerId = lbId
  once : state.issued.Nodup
  replaced : ∀ lbId, lbId ∈ state.replaced ↔ lbId ∈ state.issued ∧ succeeds lbId 0 = true
  undisturbed : ∀ earlier other later, before = earlier ++ other :: later →
    ¬Disturbs expectedImage succeeds earlier other

section Loop

variable {expectedImage : String} {succeeds : String → Nat → Bool} {before after amphorae : List Amphora}
  {amphora : Amphora} {state : State}

theorem FirstDisturbance.unique {others : List Amphora} {other : Amphora} {rest : List Amphora}
    (first : FirstDisturbance expectedImage succeeds amphorae before amphora after)
    (second : FirstDisturbance expectedImage succeeds amphorae others other rest) :
    before = others ∧ amphora = other ∧ after = rest := by
  have same := first.split.symm.trans second.split
  rcases List.append_eq_append_iff.mp same with ⟨between, longer, tail⟩ | ⟨between, longer, tail⟩
  · cases between with
    | nil => simp_all
    | cons next between =>
        rw [List.cons_append, List.cons.injEq] at tail
        rw [← tail.1] at longer
        exact absurd first.disturbs (second.first before amphora between longer)
  · cases between with
    | nil => simp_all
    | cons next between =>
        rw [List.cons_append, List.cons.injEq] at tail
        rw [← tail.1] at longer
        exact absurd second.disturbs (first.first others other between longer)

theorem visit_stops (visited : Visited expectedImage succeeds before state)
    (repeated : Repeats expectedImage before amphora)
    (succeeded : succeeds amphora.loadbalancerId 0 = true) :
    visit expectedImage succeeds state amphora = .error state := by
  have replaced := (visited.replaced amphora.loadbalancerId).mpr
    ⟨(visited.issued _).mpr repeated, succeeded⟩
  exact if_pos replaced

theorem visit_again (visited : Visited expectedImage succeeds before state)
    (failed : succeeds amphora.loadbalancerId 0 = false)
    (outdated : isOutdated expectedImage amphora = true) :
    ∃ next, visit expectedImage succeeds state amphora = .ok next ∧
      next.issued = state.issued ++ [amphora.loadbalancerId] := by
  have present : amphora.loadbalancerId ∉ state.replaced := by
    rw [visited.replaced, failed]
    simp
  unfold visit
  rw [if_neg present, if_pos outdated]
  dsimp only
  split
  · exact ⟨_, rfl, rfl⟩
  · exact ⟨_, rfl, rfl⟩

theorem undisturbed_snoc
    (undisturbed : ∀ earlier other later, before = earlier ++ other :: later →
      ¬Disturbs expectedImage succeeds earlier other)
    (last : ¬Disturbs expectedImage succeeds before amphora) (earlier : List Amphora)
    (other : Amphora) (later : List Amphora) (split : before ++ [amphora] = earlier ++ other :: later) :
    ¬Disturbs expectedImage succeeds earlier other := by
  rcases List.eq_nil_or_concat later with rfl | ⟨middle, final, rfl⟩
  · obtain ⟨rfl, same⟩ := List.append_inj' split rfl
    rw [← (List.cons.inj same).1]
    exact last
  · rw [List.concat_eq_append, ← List.cons_append, ← List.append_assoc] at split
    exact undisturbed earlier other middle (List.append_inj' split rfl).1

theorem visit_undisturbed (visited : Visited expectedImage succeeds before state)
    (undisturbed : ¬Disturbs expectedImage succeeds before amphora) :
    ∃ next, visit expectedImage succeeds state amphora = .ok next ∧
      Visited expectedImage succeeds (before ++ [amphora]) next := by
  have present : amphora.loadbalancerId ∉ state.replaced := by
    intro replaced
    obtain ⟨issued, succeeded⟩ := (visited.replaced _).mp replaced
    exact undisturbed ⟨(visited.issued _).mp issued, Or.inl succeeded⟩
  have quiet := undisturbed_snoc visited.undisturbed undisturbed
  unfold visit
  rw [if_neg present]
  by_cases outdated : isOutdated expectedImage amphora = true
  · have fresh : amphora.loadbalancerId ∉ state.issued := by
      intro issued
      exact undisturbed ⟨(visited.issued _).mp issued, Or.inr outdated⟩
    have listed (lbId : String) : lbId ∈ state.issued ++ [amphora.loadbalancerId] ↔
        ∃ earlier ∈ before ++ [amphora], isOutdated expectedImage earlier = true ∧
          earlier.loadbalancerId = lbId := by
      simp only [List.mem_append, List.mem_singleton, or_and_right, exists_or, exists_eq_left,
        outdated, true_and, visited.issued, @eq_comm _ lbId]
    have once : (state.issued ++ [amphora.loadbalancerId]).Nodup :=
      List.Nodup.append visited.once (List.nodup_singleton _) (List.disjoint_singleton.mpr fresh)
    rw [if_pos outdated, List.count_eq_zero_of_not_mem fresh]
    dsimp only
    split
    · rename_i succeeded
      refine ⟨_, rfl, listed, once, ?_, quiet⟩
      intro lbId
      rw [List.mem_cons, visited.replaced, List.mem_append, List.mem_singleton]
      by_cases same : lbId = amphora.loadbalancerId
      · simp [same, succeeded]
      · simp [same]
    · rename_i failed
      refine ⟨_, rfl, listed, once, ?_, quiet⟩
      intro lbId
      rw [visited.replaced, List.mem_append, List.mem_singleton]
      by_cases same : lbId = amphora.loadbalancerId
      · simp [same, failed]
      · simp [same]
  · refine ⟨state, if_neg outdated, ?_, visited.once, visited.replaced, quiet⟩
    intro lbId
    rw [visited.issued]
    simp only [List.mem_append, List.mem_singleton, or_and_right, exists_or, exists_eq_left,
      outdated, Bool.false_eq_true, false_and, or_false]

theorem visit_issued (expectedImage : String) (succeeds : String → Nat → Bool) (state : State)
    (amphora : Amphora) : state.issued <+: (left (visit expectedImage succeeds state amphora)).issued := by
  unfold visit
  dsimp only
  split
  · exact List.prefix_rfl
  · split
    · split
      · exact List.prefix_append _ _
      · exact List.prefix_append _ _
    · exact List.prefix_rfl

theorem issued_kept (expectedImage : String) (succeeds : String → Nat → Bool)
    (amphorae : List Amphora) (state : State) :
    state.issued <+: (left (amphorae.foldlM (visit expectedImage succeeds) state)).issued := by
  induction amphorae generalizing state with
  | nil => exact List.prefix_rfl
  | cons amphora amphorae ih =>
      rw [List.foldlM_cons]
      have first := visit_issued expectedImage succeeds state amphora
      cases visited : visit expectedImage succeeds state amphora with
      | error final =>
          rw [visited] at first
          exact first
      | ok next =>
          rw [visited] at first
          exact first.trans (ih next)

theorem missesNobody_stopped_iff {rest : List Amphora}
    (visited : Visited expectedImage succeeds before state)
    (repeated : Repeats expectedImage before amphora)
    (succeeded : succeeds amphora.loadbalancerId 0 = true) :
    MissesNobody expectedImage (before ++ amphora :: rest) state ↔
      EndsComplete expectedImage succeeds before amphora rest := by
  constructor
  · intro misses
    refine ⟨succeeded, ?_⟩
    intro later among outdated
    exact (visited.issued _).mp (misses.everyone later (by simp [among]) outdated)
  · intro complete
    refine ⟨?_, visited.once⟩
    intro other among outdated
    rw [visited.issued]
    rcases List.mem_append.mp among with earlier | among
    · exact ⟨other, earlier, outdated, rfl⟩
    · rcases List.mem_cons.mp among with rfl | later
      · exact repeated
      · exact complete.2 other later outdated

/-- The rest of the loop, seen from where nothing has disturbed it so far. -/
theorem missesNobody_iff_rest (rest : List Amphora)
    (visited : Visited expectedImage succeeds before state) :
    MissesNobody expectedImage (before ++ rest)
        (left (rest.foldlM (visit expectedImage succeeds) state)) ↔
      ∀ earlier amphora after,
        FirstDisturbance expectedImage succeeds (before ++ rest) earlier amphora after →
          EndsComplete expectedImage succeeds earlier amphora after := by
  induction rest generalizing before state with
  | nil =>
      rw [List.append_nil]
      refine iff_of_true ⟨?_, visited.once⟩ ?_
      · intro amphora among outdated
        exact (visited.issued _).mpr ⟨amphora, among, outdated, rfl⟩
      · intro earlier amphora after first
        exact absurd first.disturbs (visited.undisturbed earlier amphora after first.split)
  | cons amphora rest ih =>
      rw [List.foldlM_cons]
      by_cases disturbed : Disturbs expectedImage succeeds before amphora
      · have first : FirstDisturbance expectedImage succeeds (before ++ amphora :: rest) before amphora
            rest := ⟨rfl, disturbed, visited.undisturbed⟩
        have only : (∀ earlier other after,
            FirstDisturbance expectedImage succeeds (before ++ amphora :: rest) earlier other after →
              EndsComplete expectedImage succeeds earlier other after) ↔
            EndsComplete expectedImage succeeds before amphora rest := by
          constructor
          · intro all
            exact all before amphora rest first
          · intro complete earlier other after another
            obtain ⟨rfl, rfl, rfl⟩ := first.unique another
            exact complete
        rw [only]
        cases succeeded : succeeds amphora.loadbalancerId 0 with
        | true =>
            rw [visit_stops visited disturbed.1 succeeded]
            exact missesNobody_stopped_iff visited disturbed.1 succeeded
        | false =>
            have outdated := disturbed.2.resolve_left (by rw [succeeded]; exact Bool.false_ne_true)
            obtain ⟨next, stepped, issued⟩ := visit_again visited succeeded outdated
            rw [stepped, ok_bind]
            refine iff_of_false ?_ fun complete => ?_
            · intro misses
              have again := (issued_kept expectedImage succeeds rest next).sublist.nodup misses.once
              rw [issued, List.nodup_append] at again
              have issuedBefore := (visited.issued _).mpr disturbed.1
              exact again.2.2 _ issuedBefore _ (List.mem_singleton_self _) rfl
            · rw [complete.1] at succeeded
              cases succeeded
      · obtain ⟨next, stepped, further⟩ := visit_undisturbed visited disturbed
        have later := ih further
        rw [List.append_assoc, List.singleton_append] at later
        rw [stepped, ok_bind]
        exact later

end Loop

/-- Nobody is missed and nobody failed over twice exactly when the first amphora of a load
balancer that was failed over before, if it is deleted by then or outdated itself, ends
the loop at a point where nobody is left. -/
theorem missesNobody_iff (expectedImage : String) (succeeds : String → Nat → Bool)
    (amphorae : List Amphora) :
    MissesNobody expectedImage amphorae (failover expectedImage succeeds amphorae) ↔
      ∀ before amphora after,
        FirstDisturbance expectedImage succeeds amphorae before amphora after →
          EndsComplete expectedImage succeeds before amphora after := by
  have start : Visited expectedImage succeeds [] ⟨[], [], []⟩ :=
    ⟨by simp, List.nodup_nil, by simp, by simp⟩
  exact missesNobody_iff_rest amphorae start

def twoLoadbalancers : List Amphora :=
  [⟨"amphora-1", "lb-1", "old"⟩, ⟨"amphora-2", "lb-1", "old"⟩, ⟨"amphora-3", "lb-2", "old"⟩]

theorem second_loadbalancer_missed :
    ¬MissesNobody "new" twoLoadbalancers (failover "new" (fun _ _ => true) twoLoadbalancers) :=
  fun misses => absurd (misses.everyone ⟨"amphora-3", "lb-2", "old"⟩ (by decide) (by decide)) (by decide)

end Octavia
