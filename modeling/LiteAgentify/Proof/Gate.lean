import LiteAgentify.Quota.Gate
import LiteAgentify.Lib.Sums
import Mathlib.Algebra.Order.BigOperators.Group.Finset
import Mathlib.Algebra.Order.Ring.Rat
import Mathlib.Tactic.Linarith

/-!
# The soft quota bound

`soft_quota`: what a scope has spent stays below its limit plus the cost of the requests that were
pending right after the last passing read of its counter. The invariant is about the exposure of the
scope, what is spent plus what the admitted requests have yet to add to it: a passing read bounds it
by the limit plus the pending costs, and no other step raises it.
-/

set_option autoImplicit false

namespace LiteAgentify

/-- The request is past the read of the scope and has yet to be added to it. -/
def Phase.owes : Phase → Scope → Bool
  | .passedUser, .user _ => true
  | .admitted, _ => true
  | .addedUser, .key _ => true
  | _, _ => false

theorem Phase.pending_of_owes {phase : Phase} {scope : Scope} (h : phase.owes scope) :
    phase.pending scope := by
  cases phase <;> cases scope <;> first | rfl | cases h

theorem GatewayState.checkUserQuota_allowed {state : GatewayState} {caller : KeyIdentity}
    {spent : ℚ} : state.checkUserQuota caller spent = .allowed ↔
      spent < (state.granted.lookup caller.userId).getD 0 := by
  simp [checkUserQuota]

theorem GatewayState.checkKeyQuota_allowed {caller : KeyIdentity} {spent : ℚ} :
    checkKeyQuota caller spent = .allowed ↔ ∀ cap, caller.spendCapUsd = some cap → spent < cap := by
  cases h : caller.spendCapUsd <;> simp [checkKeyQuota, h]

/-- The request whose step an action is. -/
def GateAction.request {ι : Type} : GateAction ι → ι
  | .advance i => i
  | .abandon i => i

namespace Gate

variable {ι : Type} {state : GatewayState} {requests : ι → GatedRequest}
  {s w : Gate ι} {scope : Scope} {limit : ℚ}

/-- What the request has yet to add to the scope. -/
def due (requests : ι → GatedRequest) (s : Gate ι) (scope : Scope) (i : ι) : ℚ :=
  if (requests i).InScope scope ∧ (s.phase i).owes scope then (requests i).cost else 0

theorem due_nonneg (i : ι) : 0 ≤ s.due requests scope i := by
  unfold due
  split
  · exact (requests i).cost_nonneg
  · exact le_rfl

theorem due_of_not_owes {i : ι} (h : ¬ (s.phase i).owes scope) : s.due requests scope i = 0 :=
  if_neg fun hd => h hd.2

theorem due_of_owes {i : ι} (hi : (requests i).InScope scope) (h : (s.phase i).owes scope) :
    s.due requests scope i = (requests i).cost :=
  if_pos ⟨hi, h⟩

section
variable [Fintype ι]

/-- What the scope has spent and what its admitted requests have yet to add. -/
def exposure (requests : ι → GatedRequest) (s : Gate ι) (scope : Scope) : ℚ :=
  s.counter.get scope + ∑ i, s.due requests scope i

theorem get_le_exposure : s.counter.get scope ≤ s.exposure requests scope :=
  le_add_of_nonneg_right (Finset.sum_nonneg fun i _ => due_nonneg i)

/-- What is due is owed by pending requests. -/
theorem sum_due_le : ∑ i, s.due requests scope i ≤
    ∑ i ∈ s.pending requests scope, (requests i).cost := by
  rw [pending, Finset.sum_filter]
  refine Finset.sum_le_sum fun i _ => ?_
  unfold due
  split
  · rename_i h
    rw [if_pos ⟨h.1, Phase.pending_of_owes h.2⟩]
  · split
    · exact (requests i).cost_nonneg
    · exact le_rfl

/-- Nothing pending, nothing due. -/
theorem exposure_of_idle (h : s.pending requests scope = ∅) :
    s.exposure requests scope ≤ s.counter.get scope := by
  have : ∑ i, s.due requests scope i ≤ ∑ i ∈ s.pending requests scope, (requests i).cost :=
    sum_due_le
  rw [h, Finset.sum_empty] at this
  rw [exposure]
  linarith

end

variable [DecidableEq ι]

@[simp] theorem setPhase_counter (i : ι) (phase : Phase) :
    (s.setPhase i phase).counter = s.counter := rfl

@[simp] theorem setPhase_self (i : ι) (phase : Phase) : (s.setPhase i phase).phase i = phase := by
  simp [setPhase]

@[simp] theorem charge_get (i : ι) (scope' : Scope) (next : Phase) :
    (s.charge requests i scope' next).counter.get scope =
      s.counter.get scope + if scope = scope' then (requests i).cost else 0 := by
  simp [charge]

@[simp] theorem charge_self (i : ι) (scope' : Scope) (next : Phase) :
    (s.charge requests i scope' next).phase i = next := by
  simp [charge, setPhase]

@[simp] theorem settle_counter (i : ι) (decision : QuotaDecision) (next : Phase) :
    (s.settle i decision next).counter = s.counter := by
  cases decision <;> rfl

theorem settle_self (i : ι) (decision : QuotaDecision) (next : Phase) :
    (s.settle i decision next).phase i = if decision = .allowed then next else .turnedAway := by
  cases decision <;> simp [settle]

theorem setPhase_other {i j : ι} (hj : j ≠ i) (phase : Phase) :
    (s.setPhase i phase).phase j = s.phase j := by
  simp [setPhase, hj]

theorem settle_other {i j : ι} (hj : j ≠ i) (decision : QuotaDecision) (next : Phase) :
    (s.settle i decision next).phase j = s.phase j := by
  cases decision <;> exact setPhase_other hj _

theorem step_other {action : GateAction ι} (hs : s.step state requests action = some w) {j : ι}
    (hj : j ≠ action.request) : w.phase j = s.phase j := by
  cases action with
  | advance i =>
    simp only [step] at hs
    split at hs <;> cases hs
    · exact settle_other hj _ _
    · exact settle_other hj _ _
    · exact setPhase_other hj _
    · exact setPhase_other hj _
  | abandon i =>
    simp only [step] at hs
    split at hs <;> cases hs
    exact setPhase_other hj _

/-- A comparison step: when it is the scope's, allowed means that the counter is below the limit and
the request is pending from then on; otherwise what the request still has to add does not grow. -/
theorem settle_scope [Fintype ι] {i : ι} {decision : QuotaDecision} {next : Phase}
    (hread : s.Reads requests scope (.advance i) → decision = .allowed →
      s.counter.get scope < limit ∧ next.pending scope)
    (hkeep : ¬ s.Reads requests scope (.advance i) → (requests i).InScope scope →
      next.owes scope → (s.phase i).owes scope) :
    s.Passes requests scope (s.settle i decision next) (.advance i) ∧ s.counter.get scope < limit ∨
      ¬ s.Passes requests scope (s.settle i decision next) (.advance i) ∧
        (s.settle i decision next).due requests scope i ≤ s.due requests scope i := by
  by_cases hd : decision = .allowed
  · have hself : (s.settle i decision next).phase i = next := by rw [settle_self, if_pos hd]
    by_cases hr : s.Reads requests scope (.advance i)
    · obtain ⟨hlt, hpend⟩ := hread hr hd
      exact .inl ⟨⟨hr, by rwa [hself]⟩, hlt⟩
    · refine .inr ⟨fun h => hr h.1, ?_⟩
      by_cases hi : (requests i).InScope scope ∧ next.owes scope
      · rw [due_of_owes hi.1 (by rw [hself]; exact hi.2), due_of_owes hi.1 (hkeep hr hi.1 hi.2)]
      · rw [due, hself, if_neg hi]
        exact due_nonneg i
  · have hp : ¬ Phase.turnedAway.pending scope := by cases scope <;> exact Bool.false_ne_true
    have ho : ¬ Phase.turnedAway.owes scope := by cases scope <;> exact Bool.false_ne_true
    have hself : (s.settle i decision next).phase i = .turnedAway := by rw [settle_self, if_neg hd]
    refine .inr ⟨fun h => hp (hself ▸ h.2), ?_⟩
    rw [due_of_not_owes (hself ▸ ho)]
    exact due_nonneg i

/-- An add moves what was due from the request to the counter. -/
theorem charge_scope {i : ι} {scope' : Scope} {next : Phase}
    (hown : scope = scope' → (requests i).InScope scope ∧ (s.phase i).owes scope ∧
      ¬ next.owes scope)
    (hother : scope ≠ scope' → (requests i).InScope scope →
      (next.owes scope ↔ (s.phase i).owes scope)) :
    (s.charge requests i scope' next).counter.get scope +
        (s.charge requests i scope' next).due requests scope i =
      s.counter.get scope + s.due requests scope i := by
  rw [charge_get]
  by_cases hs : scope = scope'
  · obtain ⟨hin, howe, hnext⟩ := hown hs
    rw [if_pos hs, due_of_owes hin howe, due_of_not_owes (by rwa [charge_self]), add_zero]
  · rw [if_neg hs, add_zero]
    congr 1
    unfold due
    rw [charge_self]
    exact if_congr (and_congr_right fun hi => hother hs hi) rfl rfl

/-- What a step does to a scope: a passing read finds less than the limit; any other step moves at
most what its request still had to add. -/
theorem step_scope [Fintype ι] {action : GateAction ι}
    (hs : s.step state requests action = some w) (hl : Limit state requests scope limit) :
    s.Passes requests scope w action ∧
        w.counter.get scope = s.counter.get scope ∧ s.counter.get scope < limit ∨
      ¬ s.Passes requests scope w action ∧
        w.counter.get scope + w.due requests scope action.request ≤
          s.counter.get scope + s.due requests scope action.request := by
  cases action with
  | advance i =>
    simp only [step] at hs
    cases hp : s.phase i with
    | fresh =>
      simp only [hp, Option.some.injEq] at hs
      subst hs
      simp only [settle_counter, true_and, add_le_add_iff_left]
      refine settle_scope (fun hr hd => ?_) fun hr hi ho => ?_
      · cases scope with
        | user id =>
          rw [GatewayState.checkUserQuota_allowed] at hd
          obtain rfl : _ = id := hr.1
          exact ⟨hl ▸ hd, rfl⟩
        | key id => rw [Reads, hp] at hr; cases hr.2
      · cases scope with
        | user id => exact absurd ⟨hi, by rw [hp]; rfl⟩ hr
        | key id => cases ho
    | passedUser =>
      simp only [hp, Option.some.injEq] at hs
      subst hs
      simp only [settle_counter, true_and, add_le_add_iff_left]
      refine settle_scope (fun hr hd => ?_) fun hr hi _ => ?_
      · cases scope with
        | user id => rw [Reads, hp] at hr; cases hr.2
        | key id =>
          obtain rfl : _ = id := hr.1
          exact ⟨GatewayState.checkKeyQuota_allowed.1 hd _ (hl i rfl), rfl⟩
      · cases scope with
        | user id => rw [hp]; rfl
        | key id => exact absurd ⟨hi, by rw [hp]; rfl⟩ hr
    | admitted =>
      simp only [hp, Option.some.injEq] at hs
      subst hs
      refine .inr ⟨fun h => ?_, (charge_scope ?_ ?_).le⟩
      · rw [Passes, Reads, hp] at h
        cases scope <;> cases h.1.2
      · rintro rfl
        exact ⟨rfl, by rw [hp]; rfl, Bool.false_ne_true⟩
      · intro hne hi
        cases scope with
        | user id => exact absurd (congrArg Scope.user (Eq.symm hi)) hne
        | key id => rw [hp]; exact Iff.rfl
    | addedUser =>
      simp only [hp, Option.some.injEq] at hs
      subst hs
      refine .inr ⟨fun h => ?_, (charge_scope ?_ ?_).le⟩
      · rw [Passes, Reads, hp] at h
        cases scope <;> cases h.1.2
      · rintro rfl
        exact ⟨rfl, by rw [hp]; rfl, Bool.false_ne_true⟩
      · intro hne hi
        cases scope with
        | user id => rw [hp]; exact Iff.rfl
        | key id => exact absurd (congrArg Scope.key (Eq.symm hi)) hne
    | done => simp [hp] at hs
    | turnedAway => simp [hp] at hs
  | abandon i =>
    simp only [step] at hs
    split at hs <;> cases hs
    have ho : ¬ Phase.turnedAway.owes scope := by cases scope <;> exact Bool.false_ne_true
    refine .inr ⟨id, ?_⟩
    rw [setPhase_counter, due_of_not_owes (by rwa [GateAction.request, setPhase_self])]
    gcongr
    exact due_nonneg i

/-- Counters never fall. -/
theorem step_get_le {action : GateAction ι} (hs : s.step state requests action = some w)
    (scope : Scope) : s.counter.get scope ≤ w.counter.get scope := by
  have hcharge : ∀ i scope' next,
      s.counter.get scope ≤ (s.charge requests i scope' next).counter.get scope := by
    intro i scope' next
    rw [charge_get]
    split
    · exact le_add_of_nonneg_right (requests i).cost_nonneg
    · rw [add_zero]
  cases action with
  | advance i =>
    simp only [step] at hs
    split at hs <;> cases hs
    · rw [settle_counter]
    · rw [settle_counter]
    · exact hcharge _ _ _
    · exact hcharge _ _ _
  | abandon i =>
    simp only [step] at hs
    split at hs <;> cases hs
    exact le_rfl

variable [Fintype ι]

/-- A passing read bounds the exposure, any other step does not raise it. -/
theorem step_exposure {action : GateAction ι} (hs : s.step state requests action = some w)
    (hl : Limit state requests scope limit) :
    s.Passes requests scope w action ∧ s.counter.get scope < limit ∧
        w.exposure requests scope < limit + ∑ i ∈ w.pending requests scope, (requests i).cost ∨
      ¬ s.Passes requests scope w action ∧
        w.exposure requests scope ≤ s.exposure requests scope := by
  rcases step_scope hs hl with ⟨hp, hget, hlt⟩ | ⟨hp, hle⟩
  · refine .inl ⟨hp, hlt, ?_⟩
    rw [exposure, hget]
    exact add_lt_add_of_lt_of_le hlt sum_due_le
  · refine .inr ⟨hp, ?_⟩
    have hsum := Sums.sum_change action.request (f := s.due requests scope)
      (g := w.due requests scope) fun j hj => by rw [due, due, step_other hs hj]
    rw [exposure, exposure, hsum]
    linarith

/-! ## Runs -/

/-- The exposure of the scope is below the limit plus what was pending at its last passing read. -/
def Covered (requests : ι → GatedRequest) (scope : Scope) (limit : ℚ) (s : Gate ι)
    (last : Option (Finset ι)) : Prop :=
  ∀ pending ∈ last, s.exposure requests scope < limit + ∑ i ∈ pending, (requests i).cost

/-- **The step lemma.** -/
theorem covered_step {action : GateAction ι} {last : Option (Finset ι)}
    (hs : s.step state requests action = some w) (hl : Limit state requests scope limit)
    (h : Covered requests scope limit s last) :
    Covered requests scope limit w (note requests scope last s action w) := by
  intro pending hpend
  rcases step_exposure hs hl with ⟨hp, -, hlt⟩ | ⟨hp, hle⟩
  · rw [note, if_pos hp, Option.mem_some_iff] at hpend
    exact hpend ▸ hlt
  · rw [note, if_neg hp] at hpend
    exact hle.trans_lt (h pending hpend)

variable {ok : Gate ι → GateAction ι → Prop} {tr : List (GateAction ι)}

theorem covered_run (h : Lts.Run (step state requests) ok s tr w)
    (hl : Limit state requests scope limit) :
    Covered requests scope limit w (lastPass state requests scope s tr) :=
  h.inv_observe (fun _ hp => by cases hp) fun _ _ _ _ hc _ hs => covered_step hs hl hc

/-- No read passes once the limit is reached. -/
theorem lastPass_none (h : Lts.Run (step state requests) ok s tr w)
    (hl : Limit state requests scope limit) (hle : limit ≤ s.counter.get scope) :
    lastPass state requests scope s tr = none := by
  refine (h.inv_observe (f := note requests scope) (m := none)
    (I := fun u last => limit ≤ u.counter.get scope ∧ last = none) ⟨hle, rfl⟩ ?_).2
  rintro u action v last ⟨hu, rfl⟩ - hs
  rcases step_exposure hs hl with ⟨-, hlt, -⟩ | ⟨hp, -⟩
  · exact absurd hlt (not_lt.2 hu)
  · exact ⟨hu.trans (step_get_le hs scope), by rw [note, if_neg hp]⟩

/-- The scope is read only while none of its requests is pending. -/
def Alone (requests : ι → GatedRequest) (scope : Scope) (s : Gate ι) (action : GateAction ι) :
    Prop :=
  s.Reads requests scope action → s.pending requests scope = ∅

/-- After a passing read made alone, the reader alone is pending. -/
theorem pending_of_alone {action : GateAction ι} (hs : s.step state requests action = some w)
    (ha : Alone requests scope s action) (hp : s.Passes requests scope w action) :
    ∃ i, (requests i).InScope scope ∧ w.pending requests scope = {i} := by
  cases action with
  | abandon i => exact hp.elim
  | advance i =>
    obtain ⟨hr, hpend⟩ := hp
    refine ⟨i, hr.1, Finset.ext fun j => ?_⟩
    simp only [pending, Finset.mem_filter, Finset.mem_univ, true_and, Finset.mem_singleton]
    constructor
    · rintro ⟨hj, hjp⟩
      by_contra hne
      have : j ∈ s.pending requests scope := by
        simp only [pending, Finset.mem_filter, Finset.mem_univ, true_and]
        exact ⟨hj, step_other hs hne ▸ hjp⟩
      rw [ha hr] at this
      exact Finset.notMem_empty j this
    · rintro rfl
      exact ⟨hr.1, hpend⟩

theorem alone_run (h : Lts.Run (step state requests) (Alone requests scope) s tr w)
    (hl : Limit state requests scope limit) (hle : s.counter.get scope ≤ limit)
    (hidle : s.pending requests scope = ∅) :
    match lastPass state requests scope s tr with
    | none => w.exposure requests scope ≤ limit
    | some pending => ∃ i, (requests i).InScope scope ∧ pending = {i} := by
  refine h.inv_observe (f := note requests scope) (m := none) (I := fun u last =>
    match last with
    | none => u.exposure requests scope ≤ limit
    | some pending => ∃ i, (requests i).InScope scope ∧ pending = {i})
    ((exposure_of_idle hidle).trans hle) ?_
  intro u action v last hu ha hs
  rcases step_exposure hs hl with ⟨hp, -, -⟩ | ⟨hp, hexp⟩
  · rw [note, if_pos hp]
    exact pending_of_alone hs ha hp
  · rw [note, if_neg hp]
    cases last with
    | none => exact hexp.trans hu
    | some pending => exact hu

end Gate

/-- **The soft quota bound.** For a user against the grants, and for a capped key against its cap:
what is spent stays below the limit plus the cost of what was pending right after the last passing
read; once the limit is reached no later read passes; and when the requests come one at a time the
overdraft stays below the cost of the last one that passed. -/
theorem soft_quota {ι : Type} [DecidableEq ι] [Fintype ι] {state : GatewayState}
    {requests : ι → GatedRequest} {s w : Gate ι} {tr : List (GateAction ι)} {scope : Scope}
    {limit : ℚ} (h : Lts.Steps (Gate.step state requests) s tr w)
    (hl : Gate.Limit state requests scope limit) :
    (∀ pending ∈ Gate.lastPass state requests scope s tr,
      w.counter.get scope < limit + ∑ i ∈ pending, (requests i).cost) ∧
    (limit ≤ w.counter.get scope → ∀ tr' w', Lts.Steps (Gate.step state requests) w tr' w' →
      Gate.lastPass state requests scope w tr' = none) ∧
    (Lts.Run (Gate.step state requests) (Gate.Alone requests scope) s tr w →
      s.counter.get scope ≤ limit → s.pending requests scope = ∅ →
      w.counter.get scope ≤ limit ∨
        ∃ i, (requests i).InScope scope ∧
          Gate.lastPass state requests scope s tr = some {i} ∧
          w.counter.get scope - limit < (requests i).cost) := by
  have hcov := Gate.covered_run h hl
  refine ⟨fun pending hp => Gate.get_le_exposure.trans_lt (hcov pending hp),
    fun hle _ _ h' => Gate.lastPass_none h' hl hle, fun ha hle hidle => ?_⟩
  have hrun := Gate.alone_run ha hl hle hidle
  cases hlast : Gate.lastPass state requests scope s tr with
  | none =>
    rw [hlast] at hrun
    exact .inl (Gate.get_le_exposure.trans hrun)
  | some pending =>
    rw [hlast] at hrun
    obtain ⟨i, hi, rfl⟩ := hrun
    have hlt := Gate.get_le_exposure.trans_lt (hcov {i} hlast)
    rw [Finset.sum_singleton] at hlt
    exact .inr ⟨i, hi, rfl, by linarith⟩

/-- Two requests of user 1 with key 2, uncapped, of cost 5 each. -/
def twoRequests : Bool → GatedRequest := fun _ => ⟨⟨1, 2, none, none⟩, 5, by norm_num⟩

/-- A snapshot that grants user 1 one dollar. -/
def oneDollar : GatewayState where
  apiKeys := ∅
  providers := ∅
  models := ∅
  granted := (∅ : HashMap Uuid ℚ).insert 1 1
  spendCounter := .shared 0
  upstream := 0
  usageRecorder := 0
  pricing := ∅
  retryPolicy := ⟨∅, 1, 0, 0⟩

/-- Both requests pass before either is charged: 10 are spent of 1, below 1 plus the cost of the two
that were pending. -/
theorem soft_quota_twoRequests :
    ∃ w, Lts.Steps (Gate.step oneDollar twoRequests) ⟨∅, fun _ => .fresh⟩
        [.advance false, .advance true, .advance false, .advance true, .advance false,
          .advance false, .advance true, .advance true] w ∧
      w.counter.get (.user 1) = 10 ∧
      ∀ pending ∈ Gate.lastPass oneDollar twoRequests (.user 1) ⟨∅, fun _ => .fresh⟩
        [.advance false, .advance true, .advance false, .advance true, .advance false,
          .advance false, .advance true, .advance true],
        w.counter.get (.user 1) < 1 + ∑ i ∈ pending, (twoRequests i).cost := by
  have hrun : (Lts.exec (Gate.step oneDollar twoRequests) ⟨∅, fun _ => .fresh⟩
      [.advance false, .advance true, .advance false, .advance true, .advance false,
        .advance false, .advance true, .advance true]).map
        (fun s => s.counter.get (.user 1)) = some 10 := by
    decide +kernel
  obtain ⟨w, hw, hget⟩ := Option.map_eq_some_iff.1 hrun
  have h := Lts.steps_of_exec hw
  have hl : Gate.Limit oneDollar twoRequests (.user 1) 1 := rfl
  exact ⟨w, h, hget, (soft_quota h hl).1⟩

end LiteAgentify
