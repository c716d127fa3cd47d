import LiteAgentify.Lib.Run
import LiteAgentify.State

/-!
# The soft quota gate

`check_quota` of `src/state.rs` and the two adds of `record_usage` in `src/proxy/router.rs`, run by
any number of requests on one snapshot and one counter. Each counter read with its comparison and
each add is one step; between them stands a whole upstream call.
-/

set_option autoImplicit false

namespace LiteAgentify

/-- A request at the gate: its authenticated caller and what it will cost (0 when it has no
price). -/
structure GatedRequest where
  caller : KeyIdentity
  cost : ℚ
  cost_nonneg : 0 ≤ cost

/-- The request is charged to the scope. -/
def GatedRequest.InScope (request : GatedRequest) : Scope → Prop
  | .user id => request.caller.userId = id
  | .key id => request.caller.apiKeyId = id

instance GatedRequest.decidableInScope (request : GatedRequest) (scope : Scope) :
    Decidable (request.InScope scope) :=
  match scope with
  | .user _ => inferInstanceAs (Decidable (_ = _))
  | .key _ => inferInstanceAs (Decidable (_ = _))

inductive Phase
  | fresh
  /-- The read of the User counter has passed. -/
  | passedUser
  /-- The quota check has allowed the request. -/
  | admitted
  /-- `record_usage` has added the cost to the user. -/
  | addedUser
  /-- `record_usage` has added the cost to the key as well. -/
  | done
  | turnedAway
  deriving DecidableEq

/-- The next step reads the counter of a scope of this kind. -/
def Phase.reads : Phase → Scope → Bool
  | .fresh, .user _ => true
  | .passedUser, .key _ => true
  | _, _ => false

/-- The read of the scope of this kind has passed, and the request has neither completed nor been
turned away. -/
def Phase.pending : Phase → Scope → Bool
  | .passedUser, .user _ => true
  | .admitted, _ => true
  | .addedUser, _ => true
  | _, _ => false

structure Gate (ι : Type) where
  counter : MemoryCounter
  phase : ι → Phase

inductive GateAction (ι : Type)
  /-- The next step of the request. -/
  | advance (i : ι)
  /-- An admitted request ends without being charged. -/
  | abandon (i : ι)

namespace Gate

variable {ι : Type} [DecidableEq ι] (state : GatewayState) (requests : ι → GatedRequest)

def setPhase (s : Gate ι) (i : ι) (phase : Phase) : Gate ι :=
  { s with phase := Function.update s.phase i phase }

/-- A request goes on when the decision is `Allowed`. -/
def settle (s : Gate ι) (i : ι) (decision : QuotaDecision) (next : Phase) : Gate ι :=
  match decision with
  | .allowed => s.setPhase i next
  | _ => s.setPhase i .turnedAway

def charge (s : Gate ι) (i : ι) (scope : Scope) (next : Phase) : Gate ι :=
  { s.setPhase i next with counter := s.counter.add scope (requests i).cost }

def step (s : Gate ι) : GateAction ι → Option (Gate ι)
  | .advance i =>
    let caller := (requests i).caller
    match s.phase i with
    | .fresh => some (s.settle i
        (state.checkUserQuota caller (s.counter.get (.user caller.userId))) .passedUser)
    | .passedUser => some (s.settle i
        (GatewayState.checkKeyQuota caller (s.counter.get (.key caller.apiKeyId))) .admitted)
    | .admitted => some (s.charge requests i (.user caller.userId) .addedUser)
    | .addedUser => some (s.charge requests i (.key caller.apiKeyId) .done)
    | .done | .turnedAway => none
  | .abandon i =>
    match s.phase i with
    | .admitted => some (s.setPhase i .turnedAway)
    | _ => none

variable [Fintype ι]

/-- The requests of the scope that are pending there. -/
def pending (s : Gate ι) (scope : Scope) : Finset ι :=
  {i | (requests i).InScope scope ∧ (s.phase i).pending scope}

/-- The step is a read of the scope's counter. -/
def Reads (s : Gate ι) (scope : Scope) : GateAction ι → Prop
  | .advance i => (requests i).InScope scope ∧ (s.phase i).reads scope
  | .abandon _ => False

instance (s : Gate ι) (scope : Scope) (action : GateAction ι) :
    Decidable (s.Reads requests scope action) :=
  match action with
  | .advance _ => inferInstanceAs (Decidable (_ ∧ _))
  | .abandon _ => inferInstanceAs (Decidable False)

/-- The step is a read of the scope's counter, and it passes. -/
def Passes (s : Gate ι) (scope : Scope) (s' : Gate ι) : GateAction ι → Prop
  | .advance i => s.Reads requests scope (.advance i) ∧ (s'.phase i).pending scope
  | .abandon _ => False

instance (s s' : Gate ι) (scope : Scope) (action : GateAction ι) :
    Decidable (s.Passes requests scope s' action) :=
  match action with
  | .advance _ => inferInstanceAs (Decidable (_ ∧ _))
  | .abandon _ => inferInstanceAs (Decidable False)

/-- What an observer notes: the requests pending immediately after the last read that passed, once
there is one. -/
def note (scope : Scope) (last : Option (Finset ι)) (s : Gate ι) (action : GateAction ι)
    (s' : Gate ι) : Option (Finset ι) :=
  if s.Passes requests scope s' action then some (s'.pending requests scope) else last

/-- The requests that were pending immediately after the last passing read of the scope, `none` when
no read of it has passed. -/
def lastPass (scope : Scope) (s : Gate ι) (tr : List (GateAction ι)) : Option (Finset ι) :=
  Lts.observe (step state requests) (note requests scope) s none tr

/-- The scope's counter is compared with `limit`: the grants of a user, the cap of a key. -/
def Limit (scope : Scope) (limit : ℚ) : Prop :=
  match scope with
  | .user id => limit = (state.granted.lookup id).getD 0
  | .key id => ∀ i, (requests i).caller.apiKeyId = id →
      (requests i).caller.spendCapUsd = some limit

end Gate

end LiteAgentify
