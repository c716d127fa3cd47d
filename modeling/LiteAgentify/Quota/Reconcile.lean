import LiteAgentify.Quota
import LiteAgentify.Lib.Keyed
import LiteAgentify.Lib.Run

/-!
# Charging and reconciliation

The three parties that touch what a user has spent: `record_usage` of `src/proxy/router.rs` (adds to
the user, adds to the key, hands the record to the recorder's channel), `run_writer` of
`src/usage/recorder.rs` (collects records and inserts them in batches) and `reconcile_counters` of
`src/quota/mod.rs` (sums the table and resets the counters). Each add, each hand-over, each query
and each reset is one step; the parties interleave.
-/

set_option autoImplicit false

namespace LiteAgentify

/-- The columns of a `usage_records` row that are summed. -/
structure UsageRow where
  userId : Option Uuid
  apiKeyId : Option Uuid
  estimatedCost : Option ℚ
  deriving DecidableEq

/-- `COALESCE(SUM(estimated_cost), 0) … GROUP BY user_id`. -/
def spendByUser (rows : List UsageRow) : HashMap Uuid ℚ :=
  groupSums UsageRow.userId (·.estimatedCost.getD 0) rows

/-- `COALESCE(SUM(estimated_cost), 0) … GROUP BY api_key_id`. -/
def spendByKey (rows : List UsageRow) : HashMap Uuid ℚ :=
  groupSums UsageRow.apiKeyId (·.estimatedCost.getD 0) rows

/-- The list gives the entries of the map in the order of an iteration over it. -/
def Iterates (m : HashMap Uuid ℚ) (order : List (Uuid × ℚ)) : Prop :=
  (order.map Prod.fst).Nodup ∧ Keyed.insertAll Prod.fst Prod.snd ∅ order = m

instance (m : HashMap Uuid ℚ) (order : List (Uuid × ℚ)) : Decidable (Iterates m order) :=
  inferInstanceAs (Decidable (_ ∧ _))

/-- The resets of a pass, users first. -/
def resets (users keys : List (Uuid × ℚ)) : List (Scope × ℚ) :=
  users.map (fun entry => (.user entry.1, entry.2)) ++
    keys.map fun entry => (.key entry.1, entry.2)

/-- `reconcile_counters`, run by itself: resets every scope found to its sum. -/
def reconcileCounters (users keys : List (Uuid × ℚ)) (counter : MemoryCounter) : MemoryCounter :=
  (resets users keys).foldl (fun counter entry => counter.reset entry.1 entry.2) counter

/-! ## The parties -/

/-- A request that is charged: its caller and its cost. -/
structure PricedRequest where
  userId : Uuid
  apiKeyId : Uuid
  cost : ℚ
  cost_nonneg : 0 ≤ cost

/-- The row its record becomes. -/
def PricedRequest.row (request : PricedRequest) : UsageRow where
  userId := some request.userId
  apiKeyId := some request.apiKeyId
  estimatedCost := some request.cost

/-- The scope is the request's user or its key. -/
def PricedRequest.InScope (request : PricedRequest) : Scope → Prop
  | .user id => request.userId = id
  | .key id => request.apiKeyId = id

instance (request : PricedRequest) (scope : Scope) : Decidable (request.InScope scope) :=
  match scope with
  | .user _ => inferInstanceAs (Decidable (_ = _))
  | .key _ => inferInstanceAs (Decidable (_ = _))

/-- How far `record_usage` has come. -/
inductive Progress
  | fresh
  | addedUser
  | addedKey
  | enqueued
  deriving DecidableEq

/-- A request that has come so far has been added to its scope of this kind. -/
def Progress.counts : Progress → Scope → Bool
  | .fresh, _ => false
  | .addedUser, .user _ => true
  | .addedUser, .key _ => false
  | _, _ => true

/-- How far a reconciliation pass has come. -/
inductive Pass
  | idle
  /-- The sums per user are read. -/
  | sawUsers (byUser : HashMap Uuid ℚ)
  /-- Both sums are read; the resets that are left. -/
  | resetting (left : List (Scope × ℚ))

/-- The counter, the requests, the writer's channel, buffer and table, and the current pass. The
records of the requests stand for themselves. -/
structure Books (ι : Type) where
  counter : MemoryCounter
  progress : ι → Progress
  channel : List ι
  buffer : List ι
  table : List ι
  pass : Pass

/-- Flush the buffer once this many records accumulate. -/
def usageBatchSize : Nat := 128

inductive Action (ι : Type)
  /-- The next step of `record_usage` for a request. -/
  | request (i : ι)
  /-- The writer receives a record, and flushes a full buffer. -/
  | receive
  /-- The flush interval passes. -/
  | tick
  | queryUsers
  /-- The second query, with the orders in which the resets iterate over the sums. -/
  | queryKeys (users keys : List (Uuid × ℚ))
  /-- The second query fails, which ends the pass. -/
  | queryFails
  | reset

namespace Books

variable {ι : Type} [DecidableEq ι] (old : List UsageRow) (requests : ι → PricedRequest)

/-- The usage table: the rows from before the start and the inserted records. -/
def rows (s : Books ι) : List UsageRow := old ++ s.table.map fun i => (requests i).row

def step (s : Books ι) : Action ι → Option (Books ι)
  | .request i =>
    match s.progress i with
    | .fresh => some { s with
        counter := s.counter.add (.user (requests i).userId) (requests i).cost
        progress := Function.update s.progress i .addedUser }
    | .addedUser => some { s with
        counter := s.counter.add (.key (requests i).apiKeyId) (requests i).cost
        progress := Function.update s.progress i .addedKey }
    | .addedKey => some { s with
        channel := s.channel ++ [i]
        progress := Function.update s.progress i .enqueued }
    | .enqueued => none
  | .receive =>
    match s.channel with
    | [] => none
    | i :: rest =>
      if (s.buffer ++ [i]).length ≥ usageBatchSize then
        some { s with channel := rest, buffer := [], table := s.table ++ (s.buffer ++ [i]) }
      else some { s with channel := rest, buffer := s.buffer ++ [i] }
  | .tick =>
    if s.buffer = [] then none
    else some { s with buffer := [], table := s.table ++ s.buffer }
  | .queryUsers =>
    match s.pass with
    | .idle => some { s with pass := .sawUsers (spendByUser (s.rows old requests)) }
    | _ => none
  | .queryKeys users keys =>
    match s.pass with
    | .sawUsers byUser =>
      if Iterates byUser users ∧ Iterates (spendByKey (s.rows old requests)) keys then
        some { s with pass := .resetting (resets users keys) }
      else none
    | _ => none
  | .queryFails =>
    match s.pass with
    | .sawUsers _ => some { s with pass := .idle }
    | _ => none
  | .reset =>
    match s.pass with
    | .resetting ((scope, total) :: left) =>
      some { s with counter := s.counter.reset scope total, pass := .resetting left }
    | .resetting [] => some { s with pass := .idle }
    | _ => none

/-- The gateway has started with the given counter. -/
def init (counter : MemoryCounter) : Books ι where
  counter := counter
  progress := fun _ => .fresh
  channel := []
  buffer := []
  table := []
  pass := .idle

/-- The request has been added to the scope. -/
def Added (s : Books ι) (scope : Scope) (i : ι) : Prop :=
  (requests i).InScope scope ∧ (s.progress i).counts scope

instance (s : Books ι) (scope : Scope) (i : ι) : Decidable (s.Added requests scope i) :=
  inferInstanceAs (Decidable (_ ∧ _))

end Books

end LiteAgentify
