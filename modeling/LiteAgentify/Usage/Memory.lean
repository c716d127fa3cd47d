import LiteAgentify.Usage.Query

/-!
# The recorder in memory

The reading side of `MemoryUsageRecorder` (`src/usage/recorder.rs`), which tests query in place of
the database: the predicate of its filter (`accepts`) and the aggregates (`summary`) of records that
are given as rows.
-/

set_option autoImplicit false

namespace LiteAgentify

namespace MemoryUsageRecorder

open UsageQuery

/-- The predicate of `filtered`. -/
def accepts (since till : Option DateTime) (provider model : Option String)
    (status : Option StatusFilter) (userId apiKeyId : Option Uuid) (record : UsageModel) : Bool :=
  since.all (fun since => since ≤ record.createdAt) &&
    till.all (fun till => record.createdAt ≤ till) &&
    provider.all (fun provider => record.providerId = provider) &&
    userId.all (fun userId => record.userId = some userId) &&
    apiKeyId.all (fun apiKeyId => record.apiKeyId = some apiKeyId) &&
    model.all (fun model =>
      record.requestedModel = some model || record.upstreamModel = some model) &&
    status.all (StatusFilter.matches record.status)

def filtered (since till : Option DateTime) (provider model : Option String)
    (status : Option StatusFilter) (userId apiKeyId : Option Uuid) (records : List UsageModel) :
    List UsageModel :=
  records.filter (accepts since till provider model status userId apiKeyId)

/-- The parts of the time below the unit are set to zero. -/
def truncateToBucket (timestamp : DateTime) : SummaryBucket → DateTime
  | .day => timestamp / 86400000 * 86400000
  | .hour =>
    let withMinute := timestamp - timestamp / 60000 % 60 * 60000
    let withSecond := withMinute - withMinute / 1000 % 60 * 1000
    withSecond - withSecond % 1000

/-- One record's share in an entry of the series or the breakdown. -/
def addRecord (entry : Aggregate) (record : UsageModel) : Aggregate where
  requests := entry.requests + 1
  totalTokens := entry.totalTokens + record.totalTokens.getD 0
  cost := foldCost entry.cost record.currency record.estimatedCost

/-- `or_default` of the entry, and its update. -/
def addTo {G : Type} [DecidableEq G] (map : HashMap G Aggregate) (group : G)
    (record : UsageModel) : HashMap G Aggregate :=
  map.insert group (addRecord ((map.lookup group).getD {}) record)

def summary (params : UsageSummaryParams) (table : List UsageModel) : UsageSummary :=
  let records := filtered params.since params.till none none none params.userId none table
  let errors := (records.filter fun record => 400 ≤ record.status).length
  let totalCost := records.foldl
    (fun map record => foldCost map record.currency record.estimatedCost) ∅
  let totals : UsageTotals :=
    { requests := records.length
      inputTokens := (records.filterMap UsageModel.inputTokens).sum
      outputTokens := (records.filterMap UsageModel.outputTokens).sum
      totalTokens := (records.filterMap UsageModel.totalTokens).sum
      avgLatencyMs :=
        if 0 < records.length then ((records.map UsageModel.latencyMs).sum : ℚ) / records.length
        else 0
      errorRate := if 0 < records.length then (errors : ℚ) / records.length else 0
      cost := costVec totalCost }
  let maps := records.foldl
    (fun (maps : HashMap DateTime Aggregate × HashMap BreakdownKey Aggregate) record =>
      (addTo maps.1 (truncateToBucket record.createdAt params.bucket) record,
        addTo maps.2 (toLex (record.providerId, record.upstreamModel)) record)) (∅, ∅)
  { totals := totals
    series := (entries maps.1).map fun entry =>
      { bucketStart := entry.1
        requests := entry.2.requests
        totalTokens := entry.2.totalTokens
        cost := costVec entry.2.cost }
    breakdown := (entries maps.2).map fun entry =>
      { providerId := (ofLex entry.1).1
        model := (ofLex entry.1).2
        requests := entry.2.requests
        totalTokens := entry.2.totalTokens
        cost := costVec entry.2.cost } }

end MemoryUsageRecorder

/-- `date_trunc` in a session whose time zone is UTC. -/
def UsageQuery.dateTruncUtc : SummaryBucket → DateTime → DateTime
  | .hour, timestamp => timestamp - timestamp % 3600000
  | .day, timestamp => timestamp - timestamp % 86400000

theorem MemoryUsageRecorder.truncateToBucket_eq (timestamp : DateTime)
    (bucket : UsageQuery.SummaryBucket) :
    truncateToBucket timestamp bucket = UsageQuery.dateTruncUtc bucket timestamp := by
  cases bucket with
  | hour =>
    have hfloor (t : Int) :
        let withMinute := t - t / 60000 % 60 * 60000
        let withSecond := withMinute - withMinute / 1000 % 60 * 1000
        withSecond - withSecond % 1000 = t - t % 3600000 := by
      omega
    exact hfloor timestamp
  | day =>
    have hfloor (t : Int) : t / 86400000 * 86400000 = t - t % 86400000 := by omega
    exact hfloor timestamp

/-- The filter of the statements selects the rows that the predicate accepts. -/
theorem UsageQuery.SqlFilter.selects_eq_accepts {since till : Option DateTime}
    {provider model : Option String} {status : Option UsageQuery.StatusFilter}
    {userId apiKeyId : Option Uuid} {row : UsageQuery.UsageModel} :
    (SqlFilter.fromParams since till provider model status userId apiKeyId).selects row =
      MemoryUsageRecorder.accepts since till provider model status userId apiKeyId row := by
  rw [SqlFilter.selects_fromParams, MemoryUsageRecorder.accepts]
  simp only [Bool.decide_or]

end LiteAgentify
