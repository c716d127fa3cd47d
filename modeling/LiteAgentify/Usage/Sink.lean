import LiteAgentify.Admin.Backend
import LiteAgentify.Proxy.Record

/-!
# Flushing usage records

`DbSink::flush` of `src/usage/recorder.rs`: a batch goes into the usage table in one statement, and
another one touches the keys that the batch names. A statement that fails is logged and changes
nothing.
-/

set_option autoImplicit false

namespace LiteAgentify

open AdminApi UsageQuery

def UsageSource.toString : UsageSource → String
  | providerResponse => "provider_response"
  | streamSummary => "stream_summary"
  | unavailable => "unavailable"

/-- The columns of `active_from_record` that are read back. -/
def activeFromRecord (record : UsageRecord) : UsageModel where
  requestId := record.requestId
  createdAt := record.createdAt
  providerId := record.providerId
  protocol := record.protocol.toString
  path := record.path
  userId := record.userId
  apiKeyId := record.apiKeyId
  requestedModel := record.requestedModel
  upstreamModel := record.upstreamModel
  status := record.status
  latencyMs := record.latencyMs
  inputTokens := record.inputTokens
  outputTokens := record.outputTokens
  cachedInputTokens := record.cachedInputTokens
  cacheReadTokens := record.cacheReadTokens
  cacheWriteTokens := record.cacheWriteTokens
  totalTokens := record.totalTokens
  estimatedCost := record.estimatedCost
  currency := record.currency
  usageSource := record.usageSource.toString

/-- One iteration of the loop that collects `last_used`. -/
def touch (lastUsed : HashMap Uuid DateTime) (record : UsageRecord) : HashMap Uuid DateTime :=
  match record.apiKeyId with
  | none => lastUsed
  | some apiKeyId =>
    let entry := (lastUsed.lookup apiKeyId).getD record.createdAt
    lastUsed.insert apiKeyId (if record.createdAt > entry then record.createdAt else entry)

/-- Distinct key ids and the newest timestamp seen for each. -/
def lastUsed (batch : List UsageRecord) : HashMap Uuid DateTime := batch.foldl touch ∅

/-- The tables that a flush writes. -/
structure DbSink where
  usageRecords : List UsageModel
  apiKeys : Keys

/-- A call of `flush`, and which of its statements fail. -/
structure Flush where
  batch : List UsageRecord
  insertFails : Bool := false
  updateFails : Bool := false

namespace DbSink

def insertMany (db : DbSink) (models : List UsageModel) : DbSink :=
  { db with usageRecords := db.usageRecords ++ models }

/-- `UPDATE api_keys SET last_used_at = $1 WHERE id = ANY($2)`. -/
def setLastUsed (db : DbSink) (newest : Option DateTime) (ids : List Uuid) : DbSink :=
  { db with
    apiKeys := db.apiKeys.updateWhere (fun key => key.id ∈ ids)
      (fun key => { key with lastUsedAt := newest }) (fun _ => rfl) fun _ => rfl }

def flush (db : DbSink) (call : Flush) : DbSink :=
  if call.batch = [] then db
  else
    let used := entries (lastUsed call.batch)
    let db := if call.insertFails then db else db.insertMany (call.batch.map activeFromRecord)
    if used = [] ∨ call.updateFails then db
    else db.setLastUsed (used.map Prod.snd).max? (used.map Prod.fst)

end DbSink

end LiteAgentify
