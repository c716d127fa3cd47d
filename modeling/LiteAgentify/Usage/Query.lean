import LiteAgentify.Catalog.Store
import LiteAgentify.Lib.Table
import Mathlib.Data.Finset.Sort
import Mathlib.Data.Prod.Lex
import Mathlib.Data.String.Basic
import Mathlib.Order.WithBot

/-!
# Reading the usage table

`src/usage/query.rs` and the reading side of `src/usage/recorder.rs`: the filter that becomes a
`WHERE` clause with numbered placeholders (`SqlFilter`), the page of rows (`list`) and the
aggregates (`summary`). Quotients are exact.
-/

set_option autoImplicit false

namespace LiteAgentify

namespace UsageQuery

/-- A row of `usage_records`, with the columns that are read back. -/
structure UsageModel where
  requestId : String
  createdAt : DateTime
  providerId : String
  protocol : String
  path : String
  userId : Option Uuid
  apiKeyId : Option Uuid
  requestedModel : Option String
  upstreamModel : Option String
  status : Int
  latencyMs : Int
  inputTokens : Option Int
  outputTokens : Option Int
  cachedInputTokens : Option Int
  cacheReadTokens : Option Int
  cacheWriteTokens : Option Int
  totalTokens : Option Int
  estimatedCost : Option ℚ
  currency : Option String
  usageSource : String
  deriving DecidableEq

/-! ## Filters -/

inductive StatusFilter
  | exact (code : Nat)
  | clientError
  | serverError
  deriving DecidableEq

def StatusFilter.matches (status : Int) : StatusFilter → Bool
  | exact code => status = code
  | clientError => 400 ≤ status ∧ status < 500
  | serverError => 500 ≤ status

/-- A value bound to a placeholder. -/
inductive SqlValue
  | time (t : DateTime)
  | text (s : String)
  | uuid (id : Uuid)
  | int (n : Int)
  deriving DecidableEq

/-- The comparison of a column with a bound value. -/
inductive Comparison
  | createdAtFrom
  | createdAtTo
  | providerId
  | userId
  | apiKeyId
  | requestedModel
  | upstreamModel
  | status

/-- A column that is null compares with no value. -/
def Comparison.holds (row : UsageModel) : Comparison → SqlValue → Bool
  | createdAtFrom, .time t => t ≤ row.createdAt
  | createdAtTo, .time t => row.createdAt ≤ t
  | providerId, .text s => row.providerId = s
  | userId, .uuid id => row.userId = some id
  | apiKeyId, .uuid id => row.apiKeyId = some id
  | requestedModel, .text s => row.requestedModel = some s
  | upstreamModel, .text s => row.upstreamModel = some s
  | status, .int n => row.status = n
  | _, _ => false

/-- A clause; placeholders count from one. -/
inductive Clause
  | compare (comparison : Comparison) (placeholder : Nat)
  | modelIs (first second : Nat)
  /-- `status >= 400 AND status < 500`. -/
  | clientError
  /-- `status >= 500`. -/
  | serverError

def Clause.placeholders : Clause → List Nat
  | compare _ placeholder => [placeholder]
  | modelIs first second => [first, second]
  | _ => []

def Clause.holds (values : List SqlValue) (row : UsageModel) : Clause → Bool
  | compare comparison placeholder => values[placeholder - 1]?.any (comparison.holds row)
  | modelIs first second =>
    values[first - 1]?.any (Comparison.requestedModel.holds row) ||
      values[second - 1]?.any (Comparison.upstreamModel.holds row)
  | clientError => 400 ≤ row.status ∧ row.status < 500
  | serverError => 500 ≤ row.status

/-- Every placeholder has a value. -/
structure SqlFilter where
  clauses : List Clause
  values : List SqlValue
  bound : ∀ clause ∈ clauses, ∀ n ∈ clause.placeholders, 1 ≤ n ∧ n ≤ values.length

namespace SqlFilter

def empty : SqlFilter := ⟨[], [], by simp⟩

def nextPlaceholder (filter : SqlFilter) : Nat := filter.values.length + 1

/-- The row meets every clause. -/
def selects (filter : SqlFilter) (row : UsageModel) : Bool :=
  filter.clauses.all (·.holds filter.values row)

/-- Adds a clause and the values that it brings. -/
def push (filter : SqlFilter) (clause : Clause) (values : List SqlValue)
    (h : ∀ n ∈ clause.placeholders, 1 ≤ n ∧ n ≤ filter.values.length + values.length) :
    SqlFilter where
  clauses := filter.clauses ++ [clause]
  values := filter.values ++ values
  bound := by
    intro c hc n hn
    rw [List.length_append]
    rcases List.mem_append.1 hc with hc | hc
    · have := filter.bound c hc n hn
      omega
    · rw [List.mem_singleton] at hc
      exact h n (hc ▸ hn)

def pushValue (filter : SqlFilter) (comparison : Comparison) (value : Option SqlValue) :
    SqlFilter :=
  match value with
  | none => filter
  | some value => filter.push (.compare comparison filter.nextPlaceholder) [value] (by
      simp [Clause.placeholders, nextPlaceholder])

def pushModel (filter : SqlFilter) (model : Option String) : SqlFilter :=
  match model with
  | none => filter
  | some model =>
    let first := filter.nextPlaceholder
    filter.push (.modelIs first (first + 1)) [.text model, .text model] (by
      simp [Clause.placeholders, nextPlaceholder, first])

def pushStatus (filter : SqlFilter) (status : Option StatusFilter) : SqlFilter :=
  match status with
  | none => filter
  | some (.exact code) => filter.pushValue .status (some (.int code))
  | some .clientError => filter.push .clientError [] fun _ hn => by cases hn
  | some .serverError => filter.push .serverError [] fun _ hn => by cases hn

def fromParams (since till : Option DateTime) (provider model : Option String)
    (status : Option StatusFilter) (userId apiKeyId : Option Uuid) : SqlFilter :=
  let filter := empty.pushValue .createdAtFrom (since.map .time)
  let filter := filter.pushValue .createdAtTo (till.map .time)
  let filter := filter.pushValue .providerId (provider.map .text)
  let filter := filter.pushValue .userId (userId.map .uuid)
  let filter := filter.pushValue .apiKeyId (apiKeyId.map .uuid)
  let filter := filter.pushModel model
  filter.pushStatus status

/-- The values can be bound: PostgreSQL has no NUL character. -/
def bindable (filter : SqlFilter) : Bool :=
  filter.values.all fun
    | .text s => isText s
    | _ => true

/-! What the clauses and the numbering of the placeholders come to. -/

theorem holds_append {clause : Clause} {values more : List SqlValue} {row : UsageModel}
    (h : ∀ n ∈ clause.placeholders, 1 ≤ n ∧ n ≤ values.length) :
    clause.holds (values ++ more) row = clause.holds values row := by
  have at_placeholder {n : Nat} (hn : n ∈ clause.placeholders) :
      (values ++ more)[n - 1]? = values[n - 1]? := by
    have := h n hn
    exact List.getElem?_append_left (by omega)
  cases clause with
  | compare comparison n =>
    rw [Clause.holds, Clause.holds, at_placeholder (by simp [Clause.placeholders])]
  | modelIs first second =>
    rw [Clause.holds, Clause.holds, at_placeholder (by simp [Clause.placeholders]),
      at_placeholder (by simp [Clause.placeholders])]
  | clientError => rfl
  | serverError => rfl

theorem selects_push {filter : SqlFilter} {clause : Clause} {values : List SqlValue}
    {h : ∀ n ∈ clause.placeholders, 1 ≤ n ∧ n ≤ filter.values.length + values.length}
    {row : UsageModel} :
    (filter.push clause values h).selects row =
      (filter.selects row && clause.holds (filter.values ++ values) row) := by
  have kept : filter.clauses.all (·.holds (filter.values ++ values) row) = filter.selects row := by
    rw [selects, Bool.eq_iff_iff, List.all_eq_true, List.all_eq_true]
    exact forall₂_congr fun c hc => by rw [holds_append (filter.bound c hc)]
  rw [selects, push, List.all_append, kept, List.all_cons, List.all_nil, Bool.and_true]

@[simp] theorem selects_pushValue {filter : SqlFilter} {comparison : Comparison}
    {value : Option SqlValue} {row : UsageModel} :
    (filter.pushValue comparison value).selects row =
      (filter.selects row && value.all (comparison.holds row)) := by
  cases value with
  | none => simp [pushValue]
  | some value => simp [pushValue, selects_push, Clause.holds, nextPlaceholder]

@[simp] theorem selects_pushModel {filter : SqlFilter} {model : Option String} {row : UsageModel} :
    (filter.pushModel model).selects row = (filter.selects row &&
      model.all fun model => row.requestedModel = some model ∨ row.upstreamModel = some model) := by
  cases model with
  | none => simp [pushModel]
  | some model =>
    simp [pushModel, selects_push, Clause.holds, nextPlaceholder, Comparison.holds]

@[simp] theorem selects_pushStatus {filter : SqlFilter} {status : Option StatusFilter}
    {row : UsageModel} :
    (filter.pushStatus status).selects row =
      (filter.selects row && status.all (StatusFilter.matches row.status)) := by
  cases status with
  | none => simp [pushStatus]
  | some status =>
    cases status with
    | exact code => simp [pushStatus, StatusFilter.matches, Comparison.holds]
    | clientError =>
      rw [pushStatus, selects_push]
      rfl
    | serverError =>
      rw [pushStatus, selects_push]
      rfl

/-- **The placeholders bind what they should.** A filter selects the rows that meet each
parameter. -/
theorem selects_fromParams {since till : Option DateTime} {provider model : Option String}
    {status : Option StatusFilter} {userId apiKeyId : Option Uuid} {row : UsageModel} :
    (fromParams since till provider model status userId apiKeyId).selects row =
      (since.all (fun t => t ≤ row.createdAt) && till.all (fun t => row.createdAt ≤ t) &&
        provider.all (fun s => row.providerId = s) && userId.all (fun id => row.userId = some id) &&
        apiKeyId.all (fun id => row.apiKeyId = some id) &&
        model.all (fun s => row.requestedModel = some s ∨ row.upstreamModel = some s) &&
        status.all (StatusFilter.matches row.status)) := by
  have h : empty.selects row = true := rfl
  simp [fromParams, h, Option.all_map, Comparison.holds]

end SqlFilter

/-! ## Pages -/

structure UsageListParams where
  since : Option DateTime
  till : Option DateTime
  provider : Option String
  model : Option String
  status : Option StatusFilter
  userId : Option Uuid
  apiKeyId : Option Uuid
  page : Nat
  pageSize : Nat

/-- A row of a page: the status is read as a `u16`. -/
def usageRow (row : UsageModel) : UsageModel :=
  { row with status := max 0 (min row.status 65535) }

structure UsagePage where
  rows : List UsageModel
  total : Nat
  deriving DecidableEq

/-- The rows that the filter selects, or nothing when a statement with it fails. -/
def run (filter : SqlFilter) (fault : Bool) (table : List UsageModel) : Option (List UsageModel) :=
  if fault ∨ ¬ filter.bindable then none else some (table.filter filter.selects)

/-- The page of a list, newest first. The offset is a saturating `u64` product read as an `i64`, and
a negative offset is an error. -/
def list (params : UsageListParams) (faults : Nat → Bool) (table : List UsageModel) :
    Except String UsagePage :=
  let filter := SqlFilter.fromParams params.since params.till params.provider params.model
    params.status params.userId params.apiKeyId
  match run filter (faults 0) table with
  | none => .error "failed to count usage records"
  | some counted =>
    let offset := min ((params.page - 1) * params.pageSize) (2 ^ 64 - 1)
    match run filter (faults 1) table with
    | none => .error "failed to list usage records"
    | some rows =>
      if 2 ^ 63 ≤ offset then .error "failed to list usage records"
      else .ok
        { rows := (((rows.insertionSort fun a b => b.createdAt ≤ a.createdAt).drop offset).take
            params.pageSize).map usageRow
          total := counted.length }

/-! ## Aggregates -/

inductive SummaryBucket
  | hour
  | day
  deriving DecidableEq

structure UsageSummaryParams where
  since : Option DateTime
  till : Option DateTime
  bucket : SummaryBucket
  userId : Option Uuid

/-- A cost by currency, in the order of the currencies. -/
abbrev CostByCurrency := List (String × ℚ)

structure UsageTotals where
  requests : Nat := 0
  inputTokens : Int := 0
  outputTokens : Int := 0
  totalTokens : Int := 0
  avgLatencyMs : ℚ := 0
  errorRate : ℚ := 0
  cost : CostByCurrency := []
  deriving DecidableEq

structure UsageSeriesPoint where
  bucketStart : DateTime
  requests : Nat
  totalTokens : Int
  cost : CostByCurrency
  deriving DecidableEq

structure UsageBreakdownRow where
  providerId : String
  model : Option String
  requests : Nat
  totalTokens : Int
  cost : CostByCurrency
  deriving DecidableEq

structure UsageSummary where
  totals : UsageTotals := {}
  series : List UsageSeriesPoint := []
  breakdown : List UsageBreakdownRow := []
  deriving DecidableEq

/-- `COALESCE(SUM(…), 0)::bigint`: an error out of the range of `bigint`. -/
def bigint (values : List (Option Int)) : Option Int :=
  let total := (values.map (·.getD 0)).sum
  if -2 ^ 63 ≤ total ∧ total < 2 ^ 63 then some total else none

/-- `SUM` of a numeric column: null when there is nothing to add. -/
def sum (values : List (Option ℚ)) : Option ℚ :=
  if values.reduceOption = [] then none else some values.reduceOption.sum

def foldCost (map : HashMap String ℚ) (currency : Option String) (amount : Option ℚ) :
    HashMap String ℚ :=
  match currency, amount with
  | some currency, some amount => map.insert currency ((map.lookup currency).getD 0 + amount)
  | _, _ => map

/-- The entries of a `BTreeMap`, by key. -/
def entries {K V : Type} [LinearOrder K] (map : HashMap K V) : List (K × V) :=
  (map.keys.sort (· ≤ ·)).filterMap fun k => (map.lookup k).map (k, ·)

theorem mem_entries {K V : Type} [LinearOrder K] {map : HashMap K V} {k : K} {v : V} :
    (k, v) ∈ entries map ↔ map.lookup k = some v := by
  simp only [entries, List.mem_filterMap, Finset.mem_sort, Option.map_eq_some_iff, Prod.mk.injEq]
  constructor
  · rintro ⟨_, _, _, h, rfl, rfl⟩
    exact h
  · intro h
    refine ⟨k, ?_, v, h, rfl, rfl⟩
    rw [Finmap.mem_keys, ← Finmap.lookup_isSome, h]
    rfl

/-- Every key has one entry. -/
theorem entries_keys {K V : Type} [LinearOrder K] (map : HashMap K V) :
    (entries map).map Prod.fst = map.keys.sort (· ≤ ·) := by
  have hkey : ∀ k ∈ map.keys.sort (· ≤ ·),
      ((map.lookup k).map fun v => (k, v)).map Prod.fst = some k := by
    intro k hk
    rw [Finset.mem_sort, Finmap.mem_keys, ← Finmap.lookup_isSome] at hk
    obtain ⟨v, hv⟩ := Option.isSome_iff_exists.1 hk
    rw [hv]
    rfl
  rw [entries, List.map_filterMap, List.filterMap_congr hkey, List.filterMap_some]

def costVec (map : HashMap String ℚ) : CostByCurrency := entries map

/-- A row of an aggregate by a group and the currency. -/
structure GroupRow (G : Type) where
  group : G
  currency : Option String
  requests : Nat
  totalTokens : Int
  amount : Option ℚ

/-- `SELECT …, currency, COUNT(*), SUM(total_tokens), SUM(estimated_cost) … GROUP BY …, currency`;
nothing when a sum is out of range. -/
def aggregate {G : Type} [DecidableEq G] (group : UsageModel → G) (rows : List UsageModel) :
    Option (List (GroupRow G)) :=
  (Table.groupBy (fun row => (group row, row.currency)) rows).mapM fun entry => do
    let totalTokens ← bigint (entry.2.map UsageModel.totalTokens)
    return {
      group := entry.1.1
      currency := entry.1.2
      requests := entry.2.length
      totalTokens := totalTokens
      amount := sum (entry.2.map UsageModel.estimatedCost) }

/-- What the rows of a group add up to. -/
structure Aggregate where
  requests : Nat := 0
  totalTokens : Int := 0
  cost : HashMap String ℚ := ∅

/-- One iteration of the loops over the rows of an aggregate. -/
def foldRow {G : Type} [DecidableEq G] (map : HashMap G Aggregate) (row : GroupRow G) :
    HashMap G Aggregate :=
  let entry := (map.lookup row.group).getD {}
  map.insert row.group
    { requests := entry.requests + row.requests
      totalTokens := entry.totalTokens + row.totalTokens
      cost := foldCost entry.cost row.currency row.amount }

def totals (rows : List UsageModel) : Option UsageTotals := do
  let inputTokens ← bigint (rows.map UsageModel.inputTokens)
  let outputTokens ← bigint (rows.map UsageModel.outputTokens)
  let totalTokens ← bigint (rows.map UsageModel.totalTokens)
  let errors := (rows.filter fun row => 400 ≤ row.status).length
  return {
    requests := rows.length
    inputTokens := inputTokens
    outputTokens := outputTokens
    totalTokens := totalTokens
    avgLatencyMs := if rows = [] then 0 else ((rows.map UsageModel.latencyMs).sum : ℚ) / rows.length
    errorRate := if 0 < rows.length then (errors : ℚ) / rows.length else 0 }

/-- `SELECT currency, SUM(estimated_cost) … AND currency IS NOT NULL AND estimated_cost IS NOT NULL
GROUP BY currency`, folded. -/
def totalCost (rows : List UsageModel) : HashMap String ℚ :=
  let priced := rows.filter fun row => row.currency.isSome ∧ row.estimatedCost.isSome
  (Table.groupBy UsageModel.currency priced).foldl
    (fun map entry => foldCost map entry.1 (sum (entry.2.map UsageModel.estimatedCost))) ∅

/-- The breakdown's key, in the order of a `BTreeMap`. -/
abbrev BreakdownKey := String ×ₗ WithBot String

/-- `dateTrunc` is `date_trunc` in the time zone of the database session. -/
def summary (dateTrunc : SummaryBucket → DateTime → DateTime) (params : UsageSummaryParams)
    (faults : Nat → Bool) (table : List UsageModel) : Except String UsageSummary :=
  let filter := SqlFilter.fromParams params.since params.till none none none params.userId none
  match (run filter (faults 0) table).bind totals with
  | none => .error "failed to aggregate usage totals"
  | some totals =>
    match run filter (faults 1) table with
    | none => .error "failed to aggregate usage cost"
    | some rows =>
      let totals := { totals with cost := costVec (totalCost rows) }
      match (run filter (faults 2) table).bind
          (aggregate fun row => dateTrunc params.bucket row.createdAt) with
      | none => .error "failed to aggregate usage series"
      | some points =>
        match (run filter (faults 3) table).bind
            (aggregate fun row => (toLex (row.providerId, row.upstreamModel) : BreakdownKey)) with
        | none => .error "failed to aggregate usage breakdown"
        | some parts => .ok
          { totals := totals
            series := (entries (points.foldl foldRow ∅)).map fun entry =>
              { bucketStart := entry.1
                requests := entry.2.requests
                totalTokens := entry.2.totalTokens
                cost := costVec entry.2.cost }
            breakdown := (entries (parts.foldl foldRow ∅)).map fun entry =>
              { providerId := (ofLex entry.1).1
                model := (ofLex entry.1).2
                requests := entry.2.requests
                totalTokens := entry.2.totalTokens
                cost := costVec entry.2.cost } }

end UsageQuery

end LiteAgentify
