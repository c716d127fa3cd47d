import LiteAgentify.Lib.Assoc
import LiteAgentify.Lib.Groups
import LiteAgentify.Usage.Memory
import Mathlib.Data.List.ReduceOption

/-!
# The dashboard's aggregates

The database groups the rows by a key and the currency, and the code folds the groups back to the
key; the recorder in memory adds row by row. Both make the same map (`foldl_exactRows`), and the
entries of the map add up to the rows (`summary_conserves`).
-/

set_option autoImplicit false

namespace LiteAgentify

namespace UsageQuery

open MemoryUsageRecorder (addRecord)

/-! ## Costs -/

/-- The costs of rows, one after another. -/
def addCosts (map : HashMap String ℚ) (rows : List UsageModel) : HashMap String ℚ :=
  rows.foldl (fun map row => foldCost map row.currency row.estimatedCost) map

section
variable {map : HashMap String ℚ} {currency currency' : Option String} {amount amount' : Option ℚ}
  {rows : List UsageModel}

theorem foldCost_comm : foldCost (foldCost map currency amount) currency' amount' =
    foldCost (foldCost map currency' amount') currency amount := by
  cases currency with
  | none => rfl
  | some c =>
    cases amount with
    | none => rfl
    | some a =>
      cases currency' with
      | none => rfl
      | some c' =>
        cases amount' with
        | none => rfl
        | some a' =>
          exact Groups.upsert_comm (d := 0) (f := (· + a)) (g := (· + a'))
            fun v => add_right_comm v a a'

theorem addCosts_perm {rows' : List UsageModel} (h : rows.Perm rows') :
    addCosts map rows = addCosts map rows' :=
  h.foldl_eq' (fun _ _ _ _ _ => foldCost_comm) map

theorem sum_cons_some (a : ℚ) (values : List (Option ℚ)) :
    sum (some a :: values) = some (a + (sum values).getD 0) := by
  unfold sum
  rw [List.reduceOption_cons_of_some, if_neg (List.cons_ne_nil _ _), List.sum_cons]
  split
  · rename_i hnil
    rw [hnil]
    rfl
  · rfl

/-- The costs of rows of one currency are folded at once. -/
theorem addCosts_currency (h : ∀ row ∈ rows, row.currency = currency) :
    addCosts map rows = foldCost map currency (sum (rows.map UsageModel.estimatedCost)) := by
  induction rows generalizing map with
  | nil => cases currency <;> rfl
  | cons row rows ih =>
    obtain ⟨hrow, hrows⟩ := List.forall_mem_cons.1 h
    rw [addCosts, List.foldl_cons, ← addCosts, ih hrows, hrow, List.map_cons]
    cases currency with
    | none => rfl
    | some c =>
      cases row.estimatedCost with
      | none => rfl
      | some a =>
        rw [sum_cons_some]
        cases sum (rows.map UsageModel.estimatedCost) with
        | none => simp [foldCost]
        | some b =>
          exact (Groups.upsert_upsert (d := 0) (· + a) (· + b)).trans
            (by simp only [add_assoc]; rfl)

/-- `GROUP BY currency` of the priced rows, folded, has the costs of all. -/
theorem totalCost_eq (rows : List UsageModel) : totalCost rows = addCosts ∅ rows := by
  have hskip : addCosts ∅ rows =
      addCosts ∅ (rows.filter fun row => row.currency.isSome ∧ row.estimatedCost.isSome) := by
    rw [addCosts, addCosts, List.foldl_filter]
    congr 1
    funext map row
    cases row.currency with
    | none => simp [foldCost]
    | some c => cases row.estimatedCost <;> simp [foldCost]
  rw [hskip, totalCost]
  rw [← addCosts_perm (Table.groupBy_perm UsageModel.currency _), addCosts, List.foldl_flatMap]
  refine List.foldl_ext _ _ _ fun map entry hentry => ?_
  exact (addCosts_currency (Table.mem_groupBy hentry).2).symm

end

/-! ## Groups -/

/-- `COALESCE(SUM(…), 0)`. -/
def exactSum (values : List (Option Int)) : Int := (values.map (·.getD 0)).sum

/-- The sum is in the range of `bigint`. -/
def FitsBigint (values : List (Option Int)) : Prop :=
  -2 ^ 63 ≤ exactSum values ∧ exactSum values < 2 ^ 63

instance (values : List (Option Int)) : Decidable (FitsBigint values) :=
  inferInstanceAs (Decidable (_ ∧ _))

theorem bigint_eq (values : List (Option Int)) :
    bigint values = if FitsBigint values then some (exactSum values) else none := rfl

/-- A row of an aggregate whose sum is exact. -/
def exactRow {G : Type} (entry : (G × Option String) × List UsageModel) : GroupRow G where
  group := entry.1.1
  currency := entry.1.2
  requests := entry.2.length
  totalTokens := exactSum (entry.2.map UsageModel.totalTokens)
  amount := sum (entry.2.map UsageModel.estimatedCost)

theorem mapM_ite {α β : Type} (p : α → Prop) [DecidablePred p] (f : α → β) (xs : List α) :
    xs.mapM (fun x => if p x then some (f x) else none) =
      if ∀ x ∈ xs, p x then some (xs.map f) else none := by
  induction xs with
  | nil => simp
  | cons x xs ih =>
    rw [List.mapM_cons, ih]
    by_cases hx : p x
    · rw [if_pos hx]
      by_cases hxs : ∀ x ∈ xs, p x
      · rw [if_pos hxs, if_pos (List.forall_mem_cons.2 ⟨hx, hxs⟩)]
        rfl
      · rw [if_neg hxs, if_neg fun h => hxs (List.forall_mem_cons.1 h).2]
        rfl
    · rw [if_neg hx, if_neg fun h => hx (List.forall_mem_cons.1 h).1]
      rfl

section
variable {G : Type} [DecidableEq G] (group : UsageModel → G) (rows : List UsageModel)

def groupsOf : List ((G × Option String) × List UsageModel) :=
  Table.groupBy (fun row => (group row, row.currency)) rows

theorem aggregate_eq :
    aggregate group rows =
      if ∀ entry ∈ groupsOf group rows, FitsBigint (entry.2.map UsageModel.totalTokens) then
        some ((groupsOf group rows).map exactRow)
      else none := by
  rw [← mapM_ite, aggregate, groupsOf]
  congr 1
  funext entry
  rw [bigint_eq]
  split <;> rfl

theorem foldl_addRecord (entry : Aggregate) (rows : List UsageModel) :
    rows.foldl addRecord entry =
      { requests := entry.requests + rows.length
        totalTokens := entry.totalTokens + exactSum (rows.map UsageModel.totalTokens)
        cost := addCosts entry.cost rows } := by
  induction rows generalizing entry with
  | nil => simp [exactSum, addCosts]
  | cons row rows ih =>
    rw [List.foldl_cons, ih]
    simp [addRecord, exactSum, addCosts, add_assoc, add_comm 1]

theorem addRecord_comm (entry : Aggregate) (row row' : UsageModel) :
    addRecord (addRecord entry row) row' = addRecord (addRecord entry row') row := by
  have hcost := @foldCost_comm entry.cost row.currency row'.currency row.estimatedCost
    row'.estimatedCost
  simp only [addRecord, hcost, add_right_comm]

/-- What the recorder in memory collects by a key. -/
def collected : HashMap G Aggregate := Groups.collect {} group addRecord ∅ rows

/-- **The groups fold back** to what adding row by row makes. -/
theorem foldl_exactRows :
    ((groupsOf group rows).map exactRow).foldl foldRow ∅ = collected group rows := by
  rw [List.foldl_map, collected, ← Groups.collect_groupBy
    (fun row : UsageModel => (group row, row.currency)) Prod.fst addRecord_comm fun _ => rfl]
  refine List.foldl_ext _ _ _ fun map entry hentry => ?_
  have hcurrency : ∀ row ∈ entry.2, row.currency = entry.1.2 := fun row hrow =>
    congrArg Prod.snd ((Table.mem_groupBy hentry).2 row hrow)
  unfold foldRow Groups.upsert
  dsimp only [exactRow]
  rw [foldl_addRecord, addCosts_currency hcurrency]

end

/-! ## Entries -/

theorem sum_entries {K V M : Type} [LinearOrder K] [AddCommMonoid M] (φ : V → M)
    (map : HashMap K V) : ((entries map).map fun entry => φ entry.2).sum = Groups.total φ map := by
  have hlist : ∀ keys : List K, ((keys.filterMap fun k => (map.lookup k).map (k, ·)).map
      fun entry => φ entry.2).sum = (keys.map fun k => ((map.lookup k).map φ).getD 0).sum := by
    intro keys
    induction keys with
    | nil => rfl
    | cons k keys ih =>
      rw [List.filterMap_cons, List.map_cons, List.sum_cons]
      cases map.lookup k with
      | none => simpa using ih
      | some v => simp [ih]
  rw [entries, hlist, ← List.sum_toFinset _ (Finset.sort_nodup _ _), Finset.sort_toFinset,
    Groups.total]

/-- What a cost list has of a currency. -/
def costAt (cost : CostByCurrency) (currency : String) : ℚ :=
  ((cost.filter (·.1 = currency)).map Prod.snd).sum

theorem entries_nodup {K V : Type} [LinearOrder K] (map : HashMap K V) :
    ((entries map).map Prod.fst).Nodup := by
  rw [entries_keys]
  exact Finset.sort_nodup _ _

theorem costAt_eq_lookup {cost : CostByCurrency} (h : (cost.map Prod.fst).Nodup)
    (currency : String) : costAt cost currency = (cost.lookup currency).getD 0 := by
  unfold costAt
  induction cost with
  | nil => rfl
  | cons entry cost ih =>
    obtain ⟨hnew, h⟩ := List.nodup_cons.1 h
    rw [List.lookup_cons]
    by_cases hc : entry.1 = currency
    · have hnone : cost.filter (·.1 = currency) = [] := by
        refine List.filter_eq_nil_iff.2 fun e he heq => hnew ?_
        rw [hc, ← of_decide_eq_true heq]
        exact List.mem_map_of_mem he
      rw [List.filter_cons, if_pos (decide_eq_true hc), hnone, beq_iff_eq.2 hc.symm]
      simp
    · rw [List.filter_cons_of_neg (by simpa using hc), ih h, beq_eq_false_iff_ne.2 (Ne.symm hc)]

theorem costAt_costVec (map : HashMap String ℚ) (currency : String) :
    costAt (costVec map) currency = (map.lookup currency).getD 0 := by
  have hnodup : ((costVec map).map Prod.fst).Nodup := entries_nodup map
  have hlookup : (costVec map).lookup currency = map.lookup currency := by
    ext amount
    rw [Assoc.lookup_iff_mem hnodup]
    exact mem_entries
  rw [costAt_eq_lookup hnodup, hlookup]

/-- What a row costs in a currency. -/
def UsageModel.costIn (currency : String) (row : UsageModel) : ℚ :=
  if row.currency = some currency then row.estimatedCost.getD 0 else 0

theorem lookup_foldCost (map : HashMap String ℚ) (currency : String) (row : UsageModel) :
    ((foldCost map row.currency row.estimatedCost).lookup currency).getD 0 =
      (map.lookup currency).getD 0 + row.costIn currency := by
  unfold UsageModel.costIn
  cases row.currency with
  | none => simp [foldCost]
  | some c =>
    cases row.estimatedCost with
    | none => simp [foldCost]
    | some a =>
      by_cases hc : c = currency
      · subst hc
        simp [foldCost]
      · simp [foldCost, hc, Finmap.lookup_insert_of_ne _ (Ne.symm hc)]

theorem lookup_addCosts (map : HashMap String ℚ) (currency : String) (rows : List UsageModel) :
    ((addCosts map rows).lookup currency).getD 0 =
      (map.lookup currency).getD 0 + (rows.map (UsageModel.costIn currency)).sum := by
  induction rows generalizing map with
  | nil => simp [addCosts]
  | cons row rows ih =>
    rw [addCosts, List.foldl_cons, ← addCosts, ih, lookup_foldCost, List.map_cons, List.sum_cons,
      add_assoc]

section
variable {G : Type} [LinearOrder G] (group : UsageModel → G) (rows : List UsageModel)

/-- What every row adds to its entry is the sum over the entries. -/
theorem sum_collected {M : Type} [AddCommMonoid M] (φ : Aggregate → M) (δ : UsageModel → M)
    (hd : φ {} = 0) (hstep : ∀ entry row, φ (addRecord entry row) = φ entry + δ row) :
    ((entries (collected group rows)).map fun entry => φ entry.2).sum = (rows.map δ).sum := by
  rw [sum_entries, collected, Groups.total_collect hd hstep]
  simp [Groups.total]

theorem collected_requests :
    ((entries (collected group rows)).map fun entry => entry.2.requests).sum = rows.length := by
  rw [sum_collected group rows Aggregate.requests (fun _ => 1) rfl fun _ _ => rfl]
  simp

theorem collected_tokens :
    ((entries (collected group rows)).map fun entry => entry.2.totalTokens).sum =
      exactSum (rows.map UsageModel.totalTokens) := by
  rw [sum_collected group rows Aggregate.totalTokens (·.totalTokens.getD 0) rfl fun _ _ => rfl,
    exactSum, List.map_map]
  rfl

theorem collected_cost (currency : String) :
    ((entries (collected group rows)).map fun entry => costAt (costVec entry.2.cost) currency).sum =
      costAt (costVec (addCosts ∅ rows)) currency := by
  simp only [costAt_costVec]
  rw [sum_collected group rows (fun entry => (entry.cost.lookup currency).getD 0)
    (UsageModel.costIn currency) (by simp)
    fun entry row => lookup_foldCost entry.cost currency row, lookup_addCosts]
  simp

end

/-! ## Summaries -/

def UsageSummaryParams.filter (params : UsageSummaryParams) : SqlFilter :=
  SqlFilter.fromParams params.since params.till none none none params.userId none

def UsageSummaryParams.matching (params : UsageSummaryParams) (table : List UsageModel) :
    List UsageModel :=
  table.filter params.filter.selects

/-- The keys of the series and of the breakdown. -/
def bucketOf (params : UsageSummaryParams) (row : UsageModel) : DateTime :=
  dateTruncUtc params.bucket row.createdAt

def partOf (row : UsageModel) : BreakdownKey := toLex (row.providerId, row.upstreamModel)

/-- Every sum of a statement is in the range of the type that it is cast to. -/
structure ExactSums (params : UsageSummaryParams) (table : List UsageModel) : Prop where
  inputTokens : FitsBigint ((params.matching table).map UsageModel.inputTokens)
  outputTokens : FitsBigint ((params.matching table).map UsageModel.outputTokens)
  totalTokens : FitsBigint ((params.matching table).map UsageModel.totalTokens)
  series : ∀ group ∈ groupsOf (bucketOf params) (params.matching table),
    FitsBigint (group.2.map UsageModel.totalTokens)
  breakdown : ∀ group ∈ groupsOf partOf (params.matching table),
    FitsBigint (group.2.map UsageModel.totalTokens)

/-- The totals without the costs. -/
def exactTotals (rows : List UsageModel) : UsageTotals where
  requests := rows.length
  inputTokens := exactSum (rows.map UsageModel.inputTokens)
  outputTokens := exactSum (rows.map UsageModel.outputTokens)
  totalTokens := exactSum (rows.map UsageModel.totalTokens)
  avgLatencyMs := if rows = [] then 0 else ((rows.map UsageModel.latencyMs).sum : ℚ) / rows.length
  errorRate :=
    if 0 < rows.length then ((rows.filter fun row => 400 ≤ row.status).length : ℚ) / rows.length
    else 0

/-- The summary that adds row by row. -/
def exactSummary (params : UsageSummaryParams) (rows : List UsageModel) : UsageSummary where
  totals := { exactTotals rows with cost := costVec (addCosts ∅ rows) }
  series := (entries (collected (bucketOf params) rows)).map fun entry =>
    { bucketStart := entry.1
      requests := entry.2.requests
      totalTokens := entry.2.totalTokens
      cost := costVec entry.2.cost }
  breakdown := (entries (collected partOf rows)).map fun entry =>
    { providerId := (ofLex entry.1).1
      model := (ofLex entry.1).2
      requests := entry.2.requests
      totalTokens := entry.2.totalTokens
      cost := costVec entry.2.cost }

theorem totals_eq (rows : List UsageModel) :
    totals rows =
      if FitsBigint (rows.map UsageModel.inputTokens) ∧
          FitsBigint (rows.map UsageModel.outputTokens) ∧
          FitsBigint (rows.map UsageModel.totalTokens) then
        some (exactTotals rows)
      else none := by
  have hbind : totals rows = (bigint (rows.map UsageModel.inputTokens)).bind fun input =>
      (bigint (rows.map UsageModel.outputTokens)).bind fun output =>
      (bigint (rows.map UsageModel.totalTokens)).bind fun total =>
      some { exactTotals rows with
        inputTokens := input, outputTokens := output, totalTokens := total } := rfl
  rw [hbind, bigint_eq, bigint_eq, bigint_eq]
  by_cases hall : FitsBigint (rows.map UsageModel.inputTokens) ∧
      FitsBigint (rows.map UsageModel.outputTokens) ∧ FitsBigint (rows.map UsageModel.totalTokens)
  · obtain ⟨hi, ho, ht⟩ := hall
    rw [if_pos hi, if_pos ho, if_pos ht, if_pos ⟨hi, ho, ht⟩]
    rfl
  · rw [if_neg hall]
    by_cases hi : FitsBigint (rows.map UsageModel.inputTokens)
    · by_cases ho : FitsBigint (rows.map UsageModel.outputTokens)
      · rw [if_pos hi, if_pos ho, if_neg fun ht => hall ⟨hi, ho, ht⟩]
        rfl
      · rw [if_pos hi, if_neg ho]
        rfl
    · rw [if_neg hi]
      rfl

/-- The filter binds times and an id. -/
theorem UsageSummaryParams.bindable (params : UsageSummaryParams) : params.filter.bindable := by
  unfold UsageSummaryParams.filter SqlFilter.fromParams
  cases params.since <;> cases params.till <;> cases params.userId <;> rfl

theorem summary_ok_iff (params : UsageSummaryParams) (table : List UsageModel) (s : UsageSummary) :
    summary dateTruncUtc params (fun _ => false) table = .ok s ↔
      ExactSums params table ∧ s = exactSummary params (params.matching table) := by
  have hrun : run params.filter false table = some (params.matching table) :=
    if_neg (by simp [params.bindable])
  have hsums : ExactSums params table ↔
      (FitsBigint ((params.matching table).map UsageModel.inputTokens) ∧
        FitsBigint ((params.matching table).map UsageModel.outputTokens) ∧
        FitsBigint ((params.matching table).map UsageModel.totalTokens)) ∧
      (∀ group ∈ groupsOf (bucketOf params) (params.matching table),
        FitsBigint (group.2.map UsageModel.totalTokens)) ∧
      ∀ group ∈ groupsOf partOf (params.matching table),
        FitsBigint (group.2.map UsageModel.totalTokens) := by
    constructor
    · intro h
      exact ⟨⟨h.inputTokens, h.outputTokens, h.totalTokens⟩, h.series, h.breakdown⟩
    · rintro ⟨⟨hi, ho, ht⟩, hs, hb⟩
      exact ⟨hi, ho, ht, hs, hb⟩
  have hseries := aggregate_eq (bucketOf params) (params.matching table)
  have hbreakdown := aggregate_eq partOf (params.matching table)
  have hclash : ∀ (e : String) (s : UsageSummary), Except.error e ≠ Except.ok s := by
    intro e s h
    cases h
  simp only [UsageSummaryParams.filter] at hrun
  simp only [summary, hrun, Option.bind_some]
  change (aggregate (fun row => dateTruncUtc params.bucket row.createdAt) _ = _) at hseries
  change (aggregate (fun row => (toLex (row.providerId, row.upstreamModel) : BreakdownKey)) _ = _)
    at hbreakdown
  rw [hsums, totals_eq, hseries, hbreakdown]
  by_cases ht : FitsBigint ((params.matching table).map UsageModel.inputTokens) ∧
      FitsBigint ((params.matching table).map UsageModel.outputTokens) ∧
      FitsBigint ((params.matching table).map UsageModel.totalTokens)
  · by_cases hs : ∀ group ∈ groupsOf (bucketOf params) (params.matching table),
        FitsBigint (group.2.map UsageModel.totalTokens)
    · by_cases hb : ∀ group ∈ groupsOf partOf (params.matching table),
          FitsBigint (group.2.map UsageModel.totalTokens)
      · rw [if_pos ht, if_pos hs, if_pos hb]
        simp only [foldl_exactRows, totalCost_eq]
        constructor
        · intro h
          injection h with h
          exact ⟨⟨ht, hs, hb⟩, h.symm⟩
        · rintro ⟨-, rfl⟩
          rfl
      · rw [if_pos ht, if_pos hs, if_neg hb]
        exact iff_of_false (hclash _ s) fun h => hb h.1.2.2
    · rw [if_pos ht, if_neg hs]
      exact iff_of_false (hclash _ s) fun h => hs h.1.2.1
  · rw [if_neg ht]
    exact iff_of_false (hclash _ s) fun h => ht h.1.1

/-- The parts of a summary have distinct keys and add up to its totals. -/
structure Conserves (s : UsageSummary) : Prop where
  seriesKeys : (s.series.map UsageSeriesPoint.bucketStart).Nodup
  seriesRequests : (s.series.map UsageSeriesPoint.requests).sum = s.totals.requests
  seriesTokens : (s.series.map UsageSeriesPoint.totalTokens).sum = s.totals.totalTokens
  seriesCost : ∀ currency, (s.series.map fun point => costAt point.cost currency).sum =
    costAt s.totals.cost currency
  breakdownKeys : (s.breakdown.map fun row => (row.providerId, row.model)).Nodup
  breakdownRequests : (s.breakdown.map UsageBreakdownRow.requests).sum = s.totals.requests
  breakdownTokens : (s.breakdown.map UsageBreakdownRow.totalTokens).sum = s.totals.totalTokens
  breakdownCost : ∀ currency, (s.breakdown.map fun row => costAt row.cost currency).sum =
    costAt s.totals.cost currency

theorem exactSummary_conserves (params : UsageSummaryParams) (rows : List UsageModel) :
    Conserves (exactSummary params rows) := by
  refine ⟨?_, ?_, ?_, fun currency => ?_, ?_, ?_, ?_, fun currency => ?_⟩ <;>
    simp only [exactSummary, List.map_map]
  · exact entries_nodup _
  · exact collected_requests _ rows
  · exact collected_tokens _ rows
  · exact collected_cost _ rows currency
  · have hinjective : Function.Injective fun key : BreakdownKey =>
        ((ofLex key).1, ((ofLex key).2 : Option String)) := fun a b h =>
      ofLex.injective (Prod.ext (congrArg Prod.fst h) (congrArg Prod.snd h))
    have hkeys := (entries_nodup (collected partOf rows)).map hinjective
    rw [List.map_map] at hkeys
    exact hkeys
  · exact collected_requests _ rows
  · exact collected_tokens _ rows
  · exact collected_cost _ rows currency

/-! ## The recorder in memory -/

theorem sum_filterMap (f : UsageModel → Option Int) (rows : List UsageModel) :
    (rows.filterMap f).sum = exactSum (rows.map f) := by
  unfold exactSum
  induction rows with
  | nil => rfl
  | cons row rows ih =>
    rw [List.filterMap_cons, List.map_cons, List.map_cons, List.sum_cons]
    cases f row with
    | none => simpa using ih
    | some n => simp [ih]

theorem foldl_pair {A B X : Type} (f : A → X → A) (g : B → X → B) (xs : List X) (a : A) (b : B) :
    xs.foldl (fun (both : A × B) x => (f both.1 x, g both.2 x)) (a, b) =
      (xs.foldl f a, xs.foldl g b) := by
  induction xs generalizing a b with
  | nil => rfl
  | cons x xs ih => exact ih (f a x) (g b x)

theorem memory_summary_eq (params : UsageSummaryParams) (table : List UsageModel) :
    MemoryUsageRecorder.summary params table = exactSummary params (params.matching table) := by
  have hmatching : MemoryUsageRecorder.filtered params.since params.till none none none
      params.userId none table = params.matching table := by
    refine List.filter_congr fun row _ => ?_
    rw [UsageSummaryParams.filter, SqlFilter.selects_eq_accepts]
  have hmaps : (params.matching table).foldl
      (fun (maps : HashMap DateTime Aggregate × HashMap BreakdownKey Aggregate) record =>
        (MemoryUsageRecorder.addTo maps.1 (dateTruncUtc params.bucket record.createdAt) record,
          MemoryUsageRecorder.addTo maps.2 (toLex (record.providerId, record.upstreamModel))
            record))
      (∅, ∅) =
      (collected (bucketOf params) (params.matching table),
        collected partOf (params.matching table)) :=
    foldl_pair (fun map record => MemoryUsageRecorder.addTo map (bucketOf params record) record)
      (fun map record => MemoryUsageRecorder.addTo map (partOf record) record) _ _ _
  have haverage : ∀ (rows : List UsageModel) (average : ℚ),
      (if 0 < rows.length then average else 0) = if rows = [] then 0 else average := by
    intro rows average
    cases rows <;> rfl
  simp only [MemoryUsageRecorder.summary, hmatching, sum_filterMap,
    MemoryUsageRecorder.truncateToBucket_eq, hmaps]
  rw [haverage]
  rfl

/-- **The dashboard conserves the rows.** The summary is answered while its sums are exact, and then
its parts add up to its totals and it is, apart from the average, that of the recorder in memory. -/
theorem summary_conserves (params : UsageSummaryParams) (table : List UsageModel) :
    ((∃ s, summary dateTruncUtc params (fun _ => false) table = .ok s) ↔
        ExactSums params table) ∧
      ∀ s, summary dateTruncUtc params (fun _ => false) table = .ok s →
        Conserves s ∧
          { s.totals with avgLatencyMs := 0 } =
            { (MemoryUsageRecorder.summary params table).totals with avgLatencyMs := 0 } ∧
          s.series = (MemoryUsageRecorder.summary params table).series ∧
          s.breakdown = (MemoryUsageRecorder.summary params table).breakdown := by
  refine ⟨?_, fun s hs => ?_⟩
  · simp only [summary_ok_iff, exists_and_left, exists_eq, and_true]
  · obtain ⟨-, rfl⟩ := (summary_ok_iff params table s).1 hs
    rw [memory_summary_eq]
    exact ⟨exactSummary_conserves params _, rfl, rfl, rfl⟩

end UsageQuery

end LiteAgentify
