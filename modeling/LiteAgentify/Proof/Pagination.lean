import LiteAgentify.Lib.Pages
import LiteAgentify.Usage.Query

/-!
# The pages of the usage list

Each page is a query of its own, and `ORDER BY created_at DESC` leaves the order of rows with the
same time to the database, which may choose it anew for every page (`listIn`). The pages up to the
last one have every row once exactly when no page ends between rows of the same time that look
different; a page number beyond them is answered until its offset leaves the `i64` range
(`pages_partition_iff`).
-/

set_option autoImplicit false

namespace LiteAgentify

namespace UsageQuery

/-- `list`, when the database puts the selected rows in the order `arrange`. -/
def listIn (arrange : List UsageModel → List UsageModel) (params : UsageListParams)
    (faults : Nat → Bool) (table : List UsageModel) : Except String UsagePage :=
  let filter := SqlFilter.fromParams params.since params.till params.provider params.model
    params.status params.userId params.apiKeyId
  match run filter (faults 0) table with
  | none => .error "failed to count usage records"
  | some counted =>
    let offset := min ((params.page - 1) * params.pageSize) (2 ^ 64 - 1)
    match run filter (faults 1) table with
    | none => .error "failed to list usage records"
    | some rows =>
      if 2 ^ 63 ≤ offset then .error "failed to list usage records"
      else .ok
        { rows := (((arrange rows).drop offset).take params.pageSize).map usageRow
          total := counted.length }

theorem list_eq_listIn (params : UsageListParams) (faults : Nat → Bool) (table : List UsageModel) :
    list params faults table =
      listIn (fun rows => rows.insertionSort fun a b => b.createdAt ≤ a.createdAt) params faults
        table := rfl

/-- The order that the database gives the rows of each page's query. -/
def Ordered (arrange : Nat → List UsageModel → List UsageModel) : Prop :=
  ∀ page rows, Pages.Arranges UsageModel.createdAt rows (arrange page rows)

section
variable (arrange : Nat → List UsageModel → List UsageModel) (params : UsageListParams)
  (table : List UsageModel)

def UsageListParams.filter : SqlFilter :=
  SqlFilter.fromParams params.since params.till params.provider params.model params.status
    params.userId params.apiKeyId

def UsageListParams.matching : List UsageModel := table.filter params.filter.selects

/-- `ceil(total / page_size)`. -/
def UsageListParams.pageCount : Nat :=
  ((params.matching table).length + params.pageSize - 1) / params.pageSize

/-- What a request for a page is answered, while no statement fails. -/
def answer (page : Nat) : Except String UsagePage :=
  listIn (arrange page) { params with page := page } (fun _ => false) table

/-- The pages up to the last one. -/
structure Partitioned (got : Nat → UsagePage) : Prop where
  answered : ∀ page, 1 ≤ page → page ≤ params.pageCount table →
    answer arrange params table page = .ok (got page)
  total : ∀ page, 1 ≤ page → page ≤ params.pageCount table →
    (got page).total = (params.matching table).length
  once : ((List.range (params.pageCount table)).flatMap fun n => (got (n + 1)).rows).Perm
    ((params.matching table).map usageRow)
  newestFirst : ((List.range (params.pageCount table)).flatMap fun n =>
    (got (n + 1)).rows).Pairwise fun a b => b.createdAt ≤ a.createdAt

/-- The pages have every row once, newest first, however rows of the same time are ordered. -/
def PagesPartition : Prop :=
  ∀ arrange, Ordered arrange → ∃ got, Partitioned arrange params table got

/-- The table and the filter for which they do. -/
structure Pageable : Prop where
  bindable : params.matching table ≠ [] → params.filter.bindable
  offset : (params.pageCount table - 1) * params.pageSize < 2 ^ 63
  tied : Pages.Tied UsageModel.createdAt usageRow params.pageSize (params.matching table)

end

section
variable {arrange : Nat → List UsageModel → List UsageModel} {params : UsageListParams}
  {table : List UsageModel}

variable (table) in
theorem run_eq (h : params.filter.bindable) :
    run params.filter false table = some (params.matching table) :=
  if_neg (by simp [h])

theorem answer_ok (h : params.filter.bindable) {n : Nat}
    (hoffset : n * params.pageSize < 2 ^ 63) :
    answer arrange params table (n + 1) = .ok
      { rows :=
          (Pages.page params.pageSize (arrange (n + 1) (params.matching table)) n).map usageRow
        total := (params.matching table).length } := by
  have hrun := run_eq table h
  unfold answer listIn
  simp only [UsageListParams.filter] at hrun
  simp only [hrun, Nat.add_sub_cancel]
  rw [Nat.min_eq_left (by omega), if_neg (by omega)]
  rfl

/-- What an answer needs. -/
theorem answer_inv {page : Nat} {p : UsagePage} (h : answer arrange params table page = .ok p) :
    params.filter.bindable ∧ (page - 1) * params.pageSize < 2 ^ 63 := by
  unfold answer listIn at h
  cases hb : params.filter.bindable with
  | false =>
    have hrun : run params.filter false table = none := if_pos (by simp [hb])
    simp only [UsageListParams.filter] at hrun
    simp only [hrun] at h
    cases h
  | true =>
    have hrun := run_eq table hb
    simp only [UsageListParams.filter] at hrun
    simp only [hrun] at h
    split at h
    · cases h
    · refine ⟨rfl, ?_⟩
      omega

variable (table) in
theorem length_le_pages (hsize : 1 ≤ params.pageSize) :
    (params.matching table).length ≤ params.pageCount table * params.pageSize := by
  unfold UsageListParams.pageCount
  have hdiv :=
    Nat.div_add_mod ((params.matching table).length + params.pageSize - 1) params.pageSize
  have hmod := Nat.mod_lt ((params.matching table).length + params.pageSize - 1) hsize
  rw [Nat.mul_comm] at hdiv
  omega

variable (arrange params table) in
theorem flatMap_answers {got : Nat → UsagePage}
    (h : ∀ n < params.pageCount table, (got (n + 1)).rows =
      (Pages.page params.pageSize (arrange (n + 1) (params.matching table)) n).map usageRow) :
    (List.range (params.pageCount table)).flatMap (fun n => (got (n + 1)).rows) =
      (Pages.pages params.pageSize (params.pageCount table) fun n =>
        arrange (n + 1) (params.matching table)).map usageRow := by
  rw [Pages.pages, List.map_flatMap]
  exact congrArg List.flatten (List.map_congr_left fun n hn => h n (List.mem_range.1 hn))

theorem Pageable.partitioned (h : Pageable params table) (hsize : 1 ≤ params.pageSize) :
    PagesPartition params table := by
  intro arrange harrange
  have hcover := length_le_pages table hsize
  let got : Nat → UsagePage := fun page =>
    { rows := (Pages.page params.pageSize (arrange page (params.matching table)) (page - 1)).map
        usageRow
      total := (params.matching table).length }
  have hrows : (List.range (params.pageCount table)).flatMap (fun n => (got (n + 1)).rows) = _ :=
    flatMap_answers arrange params table fun n _ => rfl
  have hordered := fun n => harrange (n + 1) (params.matching table)
  refine ⟨got, fun page hlow hhigh => ?_, fun _ _ _ => rfl, ?_, ?_⟩
  · obtain ⟨n, rfl⟩ := Nat.exists_eq_add_of_le' hlow
    have hbindable : params.filter.bindable := by
      refine h.bindable fun hnil => ?_
      rw [UsageListParams.pageCount, hnil, List.length_nil,
        Nat.div_eq_of_lt (by omega)] at hhigh
      omega
    refine answer_ok hbindable ((Nat.mul_le_mul_right _ ?_).trans_lt h.offset)
    omega
  · rw [hrows]
    exact (Pages.pages_perm_iff hcover).2 h.tied _ hordered
  · rw [hrows]
    exact List.pairwise_map.2 (Pages.pages_sorted hordered)

/-- An order of the rows for each page, as one order for the rows of the table. -/
def orderOf (order : Nat → List UsageModel) (rows : List UsageModel) (page : Nat)
    (selected : List UsageModel) : List UsageModel :=
  if selected = rows then order (page - 1)
  else selected.insertionSort fun a b => b.createdAt ≤ a.createdAt

theorem PagesPartition.pageable (h : PagesPartition params table) (hsize : 1 ≤ params.pageSize) :
    Pageable params table := by
  have hcover := length_le_pages table hsize
  have hordered : ∀ order : Nat → List UsageModel,
      (∀ n, Pages.Arranges UsageModel.createdAt (params.matching table) (order n)) →
        Ordered (orderOf order (params.matching table)) := by
    intro order horder page rows
    unfold orderOf
    split
    · rename_i hrows
      rw [hrows]
      exact horder (page - 1)
    · exact Pages.insertionSort_arranges _ _
  have hfirst := fun n : Nat =>
    Pages.insertionSort_arranges UsageModel.createdAt (params.matching table)
  obtain ⟨got, hgot⟩ := h _ (hordered _ hfirst)
  refine ⟨fun hne => ?_, ?_, (Pages.pages_perm_iff hcover).1 fun order horder => ?_⟩
  · have hlen := List.length_pos_iff.2 hne
    refine (answer_inv (hgot.answered 1 le_rfl (Nat.pos_of_ne_zero fun hnone => ?_))).1
    rw [hnone, Nat.zero_mul] at hcover
    omega
  · by_cases hnone : params.pageCount table = 0
    · simp [hnone]
    · exact (answer_inv (hgot.answered _ (by omega) le_rfl)).2
  · obtain ⟨got, hgot⟩ := h _ (hordered order horder)
    have hshown : ∀ n < params.pageCount table, (got (n + 1)).rows =
        (Pages.page params.pageSize (orderOf order (params.matching table) (n + 1)
          (params.matching table)) n).map usageRow := by
      intro n hn
      have hanswer := hgot.answered (n + 1) (by omega) hn
      obtain ⟨hbindable, hoffset⟩ := answer_inv hanswer
      rw [Nat.add_sub_cancel] at hoffset
      rw [answer_ok hbindable hoffset] at hanswer
      injection hanswer with hpage
      rw [← hpage]
    have hrows := flatMap_answers _ params table hshown
    have hsame : (fun n => orderOf order (params.matching table) (n + 1) (params.matching table)) =
        order := by
      funext n
      exact if_pos rfl
    rw [← hsame, ← hrows]
    exact hgot.once

theorem answer_empty_iff (harrange : Ordered arrange) (hsize : 1 ≤ params.pageSize) {page : Nat}
    (hbeyond : params.pageCount table < page) :
    (∃ p, answer arrange params table page = .ok p ∧ p.rows = []) ↔
      params.filter.bindable ∧ (page - 1) * params.pageSize < 2 ^ 63 := by
  constructor
  · rintro ⟨p, hp, -⟩
    exact answer_inv hp
  · rintro ⟨hbindable, hoffset⟩
    obtain ⟨n, rfl⟩ : ∃ n, page = n + 1 := ⟨page - 1, by omega⟩
    refine ⟨_, answer_ok hbindable hoffset, ?_⟩
    have hend : (params.matching table).length ≤ n * params.pageSize :=
      (length_le_pages table hsize).trans (Nat.mul_le_mul_right _ (by omega))
    have hlen := (harrange (n + 1) (params.matching table)).perm.length_eq
    rw [Pages.page, List.drop_eq_nil_of_le (by omega), List.take_nil, List.map_nil]

end

/-- **When the pages partition the rows**, and which pages beyond the last one are answered. -/
theorem pages_partition_iff (params : UsageListParams)
    (hsize : 1 ≤ params.pageSize ∧ params.pageSize ≤ 200) (table : List UsageModel) :
    (PagesPartition params table ↔ Pageable params table) ∧
      ∀ arrange, Ordered arrange → ∀ page, params.pageCount table < page → page < 2 ^ 64 →
        ((∃ p, answer arrange params table page = .ok p ∧ p.rows = []) ↔
          params.filter.bindable ∧ (page - 1) * params.pageSize < 2 ^ 63) :=
  ⟨⟨fun h => h.pageable hsize.1, fun h => h.partitioned hsize.1⟩,
    fun _ harrange _ hbeyond _ => answer_empty_iff harrange hsize.1 hbeyond⟩

/-- A row of a table, told by its request. -/
def pagedRow (requestId : String) (createdAt : DateTime) : UsageModel where
  requestId := requestId
  createdAt := createdAt
  providerId := "p"
  protocol := "openai"
  path := "/v1/chat/completions"
  userId := none
  apiKeyId := none
  requestedModel := none
  upstreamModel := none
  status := 200
  latencyMs := 1
  inputTokens := none
  outputTokens := none
  cachedInputTokens := none
  cacheReadTokens := none
  cacheWriteTokens := none
  totalTokens := none
  estimatedCost := none
  currency := none
  usageSource := "none"

/-- Every row, in pages of a size. -/
def everyRow (pageSize : Nat) : UsageListParams where
  since := none
  till := none
  provider := none
  model := none
  status := none
  userId := none
  apiKeyId := none
  page := 1
  pageSize := pageSize

theorem matching_everyRow (pageSize : Nat) (table : List UsageModel) :
    (everyRow pageSize).matching table = table :=
  List.filter_eq_self.2 fun _ _ => rfl

/-- Five rows as they were written; two pairs have one time. -/
def tiedRows : List UsageModel :=
  [pagedRow "a" 1, pagedRow "b" 2, pagedRow "c" 0, pagedRow "d" 2, pagedRow "e" 1]

/-- Three pages of two rows: every pair of one time is on a page of its own. -/
theorem tied_rows_paged :
    PagesPartition (everyRow 2) tiedRows ∧ (everyRow 2).pageCount tiedRows = 3 ∧
      ∃ p, answer (fun _ rows => rows.insertionSort fun a b => b.createdAt ≤ a.createdAt)
        (everyRow 2) tiedRows 4 = .ok p ∧ p.rows = [] := by
  obtain ⟨hpages, hbeyond⟩ := pages_partition_iff (everyRow 2) (by decide) tiedRows
  refine ⟨hpages.2 ⟨fun _ => rfl, by decide, ?_⟩, by decide, (hbeyond _ (fun _ rows =>
    Pages.insertionSort_arranges _ rows) 4 (by decide) (by decide)).2 ⟨rfl, by decide⟩⟩
  rw [matching_everyRow]
  intro t k heven hlow hhigh a ha _ _ hat _
  -- a page ends after an even number of rows, so never between two of one time
  obtain ⟨n, rfl⟩ : ∃ n, k = 2 * n := heven
  have htime : ∀ row ∈ tiedRows, row.createdAt = 0 ∨ row.createdAt = 1 ∨ row.createdAt = 2 := by
    decide
  have ht := htime a ha
  rw [hat] at ht
  exfalso
  rcases ht with rfl | rfl | rfl
  · have habove : tiedRows.countP (fun row => decide (0 < row.createdAt)) = 4 := by decide
    have hupto : tiedRows.countP (fun row => decide (0 ≤ row.createdAt)) = 5 := by decide
    omega
  · have habove : tiedRows.countP (fun row => decide (1 < row.createdAt)) = 2 := by decide
    have hupto : tiedRows.countP (fun row => decide (1 ≤ row.createdAt)) = 4 := by decide
    omega
  · have hupto : tiedRows.countP (fun row => decide (2 ≤ row.createdAt)) = 2 := by decide
    omega

/-- The last page number that a request can name, and two rows of one time. -/
theorem last_page_and_tied_rows :
    list { everyRow 50 with page := 2 ^ 64 - 1 } (fun _ => false) [] =
        .error "failed to list usage records" ∧
      ¬ PagesPartition (everyRow 1) [pagedRow "a" 0, pagedRow "b" 0] := by
  refine ⟨by decide, fun h => ?_⟩
  have htied := (h.pageable le_rfl).tied
  rw [matching_everyRow] at htied
  have := htied 0 1 (one_dvd _) (by decide) (by decide) (pagedRow "a" 0) (by simp)
    (pagedRow "b" 0) (by simp) rfl rfl
  revert this
  decide

end UsageQuery

end LiteAgentify
