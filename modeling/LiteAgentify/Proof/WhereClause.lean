import LiteAgentify.Usage.SqlText

/-!
# The text of the filter and its meaning

The text that is assembled in parallel with the values is the writing of a list of clauses
(`text_fromParams`); the clauses are numbered through and of the types of their values
(`SqlFilter.Coherent`), so that the text parses to their conditions, and these are true on the rows
that the predicate of the recorder in memory accepts (`whereClause_refines`).
-/

set_option autoImplicit false

namespace LiteAgentify

namespace UsageQuery

/-! ## The writing of clauses -/

def Comparison.column : Comparison → String
  | createdAtFrom => "created_at"
  | createdAtTo => "created_at"
  | providerId => "provider_id"
  | userId => "user_id"
  | apiKeyId => "api_key_id"
  | requestedModel => "requested_model"
  | upstreamModel => "upstream_model"
  | status => "status"

def Comparison.op : Comparison → Sql.Op
  | createdAtFrom => .ge
  | createdAtTo => .le
  | _ => .eq

/-- What stands before the placeholder. -/
def Comparison.text : Comparison → String
  | createdAtFrom => "created_at >= "
  | createdAtTo => "created_at <= "
  | providerId => "provider_id = "
  | userId => "user_id = "
  | apiKeyId => "api_key_id = "
  | requestedModel => "requested_model = "
  | upstreamModel => "upstream_model = "
  | status => "status = "

def placeholderText (n : Nat) : String := "$" ++ toString n

def Clause.text : Clause → String
  | compare comparison n => comparison.text ++ placeholderText n
  | modelIs first second =>
    "(requested_model = " ++ placeholderText first ++ " OR upstream_model = " ++
      placeholderText second ++ ")"
  | clientError => "status >= 400 AND status < 500"
  | serverError => "status >= 500"

namespace SqlFilter

def text (filter : SqlFilter) : SqlText where
  clauses := filter.clauses.map Clause.text
  values := filter.values

variable (filter : SqlFilter)

theorem text_added (clause : Clause) (values : List SqlValue) {added : SqlFilter}
    (hclauses : added.clauses = filter.clauses ++ [clause])
    (hvalues : added.values = filter.values ++ values) :
    added.text = ⟨filter.text.clauses ++ [clause.text], filter.text.values ++ values⟩ := by
  rw [text, text, hclauses, hvalues, List.map_append, List.map_singleton]

theorem text_pushValue {α : Type} (comparison : Comparison) (bind : α → SqlValue)
    (value : Option α) : (filter.pushValue comparison (value.map bind)).text =
      filter.text.pushSome value fun filter value =>
        filter.pushValue comparison.text (bind value) := by
  cases value with
  | none => rfl
  | some value =>
    exact filter.text_added (.compare comparison filter.nextPlaceholder) [bind value] rfl rfl

theorem text_pushModel (model : Option String) :
    (filter.pushModel model).text = filter.text.pushSome model SqlText.pushModel := by
  cases model with
  | none => rfl
  | some model =>
    have hsecond : (SqlText.mk filter.text.clauses
        (filter.text.values ++ [SqlValue.text model])).nextPlaceholder =
          placeholderText (filter.nextPlaceholder + 1) := by
      rw [SqlText.nextPlaceholder, List.length_append]
      rfl
    rw [filter.text_added (.modelIs filter.nextPlaceholder (filter.nextPlaceholder + 1))
      [.text model, .text model] rfl rfl, SqlText.pushSome, SqlText.pushModel, hsecond]
    exact congrArg (SqlText.mk _) (List.append_assoc _ [SqlValue.text model] [.text model]).symm

theorem text_pushStatus (status : Option StatusFilter) : (filter.pushStatus status).text =
    match status with
    | some (.exact code) => filter.text.pushValue "status = " (.int code)
    | some .clientError => filter.text.pushClause "status >= 400 AND status < 500"
    | some .serverError => filter.text.pushClause "status >= 500"
    | none => filter.text := by
  cases status with
  | none => rfl
  | some status =>
    cases status with
    | exact code => exact filter.text_pushValue .status (fun code => .int code) (some (code : Int))
    | clientError =>
      rw [filter.text_added .clientError [] rfl rfl, List.append_nil]
      rfl
    | serverError =>
      rw [filter.text_added .serverError [] rfl rfl, List.append_nil]
      rfl

/-- **The text that is assembled is the writing of the clauses.** -/
theorem text_fromParams (since till : Option DateTime) (provider model : Option String)
    (status : Option StatusFilter) (userId apiKeyId : Option Uuid) :
    (fromParams since till provider model status userId apiKeyId).text =
      SqlText.fromParams since till provider model status userId apiKeyId := by
  rw [fromParams, text_pushStatus, text_pushModel, text_pushValue, text_pushValue, text_pushValue,
    text_pushValue, text_pushValue]
  rfl

end SqlFilter

/-! ## The conditions of clauses -/

def Comparison.condition (comparison : Comparison) (n : Nat) : Sql.Expr :=
  .compare comparison.column comparison.op (.placeholder n)

/-- The conditions that a clause joins by `AND`. -/
def Clause.conditions : Clause → List Sql.Expr
  | compare comparison n => [comparison.condition n]
  | modelIs first second =>
    [.or (Comparison.requestedModel.condition first) (Comparison.upstreamModel.condition second)]
  | clientError => [.compare "status" .ge (.literal 400), .compare "status" .lt (.literal 500)]
  | serverError => [.compare "status" .ge (.literal 500)]

theorem Comparison.tokens_text (comparison : Comparison) (n : Nat) :
    Sql.tokens (comparison.text ++ placeholderText n) =
      [.name comparison.column, .op comparison.op, .placeholder n] := by
  have hspace : comparison.text.toList.getLast? = some ' ' := by cases comparison <;> decide
  have htext : Sql.tokens comparison.text = [.name comparison.column, .op comparison.op] := by
    cases comparison <;> decide
  rw [Sql.tokens_append _ hspace, htext, placeholderText, Sql.tokens_placeholder]
  rfl

/-- The text of a clause is the writing of its conditions. -/
theorem Clause.tokens_text (clause : Clause) :
    Sql.tokens clause.text = Sql.renderAll clause.conditions := by
  cases clause with
  | compare comparison n => exact comparison.tokens_text n
  | modelIs first second =>
    have hopen : Sql.tokens "(requested_model = " =
        [.lparen, .name "requested_model", .op .eq] := by decide
    have hmiddle : Sql.tokens " OR upstream_model = " =
        [.keyword .orKw, .name "upstream_model", .op .eq] := by decide
    change Sql.tokens ("(requested_model = " ++ placeholderText first ++
      " OR upstream_model = " ++ placeholderText second ++ ")") = _
    rw [Sql.tokens_rparen, String.append_assoc, Sql.tokens_append_space,
      Sql.tokens_append _ (by decide), Sql.tokens_append _ (by decide), hopen, hmiddle,
      placeholderText, placeholderText, Sql.tokens_placeholder, Sql.tokens_placeholder]
    · rfl
    · rw [String.toList_append]
      rfl
  | clientError => decide
  | serverError => decide

theorem Clause.conditions_ne_nil (clause : Clause) : clause.conditions ≠ [] := by
  cases clause <;> exact List.cons_ne_nil _ _

theorem Clause.numbers_conditions (clause : Clause) :
    (clause.conditions.flatMap fun e => Sql.numbers (e.render .atom)) = clause.placeholders := by
  cases clause <;> rfl

namespace SqlFilter

variable (filter : SqlFilter)

/-- The conditions of all clauses. -/
def conditions : List Sql.Expr := filter.clauses.flatMap Clause.conditions

theorem tokens_whereClause :
    Sql.tokens filter.text.whereClause = Sql.renderWhere filter.conditions := by
  have htexts : (filter.clauses.map Clause.text).map Sql.tokens =
      filter.clauses.map fun clause => Sql.renderAll clause.conditions := by
    rw [List.map_map]
    exact List.map_congr_left fun clause _ => clause.tokens_text
  rw [SqlText.whereClause, text, conditions]
  cases hclauses : filter.clauses with
  | nil =>
    have hempty : Sql.tokens "" = [] := by decide
    exact hempty
  | cons first rest =>
    have hne : (first :: rest).flatMap Clause.conditions ≠ [] := by
      rw [List.flatMap_cons]
      exact List.append_ne_nil_of_left_ne_nil first.conditions_ne_nil _
    have hwhere : Sql.tokens " WHERE " = [.keyword .whereKw] := by decide
    rw [hclauses] at htexts
    rw [if_neg (by simp), Sql.tokens_append _ (by decide), Sql.tokens_join, htexts, hwhere,
      ← Sql.renderAll_flatMap _ _ fun clause _ => clause.conditions_ne_nil,
      Sql.renderWhere_of_ne_nil hne]
    rfl

end SqlFilter

/-! ## The numbering and the types of the values -/

/-- The value is of the type of the column. -/
def Comparison.takes : Comparison → SqlValue → Bool
  | createdAtFrom, .time _ => true
  | createdAtTo, .time _ => true
  | providerId, .text _ => true
  | userId, .uuid _ => true
  | apiKeyId, .uuid _ => true
  | requestedModel, .text _ => true
  | upstreamModel, .text _ => true
  | status, .int _ => true
  | _, _ => false

/-- The placeholder stands for a value of the type of the column. -/
def Comparison.Binds (values : List SqlValue) (comparison : Comparison) (n : Nat) : Prop :=
  n ≠ 0 ∧ ∃ value, values[n - 1]? = some value ∧ comparison.takes value = true

def Clause.Binds (values : List SqlValue) : Clause → Prop
  | compare comparison n => comparison.Binds values n
  | modelIs first second =>
    Comparison.requestedModel.Binds values first ∧ Comparison.upstreamModel.Binds values second
  | clientError => True
  | serverError => True

section
variable {values : List SqlValue}

theorem Comparison.Binds.append {comparison : Comparison} {n : Nat}
    (h : comparison.Binds values n) (more : List SqlValue) :
    comparison.Binds (values ++ more) n := by
  obtain ⟨hn, value, hvalue, htakes⟩ := h
  have hlt := (List.getElem?_eq_some_iff.1 hvalue).1
  exact ⟨hn, value, by rw [List.getElem?_append_left hlt, hvalue], htakes⟩

/-- More values change nothing for the clauses that are there. -/
theorem Clause.Binds.append {clause : Clause} (h : clause.Binds values) (more : List SqlValue) :
    clause.Binds (values ++ more) := by
  cases clause with
  | compare comparison n => exact Comparison.Binds.append h more
  | modelIs first second => exact ⟨h.1.append more, h.2.append more⟩
  | clientError => trivial
  | serverError => trivial

variable {row : UsageModel}

/-- The column of the row. -/
def Comparison.cell (row : UsageModel) : Comparison → Option SqlValue
  | createdAtFrom => some (.time row.createdAt)
  | createdAtTo => some (.time row.createdAt)
  | providerId => some (.text row.providerId)
  | userId => row.userId.map .uuid
  | apiKeyId => row.apiKeyId.map .uuid
  | requestedModel => row.requestedModel.map .text
  | upstreamModel => row.upstreamModel.map .text
  | status => some (.int row.status)

theorem Comparison.columnValue_column (comparison : Comparison) :
    columnValue row comparison.column = some (comparison.cell row) := by
  cases comparison <;> rfl

theorem Comparison.holds_null {comparison : Comparison} {value : SqlValue}
    (h : comparison.cell row = none) : comparison.holds row value = false := by
  cases comparison <;> cases value <;> first | rfl | simp_all [Comparison.cell, Comparison.holds]

theorem Comparison.compareValues_cell {comparison : Comparison} {value left : SqlValue}
    (htakes : comparison.takes value = true) (h : comparison.cell row = some left) :
    compareValues comparison.op left value = some (comparison.holds row value) := by
  cases comparison <;> cases value <;> first
    | (cases htakes; done)
    | (cases h; rfl)
    | (obtain ⟨_, hcell, rfl⟩ := Option.map_eq_some_iff.1 h
       simp [compareValues, Comparison.op, Comparison.holds, hcell])

/-- A condition is valid, and true when the comparison holds. -/
theorem Comparison.Binds.eval {comparison : Comparison} {n : Nat}
    (h : comparison.Binds values n) :
    ∃ truth, (comparison.condition n).eval (sqlEnv values row) = some truth ∧
      (truth = some true ↔ values[n - 1]?.any (comparison.holds row) = true) := by
  obtain ⟨hn, value, hvalue, htakes⟩ := h
  have hparameter : (sqlEnv values row).operand (.placeholder n) = some value := by
    rw [← hvalue]
    exact if_neg hn
  have hcolumn : (sqlEnv values row).column comparison.column = some (comparison.cell row) :=
    comparison.columnValue_column
  rw [hvalue, Option.any_some, Comparison.condition, Sql.Expr.eval, hparameter, hcolumn]
  cases hcell : comparison.cell row with
  | none => exact ⟨none, rfl, by rw [Comparison.holds_null hcell]; decide⟩
  | some left =>
    have hcompare : (sqlEnv values row).compare comparison.op left value =
        some (comparison.holds row value) := Comparison.compareValues_cell htakes hcell
    refine ⟨some (comparison.holds row value), ?_, Option.some_inj⟩
    show ((sqlEnv values row).compare comparison.op left value).map some = _
    rw [hcompare, Option.map_some]

theorem Comparison.Binds.valid {comparison : Comparison} {n : Nat}
    (h : comparison.Binds values n) : (comparison.condition n).Valid (sqlEnv values row) := by
  obtain ⟨truth, heval, -⟩ := h.eval
  exact ⟨truth, heval⟩

theorem Comparison.Binds.isTrue {comparison : Comparison} {n : Nat}
    (h : comparison.Binds values n) : (comparison.condition n).isTrue (sqlEnv values row) =
      values[n - 1]?.any (comparison.holds row) := by
  obtain ⟨truth, heval, htruth⟩ := h.eval
  rw [Bool.eq_iff_iff, ← htruth, Sql.Expr.isTrue, heval, decide_eq_true_eq, Option.some_inj]

/-- The status is never null and is compared with numbers of the text. -/
theorem eval_status (o : Sql.Op) (n : Nat) :
    (Sql.Expr.compare "status" o (.literal n)).eval (sqlEnv values row) =
      some (some (o.holds row.status (n : Int))) := rfl

theorem Clause.Binds.valid {clause : Clause} (h : clause.Binds values) :
    ∀ e ∈ clause.conditions, e.Valid (sqlEnv values row) := by
  cases clause with
  | compare comparison n => exact List.forall_mem_singleton.2 (Comparison.Binds.valid h)
  | modelIs first second => exact List.forall_mem_singleton.2 (h.1.valid.or h.2.valid)
  | clientError =>
    refine List.forall_mem_cons.2 ⟨⟨_, eval_status ..⟩, ?_⟩
    exact List.forall_mem_singleton.2 ⟨_, eval_status ..⟩
  | serverError => exact List.forall_mem_singleton.2 ⟨_, eval_status ..⟩

/-- **The conditions of a clause are true where the clause holds.** -/
theorem Clause.Binds.isTrue {clause : Clause} (h : clause.Binds values) :
    clause.conditions.all (·.isTrue (sqlEnv values row)) = clause.holds values row := by
  cases clause with
  | compare comparison n =>
    rw [Clause.conditions, List.all_cons, List.all_nil, Bool.and_true, Comparison.Binds.isTrue h]
    rfl
  | modelIs first second =>
    rw [Clause.conditions, List.all_cons, List.all_nil, Bool.and_true,
      Sql.Expr.isTrue_or h.1.valid h.2.valid, h.1.isTrue, h.2.isTrue]
    rfl
  | clientError =>
    simp [Clause.conditions, Sql.Expr.isTrue, eval_status, Sql.Op.holds, Clause.holds]
  | serverError =>
    simp [Clause.conditions, Sql.Expr.isTrue, eval_status, Sql.Op.holds, Clause.holds]

end

namespace SqlFilter

/-- The placeholders count through the values, and each stands for a value of its type. -/
structure Coherent (filter : SqlFilter) : Prop where
  numbered : filter.clauses.flatMap Clause.placeholders = List.range' 1 filter.values.length
  binds : ∀ clause ∈ filter.clauses, clause.Binds filter.values

section
variable {filter : SqlFilter}

theorem Coherent.added (h : filter.Coherent) {clause : Clause} (values : List SqlValue)
    {added : SqlFilter} (hclauses : added.clauses = filter.clauses ++ [clause])
    (hvalues : added.values = filter.values ++ values)
    (hnumbered : clause.placeholders = List.range' filter.nextPlaceholder values.length)
    (hbinds : clause.Binds (filter.values ++ values)) : added.Coherent := by
  refine ⟨?_, ?_⟩
  · rw [hclauses, hvalues, List.flatMap_append, h.numbered, List.flatMap_singleton, hnumbered,
      List.length_append, nextPlaceholder, Nat.add_comm, List.range'_append_1]
  · intro c hc
    rw [hclauses, List.mem_append, List.mem_singleton] at hc
    rw [hvalues]
    rcases hc with hc | rfl
    · exact (h.binds c hc).append values
    · exact hbinds

theorem binds_next (comparison : Comparison) {value : SqlValue}
    (htakes : comparison.takes value = true) (before more : List SqlValue) :
    comparison.Binds (before ++ value :: more) (before.length + 1) := by
  refine ⟨Nat.succ_ne_zero _, value, ?_, htakes⟩
  rw [Nat.add_sub_cancel, List.getElem?_append_right (Nat.le_refl _), Nat.sub_self]
  rfl

theorem Coherent.pushValue (h : filter.Coherent) {α : Type} (comparison : Comparison)
    (bind : α → SqlValue) (htakes : ∀ value, comparison.takes (bind value) = true)
    (value : Option α) : (filter.pushValue comparison (value.map bind)).Coherent := by
  cases value with
  | none => exact h
  | some value =>
    exact h.added [bind value] rfl rfl rfl (binds_next comparison (htakes value) _ [])

theorem Coherent.pushModel (h : filter.Coherent) (model : Option String) :
    (filter.pushModel model).Coherent := by
  cases model with
  | none => exact h
  | some model =>
    have hfirst : Comparison.requestedModel.Binds (filter.values ++ [.text model, .text model])
        filter.nextPlaceholder := binds_next _ rfl filter.values [.text model]
    have hsecond : Comparison.upstreamModel.Binds
        (filter.values ++ [SqlValue.text model] ++ [.text model])
        ((filter.values ++ [SqlValue.text model]).length + 1) := binds_next _ rfl _ []
    rw [List.append_assoc, List.length_append] at hsecond
    exact h.added [.text model, .text model] rfl rfl rfl ⟨hfirst, hsecond⟩

theorem Coherent.pushStatus (h : filter.Coherent) (status : Option StatusFilter) :
    (filter.pushStatus status).Coherent := by
  cases status with
  | none => exact h
  | some status =>
    cases status with
    | exact code =>
      exact h.pushValue .status (fun code => .int code) (fun _ => rfl) (some (code : Int))
    | clientError => exact h.added [] rfl rfl rfl trivial
    | serverError => exact h.added [] rfl rfl rfl trivial

theorem coherent_fromParams (since till : Option DateTime) (provider model : Option String)
    (status : Option StatusFilter) (userId apiKeyId : Option Uuid) :
    (fromParams since till provider model status userId apiKeyId).Coherent := by
  have hempty : empty.Coherent := ⟨rfl, nofun⟩
  have hsince := hempty.pushValue .createdAtFrom .time (fun _ => rfl) since
  have htill := hsince.pushValue .createdAtTo .time (fun _ => rfl) till
  have hprovider := htill.pushValue .providerId .text (fun _ => rfl) provider
  have huser := hprovider.pushValue .userId .uuid (fun _ => rfl) userId
  have hkey := huser.pushValue .apiKeyId .uuid (fun _ => rfl) apiKeyId
  exact (hkey.pushModel model).pushStatus status

/-- The numbers in the text are those of the clauses. -/
theorem Coherent.placeholders_whereClause (h : filter.Coherent) :
    Sql.placeholders filter.text.whereClause = List.range' 1 filter.values.length := by
  have hall : Sql.numbers (Sql.renderWhere filter.conditions) =
      Sql.numbers (Sql.renderAll filter.conditions) := by
    cases filter.conditions <;> rfl
  rw [Sql.placeholders, tokens_whereClause, hall, Sql.numbers_renderAll, conditions,
    List.flatMap_assoc, ← h.numbered]
  exact List.flatMap_congr fun clause _ => clause.numbers_conditions

/-- **The condition selects what the filter selects**, also when more values follow. -/
theorem Coherent.evalWhere (h : filter.Coherent) (row : UsageModel) (more : List SqlValue) :
    ∃ truth, Sql.evalWhere (sqlEnv (filter.values ++ more) row)
        (Sql.conjunction filter.conditions) = some truth ∧
      (truth = some true ↔ filter.selects row = true) := by
  have hbinds : ∀ clause ∈ filter.clauses, clause.Binds (filter.values ++ more) :=
    fun clause hclause => (h.binds clause hclause).append more
  have hvalid : ∀ e ∈ filter.conditions, e.Valid (sqlEnv (filter.values ++ more) row) := by
    intro e he
    obtain ⟨clause, hclause, he⟩ := List.mem_flatMap.1 he
    exact (hbinds clause hclause).valid e he
  have htrue : filter.conditions.all (·.isTrue (sqlEnv (filter.values ++ more) row)) =
      filter.selects row := by
    rw [conditions, List.all_flatMap, selects, Bool.eq_iff_iff, List.all_eq_true, List.all_eq_true]
    refine forall₂_congr fun clause hclause => ?_
    rw [(hbinds clause hclause).isTrue, holds_append (filter.bound clause hclause)]
  rw [← htrue]
  exact Sql.evalWhere_conjunction hvalid

end

end SqlFilter

/-! ## The statement of a page -/

def selectedColumns : List Sql.Token :=
  [.name "request_id,", .name "created_at,", .name "provider_id,", .name "protocol,",
    .name "path,", .name "user_id,", .name "api_key_id,", .name "requested_model,",
    .name "upstream_model,", .name "status,", .name "latency_ms,", .name "input_tokens,",
    .name "output_tokens,", .name "cached_input_tokens,", .name "cache_read_tokens,",
    .name "cache_write_tokens,", .name "total_tokens,", .name "estimated_cost,",
    .name "currency,", .name "usage_source"]

/-- What follows the condition, with the numbers of its placeholders. -/
def pageTokens (limit offset : Nat) : List Sql.Token :=
  [.keyword .orderKw, .keyword .byKw, .name "created_at", .keyword .descKw, .keyword .limitKw,
    .placeholder limit, .keyword .offsetKw, .placeholder offset]

theorem tokens_selectRows : Sql.tokens selectRows =
    .keyword .selectKw :: (selectedColumns ++ [.keyword .fromKw, .name "usage_records"]) := by
  have hkeys : Sql.tokens
      "SELECT request_id, created_at, provider_id, protocol, path, user_id, " =
        .keyword .selectKw :: selectedColumns.take 6 := by decide
  have hmodel : Sql.tokens "api_key_id, requested_model, " =
      (selectedColumns.drop 6).take 2 := by decide
  have hcounts : Sql.tokens "upstream_model, status, latency_ms, input_tokens, output_tokens, " =
      (selectedColumns.drop 8).take 5 := by decide
  have htotals : Sql.tokens
      "cached_input_tokens, cache_read_tokens, cache_write_tokens, total_tokens, " =
        (selectedColumns.drop 13).take 4 := by decide
  have hcost : Sql.tokens "estimated_cost, currency, usage_source " =
      selectedColumns.drop 17 := by decide
  have htable : Sql.tokens "FROM usage_records" =
      [.keyword .fromKw, .name "usage_records"] := by decide
  delta selectRows
  rw [String.append_assoc, String.append_assoc, String.append_assoc,
    String.append_assoc, Sql.tokens_append _ (by decide), Sql.tokens_append _ (by decide),
    Sql.tokens_append _ (by decide), Sql.tokens_append _ (by decide),
    Sql.tokens_append _ (by decide), hkeys, hmodel, hcounts, htotals, hcost, htable]
  rfl

theorem head_whereClause (filter : SqlText) {after : String}
    (hafter : after.toList.head? = some ' ') :
    (filter.whereClause ++ after).toList.head? = some ' ' := by
  rw [SqlText.whereClause]
  split
  · rw [String.empty_append, hafter]
  · rw [String.toList_append, String.toList_append]
    rfl

theorem tokens_listText (filter : SqlFilter) (limit offset : Nat) :
    Sql.tokens (listText filter.text.whereClause (placeholderText limit)
      (placeholderText offset)) =
      .keyword .selectKw :: (selectedColumns ++ .keyword .fromKw :: .name "usage_records" ::
        (Sql.renderWhere filter.conditions ++ pageTokens limit offset)) := by
  have horder : Sql.tokens " ORDER BY created_at DESC LIMIT " = [.keyword .orderKw, .keyword .byKw,
      .name "created_at", .keyword .descKw, .keyword .limitKw] := by decide
  have hoffset : Sql.tokens " OFFSET " = [.keyword .offsetKw] := by decide
  have hend : (" OFFSET " ++ placeholderText offset).toList.head? = some ' ' := by
    rw [String.toList_append]
    rfl
  have hpage : (" ORDER BY created_at DESC LIMIT " ++ (placeholderText limit ++
      (" OFFSET " ++ placeholderText offset))).toList.head? = some ' ' := by
    rw [String.toList_append]
    rfl
  rw [listText, String.append_assoc, String.append_assoc, String.append_assoc,
    String.append_assoc, Sql.tokens_append_space _ (head_whereClause _ hpage),
    Sql.tokens_append_space _ hpage, Sql.tokens_append _ (by decide),
    Sql.tokens_append_space _ hend, Sql.tokens_append _ (by decide), tokens_selectRows,
    filter.tokens_whereClause, horder, hoffset, placeholderText, placeholderText,
    Sql.tokens_placeholder, Sql.tokens_placeholder]
  simp [pageTokens]

/-- The values of the statement, and the placeholders that follow those of the filter. -/
theorem listStatement_eq (params : UsageListParams) :
    let filter := SqlFilter.fromParams params.since params.till params.provider params.model
      params.status params.userId params.apiKeyId
    listStatement params =
      (listText filter.text.whereClause (placeholderText (filter.values.length + 1))
        (placeholderText (filter.values.length + 2)),
      filter.values ++ [.int (asI64 params.pageSize),
        .int (asI64 (min ((params.page - 1) * params.pageSize) (2 ^ 64 - 1)))]) := by
  intro filter
  have htext : SqlText.fromParams params.since params.till params.provider params.model
      params.status params.userId params.apiKeyId = filter.text :=
    (SqlFilter.text_fromParams ..).symm
  rw [listStatement, htext]
  simp only [SqlFilter.text, List.length_append, List.length_singleton, List.append_assoc,
    List.singleton_append]
  rfl

theorem numbers_listText {filter : SqlFilter} (h : filter.Coherent) (limit offset : Nat) :
    Sql.placeholders (listText filter.text.whereClause (placeholderText limit)
      (placeholderText offset)) = List.range' 1 filter.values.length ++ [limit, offset] := by
  have hwhere := h.placeholders_whereClause
  rw [Sql.placeholders, filter.tokens_whereClause] at hwhere
  have hcolumns : Sql.numbers (.keyword .selectKw :: (selectedColumns ++ [.keyword .fromKw,
      .name "usage_records"])) = [] := by decide
  have htokens : Sql.tokens (listText filter.text.whereClause (placeholderText limit)
      (placeholderText offset)) = .keyword .selectKw :: (selectedColumns ++ [.keyword .fromKw,
        .name "usage_records"]) ++ (Sql.renderWhere filter.conditions ++
          pageTokens limit offset) := by
    rw [tokens_listText, List.cons_append, List.append_assoc]
    rfl
  rw [Sql.placeholders, htokens, Sql.numbers_append, Sql.numbers_append, hcolumns, hwhere]
  rfl

theorem select_listText (filter : SqlFilter) (limit offset : Nat) :
    Sql.select (listText filter.text.whereClause (placeholderText limit)
      (placeholderText offset)) = some
        { columns := selectedColumns
          table := "usage_records"
          condition := Sql.conjunction filter.conditions
          orderBy := "created_at"
          limit := limit
          offset := offset } := by
  refine Sql.select_eq (tokens_listText filter limit offset) (by decide) ?_
  exact Sql.whereClause_renderWhere ⟨nofun, nofun⟩ nofun

theorem parameter_succ (values : List SqlValue) (row : UsageModel) (n : Nat) :
    (sqlEnv values row).parameter (n + 1) = values[n]? := rfl

/-- **The filter means what the predicate of the recorder in memory means.** For all parameters and
every row the placeholders of the condition are those of the values in their order, and the
condition is true on the row exactly when the predicate accepts it, alone and in the statement of a
page, whose further placeholders are those of the values that are added for them. -/
theorem whereClause_refines (params : UsageListParams) (row : UsageModel) :
    let filter := SqlText.fromParams params.since params.till params.provider params.model
      params.status params.userId params.apiKeyId
    let accepted := MemoryUsageRecorder.accepts params.since params.till params.provider
      params.model params.status params.userId params.apiKeyId row
    let statement := listStatement params
    Sql.placeholders filter.whereClause = List.range' 1 filter.values.length ∧
      (∃ condition truth,
        Sql.whereClause (Sql.tokens filter.whereClause) = some (condition, []) ∧
        Sql.evalWhere (sqlEnv filter.values row) condition = some truth ∧
        (truth = some true ↔ accepted = true)) ∧
      Sql.placeholders statement.1 = List.range' 1 statement.2.length ∧
      ∃ page truth,
        Sql.select statement.1 = some page ∧
        Sql.evalWhere (sqlEnv statement.2 row) page.condition = some truth ∧
        (truth = some true ↔ accepted = true) ∧
        (sqlEnv statement.2 row).parameter page.limit = some (.int (asI64 params.pageSize)) ∧
        (sqlEnv statement.2 row).parameter page.offset =
          some (.int (asI64 (min ((params.page - 1) * params.pageSize) (2 ^ 64 - 1)))) := by
  intro filter accepted statement
  obtain ⟨sql, hsql⟩ : ∃ sql, sql = SqlFilter.fromParams params.since params.till params.provider
      params.model params.status params.userId params.apiKeyId := ⟨_, rfl⟩
  have hfilter : filter = sql.text := hsql ▸ (SqlFilter.text_fromParams ..).symm
  have hcoherent : sql.Coherent := hsql ▸ SqlFilter.coherent_fromParams ..
  have haccepted : sql.selects row = accepted := hsql ▸ SqlFilter.selects_eq_accepts
  have hstatement : statement = _ := listStatement_eq params
  rw [← hsql] at hstatement
  rw [hfilter, hstatement, ← haccepted]
  refine ⟨hcoherent.placeholders_whereClause, ?_, ?_, ?_⟩
  · obtain ⟨truth, heval, htruth⟩ := hcoherent.evalWhere row []
    rw [List.append_nil] at heval
    refine ⟨Sql.conjunction sql.conditions, truth, ?_, heval, htruth⟩
    have hparse : Sql.whereClause (Sql.renderWhere sql.conditions ++ []) =
        some (Sql.conjunction sql.conditions, []) :=
      Sql.whereClause_renderWhere ⟨nofun, nofun⟩ nofun
    rwa [List.append_nil, ← sql.tokens_whereClause] at hparse
  · rw [numbers_listText hcoherent, List.length_append, ← List.range'_append_1, Nat.add_comm 1]
    rfl
  · obtain ⟨truth, heval, htruth⟩ := hcoherent.evalWhere row _
    refine ⟨_, truth, select_listText sql _ _, heval, htruth, ?_, ?_⟩
    · rw [parameter_succ, List.getElem?_append_right (Nat.le_refl _), Nat.sub_self]
      rfl
    · rw [parameter_succ, List.getElem?_append_right (Nat.le_add_right _ 1),
        Nat.add_sub_cancel_left]
      rfl

end UsageQuery

end LiteAgentify
