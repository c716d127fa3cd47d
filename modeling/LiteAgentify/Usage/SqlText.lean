import LiteAgentify.Lib.Sql
import LiteAgentify.Usage.Memory

/-!
# The text of the statements

`SqlFilter` of `src/usage/recorder.rs` as it is written, with its clauses as text (`SqlText`), the
statement of `list` (`listStatement`), and what PostgreSQL evaluates a condition in: a row of
`usage_records` and the bound values (`sqlEnv`).
-/

set_option autoImplicit false

namespace LiteAgentify

namespace UsageQuery

/-- The fields of `SqlFilter`. -/
structure SqlText where
  clauses : List String := []
  values : List SqlValue := []
  deriving DecidableEq

namespace SqlText

def nextPlaceholder (filter : SqlText) : String := "$" ++ toString (filter.values.length + 1)

def pushValue (filter : SqlText) (column : String) (value : SqlValue) : SqlText :=
  let placeholder := filter.nextPlaceholder
  { clauses := filter.clauses ++ [column ++ placeholder], values := filter.values ++ [value] }

/-- The branch for the model: two values and one clause. -/
def pushModel (filter : SqlText) (model : String) : SqlText :=
  let first := filter.nextPlaceholder
  let filter : SqlText := { filter with values := filter.values ++ [.text model] }
  let second := filter.nextPlaceholder
  let filter : SqlText := { filter with values := filter.values ++ [.text model] }
  { filter with
    clauses := filter.clauses ++
      ["(requested_model = " ++ first ++ " OR upstream_model = " ++ second ++ ")"] }

def pushClause (filter : SqlText) (clause : String) : SqlText :=
  { filter with clauses := filter.clauses ++ [clause] }

/-- `if let Some(value) = value`. -/
def pushSome {α : Type} (filter : SqlText) (value : Option α) (push : SqlText → α → SqlText) :
    SqlText :=
  match value with
  | some value => push filter value
  | none => filter

def fromParams (since till : Option DateTime) (provider model : Option String)
    (status : Option StatusFilter) (userId apiKeyId : Option Uuid) : SqlText :=
  let filter : SqlText := {}
  let filter := filter.pushSome since fun filter since =>
    filter.pushValue "created_at >= " (.time since)
  let filter := filter.pushSome till fun filter till =>
    filter.pushValue "created_at <= " (.time till)
  let filter := filter.pushSome provider fun filter provider =>
    filter.pushValue "provider_id = " (.text provider)
  let filter := filter.pushSome userId fun filter userId =>
    filter.pushValue "user_id = " (.uuid userId)
  let filter := filter.pushSome apiKeyId fun filter apiKeyId =>
    filter.pushValue "api_key_id = " (.uuid apiKeyId)
  let filter := filter.pushSome model pushModel
  match status with
  | some (.exact code) => filter.pushValue "status = " (.int code)
  | some .clientError => filter.pushClause "status >= 400 AND status < 500"
  | some .serverError => filter.pushClause "status >= 500"
  | none => filter

def whereClause (filter : SqlText) : String :=
  if filter.clauses.isEmpty then "" else " WHERE " ++ " AND ".intercalate filter.clauses

example :
    (fromParams (some 7) none none (some "m") (some .clientError) none none).whereClause =
      " WHERE created_at >= $1 AND (requested_model = $2 OR upstream_model = $3) AND " ++
        "status >= 400 AND status < 500" := by decide +kernel

end SqlText

/-- `as i64` of a `u64`. -/
def asI64 (n : Nat) : Int := (n : Int).bmod (2 ^ 64)

def selectRows : String :=
  "SELECT request_id, created_at, provider_id, protocol, path, user_id, " ++
    "api_key_id, requested_model, " ++
    "upstream_model, status, latency_ms, input_tokens, output_tokens, " ++
    "cached_input_tokens, cache_read_tokens, cache_write_tokens, total_tokens, " ++
    "estimated_cost, currency, usage_source " ++
    "FROM usage_records"

/-- The text that `list` formats for the rows. -/
def listText (whereClause limitPlaceholder offsetPlaceholder : String) : String :=
  selectRows ++ whereClause ++ " ORDER BY created_at DESC LIMIT " ++ limitPlaceholder ++
    " OFFSET " ++ offsetPlaceholder

/-- The second statement of `list` and its values. -/
def listStatement (params : UsageListParams) : String × List SqlValue :=
  let filter := SqlText.fromParams params.since params.till params.provider params.model
    params.status params.userId params.apiKeyId
  let whereClause := filter.whereClause
  let values := filter.values
  let limitPlaceholder := "$" ++ toString (values.length + 1)
  let values := values ++ [.int (asI64 params.pageSize)]
  let offsetPlaceholder := "$" ++ toString (values.length + 1)
  let values := values ++ [.int (asI64 (min ((params.page - 1) * params.pageSize) (2 ^ 64 - 1)))]
  (listText whereClause limitPlaceholder offsetPlaceholder, values)

/-! ## Evaluation -/

/-- The columns that conditions are about; one that may be null is null for `none`. -/
def columnValue (row : UsageModel) : String → Option (Option SqlValue)
  | "created_at" => some (some (.time row.createdAt))
  | "provider_id" => some (some (.text row.providerId))
  | "user_id" => some (row.userId.map .uuid)
  | "api_key_id" => some (row.apiKeyId.map .uuid)
  | "requested_model" => some (row.requestedModel.map .text)
  | "upstream_model" => some (row.upstreamModel.map .text)
  | "status" => some (some (.int row.status))
  | _ => none

/-- Values of one type compare; the order of texts and of identifiers is left out. -/
def compareValues : Sql.Op → SqlValue → SqlValue → Option Bool
  | o, .time left, .time right => some (o.holds left right)
  | o, .int left, .int right => some (o.holds left right)
  | .eq, .text left, .text right => some (left = right)
  | .eq, .uuid left, .uuid right => some (left = right)
  | _, _, _ => none

/-- `$1` is the first value. -/
def sqlEnv (values : List SqlValue) (row : UsageModel) : Sql.Env SqlValue where
  column := columnValue row
  parameter := fun n => if n = 0 then none else values[n - 1]?
  literal := fun n => .int n
  compare := compareValues

end UsageQuery

end LiteAgentify
