import LiteAgentify.Lib.Once
import LiteAgentify.Lib.Run
import Mathlib.Logic.Function.Basic

/-!
# The schema migrations

`src/db.rs`: the migrations, and what their statements do to the relations of the database. Any
number of processes may run `migrate` at the same time; each statement outside a transaction and
each transaction is one step, which may fail, and whose reply may be lost. `entities` are the tables
that the rest of the program works on.
-/

set_option autoImplicit false

namespace LiteAgentify.Db

/-! ## Relations -/

inductive SqlType
  | uuid
  | text
  | timestamptz
  | integer
  | bigint
  /-- `numeric(20, 10)` -/
  | numeric
  | jsonb
  deriving DecidableEq

structure Column where
  name : String
  type : SqlType
  nullable : Bool := false
  deriving DecidableEq

/-- A column that holds a value of a column of another table. -/
structure Reference where
  column : String
  table : String
  key : String
  deriving DecidableEq

structure Table where
  columns : List Column
  /-- `PRIMARY KEY` and `UNIQUE` -/
  uniques : List (List String)
  references : List Reference := []
  deriving DecidableEq

def Table.column (table : Table) (name : String) : Option Column :=
  table.columns.find? fun column => column.name = name

/-- Tables and indexes share their names. -/
inductive Relation
  | table (table : Table)
  | index
  deriving DecidableEq

abbrev Schema := String → Option Relation

def Schema.table (schema : Schema) (name : String) : Option Table :=
  match schema name with
  | some (.table table) => some table
  | _ => none

inductive Ddl
  | createTable (name : String) (table : Table)
  | createTableIfNotExists (name : String) (table : Table)
  | createIndex (name table : String) (columns : List String)
  | createIndexIfNotExists (name table : String) (columns : List String)
  | addColumn (table : String) (column : Column)

section

variable (schema : Schema)

/-- The referenced column is a key, of the type of the column that refers to it. -/
def Reference.valid (table : Table) (reference : Reference) : Bool :=
  match schema.table reference.table with
  | none => false
  | some target =>
    [reference.key] ∈ target.uniques ∧ (target.column reference.key).isSome ∧
      (target.column reference.key).map Column.type =
        (table.column reference.column).map Column.type

def createTable (name : String) (table : Table) : Option Schema :=
  if (schema name).isNone ∧ table.references.all (Reference.valid schema table) then
    some (Function.update schema name (some (.table table)))
  else none

/-- The columns of an index are those of its table. -/
def indexable (table : String) (columns : List String) : Bool :=
  match schema.table table with
  | none => false
  | some table => columns.all fun name => (table.column name).isSome

def createIndex (name table : String) (columns : List String) : Option Schema :=
  if (schema name).isNone ∧ indexable schema table columns then
    some (Function.update schema name (some .index))
  else none

def addColumn (name : String) (column : Column) : Option Schema :=
  match schema.table name with
  | none => none
  | some table =>
    if (table.column column.name).isSome then none
    else
      let table := { table with columns := table.columns ++ [column] }
      some (Function.update schema name (some (.table table)))

/-- What a statement does, if it does not fail. -/
def Ddl.run : Ddl → Option Schema
  | createTable name table => Db.createTable schema name table
  | createTableIfNotExists name table =>
    if (schema name).isSome then some schema else Db.createTable schema name table
  | createIndex name table columns => Db.createIndex schema name table columns
  | createIndexIfNotExists name table columns =>
    if (schema name).isSome ∧ indexable schema table columns then some schema
    else Db.createIndex schema name table columns
  | addColumn table column => Db.addColumn schema table column

end

/-! ## The migrations -/

/-- The statements of a migration, in one transaction. -/
abbrev Migration := Once.Item String Schema

def migration (name : String) (sql : List Ddl) : Migration where
  name := name
  run schema := sql.foldlM Ddl.run schema

def usageRecords : Table where
  columns := [⟨"id", .uuid, false⟩, ⟨"request_id", .text, false⟩,
    ⟨"created_at", .timestamptz, false⟩, ⟨"provider_id", .text, false⟩,
    ⟨"protocol", .text, false⟩, ⟨"path", .text, false⟩, ⟨"requested_model", .text, true⟩,
    ⟨"upstream_model", .text, true⟩, ⟨"status", .integer, false⟩, ⟨"latency_ms", .bigint, false⟩,
    ⟨"input_tokens", .bigint, true⟩, ⟨"output_tokens", .bigint, true⟩,
    ⟨"cached_input_tokens", .bigint, true⟩, ⟨"cache_read_tokens", .bigint, true⟩,
    ⟨"cache_write_tokens", .bigint, true⟩, ⟨"total_tokens", .bigint, true⟩,
    ⟨"estimated_cost", .numeric, true⟩, ⟨"currency", .text, true⟩, ⟨"usage_source", .text, false⟩,
    ⟨"pricing_source", .text, true⟩]
  uniques := [["id"]]

/-- `MIGRATIONS` -/
def migrations : List Migration := [
  migration "0001_create_usage_records" [
    .createTableIfNotExists "usage_records" usageRecords,
    .createIndexIfNotExists "idx_usage_records_created_at" "usage_records" ["created_at"],
    .createIndexIfNotExists "idx_usage_records_provider_created_at" "usage_records"
      ["provider_id", "created_at"],
    .createIndexIfNotExists "idx_usage_records_upstream_model" "usage_records"
      ["upstream_model"]],
  migration "0002_create_users" [
    .createTable "users" {
      columns := [⟨"id", .uuid, false⟩, ⟨"username", .text, false⟩, ⟨"password_hash", .text, false⟩,
        ⟨"role", .text, false⟩, ⟨"status", .text, false⟩, ⟨"created_at", .timestamptz, false⟩]
      uniques := [["id"], ["username"]] }],
  migration "0003_create_api_keys" [
    .createTable "api_keys" {
      columns := [⟨"id", .uuid, false⟩, ⟨"user_id", .uuid, false⟩, ⟨"key_hash", .text, false⟩,
        ⟨"prefix", .text, false⟩, ⟨"name", .text, false⟩, ⟨"status", .text, false⟩,
        ⟨"created_at", .timestamptz, false⟩, ⟨"last_used_at", .timestamptz, true⟩]
      uniques := [["id"], ["key_hash"]]
      references := [⟨"user_id", "users", "id"⟩] },
    .createIndex "idx_api_keys_user_id" "api_keys" ["user_id"]],
  migration "0004_usage_records_attribution" [
    .addColumn "usage_records" ⟨"user_id", .uuid, true⟩,
    .addColumn "usage_records" ⟨"api_key_id", .uuid, true⟩,
    .createIndex "idx_usage_records_user_created_at" "usage_records" ["user_id", "created_at"]],
  migration "0005_create_providers" [
    .createTable "providers" {
      columns := [⟨"id", .text, false⟩, ⟨"protocol", .text, false⟩, ⟨"base_url", .text, false⟩,
        ⟨"api_key", .text, false⟩, ⟨"anthropic_version", .text, true⟩,
        ⟨"model_aliases", .jsonb, false⟩, ⟨"created_at", .timestamptz, false⟩,
        ⟨"updated_at", .timestamptz, false⟩]
      uniques := [["id"]] }],
  migration "0006_create_pricing" [
    .createTable "pricing" {
      columns := [⟨"id", .uuid, false⟩, ⟨"provider", .text, false⟩, ⟨"model", .text, false⟩,
        ⟨"input_per_1m", .numeric, false⟩, ⟨"output_per_1m", .numeric, false⟩,
        ⟨"cached_input_per_1m", .numeric, true⟩, ⟨"cache_read_per_1m", .numeric, true⟩,
        ⟨"cache_write_per_1m", .numeric, true⟩, ⟨"currency", .text, false⟩,
        ⟨"pricing_source", .text, true⟩, ⟨"created_at", .timestamptz, false⟩,
        ⟨"updated_at", .timestamptz, false⟩]
      uniques := [["id"], ["provider", "model"]] }],
  migration "0007_create_model_catalog" [
    .createTable "models" {
      columns := [⟨"name", .text, false⟩, ⟨"status", .text, false⟩,
        ⟨"created_at", .timestamptz, false⟩, ⟨"updated_at", .timestamptz, false⟩]
      uniques := [["name"]] },
    .createTable "model_deployments" {
      columns := [⟨"id", .uuid, false⟩, ⟨"model_name", .text, false⟩, ⟨"provider_id", .text, false⟩,
        ⟨"upstream_model", .text, false⟩, ⟨"priority", .integer, false⟩]
      uniques := [["id"], ["model_name", "provider_id"]]
      references := [⟨"model_name", "models", "name"⟩, ⟨"provider_id", "providers", "id"⟩] },
    .createIndex "idx_model_deployments_model" "model_deployments" ["model_name", "priority"]],
  migration "0008_api_keys_allowed_models" [
    .addColumn "api_keys" ⟨"allowed_models", .jsonb, true⟩],
  migration "0009_credit_grants_and_key_caps" [
    .createTable "credit_grants" {
      columns := [⟨"id", .uuid, false⟩, ⟨"user_id", .uuid, false⟩, ⟨"amount_usd", .numeric, false⟩,
        ⟨"note", .text, true⟩, ⟨"granted_by", .uuid, false⟩, ⟨"created_at", .timestamptz, false⟩]
      uniques := [["id"]]
      references := [⟨"user_id", "users", "id"⟩, ⟨"granted_by", "users", "id"⟩] },
    .createIndex "idx_credit_grants_user_created_at" "credit_grants" ["user_id", "created_at"],
    .addColumn "api_keys" ⟨"spend_cap_usd", .numeric, true⟩]]

/-! ## `migrate` -/

/-- The database, with the rows of `schema_migrations` if the table exists. -/
structure Database extends Once.Store String Schema where
  bookkeeping : Bool

/-- A database that no process has migrated. -/
def unmigrated (schema : Schema) : Database := ⟨⟨schema, []⟩, false⟩

/-- `migrate`, when no statement fails and no other process comes between. -/
def migrate (db : Database) : Option Database :=
  (db.toStore.takeAll migrations).map fun store => ⟨store, true⟩

/-- How a statement or a transaction ends: it may be done without its reply coming back. -/
inductive Outcome
  | done
  | fails
  | lost
  deriving DecidableEq

/-- How far a process has come. -/
inductive MigratePlace
  | start
  /-- The next migration to look up. -/
  | checking (index : Nat)
  /-- The migration is not recorded. -/
  | pending (index : Nat)
  | returned (ok : Bool)
  deriving DecidableEq

/-- The next step of `migrate`; `none` when it has returned. -/
def migrateStep (db : Database) (outcome : Outcome) :
    MigratePlace → Option (Database × MigratePlace)
  -- `CREATE TABLE IF NOT EXISTS schema_migrations`
  | .start =>
    match outcome with
    | .fails => some (db, .returned false)
    | .lost => some ({ db with bookkeeping := true }, .returned false)
    | .done => some ({ db with bookkeeping := true }, .checking 0)
  -- `SELECT 1 AS one FROM schema_migrations WHERE name = $1`
  | .checking index =>
    match migrations[index]? with
    | none => some (db, .returned true)
    | some migration =>
      if outcome ≠ .done ∨ ¬ db.bookkeeping then some (db, .returned false)
      else if migration.name ∈ db.log then some (db, .checking (index + 1))
      else some (db, .pending index)
  -- the transaction; a process that dies in it leaves nothing of it
  | .pending index =>
    match migrations[index]?.bind db.toStore.take with
    | none => some (db, .returned false)
    | some store =>
      match outcome with
      | .fails => some (db, .returned false)
      | .lost => some ({ db with toStore := store }, .returned false)
      | .done => some ({ db with toStore := store }, .checking (index + 1))
  | .returned _ => none

/-- The database and the processes that have been started on it. -/
structure Migrating (ι : Type) where
  db : Database
  place : ι → MigratePlace

inductive MigrateLabel (ι : Type)
  | step (process : ι) (outcome : Outcome)
  /-- The process ends, wherever it is, and is started again. -/
  | restart (process : ι)

namespace Migrating

variable {ι : Type} [DecidableEq ι]

def init (ι : Type) (schema : Schema) : Migrating ι := ⟨unmigrated schema, fun _ => .start⟩

def step (s : Migrating ι) : MigrateLabel ι → Option (Migrating ι)
  | .step process outcome =>
    (migrateStep s.db outcome (s.place process)).map fun (db, place) =>
      ⟨db, Function.update s.place process place⟩
  | .restart process => some { s with place := Function.update s.place process .start }

end Migrating

/-! ## Entities -/

/-- The table of a sea-orm model, by the types of its fields. -/
structure Entity where
  table : String
  columns : List Column

def entities : List Entity := [
  -- src/account/entity.rs
  ⟨"users", [⟨"id", .uuid, false⟩, ⟨"username", .text, false⟩, ⟨"password_hash", .text, false⟩,
    ⟨"role", .text, false⟩, ⟨"status", .text, false⟩, ⟨"created_at", .timestamptz, false⟩]⟩,
  ⟨"api_keys", [⟨"id", .uuid, false⟩, ⟨"user_id", .uuid, false⟩, ⟨"key_hash", .text, false⟩,
    ⟨"prefix", .text, false⟩, ⟨"name", .text, false⟩, ⟨"status", .text, false⟩,
    ⟨"created_at", .timestamptz, false⟩, ⟨"last_used_at", .timestamptz, true⟩,
    ⟨"allowed_models", .jsonb, true⟩, ⟨"spend_cap_usd", .numeric, true⟩]⟩,
  -- src/quota/entity.rs
  ⟨"credit_grants", [⟨"id", .uuid, false⟩, ⟨"user_id", .uuid, false⟩,
    ⟨"amount_usd", .numeric, false⟩, ⟨"note", .text, true⟩, ⟨"granted_by", .uuid, false⟩,
    ⟨"created_at", .timestamptz, false⟩]⟩,
  -- src/usage/entity.rs
  ⟨"usage_records", [⟨"id", .uuid, false⟩, ⟨"request_id", .text, false⟩,
    ⟨"created_at", .timestamptz, false⟩, ⟨"provider_id", .text, false⟩,
    ⟨"protocol", .text, false⟩, ⟨"path", .text, false⟩, ⟨"user_id", .uuid, true⟩,
    ⟨"api_key_id", .uuid, true⟩, ⟨"requested_model", .text, true⟩,
    ⟨"upstream_model", .text, true⟩, ⟨"status", .integer, false⟩, ⟨"latency_ms", .bigint, false⟩,
    ⟨"input_tokens", .bigint, true⟩, ⟨"output_tokens", .bigint, true⟩,
    ⟨"cached_input_tokens", .bigint, true⟩, ⟨"cache_read_tokens", .bigint, true⟩,
    ⟨"cache_write_tokens", .bigint, true⟩, ⟨"total_tokens", .bigint, true⟩,
    ⟨"estimated_cost", .numeric, true⟩, ⟨"currency", .text, true⟩, ⟨"usage_source", .text, false⟩,
    ⟨"pricing_source", .text, true⟩]⟩,
  -- src/catalog/entity.rs
  ⟨"providers", [⟨"id", .text, false⟩, ⟨"protocol", .text, false⟩, ⟨"base_url", .text, false⟩,
    ⟨"api_key", .text, false⟩, ⟨"anthropic_version", .text, true⟩,
    ⟨"model_aliases", .jsonb, false⟩, ⟨"created_at", .timestamptz, false⟩,
    ⟨"updated_at", .timestamptz, false⟩]⟩,
  ⟨"models", [⟨"name", .text, false⟩, ⟨"status", .text, false⟩,
    ⟨"created_at", .timestamptz, false⟩, ⟨"updated_at", .timestamptz, false⟩]⟩,
  ⟨"model_deployments", [⟨"id", .uuid, false⟩, ⟨"model_name", .text, false⟩,
    ⟨"provider_id", .text, false⟩, ⟨"upstream_model", .text, false⟩,
    ⟨"priority", .integer, false⟩]⟩,
  ⟨"pricing", [⟨"id", .uuid, false⟩, ⟨"provider", .text, false⟩, ⟨"model", .text, false⟩,
    ⟨"input_per_1m", .numeric, false⟩, ⟨"output_per_1m", .numeric, false⟩,
    ⟨"cached_input_per_1m", .numeric, true⟩, ⟨"cache_read_per_1m", .numeric, true⟩,
    ⟨"cache_write_per_1m", .numeric, true⟩, ⟨"currency", .text, false⟩,
    ⟨"pricing_source", .text, true⟩, ⟨"created_at", .timestamptz, false⟩,
    ⟨"updated_at", .timestamptz, false⟩]⟩]

/-- The table has the columns of the entity, in some order, and no others. -/
def Entity.fits (entity : Entity) (schema : Schema) : Prop :=
  ∃ table, schema.table entity.table = some table ∧ table.columns.Perm entity.columns

end LiteAgentify.Db
