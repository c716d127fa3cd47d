import LiteAgentify.Db
import Mathlib.Order.Nat

/-!
# Migrations

Processes that migrate one database at the same time, and fail and restart as they like, record a
first part of the migrations, and the schema is what these leave, each taken once
(`migrateStep_taken`, `migrations_taken_once`). On a database whose names are free all of them run,
and leave the tables of the entities (`fits_of_fresh`); then a process that is left alone finishes
what any others have left (`migrate_alone`, `migrate_recovers`).
-/

set_option autoImplicit false

namespace LiteAgentify.Db

open Lts Once

variable {ι : Type} [DecidableEq ι] {schema : Schema} {db db' : Database}
  {place place' : MigratePlace} {outcome : Outcome}

theorem migrations_names : (migrations.map Item.name).Nodup := by decide

/-! ## One step -/

/-- How many migrations a process knows to be recorded. -/
def MigratePlace.known : MigratePlace → Nat
  | .checking index | .pending index => index
  | .returned true => migrations.length
  | _ => 0

/-- **A step records the next migration, or none.** -/
theorem migrateStep_taken {k : Nat} (h : db.toStore.Taken migrations schema k)
    (hplace : place.known ≤ k) (hs : migrateStep db outcome place = some (db', place')) :
    ∃ k', k ≤ k' ∧ db'.toStore.Taken migrations schema k' ∧ place'.known ≤ k' := by
  cases place with
  | start =>
    cases outcome with
    | done => cases hs; exact ⟨k, le_rfl, h, Nat.zero_le k⟩
    | fails => cases hs; exact ⟨k, le_rfl, h, Nat.zero_le k⟩
    | lost => cases hs; exact ⟨k, le_rfl, h, Nat.zero_le k⟩
  | checking index =>
    unfold migrateStep at hs
    dsimp only at hs
    split at hs
    · rename_i hend
      cases hs
      exact ⟨k, le_rfl, h, (List.getElem?_eq_none_iff.1 hend).trans hplace⟩
    · rename_i migration hnext
      split_ifs at hs with hfault hrecorded
      · cases hs
        exact ⟨k, le_rfl, h, Nat.zero_le k⟩
      · cases hs
        exact ⟨k, le_rfl, h, (h.logged_iff migrations_names hnext).1 hrecorded⟩
      · cases hs
        exact ⟨k, le_rfl, h, hplace⟩
  | pending index =>
    unfold migrateStep at hs
    dsimp only at hs
    split at hs
    · cases hs
      exact ⟨k, le_rfl, h, Nat.zero_le k⟩
    · rename_i store htaken
      obtain ⟨migration, hnext, htake⟩ := Option.bind_eq_some_iff.1 htaken
      obtain ⟨rfl, hstore⟩ := h.take migrations_names hnext hplace htake
      cases outcome with
      | done => cases hs; exact ⟨_, Nat.le_succ _, hstore, le_rfl⟩
      | fails => cases hs; exact ⟨_, le_rfl, h, Nat.zero_le _⟩
      | lost => cases hs; exact ⟨_, Nat.le_succ _, hstore, Nat.zero_le _⟩
  | returned ok => cases hs

/-- What the processes have done, and what they know. -/
structure Migrating.Taken (s : Migrating ι) (schema : Schema) (k : Nat) : Prop where
  taken : s.db.toStore.Taken migrations schema k
  known : ∀ process, (s.place process).known ≤ k

theorem Migrating.Taken.step {s s' : Migrating ι} {label : MigrateLabel ι} {k : Nat}
    (h : s.Taken schema k) (hs : s.step label = some s') : ∃ k', s'.Taken schema k' := by
  cases label with
  | step process outcome =>
    obtain ⟨⟨db', place'⟩, hstep, rfl⟩ := Option.map_eq_some_iff.1 hs
    obtain ⟨k', hle, htaken, hknown⟩ := migrateStep_taken h.taken (h.known process) hstep
    exact ⟨k', htaken, (Function.forall_update_iff _ fun _ place => MigratePlace.known place ≤ k').2
      ⟨hknown, fun other _ => (h.known other).trans hle⟩⟩
  | restart process =>
    cases hs
    exact ⟨k, h.taken, (Function.forall_update_iff _ fun _ place => MigratePlace.known place ≤ k).2
      ⟨Nat.zero_le k, fun other _ => h.known other⟩⟩

theorem Migrating.run_taken {s : Migrating ι} {tr : List (MigrateLabel ι)}
    (h : Steps Migrating.step (Migrating.init ι schema) tr s) : ∃ k, s.Taken schema k :=
  h.inv (I := fun u => ∃ k, u.Taken schema k)
    ⟨0, .nothing, fun _ => Nat.zero_le 0⟩ fun _ _ _ ⟨_, hu⟩ _ hs => hu.step hs

/-- **Every migration once, in order.** However any number of processes that migrate one database
interleave, fail at any statement, lose replies, die and restart, the recorded migrations are the
first of the list, each recorded once, and the schema is what these and no others leave when they
run one after another. A process that returned `Ok` has seen all of them recorded. -/
theorem migrations_taken_once {s : Migrating ι} {tr : List (MigrateLabel ι)}
    (h : Steps Migrating.step (Migrating.init ι schema) tr s) :
    ∃ k ≤ migrations.length, s.db.log = (migrations.map Item.name).take k ∧
      runAll (migrations.take k) schema = some s.db.data ∧
      ∀ process, s.place process = .returned true → k = migrations.length := by
  obtain ⟨k, htaken, hknown⟩ := Migrating.run_taken h
  refine ⟨k, htaken.le, by rw [htaken.log, List.map_take], htaken.data, fun process hok => ?_⟩
  have hall := hknown process
  rw [hok] at hall
  exact le_antisymm htaken.le hall

/-- Two processes find nothing recorded; one takes a migration, the other fails on it. -/
theorem migrations_taken_once_sample : ∃ s : Migrating Bool,
    Steps Migrating.step (Migrating.init Bool fun _ => none)
      [.step true .done, .step false .done, .step true .done, .step false .done,
        .step true .lost, .step false .done] s ∧
    s.db.log = ["0001_create_usage_records"] ∧ s.place false = .returned false ∧
    ∃ k ≤ migrations.length, s.db.log = (migrations.map Item.name).take k ∧
      runAll (migrations.take k) (fun _ => none) = some s.db.data := by
  obtain ⟨s, hrun, hlog, hplace⟩ : ∃ s : Migrating Bool,
      Steps Migrating.step (Migrating.init Bool fun _ => none)
        [.step true .done, .step false .done, .step true .done, .step false .done,
          .step true .lost, .step false .done] s ∧
      s.db.log = ["0001_create_usage_records"] ∧ s.place false = .returned false :=
    ⟨_, steps_of_exec rfl, rfl, rfl⟩
  obtain ⟨k, hk, hrecorded, hdata, -⟩ := migrations_taken_once hrun
  exact ⟨s, hrun, hlog, hplace, k, hk, hrecorded, hdata⟩

/-! ## A process alone -/

/-- The labels of a process that is started again, and meets no fault and no other process. -/
def MigrateLabel.Alone (process : ι) (label : MigrateLabel ι) : Prop :=
  label = .restart process ∨ label = .step process .done

/-- **The steps in a row.** A process that no other interrupts and whose statements do not fail does
what `migrate` does. -/
theorem migrate_alone (s : Migrating ι) (process : ι) (h : migrate s.db = some db') :
    ∃ tr s', (∀ label ∈ tr, label.Alone process) ∧ Steps Migrating.step s tr s' ∧
      s'.db = db' ∧ s'.place process = .returned true := by
  obtain ⟨store, hall, rfl⟩ := Option.map_eq_some_iff.1 h
  suffices hrest : ∀ rest index (s : Migrating ι), migrations.drop index = rest →
      s.place process = .checking index → s.db.bookkeeping = true →
      s.db.toStore.takeAll rest = some store → ∃ tr s', (∀ label ∈ tr, label.Alone process) ∧
        Steps Migrating.step s tr s' ∧ s'.db = ⟨store, true⟩ ∧ s'.place process = .returned true by
    let started : Migrating ι :=
      ⟨{ s.db with bookkeeping := true },
        Function.update (Function.update s.place process .start) process (.checking 0)⟩
    have hrestart : s.step (.restart process) =
        some { s with place := Function.update s.place process .start } := rfl
    have hstart : Migrating.step { s with place := Function.update s.place process .start }
        (.step process .done) = some started := by
      simp [Migrating.step, migrateStep, started]
    obtain ⟨tr, s', hlabels, hrun, hdone⟩ :=
      hrest migrations 0 started rfl (by simp [started]) rfl hall
    refine ⟨[.restart process, .step process .done] ++ tr, s', ?_,
      ((Run.nil.snoc trivial hrestart).snoc trivial hstart).trans hrun, hdone⟩
    intro label hlabel
    rcases List.mem_append.1 hlabel with hlabel | hlabel
    · rcases List.mem_cons.1 hlabel with rfl | hlabel
      · exact .inl rfl
      · exact .inr (List.mem_singleton.1 hlabel)
    · exact hlabels label hlabel
  intro rest
  induction rest with
  | nil =>
    intro index s hrest hplace hbook hstore
    cases hstore
    have hend : migrations[index]? = none :=
      List.getElem?_eq_none_iff.2 (List.drop_eq_nil_iff.1 hrest)
    have hstep : s.step (.step process .done) =
        some ⟨s.db, Function.update s.place process (.returned true)⟩ := by
      simp [Migrating.step, migrateStep, hplace, hend]
    refine ⟨[.step process .done], _, ?_, Run.nil.snoc trivial hstep, ?_, Function.update_self ..⟩
    · rintro label hlabel
      exact .inr (List.mem_singleton.1 hlabel)
    · rw [← hbook]
  | cons migration rest ih =>
    intro index s hrest hplace hbook hstore
    have hnext : migrations[index]? = some migration := by
      have := congrArg (fun l => l[0]?) hrest
      simpa using this
    have hrest' : migrations.drop (index + 1) = rest := by
      rw [← List.tail_drop, hrest]
      rfl
    rw [Store.takeAll, List.foldlM_cons] at hstore
    -- from the state that has dealt with this migration
    have hthen (pre : List (MigrateLabel ι)) (u : Migrating ι)
        (hpre : ∀ label ∈ pre, label.Alone process) (hrun : Steps Migrating.step s pre u)
        (hu : u.place process = .checking (index + 1)) (hbook : u.db.bookkeeping = true)
        (hall : u.db.toStore.takeAll rest = some store) :
        ∃ tr s', (∀ label ∈ tr, label.Alone process) ∧ Steps Migrating.step s tr s' ∧
          s'.db = ⟨store, true⟩ ∧ s'.place process = .returned true := by
      obtain ⟨tr, s', hlabels, hrest, hdone⟩ := ih (index + 1) u hrest' hu hbook hall
      refine ⟨pre ++ tr, s', fun label hlabel => ?_, hrun.trans hrest, hdone⟩
      rcases List.mem_append.1 hlabel with hlabel | hlabel
      · exact hpre label hlabel
      · exact hlabels label hlabel
    by_cases hrecorded : migration.name ∈ s.db.log
    · rw [if_pos hrecorded] at hstore
      have hstep : s.step (.step process .done) =
          some ⟨s.db, Function.update s.place process (.checking (index + 1))⟩ := by
        simp [Migrating.step, migrateStep, hplace, hnext, hbook, hrecorded]
      refine hthen [.step process .done] _ ?_ (Run.nil.snoc trivial hstep)
        (Function.update_self ..) hbook hstore
      exact fun label hlabel => .inr (List.mem_singleton.1 hlabel)
    · rw [if_neg hrecorded] at hstore
      obtain ⟨taken, htake, hall⟩ := Option.bind_eq_some_iff.1 hstore
      have hlook : s.step (.step process .done) =
          some ⟨s.db, Function.update s.place process (.pending index)⟩ := by
        simp [Migrating.step, migrateStep, hplace, hnext, hbook, hrecorded]
      have hcommit : Migrating.step ⟨s.db, Function.update s.place process (.pending index)⟩
          (.step process .done) = some ⟨{ s.db with toStore := taken },
            Function.update (Function.update s.place process (.pending index)) process
              (.checking (index + 1))⟩ := by
        simp [Migrating.step, migrateStep, hnext, htake]
      refine hthen [.step process .done, .step process .done] _ ?_
        ((Run.nil.snoc trivial hlook).snoc trivial hcommit) (Function.update_self ..) hbook hall
      intro label hlabel
      simp only [List.mem_cons, List.not_mem_nil, or_false, or_self] at hlabel
      exact .inr hlabel

/-! ## Fresh databases -/

/-- The relations that the migrations create without `IF NOT EXISTS`. -/
def newNames : List String := ["users", "api_keys", "idx_api_keys_user_id",
  "idx_usage_records_user_created_at", "providers", "pricing", "models", "model_deployments",
  "idx_model_deployments_model", "credit_grants", "idx_credit_grants_user_created_at"]

/-- The names are free, but for the table that stands first. -/
structure Fresh (schema : Schema) : Prop where
  free : ∀ name ∈ newNames, schema name = none
  usage : schema "usage_records" = none ∨ schema "usage_records" = some (.table usageRecords)

section
variable {name name' : String}

@[simp]
theorem table_update_self (table : Table) :
    Schema.table (Function.update schema name (some (.table table))) name = some table := by
  simp [Schema.table]

@[simp]
theorem table_update_ne (relation : Option Relation) (hne : name' ≠ name) :
    Schema.table (Function.update schema name relation) name' = schema.table name' := by
  simp [Schema.table, hne]

end

/-- An index that may be there already. -/
theorem createIndexIfNotExists_run (name : String) {table : String} {columns : List String}
    (h : indexable schema table columns) : ∃ schema',
      (Ddl.createIndexIfNotExists name table columns).run schema = some schema' ∧
        ∀ other ≠ name, schema' other = schema other := by
  by_cases hname : schema name = none
  · refine ⟨Function.update schema name (some .index), ?_, fun other hne =>
      Function.update_of_ne hne ..⟩
    simp [Ddl.run, createIndex, hname, h]
  · refine ⟨schema, ?_, fun _ _ => rfl⟩
    simp [Ddl.run, Option.isSome_iff_ne_none, hname, h]

/-- The first migration, where the table may be there already. -/
theorem usageRecords_migrated (h : Fresh schema) : ∃ schema',
    runAll (migrations.take 1) schema = some schema' ∧
      schema'.table "usage_records" = some usageRecords ∧
      ∀ name ∈ newNames, schema' name = none := by
  obtain ⟨s₁, hrun₁, htable₁, hsame₁⟩ : ∃ s₁,
      (Ddl.createTableIfNotExists "usage_records" usageRecords).run schema = some s₁ ∧
        s₁ "usage_records" = some (.table usageRecords) ∧
        ∀ other ≠ "usage_records", s₁ other = schema other := by
    rcases h.usage with hnone | htable
    · refine ⟨Function.update schema "usage_records" (some (.table usageRecords)), ?_,
        Function.update_self .., fun other hne => Function.update_of_ne hne ..⟩
      simp [Ddl.run, createTable, hnone, usageRecords]
    · exact ⟨schema, by simp [Ddl.run, htable], htable, fun _ _ => rfl⟩
  have hindexable {s : Schema} (hs : s "usage_records" = some (.table usageRecords))
      (columns : List String)
      (hcolumns : columns.all (fun name => (usageRecords.column name).isSome) = true) :
      indexable s "usage_records" columns := by
    simpa [indexable, Schema.table, hs] using hcolumns
  obtain ⟨s₂, hrun₂, hsame₂⟩ := createIndexIfNotExists_run "idx_usage_records_created_at"
    (hindexable htable₁ ["created_at"] rfl)
  have htable₂ := (hsame₂ "usage_records" (by decide)).trans htable₁
  obtain ⟨s₃, hrun₃, hsame₃⟩ := createIndexIfNotExists_run
    "idx_usage_records_provider_created_at" (hindexable htable₂ ["provider_id", "created_at"] rfl)
  have htable₃ := (hsame₃ "usage_records" (by decide)).trans htable₂
  obtain ⟨s₄, hrun₄, hsame₄⟩ := createIndexIfNotExists_run "idx_usage_records_upstream_model"
    (hindexable htable₃ ["upstream_model"] rfl)
  refine ⟨s₄, ?_, ?_, fun name hname => ?_⟩
  · simp [runAll, migrations, migration, hrun₁, hrun₂, hrun₃, hrun₄]
  · rw [Schema.table, (hsame₄ "usage_records" (by decide)).trans htable₃]
  · have hne (other : String) (hother : other ∉ newNames) : name ≠ other :=
      ne_of_mem_of_not_mem hname hother
    rw [hsame₄ name (hne _ (by decide)), hsame₃ name (hne _ (by decide)),
      hsame₂ name (hne _ (by decide)), hsame₁ name (hne _ (by decide)), h.free name hname]

/-- The other migrations, on the table that the first has left. -/
theorem rest_migrated (hfree : ∀ name ∈ newNames, schema name = none)
    (husage : schema.table "usage_records" = some usageRecords) :
    ∃ final, runAll (migrations.drop 1) schema = some final ∧
      ∀ entity ∈ entities, entity.fits final := by
  simp only [newNames, List.forall_mem_cons] at hfree
  obtain ⟨h₁, h₂, h₃, h₄, h₅, h₆, h₇, h₈, h₉, h₁₀, h₁₁, -⟩ := hfree
  simp [runAll, migrations, migration, Ddl.run, createTable, createIndex, addColumn, indexable,
    Reference.valid, Table.column, usageRecords, husage, h₁, h₂, h₃, h₄, h₅, h₆, h₇, h₈, h₉, h₁₀,
    h₁₁, entities, Entity.fits]
  -- the columns, each table's in the order of its statements
  decide

/-- All migrations run on a fresh database, and leave the tables of the entities. -/
theorem fits_of_fresh (h : Fresh schema) : ∃ final, runAll migrations schema = some final ∧
    ∀ entity ∈ entities, entity.fits final := by
  obtain ⟨schema', hfirst, husage, hfree⟩ := usageRecords_migrated h
  obtain ⟨final, hrest, hfits⟩ := rest_migrated hfree husage
  refine ⟨final, ?_, hfits⟩
  rw [← List.take_append_drop 1 migrations, runAll, List.foldlM_append]
  exact Option.bind_eq_some_iff.2 ⟨schema', hfirst, hrest⟩

/-- **Migrations recover, and fit the code.** On a fresh database, whatever the processes that
migrate it have done and wherever they have failed: when one of them has returned `Ok`, every entity
finds its table with its columns and no others; and a process that is started again and left alone
returns `Ok`, with all migrations recorded. -/
theorem migrations_recover (hfresh : Fresh schema) {s : Migrating ι} {tr : List (MigrateLabel ι)}
    (h : Steps Migrating.step (Migrating.init ι schema) tr s) (process : ι) :
    (s.place process = .returned true → ∀ entity ∈ entities, entity.fits s.db.data) ∧
      ∃ tr' s', (∀ label ∈ tr', label.Alone process) ∧ Steps Migrating.step s tr' s' ∧
        s'.place process = .returned true ∧ s'.db.log = migrations.map Item.name ∧
        ∀ entity ∈ entities, entity.fits s'.db.data := by
  obtain ⟨k, htaken, hknown⟩ := Migrating.run_taken h
  obtain ⟨final, hfinal, hfits⟩ := fits_of_fresh hfresh
  constructor
  · intro hok
    have hall := hknown process
    rw [hok] at hall
    obtain rfl : k = migrations.length := le_antisymm htaken.le hall
    have hdata := htaken.data
    rw [List.take_length, hfinal, Option.some.injEq] at hdata
    rw [← hdata]
    exact hfits
  · have hmigrate : migrate s.db = some ⟨⟨final, migrations.map Item.name⟩, true⟩ := by
      rw [migrate, htaken.takeAll migrations_names hfinal]
      rfl
    obtain ⟨tr', s', hlabels, hrun, hdb, hplace⟩ := migrate_alone s process hmigrate
    refine ⟨tr', s', hlabels, hrun, hplace, ?_, ?_⟩
    · rw [hdb]
    · rw [hdb]
      exact hfits

/-- The first process loses the reply of its first transaction, and the second finishes. -/
theorem migrations_recover_sample : ∃ s : Migrating Bool,
    Steps Migrating.step (Migrating.init Bool fun _ => none)
      [.step true .done, .step true .done, .step true .lost] s ∧
    s.place true = .returned false ∧
    ∃ tr' s', (∀ label ∈ tr', label.Alone false) ∧ Steps Migrating.step s tr' s' ∧
      s'.place false = .returned true ∧ s'.db.log = migrations.map Item.name ∧
      ∀ entity ∈ entities, entity.fits s'.db.data := by
  obtain ⟨s, hrun, hplace⟩ : ∃ s : Migrating Bool,
      Steps Migrating.step (Migrating.init Bool fun _ => none)
        [.step true .done, .step true .done, .step true .lost] s ∧
      s.place true = .returned false := ⟨_, steps_of_exec rfl, rfl⟩
  have hfresh : Fresh fun _ => none := ⟨fun _ _ => rfl, .inl rfl⟩
  exact ⟨s, hrun, hplace, (migrations_recover hfresh hrun false).2⟩

end LiteAgentify.Db
