import LiteAgentify.Catalog.Reads
import LiteAgentify.Proof.Catalog

/-!
# Both reads return the chain that was written

Sorting all rows and grouping them gives the same chains as selecting the rows of one model
(`listModels_eq`, `getModel_eq`). The rows of a model are told apart by their priorities (`Ranked`,
kept by every call: `ranked_after`), so its deployments have one order only, in whatever order the
database stores the rows. With what a transaction leaves (`setDeployments_cases`) the chain that was
written is the one that is read (`reads_return_chain`).
-/

set_option autoImplicit false

namespace LiteAgentify

/-- The place of a deployment: its model and its priority. -/
def DeploymentRow.place (row : DeploymentRow) : String × Nat := (row.modelName, row.priority)

/-- Fewer deployments break no constraint. -/
theorem CatalogTables.Constraints.of_sublist {t : CatalogTables} {rows : List DeploymentRow}
    (h : t.Constraints) (hsub : rows.Sublist t.deployments) :
    (CatalogTables.mk t.providers t.pricing t.models rows).Constraints := by
  obtain ⟨hp, hpr, hm, hd⟩ := CatalogTables.texts_iff.1 h.texts
  exact ⟨h.providerIds, h.pricingIds, h.pricingPairs, h.modelNames,
    h.deploymentPairs.sublist (hsub.map _),
    fun row hrow => h.deploymentModels row (hsub.subset hrow),
    fun row hrow => h.deploymentProviders row (hsub.subset hrow),
    CatalogTables.texts_iff.2 ⟨hp, hpr, hm, fun row hrow => hd row (hsub.subset hrow)⟩⟩

namespace SeaOrmCatalogStore

variable {store u v : SeaOrmCatalogStore} {draw : CallDraw} {name : String}
  {deployments : List (String × String)}

/-! ## Reads -/

/-- The rows of a model have different priorities. -/
def Ranked (store : SeaOrmCatalogStore) : Prop :=
  (store.db.deployments.map DeploymentRow.place).Nodup

/-- The deployments of a model, by priority. -/
def chainOf (store : SeaOrmCatalogStore) (name : String) : List DeploymentRecord :=
  (byPriority (store.db.deployments.filter (·.modelName = name))).map store.record

/-- A model with its deployments. -/
def modelRecord (store : SeaOrmCatalogStore) (row : ModelRow) : ModelRecord where
  name := row.name
  enabled := row.enabled
  createdAt := row.createdAt
  deployments := store.chainOf row.name

theorem Ranked.filter (h : store.Ranked) (name : String) :
    ((store.db.deployments.filter (·.modelName = name)).map DeploymentRow.priority).Nodup := by
  have hplaces : (store.db.deployments.filter (·.modelName = name)).map DeploymentRow.place =
      ((store.db.deployments.filter (·.modelName = name)).map DeploymentRow.priority).map
        (Prod.mk name) := by
    rw [List.map_map]
    refine List.map_congr_left fun row hrow => ?_
    have hmodel : row.modelName = name := by simpa using (List.mem_filter.1 hrow).2
    rw [Function.comp_apply, DeploymentRow.place, hmodel]
  have hnd := h.sublist (List.filter_sublist (p := (·.modelName = name)) |>.map DeploymentRow.place)
  rw [hplaces] at hnd
  exact hnd.of_map

/-- The two sorts leave the rows of a model in the order of their priorities. -/
theorem byModelAndPriority_filter (store : SeaOrmCatalogStore) (name : String) :
    (store.byModelAndPriority store.db.deployments).filter (·.modelName = name) =
      byPriority (store.db.deployments.filter (·.modelName = name)) := by
  rw [byModelAndPriority, OrderBy.filter_insertionSort, byPriority, byPriority,
    OrderBy.sortBy_filter]
  intro a _ b _ ha hb
  exact .inl ((of_decide_eq_true ha).trans (of_decide_eq_true hb).symm)

theorem takeDeployments_eq {byModel : HashMap String (List DeploymentRecord)}
    {rows : List ModelRow} (h : (rows.map ModelRow.name).Nodup) :
    takeDeployments byModel rows = rows.map fun row =>
      { name := row.name
        enabled := row.enabled
        createdAt := row.createdAt
        deployments := (byModel.lookup row.name).getD [] } := by
  induction rows generalizing byModel with
  | nil => rfl
  | cons row rows ih =>
    obtain ⟨hnot, hrows⟩ := List.nodup_cons.1 h
    rw [takeDeployments, ih hrows, List.map_cons]
    refine congrArg (List.cons _) (List.map_congr_left fun other hother => ?_)
    have hne : other.name ≠ row.name := fun heq => hnot (heq ▸ List.mem_map_of_mem hother)
    rw [Finmap.lookup_erase_ne hne]

theorem orderBy_names (store : SeaOrmCatalogStore) :
    ((store.db.orderBy ModelRow.name store.db.models).map ModelRow.name).Nodup := by
  have hperm := List.perm_insertionSort
    (fun a b : ModelRow => (store.db.collation a.name b.name : Prop)) store.db.models
  exact (hperm.map ModelRow.name).nodup_iff.2 store.db.constraints.modelNames

/-- **Sorting and grouping all rows** gives every model its deployments. -/
theorem listModels_eq (store : SeaOrmCatalogStore) : store.listModels =
    (store.db.orderBy ModelRow.name store.db.models).map store.modelRecord := by
  rw [listModels, takeDeployments_eq (orderBy_names store)]
  refine List.map_congr_left fun row _ => ?_
  rw [modelRecord, chainOf, Groups.lookup_collect_snoc, byModelAndPriority_filter]
  rfl

theorem mem_listModels {model : ModelRecord} :
    model ∈ store.listModels ↔ ∃ row ∈ store.db.models, store.modelRecord row = model := by
  rw [listModels_eq]
  simp [CatalogDb.orderBy]

/-- **Selecting the rows of one model.** -/
theorem getModel_eq (store : SeaOrmCatalogStore) (name : String) : store.getModel name =
    (store.db.models.find? (·.name = name)).map store.modelRecord := by
  refine Option.map_congr fun row hrow => ?_
  have hname : row.name = name := by simpa using List.find?_some hrow
  rw [modelRecord, chainOf, hname]

theorem getModel_iff {model : ModelRecord} : store.getModel name = some model ↔
    ∃ row ∈ store.db.models, row.name = name ∧ store.modelRecord row = model := by
  rw [getModel_eq]
  constructor
  · intro h
    obtain ⟨row, hfind, rfl⟩ := Option.map_eq_some_iff.1 h
    exact ⟨row, List.mem_of_find?_eq_some hfind, by simpa using List.find?_some hfind, rfl⟩
  · rintro ⟨row, hrow, rfl, rfl⟩
    cases hfind : store.db.models.find? (·.name = row.name) with
    | none =>
      rw [List.find?_eq_none] at hfind
      exact absurd (decide_eq_true rfl) (hfind row hrow)
    | some found =>
      have hname : found.name = row.name := by simpa using List.find?_some hfind
      rw [List.inj_on_of_nodup_map store.db.constraints.modelNames
        (List.mem_of_find?_eq_some hfind) hrow hname]
      rfl

/-! ## The order of the rows -/

/-- The same rows, stored in any order and sorted by any collation. -/
structure SameRows (store u : SeaOrmCatalogStore) : Prop where
  models : u.db.models.Perm store.db.models
  deployments : u.db.deployments.Perm store.db.deployments
  deploymentId : u.deploymentId = store.deploymentId

theorem SameRows.refl (store : SeaOrmCatalogStore) : SameRows store store := ⟨.refl _, .refl _, rfl⟩

theorem SameRows.ranked (h : SameRows store u) (hranked : store.Ranked) : u.Ranked :=
  (h.deployments.map _).nodup_iff.2 hranked

theorem SameRows.modelRecord (h : SameRows store u) (hranked : store.Ranked) (row : ModelRow) :
    u.modelRecord row = store.modelRecord row := by
  have hrecord : u.record = store.record := by
    funext deployment
    rw [record, record, h.deploymentId]
  have hsorted : byPriority (u.db.deployments.filter (·.modelName = row.name)) =
      byPriority (store.db.deployments.filter (·.modelName = row.name)) :=
    OrderBy.sortBy_eq_of_perm ((h.ranked hranked).filter row.name) (h.deployments.filter _)
  rw [SeaOrmCatalogStore.modelRecord, SeaOrmCatalogStore.modelRecord, chainOf, chainOf, hrecord,
    hsorted]

/-- What a list of models contains, in terms of the stored rows. -/
theorem SameRows.mem_listModels (h : SameRows store u) (hranked : store.Ranked)
    {model : ModelRecord} :
    model ∈ u.listModels ↔ ∃ row ∈ store.db.models, store.modelRecord row = model := by
  rw [SeaOrmCatalogStore.mem_listModels]
  simp only [h.modelRecord hranked, h.models.mem_iff]

theorem SameRows.getModel_iff (h : SameRows store u) (hranked : store.Ranked)
    {model : ModelRecord} : u.getModel name = some model ↔
      ∃ row ∈ store.db.models, row.name = name ∧ store.modelRecord row = model := by
  rw [SeaOrmCatalogStore.getModel_iff]
  simp only [h.modelRecord hranked, h.models.mem_iff]

/-- The list has one entry for each model. -/
theorem SameRows.listModels_names (h : SameRows store u) :
    (u.listModels.map ModelRecord.name).Perm (store.db.models.map ModelRow.name) := by
  have hmap : (u.db.orderBy ModelRow.name u.db.models).map (ModelRecord.name ∘ u.modelRecord) =
      (u.db.orderBy ModelRow.name u.db.models).map ModelRow.name :=
    List.map_congr_left fun _ _ => rfl
  rw [listModels_eq, List.map_map, hmap]
  exact ((List.perm_insertionSort _ _).trans h.models).map _

/-! ## Without the ids -/

theorem modelRecord_config (row : ModelRow) :
    (store.modelRecord row).config = store.db.modelConfig row := by
  have hchain : (store.chainOf row.name).map DeploymentRecord.config = store.db.chain row.name := by
    rw [chainOf, List.map_map]
    rfl
  rw [ModelRecord.config, modelRecord, CatalogDb.modelConfig, ← hchain]

/-- **The list, as the rest of the catalog reads it.** -/
theorem listModels_config (store : SeaOrmCatalogStore) :
    store.listModels.map ModelRecord.config = store.db.listModels := by
  rw [listModels_eq, List.map_map]
  exact List.map_congr_left fun row _ => modelRecord_config row

theorem getModel_config (name : String) :
    (store.getModel name).map ModelRecord.config = store.db.getModel name := by
  rw [getModel_eq, Option.map_map]
  exact Option.map_congr fun row _ => modelRecord_config row

/-! ## Writes -/

/-- What follows a statement of a call that succeeds. -/
theorem of_statement_bind {index : Nat} {α : Type} {rest : Unit → Except StoreError α} {result : α}
    (h : (draw.statement index >>= rest) = .ok result) : rest () = .ok result := by
  obtain ⟨_, -, h⟩ := Keyed.bind_ok.1 h
  exact h

/-- A call that adds no deployment. -/
structure Fewer (store after : SeaOrmCatalogStore) : Prop where
  providers : after.db.providers = store.db.providers
  deployments : after.db.deployments.Sublist store.db.deployments

theorem Fewer.refl (store : SeaOrmCatalogStore) : Fewer store store := ⟨rfl, .refl _⟩

theorem createModel_fewer : Fewer store (store.createModel draw name).1 := by
  unfold createModel
  split
  · exact .refl store
  · rename_i db hdb
    have ht := (CatalogDb.createModel_ok (of_statement_bind hdb)).2
    exact ⟨by simp only [ht], by simp only [ht]; exact .refl _⟩

theorem setModelStatus_fewer {enabled : Bool} :
    Fewer store (store.setModelStatus draw name enabled).1 := by
  unfold setModelStatus
  split
  · exact .refl store
  · exact .refl store
  · rename_i db hdb
    have ht := CatalogDb.setModelStatus_tables (of_statement_bind hdb)
    exact ⟨by simp only [ht]; rfl, by simp only [ht]; exact .refl _⟩

theorem deleteModel_fewer : Fewer store (store.deleteModel draw name).1 := by
  unfold deleteModel
  split
  · exact .refl store
  · rename_i db found hdb
    have ht := (CatalogDb.deleteModel_ok (of_statement_bind hdb)).1
    exact ⟨by simp only [ht], by simp only [ht]; exact List.filter_sublist⟩

theorem deploymentRows_eq (name : String) (deployments : List (String × String)) :
    CatalogDb.deploymentRows name deployments = deployments.zipIdx.map (rowOf name) := rfl

/-- What inserting rows one by one leaves. -/
structure Inserted (name : String) (txn : SeaOrmCatalogStore) (rows : List DeploymentRow)
    (txn' : SeaOrmCatalogStore) : Prop where
  tables : txn'.db.toCatalogTables =
    ⟨txn.db.providers, txn.db.pricing, txn.db.models, txn.db.deployments ++ rows⟩
  collation : txn'.db.collation = txn.db.collation
  otherIds : ∀ pair, pair.1 ≠ name → txn'.deploymentId pair = txn.deploymentId pair

theorem insertDeployment_ok {txn txn' : SeaOrmCatalogStore} {entry : (String × String) × Nat}
    (h : insertDeployment draw name txn entry = .ok txn') :
    Inserted name txn [rowOf name entry] txn' := by
  obtain ⟨db, hdb, h⟩ := Keyed.bind_ok.1 (of_statement_bind h)
  cases h
  obtain ⟨ht, hc⟩ := CatalogDb.commit_ok hdb
  refine ⟨ht, hc, fun pair hne => Function.update_of_ne ?_ _ _⟩
  exact fun heq => hne (congrArg Prod.fst heq)

theorem insertDeployments_ok {txn txn' : SeaOrmCatalogStore}
    {entries : List ((String × String) × Nat)}
    (h : entries.foldlM (insertDeployment draw name) txn = .ok txn') :
    Inserted name txn (entries.map (rowOf name)) txn' := by
  induction entries generalizing txn with
  | nil =>
    cases h
    exact ⟨by rw [List.map_nil, List.append_nil], rfl, fun _ _ => rfl⟩
  | cons entry entries ih =>
    rw [List.foldlM_cons] at h
    obtain ⟨next, hnext, h⟩ := Keyed.bind_ok.1 h
    have hfirst := insertDeployment_ok hnext
    have hrest := ih h
    refine ⟨?_, hrest.collation.trans hfirst.collation, fun pair hne =>
      (hrest.otherIds pair hne).trans (hfirst.otherIds pair hne)⟩
    rw [hrest.tables, hfirst.tables, List.append_assoc]
    rfl

/-- What a committed transaction leaves. -/
structure Replaced (name : String) (deployments : List (String × String))
    (store after : SeaOrmCatalogStore) : Prop where
  model : name ∈ store.db.models.map ModelRow.name
  tables : after.db.toCatalogTables = ⟨store.db.providers, store.db.pricing, store.db.models,
    store.db.deployments.filter (·.modelName ≠ name) ++ CatalogDb.deploymentRows name deployments⟩
  collation : after.db.collation = store.db.collation
  otherIds : ∀ pair, pair.1 ≠ name → after.deploymentId pair = store.deploymentId pair

/-- A transaction that does not fail finds no model, or it replaces the chain. -/
theorem replaceDeployments_cases {result : Option SeaOrmCatalogStore}
    (h : store.replaceDeployments draw name deployments = .ok result) :
    (result = none ∧ ¬ store.db.models.any (·.name = name) = true) ∨
      ∃ after, result = some after ∧ Replaced name deployments store after := by
  replace h := of_statement_bind (of_statement_bind h)
  split at h
  · rename_i hany
    obtain ⟨cleared, hcleared, h⟩ := Keyed.bind_ok.1 (of_statement_bind h)
    obtain ⟨inserted, hinserted, h⟩ := Keyed.bind_ok.1 h
    cases of_statement_bind (of_statement_bind (of_statement_bind h))
    obtain ⟨row, hrow, hname⟩ := List.any_eq_true.1 hany
    have hrows := insertDeployments_ok hinserted
    obtain ⟨htables, hcollation⟩ := CatalogDb.commit_ok hcleared
    refine .inr ⟨_, rfl, List.mem_map.2 ⟨row, hrow, of_decide_eq_true hname⟩, ?_,
      hrows.collation.trans hcollation, hrows.otherIds⟩
    show inserted.db.toCatalogTables = _
    rw [hrows.tables, deploymentRows_eq]
    simp only [htables]
  · rename_i hany
    cases h
    exact .inl ⟨rfl, hany⟩

/-- **A call replaces the chain, or it changes nothing.** -/
theorem setDeployments_cases (store : SeaOrmCatalogStore) (draw : CallDraw) (name : String)
    (deployments : List (String × String)) :
    ((store.setDeployments draw name deployments).2 = .ok true ∧
        Replaced name deployments store (store.setDeployments draw name deployments).1) ∨
      ((store.setDeployments draw name deployments).2 ≠ .ok true ∧
        (store.setDeployments draw name deployments).1 = store) := by
  unfold setDeployments
  split
  · exact .inr ⟨by simp, rfl⟩
  · split
    · exact .inr ⟨by simp, rfl⟩
    · exact .inr ⟨by simp, rfl⟩
    · rename_i committed hcommitted
      obtain ⟨h, -⟩ | ⟨after, h, hreplaced⟩ := replaceDeployments_cases hcommitted
      · cases h
      · cases h
        exact .inl ⟨rfl, hreplaced⟩

/-! ## The transaction and the single statement

`CatalogDb.setDeployments` replaces the rows at once; without failures the transaction does the same
row by row.
-/

/-- A statement that does not fail changes nothing about what follows it. -/
theorem statement_bind (hdraw : ∀ index, draw.fails index = false) (index : Nat) {α : Type}
    (rest : Unit → Except StoreError α) : (draw.statement index >>= rest) = rest () := by
  rw [CallDraw.statement, hdraw, if_neg Bool.false_ne_true]
  rfl

/-- Rows that meet the constraints together can be inserted one by one. -/
theorem insertDeployments_of (hdraw : ∀ index, draw.fails index = false) {txn : SeaOrmCatalogStore}
    {entries : List ((String × String) × Nat)}
    (h : (CatalogTables.mk txn.db.providers txn.db.pricing txn.db.models
      (txn.db.deployments ++ entries.map (rowOf name))).Constraints) :
    ∃ txn', entries.foldlM (insertDeployment draw name) txn = .ok txn' := by
  induction entries generalizing txn with
  | nil => exact ⟨txn, rfl⟩
  | cons entry entries ih =>
    have hfirst : (CatalogTables.mk txn.db.providers txn.db.pricing txn.db.models
        (txn.db.deployments ++ [rowOf name entry])).Constraints :=
      h.of_sublist (List.Sublist.append_left (List.Sublist.cons_cons _ (List.nil_sublist _)) _)
    have hcommit : txn.db.commit (fun t => { t with
        deployments := t.deployments ++ [rowOf name entry] }) = .ok ⟨_, txn.db.collation, hfirst⟩ :=
      CatalogDb.commit_of hfirst rfl
    obtain ⟨txn', htxn'⟩ := @ih
      { txn with
        db := ⟨_, txn.db.collation, hfirst⟩
        deploymentId := Function.update txn.deploymentId (name, entry.1.1) (draw.newId entry.2) }
      (by rwa [List.append_assoc])
    refine ⟨txn', ?_⟩
    rw [List.foldlM_cons, insertDeployment, statement_bind hdraw, hcommit]
    exact htxn'

/-- A transaction on a model that is there commits when the new rows meet the constraints. -/
theorem replaceDeployments_of (hdraw : ∀ index, draw.fails index = false)
    (hany : store.db.models.any (·.name = name) = true)
    (h : (CatalogTables.mk store.db.providers store.db.pricing store.db.models
      (store.db.deployments.filter (·.modelName ≠ name) ++
        CatalogDb.deploymentRows name deployments)).Constraints) :
    ∃ after, store.replaceDeployments draw name deployments = .ok (some after) := by
  have hclear : (CatalogTables.mk store.db.providers store.db.pricing store.db.models
      (store.db.deployments.filter (·.modelName ≠ name))).Constraints :=
    h.of_sublist (List.sublist_append_left ..)
  have hcommit : store.db.commit (fun t => { t with
      deployments := t.deployments.filter (·.modelName ≠ name) }) =
      .ok ⟨_, store.db.collation, hclear⟩ := CatalogDb.commit_of hclear rfl
  obtain ⟨inserted, hinserted⟩ := @insertDeployments_of draw name hdraw
    { store with db := ⟨_, store.db.collation, hclear⟩ } deployments.zipIdx h
  refine ⟨{ inserted with
    updatedAt := Function.update inserted.updatedAt name draw.now }, ?_⟩
  rw [replaceDeployments, statement_bind hdraw, statement_bind hdraw, if_pos hany,
    statement_bind hdraw]
  refine Keyed.bind_ok.2 ⟨_, hcommit, Keyed.bind_ok.2 ⟨_, hinserted, ?_⟩⟩
  rw [statement_bind hdraw, statement_bind hdraw, statement_bind hdraw]
  rfl

theorem replaceDeployments_none (hdraw : ∀ index, draw.fails index = false)
    (hany : ¬ store.db.models.any (·.name = name) = true) :
    store.replaceDeployments draw name deployments = .ok none := by
  rw [replaceDeployments, statement_bind hdraw, statement_bind hdraw, if_neg hany]
  rfl

/-- **The transaction refines the single statement.** -/
theorem setDeployments_refines (hdraw : ∀ index, draw.fails index = false) {db : CatalogDb}
    {found : Bool} : store.db.setDeployments name deployments = .ok (db, found) ↔
      (store.setDeployments draw name deployments).2 = .ok found ∧
        (store.setDeployments draw name deployments).1.db = db := by
  unfold CatalogDb.setDeployments setDeployments
  cases CatalogDb.firstRepeated [] (deployments.map Prod.fst) with
  | some providerId => simp
  | none =>
    simp only
    by_cases hany : store.db.models.any (·.name = name) = true
    · rw [if_pos hany]
      by_cases hc : (CatalogTables.mk store.db.providers store.db.pricing store.db.models
          (store.db.deployments.filter (·.modelName ≠ name) ++
            CatalogDb.deploymentRows name deployments)).Constraints
      · have hcommit : store.db.commit (fun t => { t with
            deployments := t.deployments.filter (·.modelName ≠ name) ++
              CatalogDb.deploymentRows name deployments }) = .ok ⟨_, store.db.collation, hc⟩ :=
          CatalogDb.commit_of hc rfl
        obtain ⟨after, hafter⟩ := replaceDeployments_of hdraw hany hc
        have hdb : after.db = ⟨_, store.db.collation, hc⟩ := by
          obtain ⟨h, -⟩ | ⟨_, h, hreplaced⟩ := replaceDeployments_cases hafter
          · cases h
          · cases h
            exact CatalogDb.ext_tables hreplaced.tables hreplaced.collation
        rw [hcommit, hafter]
        simp only [hdb]
        constructor
        · intro h
          cases h
          exact ⟨rfl, rfl⟩
        · rintro ⟨h, rfl⟩
          cases h
          rfl
      · have hcommit : store.db.commit (fun t => { t with
            deployments := t.deployments.filter (·.modelName ≠ name) ++
              CatalogDb.deploymentRows name deployments }) = .error .failed := dif_neg hc
        rw [hcommit]
        refine iff_of_false (fun h => by cases h) ?_
        cases hr : store.replaceDeployments draw name deployments with
        | error e => simp
        | ok result =>
          obtain ⟨-, hnone⟩ | ⟨after, -, hreplaced⟩ := replaceDeployments_cases hr
          · exact absurd hany hnone
          · exact absurd (hreplaced.tables ▸ after.db.constraints) hc
    · rw [if_neg hany, replaceDeployments_none hdraw hany]
      constructor
      · intro h
        cases h
        exact ⟨rfl, rfl⟩
      · rintro ⟨h, rfl⟩
        cases h
        rfl

/-! ## Runs -/

theorem places_deploymentRows (name : String) (deployments : List (String × String)) :
    (CatalogDb.deploymentRows name deployments).map DeploymentRow.place =
      (List.range' 0 deployments.length).map (Prod.mk name) := by
  rw [deploymentRows_eq, List.map_map, ← List.zipIdx_map_snd 0 deployments, List.map_map]
  rfl

theorem Replaced.ranked {after : SeaOrmCatalogStore}
    (h : Replaced name deployments store after) (hranked : store.Ranked) : after.Ranked := by
  have htables : after.db.deployments = _ := congrArg CatalogTables.deployments h.tables
  rw [Ranked, htables, List.map_append, List.nodup_append, places_deploymentRows]
  refine ⟨hranked.sublist (List.filter_sublist.map _),
    (List.nodup_range' (s := 0)).map (Prod.mk_right_injective name), fun a ha b hb => ?_⟩
  obtain ⟨row, hrow, rfl⟩ := List.mem_map.1 ha
  obtain ⟨priority, -, rfl⟩ := List.mem_map.1 hb
  have hne : row.modelName ≠ name := by simpa using (List.mem_filter.1 hrow).2
  exact fun heq => hne (congrArg Prod.fst heq)

/-- **What a call does to the deployments**: it adds none, or it replaces a chain. -/
theorem run_cases (store : SeaOrmCatalogStore) (call : ModelCall) (draw : CallDraw) :
    Fewer store (call.run draw store) ∨
      ∃ name deployments, Replaced name deployments store (call.run draw store) := by
  cases call with
  | createModel name => exact .inl createModel_fewer
  | setModelStatus name enabled => exact .inl setModelStatus_fewer
  | setDeployments name deployments =>
    obtain ⟨-, h⟩ | ⟨-, h⟩ := setDeployments_cases store draw name deployments
    · exact .inr ⟨name, deployments, h⟩
    · refine .inl ?_
      rw [ModelCall.run, h]
      exact .refl store
  | deleteModel name => exact .inl deleteModel_fewer

/-- An invariant of the calls. -/
theorem after_inv {I : SeaOrmCatalogStore → Prop} {init : SeaOrmCatalogStore} (h : I init)
    (hfewer : ∀ store after, I store → Fewer store after → I after)
    (hreplaced : ∀ name deployments store after, I store →
      Replaced name deployments store after → I after)
    (calls : List (ModelCall × CallDraw)) : I (init.after calls) := by
  induction calls generalizing init with
  | nil => exact h
  | cons call calls ih =>
    refine ih ?_
    obtain hf | ⟨name, deployments, hr⟩ := run_cases init call.1 call.2
    · exact hfewer init _ h hf
    · exact hreplaced name deployments init _ h hr

/-- Every call keeps the priorities of a model apart. -/
theorem ranked_after {init : SeaOrmCatalogStore} (h : init.Ranked)
    (calls : List (ModelCall × CallDraw)) : (init.after calls).Ranked :=
  after_inv h (fun _ _ h hf => h.sublist (hf.deployments.map _)) (fun _ _ _ _ h hr => hr.ranked h)
    calls

/-- Without models there are no deployments. -/
theorem ranked_of_no_models (h : store.db.models = []) : store.Ranked := by
  have hnone : store.db.deployments = [] := by
    rw [List.eq_nil_iff_forall_not_mem]
    intro row hrow
    have hmodel := store.db.constraints.deploymentModels row hrow
    rw [h] at hmodel
    cases hmodel
  rw [Ranked, hnone]
  exact List.nodup_nil

/-- A chain that is stored is no longer than the table of providers. -/
theorem Replaced.length_le {after : SeaOrmCatalogStore}
    (h : Replaced name deployments store after) :
    deployments.length ≤ store.db.providers.length := by
  have hc := after.db.constraints
  rw [h.tables] at hc
  have hpairs := hc.deploymentPairs
  rw [List.map_append, List.nodup_append] at hpairs
  have hproviders : (deployments.map Prod.fst).Nodup :=
    (CatalogDb.deploymentRows_pairs_nodup name deployments).1 hpairs.2.1
  have hsub : deployments.map Prod.fst ⊆ store.db.providers.map ProviderConfig.id := by
    intro id hid
    obtain ⟨d, hd, rfl⟩ := List.mem_map.1 hid
    obtain ⟨row, hrow, hprovider, -⟩ := CatalogDb.exists_deploymentRow name hd
    rw [← hprovider]
    exact hc.deploymentProviders row (List.mem_append_right _ hrow)
  simpa using (List.subperm_of_subset hproviders hsub).length_le

/-- The priorities are indexes into chains, which are no longer than the table of providers. -/
def Indexed (store : SeaOrmCatalogStore) : Prop :=
  ∀ row ∈ store.db.deployments, row.priority < store.db.providers.length

theorem Replaced.indexed {after : SeaOrmCatalogStore}
    (h : Replaced name deployments store after) (hindexed : store.Indexed) : after.Indexed := by
  intro row hrow
  rw [h.tables] at hrow ⊢
  rcases List.mem_append.1 hrow with hold | hnew
  · exact hindexed row (List.mem_filter.1 hold).1
  · rw [deploymentRows_eq] at hnew
    obtain ⟨entry, hentry, rfl⟩ := List.mem_map.1 hnew
    have hlt : entry.2 < deployments.length := by
      simpa using (List.mem_zipIdx' hentry).1
    exact hlt.trans_le h.length_le

/-- **The column holds every priority**: `priority as i32` is the index itself while there are at
most `2 ^ 31` providers. -/
theorem priority_exact {init : SeaOrmCatalogStore} (hinit : init.Indexed)
    (calls : List (ModelCall × CallDraw))
    (hproviders : (init.after calls).db.providers.length ≤ 2 ^ 31) {row : DeploymentRow}
    (hrow : row ∈ (init.after calls).db.deployments) :
    (row.priority : Int).bmod (2 ^ 32) = row.priority := by
  have hindexed : (init.after calls).Indexed := by
    refine after_inv hinit (fun store after h hf row hrow => ?_) (fun _ _ _ _ h hr => hr.indexed h)
      calls
    rw [hf.providers]
    exact h row (hf.deployments.subset hrow)
  have hlt := hindexed row hrow
  exact Int.bmod_eq_of_le (by omega) (by omega)

/-! ## The chain that was written -/

theorem Replaced.modelRecord_of_ne {after : SeaOrmCatalogStore}
    (h : Replaced name deployments store after) {row : ModelRow} (hne : row.name ≠ name) :
    after.modelRecord row = store.modelRecord row := by
  have hfilter : after.db.deployments.filter (·.modelName = row.name) =
      store.db.deployments.filter (·.modelName = row.name) := by
    rw [h.tables, List.filter_append, List.filter_filter]
    have hnew :
        (CatalogDb.deploymentRows name deployments).filter (·.modelName = row.name) = [] := by
      rw [List.filter_eq_nil_iff]
      intro deployment hmem
      rw [(CatalogDb.mem_deploymentRows hmem).1]
      simpa using hne.symm
    rw [hnew, List.append_nil]
    refine List.filter_congr fun deployment _ => ?_
    by_cases hmodel : deployment.modelName = row.name <;> simp [hmodel, hne]
  rw [modelRecord, modelRecord, chainOf, chainOf, hfilter]
  congr 1
  refine List.map_congr_left fun deployment hmem => ?_
  have hmodel : deployment.modelName = row.name := by
    simpa using (List.mem_filter.1 ((OrderBy.sortBy_perm _ _).mem_iff.1 hmem)).2
  rw [record, record, h.otherIds _ (by rw [hmodel]; exact hne)]

theorem Replaced.chain {after : SeaOrmCatalogStore}
    (h : Replaced name deployments store after) {row : ModelRow} (hname : row.name = name) :
    (after.modelRecord row).chain = deployments := by
  have hfilter : after.db.deployments.filter (·.modelName = name) =
      CatalogDb.deploymentRows name deployments := by
    rw [h.tables, List.filter_append, List.filter_filter, List.filter_eq_nil_iff.2 (by simp),
      List.nil_append, List.filter_eq_self]
    exact fun deployment hmem => decide_eq_true (CatalogDb.mem_deploymentRows hmem).1
  have hsorted : byPriority (CatalogDb.deploymentRows name deployments) =
      CatalogDb.deploymentRows name deployments :=
    (CatalogDb.deploymentRows_sorted name deployments).insertionSort_eq
  have hchain : (after.modelRecord row).chain = ((byPriority (after.db.deployments.filter
      (·.modelName = row.name))).map after.record).map fun deployment =>
        (deployment.providerId, deployment.upstreamModel) := rfl
  rw [hchain, hname, hfilter, hsorted, deploymentRows_eq, List.map_map, List.map_map]
  conv_rhs => rw [← List.zipIdx_map_fst 0 deployments]
  rfl

/-- What is read after a chain was replaced. -/
theorem Replaced.reads {after : SeaOrmCatalogStore} (h : Replaced name deployments store after)
    (hranked : store.Ranked) (hu : SameRows after u) (hv : SameRows store v) :
    (∃ model ∈ u.listModels, model.name = name ∧ model.chain = deployments) ∧
      (∃ model, u.getModel name = some model ∧ model.chain = deployments) ∧
      (∀ model, model.name ≠ name → (model ∈ u.listModels ↔ model ∈ v.listModels)) ∧
      ∀ other, other ≠ name → u.getModel other = v.getModel other := by
  have hafter := h.ranked hranked
  have hmodels : after.db.models = store.db.models := by rw [h.tables]
  have hlist : ∀ {model}, model ∈ u.listModels ↔
      ∃ row ∈ store.db.models, after.modelRecord row = model := by
    intro model
    rw [hu.mem_listModels hafter, hmodels]
  have hget : ∀ {name model}, u.getModel name = some model ↔
      ∃ row ∈ store.db.models, row.name = name ∧ after.modelRecord row = model := by
    intro name model
    rw [hu.getModel_iff hafter, hmodels]
  obtain ⟨row, hrow, hname⟩ := List.mem_map.1 h.model
  refine ⟨⟨_, hlist.2 ⟨row, hrow, rfl⟩, hname, h.chain hname⟩,
    ⟨_, hget.2 ⟨row, hrow, hname, rfl⟩, h.chain hname⟩, fun model hne => ?_, fun other hne => ?_⟩
  · rw [hlist, hv.mem_listModels hranked]
    refine exists_congr fun row => and_congr_right fun _ => ?_
    constructor
    · rintro rfl
      exact (h.modelRecord_of_ne hne).symm
    · rintro rfl
      exact h.modelRecord_of_ne hne
  · ext model
    rw [hget, hv.getModel_iff hranked]
    refine exists_congr fun row => and_congr_right fun _ => and_congr_right fun hother => ?_
    rw [h.modelRecord_of_ne (hother ▸ hne)]

/-- **Both catalog read paths return the chain that was written**, in any database that the four
calls reach and in whatever order it stores the rows: the list has one entry for each model, and it
is what looking the model up gives; a `set_deployments` that answers true has stored the chain, in
its order, and left every other model alone; any other answer leaves the database as it was, since a
transaction that fails is not committed (no reply to a commit is lost). -/
theorem reads_return_chain {init : SeaOrmCatalogStore} (hinit : init.db.models = [])
    (calls : List (ModelCall × CallDraw)) {store : SeaOrmCatalogStore}
    (hstore : init.after calls = store) :
    (∀ u v, SameRows store u → SameRows store v →
      (u.listModels.map ModelRecord.name).Nodup ∧
      (∀ name, name ∈ u.listModels.map ModelRecord.name ↔
        name ∈ store.db.models.map ModelRow.name) ∧
      ∀ model, model ∈ u.listModels ↔ v.getModel model.name = some model) ∧
    ∀ (draw : CallDraw) (name : String) (deployments : List (String × String)),
      ((store.setDeployments draw name deployments).2 = .ok true →
        ∀ u v, SameRows (store.setDeployments draw name deployments).1 u → SameRows store v →
          (∃ model ∈ u.listModels, model.name = name ∧ model.chain = deployments) ∧
          (∃ model, u.getModel name = some model ∧ model.chain = deployments) ∧
          (∀ model, model.name ≠ name → (model ∈ u.listModels ↔ model ∈ v.listModels)) ∧
          ∀ other, other ≠ name → u.getModel other = v.getModel other) ∧
      ((store.setDeployments draw name deployments).2 ≠ .ok true →
        (store.setDeployments draw name deployments).1 = store) := by
  have hranked : store.Ranked := hstore ▸ ranked_after (ranked_of_no_models hinit) calls
  refine ⟨fun u v hu hv => ?_,
    fun draw name deployments => ⟨fun htrue u v hu hv => ?_, fun hne => ?_⟩⟩
  · have hnames := hu.listModels_names
    refine ⟨hnames.nodup_iff.2 store.db.constraints.modelNames, fun name => hnames.mem_iff,
      fun model => ?_⟩
    rw [hu.mem_listModels hranked, hv.getModel_iff hranked]
    refine exists_congr fun row => and_congr_right fun _ => ⟨fun h => ⟨?_, h⟩, fun h => h.2⟩
    exact congrArg ModelRecord.name h
  · obtain ⟨-, h⟩ | ⟨hne, -⟩ := setDeployments_cases store draw name deployments
    · exact h.reads hranked hu hv
    · exact absurd htrue hne
  · obtain ⟨htrue, -⟩ | ⟨-, h⟩ := setDeployments_cases store draw name deployments
    · exact absurd htrue hne
    · exact h

/-! ## An example -/

def readsTables : CatalogTables where
  providers := [{ id := "p", protocol := .openAi, baseUrl := "https://a", apiKey := "s" },
    { id := "q", protocol := .openAi, baseUrl := "https://a", apiKey := "s" }]

theorem readsTables_constraints : readsTables.Constraints := by decide

/-- Two providers and no model. -/
def readsStore : SeaOrmCatalogStore where
  db := ⟨readsTables, fun _ _ => true, readsTables_constraints⟩
  updatedAt := fun _ => 0
  deploymentId := fun _ => 0

def readsDraw : CallDraw := ⟨1, fun index => index + 1, fun _ => false⟩

def readsCalls : List (ModelCall × CallDraw) :=
  [(.createModel "m", readsDraw), (.setDeployments "m" [("q", "x"), ("p", "y")], readsDraw)]

/-- The chain is read in the order in which it was written, not in that of the provider ids. -/
theorem reads_return_chain_sample :
    ((readsStore.after readsCalls).getModel "m").map ModelRecord.chain =
        some [("q", "x"), ("p", "y")] ∧
      ∀ model, model ∈ (readsStore.after readsCalls).listModels ↔
        (readsStore.after readsCalls).getModel model.name = some model :=
  ⟨by decide +kernel,
    ((reads_return_chain rfl readsCalls rfl).1 _ _ (.refl _) (.refl _)).2.2⟩

end SeaOrmCatalogStore

end LiteAgentify
