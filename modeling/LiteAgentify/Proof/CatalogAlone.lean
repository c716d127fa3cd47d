import LiteAgentify.Admin.CatalogThread
import LiteAgentify.Proof.Catalog

/-!
# A catalog request by itself

With nobody else on the database, and no statement that fails, the program of a handler does and
answers what `AdminState.handle` says (`handle_alone`). So the runs of `AdminState.step` are among
those of the calls at the same time (`CatalogThreads.sequential`).
-/

set_option autoImplicit false

namespace LiteAgentify

open Threads

namespace CatalogThread

variable {P : Packages} {R R' : Type} {s : AdminState} {file : Except String GatewayConfig}

/-- A program by itself, with what it reads from the config file. -/
abbrev alone (file : Except String GatewayConfig) (p : CatalogProgram R) (s : AdminState) :
    AdminState × R :=
  p.alone CatalogStep.exec { file := file } s

theorem alone_bind (p : CatalogProgram R) (k : R → CatalogProgram R') :
    alone file (p >>= k) s = alone file (k (alone file p s).2) (alone file p s).1 :=
  Program.alone_bind p k s

theorem alone_query (q : CatalogSql) (k : Option q.Reply → CatalogProgram R) :
    alone file (query q >>= k) s = match q.run (fun _ => false) s.db with
      | some (db, reply) => alone file (k (some reply)) { s with db := db }
      | none => alone file (k none) s := by
  have hexec : q.exec { file := file } s.db = match q.run (fun _ => false) s.db with
      | some (db, reply) => (db, some reply)
      | none => (s.db, none) := by
    unfold CatalogSql.exec
    cases q.run (fun _ => false) s.db <;> rfl
  change alone file (k (q.exec { file := file } s.db).2)
    { s with db := (q.exec { file := file } s.db).1 } = _
  rw [hexec]
  cases q.run (fun _ => false) s.db <;> rfl

/-- A statement that reads. -/
theorem alone_read {q : CatalogSql} {reply : q.Reply} (k : Option q.Reply → CatalogProgram R)
    (h : q.run (fun _ => false) s.db = some (s.db, reply)) :
    alone file (query q >>= k) s = alone file (k (some reply)) s := by
  rw [alone_query, h]

/-- A statement that is refused. -/
theorem alone_refused {q : CatalogSql} (k : Option q.Reply → CatalogProgram R)
    (h : q.run (fun _ => false) s.db = none) :
    alone file (query q >>= k) s = alone file (k none) s := by
  rw [alone_query, h]

/-- A statement that writes. -/
theorem alone_write {q : CatalogSql} {reply : q.Reply} {f : CatalogTables → CatalogTables}
    (k : Option q.Reply → CatalogProgram R)
    (h : q.run (fun _ => false) s.db = s.db.write reply f) :
    alone file (query q >>= k) s = match s.db.commit f with
      | .ok db => alone file (k (some reply)) { s with db := db }
      | .error _ => alone file (k none) s := by
  rw [alone_query, h, CatalogDb.write]
  cases s.db.commit f <;> rfl

/-- The only failure of a statement. -/
theorem commit_failed {db : CatalogDb} {f : CatalogTables → CatalogTables} {e : StoreError}
    (h : db.commit f = .error e) : e = .failed := by
  unfold CatalogDb.commit at h
  split at h <;> cases h
  rfl

/-- What a store call leaves and returns. -/
def stored (s : AdminState) : Except StoreError (CatalogDb × R) → AdminState × Except StoreError R
  | .ok (db, result) => ({ s with db := db }, .ok result)
  | .error e => (s, .error e)

/-- A store call that ends with a write. -/
theorem alone_last {q : CatalogSql} {reply : q.Reply} {f : CatalogTables → CatalogTables}
    {k : Option q.Reply → CatalogProgram (Except StoreError R)} {result : R}
    (h : q.run (fun _ => false) s.db = s.db.write reply f)
    (hsome : k (some reply) = pure (.ok result)) (hnone : k none = pure (.error .failed)) :
    alone file (query q >>= k) s = stored s ((s.db.commit f).map fun db => (db, result)) := by
  rw [alone_write _ h]
  cases hcommit : s.db.commit f with
  | ok db =>
    dsimp only
    rw [hsome]
    rfl
  | error e =>
    cases commit_failed hcommit
    dsimp only
    rw [hnone]
    rfl

namespace Store

theorem upsertProvider_alone (provider : ProviderConfig) (isNew : Bool) :
    alone file (upsertProvider provider isNew) s =
      stored s ((s.db.upsertProvider provider isNew).map fun db => (db, ())) := by
  unfold upsertProvider CatalogDb.upsertProvider
  rw [alone_read _ rfl]
  dsimp only
  split
  · rfl
  · cases hfind : s.db.getProvider provider.id with
    | none => exact alone_last (q := .insertProvider provider) rfl rfl rfl
    | some row =>
      refine alone_last (q := .updateProvider provider) ?_ rfl rfl
      simp only [CatalogSql.run, CatalogDb.updateOne, hfind, Option.isSome_some, if_true]

theorem createPricing_alone (id : Uuid) (config : PricingConfig) :
    alone file (createPricing id config) s =
      stored s ((s.db.createPricing id config).map fun db => (db, ())) := by
  unfold createPricing CatalogDb.createPricing
  rw [alone_read _ rfl]
  dsimp only
  split
  · rfl
  · cases hstored : config.stored with
    | none =>
      refine alone_refused (q := .insertPricing id config) _ ?_
      simp only [CatalogSql.run, hstored, Option.bind_none]
    | some stored =>
      refine alone_last (q := .insertPricing id config) ?_ rfl rfl
      simp only [CatalogSql.run, hstored, Option.bind_some]

theorem collides_alone (row : PricingRecord) (config : PricingConfig) :
    alone file (collides row config) s = (s, some (decide
      ((row.config.provider ≠ config.provider ∨ row.config.model ≠ config.model) ∧
        s.db.hasRule config.provider config.model))) := by
  unfold collides
  split
  · rename_i hchanged
    simp only [hchanged, true_and, Bool.decide_eq_true]
    exact alone_read (q := .findRule config.provider config.model) pure rfl
  · rename_i hsame
    simp only [hsame, false_and, decide_false]
    rfl

theorem updatePricing_alone (id : Uuid) (config : PricingConfig) :
    alone file (updatePricing id config) s = stored s (s.db.updatePricing id config) := by
  unfold updatePricing CatalogDb.updatePricing
  rw [alone_read _ rfl]
  dsimp only
  cases hfind : s.db.pricing.find? (·.id = id) with
  | none => rfl
  | some row =>
    dsimp only
    rw [alone_bind, collides_alone]
    by_cases hclash : (row.config.provider ≠ config.provider ∨ row.config.model ≠ config.model) ∧
      s.db.hasRule config.provider config.model
    · rw [if_pos hclash, decide_eq_true hclash]
      rfl
    · rw [if_neg hclash, decide_eq_false hclash]
      have hany : s.db.pricing.any (·.id = id) = true :=
        List.any_eq_true.2 ⟨row, List.mem_of_find?_eq_some hfind, by
          simpa using List.find?_some hfind⟩
      cases hstored : config.stored with
      | none =>
        refine alone_refused (q := .updatePricing id config) _ ?_
        simp only [CatalogSql.run, hstored, Option.bind_none]
      | some stored =>
        have hrun : (CatalogSql.updatePricing id config).run (fun _ => false) s.db =
            s.db.write () fun t => { t with
              pricing := t.pricing.map fun row =>
                if row.id = id then { row with config := stored } else row } := by
          simp only [CatalogSql.run, hstored, Option.bind_some, CatalogDb.updateOne, hany, if_true]
        exact alone_last hrun rfl rfl

theorem createModel_alone (name : String) (now : DateTime) :
    alone file (createModel name now) s =
      stored s ((s.db.createModel name now).map fun db => (db, ())) := by
  unfold createModel CatalogDb.createModel
  rw [alone_read _ rfl]
  dsimp only
  rw [List.isSome_find?]
  split
  · rfl
  · exact alone_last (q := .insertModel name now) rfl rfl rfl

theorem setModelStatus_alone (name : String) (enabled : Bool) :
    alone file (setModelStatus name enabled) s = stored s (s.db.setModelStatus name enabled) := by
  unfold setModelStatus CatalogDb.setModelStatus
  rw [alone_read _ rfl]
  dsimp only
  rw [List.isSome_find?]
  split
  · rename_i hfound
    have hrun : (CatalogSql.updateStatus name enabled).run (fun _ => false) s.db =
        s.db.write () fun t => { t with
          models := t.models.map fun row =>
            if row.name = name then { row with enabled := enabled } else row } := by
      simp only [CatalogSql.run, CatalogDb.updateOne, hfound, if_true]
    exact alone_last hrun rfl rfl
  · rfl

theorem setDeployments_alone (name : String) (deployments : List (String × String)) :
    alone file (setDeployments name deployments) s =
      stored s (s.db.setDeployments name deployments) := by
  unfold setDeployments CatalogDb.setDeployments
  cases CatalogDb.firstRepeated [] (deployments.map Prod.fst) with
  | some providerId => rfl
  | none =>
    dsimp only
    split
    · rename_i hfound
      have hrun : (CatalogSql.replaceDeployments name deployments).run (fun _ => false) s.db =
          s.db.write true fun t => { t with
            deployments := t.deployments.filter (·.modelName ≠ name) ++
              CatalogDb.deploymentRows name deployments } := by
        simp only [CatalogSql.run, hfound, if_true, Bool.false_eq_true, or_false]
      exact alone_last hrun rfl rfl
    · rename_i hmissing
      have hrun : (CatalogSql.replaceDeployments name deployments).run (fun _ => false) s.db =
          some (s.db, false) := by
        rw [CatalogSql.run, if_neg hmissing]
      exact alone_read _ hrun

theorem getModel_alone (name : String) :
    alone file (getModel name) s = (s, (s.db.getModel name).isSome) := by
  unfold getModel CatalogDb.getModel
  rw [alone_read _ rfl, Option.isSome_map]
  dsimp only
  cases s.db.models.find? (·.name = name) <;> rfl

/-- The rows of all deployments, sorted twice, hold the chain of every model. -/
theorem joinModels_eq (db : CatalogDb) :
    joinModels (db.orderBy ModelRow.name db.models)
      ((OrderBy.sortBy DeploymentRow.priority db.deployments).insertionSort fun a b =>
        a.modelName = b.modelName ∨ db.collation a.modelName b.modelName) = db.listModels := by
  refine List.map_congr_left fun row _ => ?_
  rw [OrderBy.filter_insertionSort, OrderBy.sortBy_filter]
  · rfl
  · intro a _ b _ ha hb
    exact .inl ((of_decide_eq_true ha).trans (of_decide_eq_true hb).symm)

theorem listModels_alone : alone file listModels s = (s, .ok s.db.listModels) := by
  unfold listModels
  rw [alone_read _ rfl, ← joinModels_eq]
  rfl

theorem snapshot_alone : alone file snapshot s = (s, .ok s.db.snapshot) := by
  unfold snapshot
  rw [alone_read _ rfl]
  dsimp only
  rw [alone_read _ rfl]
  dsimp only
  rw [alone_bind, listModels_alone]
  rfl

end Store

/-! ## The handlers -/

/-- What a handler leaves and returns. -/
def after (s : AdminState) (outcome : Admin.Outcome) : AdminState × Except Rejection Nat :=
  ({ s with db := outcome.1 }, outcome.2)

theorem createProvider_alone (body : Admin.CreateProviderBody) :
    alone file (createProvider body) s = after s (Admin.createProvider s.db body) := by
  unfold createProvider Admin.createProvider
  dsimp only
  split
  · rfl
  · cases Admin.buildProvider (Text.trim body.id) body.fields none with
    | error rejection => rfl
    | ok provider =>
      dsimp only
      rw [alone_bind, Store.upsertProvider_alone]
      cases s.db.upsertProvider provider true <;> rfl

theorem updateProvider_alone (id : String) (fields : Admin.ProviderBody) :
    alone file (updateProvider id fields) s = after s (Admin.updateProvider s.db id fields) := by
  unfold updateProvider Admin.updateProvider
  rw [alone_read _ rfl]
  cases s.db.getProvider id with
  | none => rfl
  | some current =>
    dsimp only
    cases Admin.buildProvider id fields (some current.apiKey) with
    | error rejection => rfl
    | ok provider =>
      dsimp only
      rw [alone_bind, Store.upsertProvider_alone]
      cases s.db.upsertProvider provider false <;> rfl

theorem deleteProvider_alone (id : String) :
    alone file (deleteProvider id) s = after s (Admin.deleteProvider s.db id) := by
  unfold deleteProvider Admin.deleteProvider
  rw [alone_read _ rfl]
  cases s.db.providerInUse id with
  | some model => rfl
  | none =>
    dsimp only
    rw [alone_write (q := .deleteProvider id) _ rfl, CatalogDb.deleteProvider]
    cases s.db.commit _ with
    | error e => rfl
    | ok db => cases s.db.providers.any (·.id = id) <;> rfl

theorem ensurePricingGate_alone (mutate : List PricingRecord → List PricingRecord) :
    alone file (ensurePricingGate mutate) s = (s, Admin.ensurePricingGate s.db mutate) := by
  unfold ensurePricingGate Admin.ensurePricingGate
  rw [alone_read _ rfl]
  dsimp only
  rw [alone_bind, Store.listModels_alone]
  dsimp only
  generalize List.findSome? _ _ = uncovered
  rcases uncovered with _ | ⟨name, deployment⟩ <;> rfl

theorem createPricing_alone (body : Admin.PricingBody) (newId : Uuid) :
    alone file (createPricing P body newId) s =
      after s (Admin.createPricing P s.db body newId) := by
  unfold createPricing Admin.createPricing
  cases Admin.buildPricing P body with
  | error rejection => rfl
  | ok config =>
    dsimp only
    rw [alone_bind, Store.createPricing_alone]
    cases s.db.createPricing newId config <;> rfl

theorem updatePricing_alone (id : Uuid) (body : Admin.PricingBody) :
    alone file (updatePricing P id body) s = after s (Admin.updatePricing P s.db id body) := by
  unfold updatePricing Admin.updatePricing
  cases Admin.buildPricing P body with
  | error rejection => rfl
  | ok config =>
    dsimp only
    rw [alone_bind, ensurePricingGate_alone]
    cases Admin.ensurePricingGate s.db _ with
    | error rejection => rfl
    | ok =>
      dsimp only
      rw [alone_bind, Store.updatePricing_alone]
      cases s.db.updatePricing id config with
      | error e => rfl
      | ok out =>
        obtain ⟨db, found⟩ := out
        cases found <;> rfl

theorem deletePricing_alone (id : Uuid) :
    alone file (deletePricing id) s = after s (Admin.deletePricing s.db id) := by
  unfold deletePricing Admin.deletePricing
  rw [alone_bind, ensurePricingGate_alone]
  cases Admin.ensurePricingGate s.db _ with
  | error rejection => rfl
  | ok =>
    dsimp only
    rw [alone_write (q := .deletePricing id) _ rfl, CatalogDb.deletePricing]
    cases s.db.commit _ with
    | error e => rfl
    | ok db => cases s.db.pricing.any (·.id = id) <;> rfl

theorem validateDeployments_alone (deployments : List Admin.DeploymentBody) :
    alone file (validateDeployments deployments) s =
      (s, Admin.validateDeployments s.db deployments) := by
  unfold validateDeployments
  rw [alone_read _ rfl]
  rfl

theorem ensureListableIf_alone (enabled : Bool) (name : String)
    (deployments : List (String × String)) (now : DateTime) :
    alone file (ensureListableIf enabled name deployments now) s =
      (s, Admin.ensureListableIf enabled s.db name deployments now) := by
  unfold ensureListableIf Admin.ensureListableIf ensureListable Admin.ensureListable
  cases enabled with
  | false => rfl
  | true =>
    cases deployments with
    | nil => rfl
    | cons first rest =>
      simp only [if_true, List.isEmpty_cons, Bool.false_eq_true, if_false]
      rw [alone_read _ rfl]
      dsimp only
      generalize uncoveredDeployments _ _ = uncovered
      cases uncovered <;> rfl

theorem createModel_alone (body : Admin.CreateModelBody) (now : DateTime) :
    alone file (createModel body now) s = after s (Admin.createModel s.db body now) := by
  unfold createModel Admin.createModel
  dsimp only
  split
  · rfl
  · rw [alone_bind, validateDeployments_alone]
    cases Admin.validateDeployments s.db body.deployments with
    | error rejection => rfl
    | ok deployments =>
      dsimp only
      rw [alone_bind, ensureListableIf_alone]
      cases Admin.ensureListableIf body.enabled s.db (Text.trim body.name) deployments now with
      | error rejection => rfl
      | ok =>
        dsimp only
        rw [alone_bind, Store.createModel_alone]
        cases s.db.createModel (Text.trim body.name) now with
        | error e => rfl
        | ok created =>
          change alone file (Store.setDeployments _ deployments >>= _) { s with db := created } = _
          rw [alone_bind, Store.setDeployments_alone]
          dsimp only
          cases created.setDeployments (Text.trim body.name) deployments with
          | error e => rfl
          | ok saved =>
            change alone file (enableIf body.enabled _) { s with db := saved.1 } = _
            unfold enableIf
            cases body.enabled with
            | false => rfl
            | true =>
              simp only [if_true]
              rw [alone_bind, Store.setModelStatus_alone]
              dsimp only
              cases saved.1.setModelStatus (Text.trim body.name) true <;> rfl

theorem updateModel_alone (name : String) (body : Admin.UpdateModelBody) (now : DateTime) :
    alone file (updateModel name body now) s = after s (Admin.updateModel s.db name body now) := by
  unfold updateModel Admin.updateModel
  rw [alone_bind, Store.getModel_alone]
  cases s.db.getModel name with
  | none => rfl
  | some model =>
    simp only [Option.isSome_some, if_true, Option.isNone_some, Bool.false_eq_true, if_false]
    rw [alone_bind, validateDeployments_alone]
    cases Admin.validateDeployments s.db body.deployments with
    | error rejection => rfl
    | ok deployments =>
      dsimp only
      rw [alone_bind, ensureListableIf_alone]
      cases Admin.ensureListableIf body.enabled s.db name deployments now with
      | error rejection => rfl
      | ok =>
        dsimp only
        rw [alone_bind, Store.setDeployments_alone]
        cases s.db.setDeployments name deployments with
        | error e => rfl
        | ok saved =>
          change alone file (Store.setModelStatus name body.enabled >>= _)
            { s with db := saved.1 } = _
          rw [alone_bind, Store.setModelStatus_alone]
          dsimp only
          cases saved.1.setModelStatus name body.enabled <;> rfl

theorem deleteModel_alone (name : String) :
    alone file (deleteModel name) s = after s (Admin.deleteModel s.db name) := by
  unfold deleteModel Admin.deleteModel
  rw [alone_write (q := .deleteModel name) _ rfl, CatalogDb.deleteModel]
  cases s.db.commit _ with
  | error e => rfl
  | ok db => cases s.db.models.any (·.name = name) <;> rfl

theorem run_alone (request : CatalogRequest) :
    alone file (run P request) s = after s (request.run P s.db) := by
  cases request with
  | createProvider body => exact createProvider_alone body
  | updateProvider id fields => exact updateProvider_alone id fields
  | deleteProvider id => exact deleteProvider_alone id
  | createPricing body newId => exact createPricing_alone body newId
  | updatePricing id body => exact updatePricing_alone id body
  | deletePricing id => exact deletePricing_alone id
  | createModel body now => exact createModel_alone body now
  | updateModel name body now => exact updateModel_alone name body now
  | deleteModel name => exact deleteModel_alone name

theorem alone_readFile (k : Except String GatewayConfig → CatalogProgram R) :
    alone file (readFile >>= k) s = alone file (k file) s := rfl

theorem alone_loadState (k : GatewayState → CatalogProgram R) :
    alone file (loadState >>= k) s = alone file (k s.shared.state) s := rfl

/-- The two cells are stored as by the sequential body. -/
theorem storeCatalog_alone (catalog : CatalogSnapshot) :
    alone file (storeCatalog P catalog) s =
      ({ s with shared := (Call.storeCatalog catalog file).exec P s.shared },
        (Call.storeCatalog catalog file).result P s.shared) := by
  unfold storeCatalog
  rw [alone_readFile]
  cases file with
  | error e => rfl
  | ok config =>
    simp only [Call.exec, Call.result, Except.bind]
    rw [alone_loadState]
    cases rebuild P config catalog s.shared.state <;> rfl

theorem refreshAndRespond_alone (status : Nat) :
    alone file (refreshAndRespond P status) s = s.refreshAndRespond P file status := by
  unfold refreshAndRespond refreshCatalog AdminState.refreshAndRespond
  rw [alone_bind, alone_bind, Store.snapshot_alone]
  dsimp only
  rw [storeCatalog_alone]
  cases file with
  | error e => rfl
  | ok config =>
    simp only [Call.exec, Call.result, Except.bind]
    cases rebuild P config s.db.snapshot s.shared.state <;> rfl

/-- **A handler by itself.** -/
theorem handle_alone (call : CatalogCall) :
    alone file (handle P call) s = s.handle P file call := by
  unfold handle AdminState.handle
  cases requireAdmin call.identity with
  | error rejection => rfl
  | ok =>
    dsimp only
    rw [alone_bind, run_alone]
    cases hrun : call.request.run P s.db with
    | mk db result =>
      cases result with
      | error rejection => rfl
      | ok status => exact refreshAndRespond_alone status

end CatalogThread

/-- **Calls one after another** are a run of the calls at the same time. -/
theorem CatalogThreads.sequential {ι : Type} [DecidableEq ι] {P : Packages} {s u : AdminState}
    (calls : ι → CatalogCall) {order : List (ι × Except String GatewayConfig)}
    (hnd : (order.map Prod.fst).Nodup)
    (h : Lts.exec (AdminState.step P) s (order.map fun l => (calls l.1, l.2)) = some u) :
    ∃ tr v, Lts.Steps CatalogThreads.step (.init P s calls) tr v ∧ v.state = u := by
  have hfst : (order.map fun l => (l.1, ({ file := l.2 } : StepChoice))).map Prod.fst =
      order.map Prod.fst := by
    rw [List.map_map]
    rfl
  obtain ⟨tr, v, hrun, hstate, -⟩ := System.steps_sequentially
    CatalogStep.exec (CatalogThreads.init P s calls) (order.map fun l => (l.1, { file := l.2 }))
    (hfst ▸ hnd)
  have hcalls : Lts.exec (AdminState.step P) s (order.map fun l => (calls l.1, l.2)) =
      some (order.foldl (fun state l => (state.handle P l.2 (calls l.1)).1) s) := by
    rw [Lts.exec, List.foldlM_map]
    exact List.foldlM_pure
  rw [hcalls, Option.some.injEq] at h
  refine ⟨tr, v, hrun, ?_⟩
  rw [hstate, ← h, List.foldl_map]
  exact List.foldl_ext _ _ _ fun state l _ =>
    congrArg Prod.fst (CatalogThread.handle_alone (calls l.1))

end LiteAgentify
