import LiteAgentify.Admin.ModelsStore
import LiteAgentify.Lib.Table
import LiteAgentify.Proof.Catalog

/-!
# Model mutations that stop halfway

`create_model` and `update_model` make two or three writes, each of which commits on its own. An
error before the first one leaves the tables as they were; an error after it does not: the model is
there, or its chain replaced, while the answer says that the request failed
(`model_mutations_atomic_iff`).
-/

set_option autoImplicit false

namespace LiteAgentify

namespace Admin

/-! ## The tables -/

/-- A row of `models`, with every column that is written. -/
structure StoredModel extends ModelRow where
  updatedAt : DateTime
  deriving DecidableEq

/-- A row of `model_deployments`. -/
structure StoredDeployment extends DeploymentRow where
  id : Uuid
  deriving DecidableEq

namespace ModelStore

def models (store : ModelStore) : List StoredModel :=
  store.db.models.map fun row => { row with updatedAt := store.updatedAt row.name }

def deployments (store : ModelStore) : List StoredDeployment :=
  store.db.deployments.map fun row =>
    { row with id := store.deploymentId (row.modelName, row.providerId) }

end ModelStore

/-- The same rows in both tables. -/
structure Unchanged (before after : ModelStore) : Prop where
  models : after.models.Perm before.models
  deployments : after.deployments.Perm before.deployments

theorem Unchanged.refl (store : ModelStore) : Unchanged store store := ⟨.refl _, .refl _⟩

/-- An answer with an error leaves the tables as they were. -/
def Atomic (store : ModelStore) (outcome : ModelStore × Except Rejection Nat) : Prop :=
  ∀ rejection, outcome.2 = .error rejection → Unchanged store outcome.1

section
variable {calls : StoreCalls} {store store' : ModelStore} {name : String}
  {deployments : List (String × String)}

/-! ## The store calls -/

/-- What the checks of a deployment list leave. -/
structure Resolved (db : CatalogDb) (deployments : List (String × String)) : Prop where
  once : (deployments.map Prod.fst).Nodup
  known : ∀ d ∈ deployments, d.1 ∈ db.providers.map ProviderConfig.id

theorem validateDeploymentsWith_ok {bodies : List DeploymentBody}
    (h : validateDeploymentsWith calls store bodies = .ok deployments) :
    Resolved store.db deployments := by
  unfold validateDeploymentsWith at h
  split at h
  · cases h
  · refine Keyed.foldlM_inv (I := Resolved store.db) ?_ ⟨by simp, by simp⟩ h
    intro resolved body resolved' _ hr hstep
    simp only [validateDeployment] at hstep
    split at hstep
    · cases hstep
    · split at hstep
      · cases hstep
      · split at hstep
        · cases hstep
        · rename_i hknown
          split at hstep
          · cases hstep
          · rename_i honce
            cases hstep
            simp only [List.any_eq_true, decide_eq_true_eq, CatalogDb.mem_listProviders,
              not_not] at hknown
            simp only [List.any_eq_true, decide_eq_true_eq, not_exists, not_and] at honce
            refine ⟨?_, List.forall_mem_append.2 ⟨hr.known, List.forall_mem_singleton.2 ?_⟩⟩
            · refine Table.nodup_snoc hr.once fun hmem => ?_
              obtain ⟨d, hd, hid⟩ := List.mem_map.1 hmem
              exact honce d hd hid
            · obtain ⟨provider, hp, hid⟩ := hknown
              exact List.mem_map.2 ⟨provider, hp, hid⟩

namespace ModelStore

theorem createModel_ok (h : store.createModel calls name = .ok store') :
    calls.fails .createModel = false ∧ (∀ row ∈ store.db.models, row.name ≠ name) ∧ isText name ∧
      store'.db.toCatalogTables = ⟨store.db.providers, store.db.pricing,
        store.db.models ++
          [{ name := name, enabled := false, createdAt := calls.now .createModel }],
        store.db.deployments⟩ := by
  unfold createModel at h
  split at h
  · cases h
  · rename_i hfails
    split at h
    · cases h
    · rename_i db hdb
      cases h
      obtain ⟨hnew, ht⟩ := CatalogDb.createModel_ok hdb
      refine ⟨by simpa using hfails, hnew, ?_, ht⟩
      have htexts := (CatalogTables.texts_iff.1 db.constraints.texts).2.2.1
      rw [ht] at htexts
      exact htexts ⟨name, false, _⟩ (List.mem_append_right _ (List.mem_singleton_self _))

theorem createModel_of (hfails : calls.fails .createModel = false)
    (hnew : ∀ row ∈ store.db.models, row.name ≠ name) (htext : isText name) :
    ∃ created, store.createModel calls name = .ok created := by
  obtain ⟨db, hdb, -⟩ := CatalogDb.createModel_of hnew htext (calls.now .createModel)
  unfold createModel
  rw [hfails, hdb]
  exact ⟨_, rfl⟩

/-- What a call on a model that is there stores. -/
theorem setDeployments_stored (hname : name ∈ store.db.models.map ModelRow.name)
    (h : store.setDeployments calls name deployments = .ok store') :
    calls.fails .setDeployments = false ∧
      store'.db.toCatalogTables =
        ⟨store.db.providers, store.db.pricing, store.db.models,
          store.db.deployments.filter (·.modelName ≠ name) ++
            CatalogDb.deploymentRows name deployments⟩ ∧
      store'.updatedAt = Function.update store.updatedAt name (calls.now .setDeployments) ∧
      store'.deploymentId = fun pair =>
        if pair.1 = name then calls.newId ((deployments.map Prod.fst).idxOf pair.2)
        else store.deploymentId pair := by
  obtain ⟨row, hrow, hrn⟩ := List.mem_map.1 hname
  unfold setDeployments at h
  split at h
  · cases h
  · rename_i hfails
    split at h
    · cases h
    · rename_i hdb
      have hfound := CatalogDb.setDeployments_found hdb
      exact absurd hrn (by simpa using (List.any_eq_false.1 hfound.symm) row hrow)
    · rename_i db hdb
      cases h
      rcases CatalogDb.setDeployments_ok hdb with ⟨-, hnone⟩ | ht
      · exact absurd hrn (hnone row hrow)
      · exact ⟨by simpa using hfails, ht, rfl, rfl⟩

variable (calls) in
/-- The chain of a model that is there is stored exactly when the call does not fail and its models
are texts. -/
theorem setDeployments_iff (hname : name ∈ store.db.models.map ModelRow.name)
    (hresolved : Resolved store.db deployments) :
    (∃ saved, store.setDeployments calls name deployments = .ok saved) ↔
      calls.fails .setDeployments = false ∧ ∀ d ∈ deployments, isText d.2 := by
  constructor
  · rintro ⟨saved, h⟩
    obtain ⟨hfails, ht, -⟩ := setDeployments_stored hname h
    refine ⟨hfails, fun d hd => ?_⟩
    obtain ⟨row, hrow, -, hup⟩ := CatalogDb.exists_deploymentRow name hd
    have htexts := (CatalogTables.texts_iff.1 saved.db.constraints.texts).2.2.2
    rw [ht] at htexts
    rw [← hup]
    exact htexts row (List.mem_append_right _ hrow) _ (by simp [DeploymentRow.texts])
  · rintro ⟨hfails, htext⟩
    obtain ⟨db, hdb, -⟩ := CatalogDb.setDeployments_of hname hresolved.once
      fun d hd => ⟨hresolved.known d hd, htext d hd⟩
    unfold setDeployments
    rw [hfails, hdb]
    exact ⟨_, rfl⟩

/-- The names of the models stay, and a model that is there is touched. -/
theorem setDeployments_touches (hname : name ∈ store.db.models.map ModelRow.name)
    (h : store.setDeployments calls name deployments = .ok store') :
    store'.db.models = store.db.models ∧
      store'.updatedAt name = calls.now .setDeployments := by
  obtain ⟨-, ht, hupdated, -⟩ := setDeployments_stored hname h
  exact ⟨by rw [ht], by rw [hupdated, Function.update_self]⟩

variable (calls store name) in
theorem setModelStatus_iff (enabled : Bool) :
    (∃ updated, store.setModelStatus calls name enabled = .ok updated) ↔
      calls.fails .setModelStatus = false := by
  obtain ⟨db, found, hdb, -⟩ := @CatalogDb.setModelStatus_ok store.db name enabled
  unfold setModelStatus
  rw [hdb]
  cases calls.fails .setModelStatus <;> cases found <;> simp

end ModelStore

/-! ## Creating -/

/-- A request to `create_model` that comes to its first write, which commits. -/
structure Creates (calls : StoreCalls) (store : ModelStore) (body : CreateModelBody)
    (deployments : List (String × String)) : Prop where
  name : ¬ (Text.trim body.name = "" ∨ (Text.trim body.name).utf8ByteSize > 200)
  valid : validateDeploymentsWith calls store body.deployments = .ok deployments
  listable :
    ensureListableWith calls store body.enabled (Text.trim body.name) deployments = .ok ()
  call : calls.fails .createModel = false
  new : ∀ row ∈ store.db.models, row.name ≠ Text.trim body.name
  text : isText (Text.trim body.name)

/-- The chain of such a request is the one that was validated. -/
theorem Creates.eq {body : CreateModelBody} {deployments validated : List (String × String)}
    (h : Creates calls store body deployments)
    (hvalid : validateDeploymentsWith calls store body.deployments = .ok validated) :
    deployments = validated :=
  Except.ok.inj (h.valid.symm.trans hvalid)

/-- The writes after the model is created. -/
def saveNew (calls : StoreCalls) (body : CreateModelBody) (deployments : List (String × String))
    (created : ModelStore) : ModelStore × Except Rejection Nat :=
  match created.setDeployments calls (Text.trim body.name) deployments with
  | .error _ => (created, .error (.internal "failed to save deployments"))
  | .ok saved =>
    if body.enabled then
      match saved.setModelStatus calls (Text.trim body.name) true with
      | .error _ => (saved, .error (.internal "failed to enable model"))
      | .ok listed => (listed, .ok 201)
    else (saved, .ok 201)

variable (calls store) in
/-- A request that does not come to its first write leaves the store, any other one creates the
model and goes on. -/
theorem createModelWith_cases (body : CreateModelBody) :
    ((∀ deployments, ¬ Creates calls store body deployments) ∧
        (createModelWith calls store body).1 = store) ∨
      ∃ deployments created, Creates calls store body deployments ∧
        store.createModel calls (Text.trim body.name) = .ok created ∧
        createModelWith calls store body = saveNew calls body deployments created := by
  simp only [createModelWith]
  split
  · rename_i hname
    exact .inl ⟨fun _ h => h.name hname, rfl⟩
  · rename_i hname
    split
    · rename_i hvalid
      refine .inl ⟨fun _ h => ?_, rfl⟩
      rw [h.valid] at hvalid
      cases hvalid
    · rename_i deployments hvalid
      split
      · rename_i hgate
        refine .inl ⟨fun _ h => ?_, rfl⟩
        have := h.listable
        rw [h.eq hvalid, hgate] at this
        cases this
      · rename_i hgate
        split
        · rename_i hcreate
          refine .inl ⟨fun _ h => ?_, rfl⟩
          obtain ⟨created, hok⟩ := ModelStore.createModel_of h.call h.new h.text
          rw [hok] at hcreate
          cases hcreate
        · rename_i created hcreate
          obtain ⟨hcall, hnew, htext, -⟩ := ModelStore.createModel_ok hcreate
          exact .inr ⟨deployments, created, ⟨hname, hvalid, hgate, hcall, hnew, htext⟩, hcreate,
            rfl⟩

/-- A store with one model more is not the same. -/
theorem not_unchanged_of_length
    (h : store'.db.models.length ≠ store.db.models.length) : ¬ Unchanged store store' := by
  intro hsame
  have hlen := hsame.models.length_eq
  simp only [ModelStore.models, List.length_map] at hlen
  exact h hlen

theorem createModelWith_atomic_iff (body : CreateModelBody) :
    Atomic store (createModelWith calls store body) ↔
      ∀ deployments, Creates calls store body deployments →
        calls.fails .setDeployments = false ∧ (∀ d ∈ deployments, isText d.2) ∧
        (body.enabled → calls.fails .setModelStatus = false) := by
  rcases createModelWith_cases calls store body with
    ⟨hnone, hsame⟩ | ⟨deployments, created, hcreates, hcreate, heq⟩
  · constructor
    · exact fun _ deployments h => absurd h (hnone deployments)
    · intro _ rejection _
      rw [hsame]
      exact .refl store
  · obtain ⟨-, -, -, ht⟩ := ModelStore.createModel_ok hcreate
    have hname : Text.trim body.name ∈ created.db.models.map ModelRow.name := by
      rw [ht]
      simp
    have hresolved : Resolved created.db deployments := by
      obtain ⟨honce, hknown⟩ := validateDeploymentsWith_ok hcreates.valid
      exact ⟨honce, by rw [ht]; exact hknown⟩
    have hgrown : created.db.models.length ≠ store.db.models.length := by
      rw [ht]
      simp
    have hset := ModelStore.setDeployments_iff calls hname hresolved
    rw [heq]
    unfold saveNew
    cases hsave : created.setDeployments calls (Text.trim body.name) deployments with
    | error e =>
      refine iff_of_false (fun h => ?_) fun h => ?_
      · exact not_unchanged_of_length hgrown (h _ rfl)
      · obtain ⟨hfails, htext, -⟩ := h deployments hcreates
        obtain ⟨saved, hok⟩ := hset.2 ⟨hfails, htext⟩
        rw [hsave] at hok
        cases hok
    | ok saved =>
      obtain ⟨hfails, htext⟩ := hset.1 ⟨saved, hsave⟩
      have hmodels := (ModelStore.setDeployments_touches hname hsave).1
      simp only
      split
      · rename_i henabled
        cases hstatus : saved.setModelStatus calls (Text.trim body.name) true with
        | error e =>
          refine iff_of_false (fun h => ?_) fun h => ?_
          · refine not_unchanged_of_length ?_ (h _ rfl)
            rwa [hmodels]
          · obtain ⟨-, -, hok⟩ := h deployments hcreates
            obtain ⟨updated, hok⟩ :=
              (ModelStore.setModelStatus_iff calls saved _ true).2 (hok henabled)
            rw [hstatus] at hok
            cases hok
        | ok listed =>
          have hok := (ModelStore.setModelStatus_iff calls saved _ true).1 ⟨listed, hstatus⟩
          refine iff_of_true (fun rejection h => by cases h) fun other h => ?_
          rw [h.eq hcreates.valid]
          exact ⟨hfails, htext, fun _ => hok⟩
      · rename_i henabled
        refine iff_of_true (fun rejection h => by cases h) fun other h => ?_
        rw [h.eq hcreates.valid]
        exact ⟨hfails, htext, fun henabled' => absurd henabled' henabled⟩

/-! ## Updating -/

/-- A request to `update_model` that comes to its first write, which commits. -/
structure Replaces (calls : StoreCalls) (store : ModelStore) (name : String)
    (body : UpdateModelBody) (deployments : List (String × String)) : Prop where
  found : name ∈ store.db.models.map ModelRow.name
  valid : validateDeploymentsWith calls store body.deployments = .ok deployments
  listable : ensureListableWith calls store body.enabled name deployments = .ok ()
  lookup : calls.fails .getModel = false
  call : calls.fails .setDeployments = false
  texts : ∀ d ∈ deployments, isText d.2

theorem Replaces.eq {body : UpdateModelBody} {deployments validated : List (String × String)}
    (h : Replaces calls store name body deployments)
    (hvalid : validateDeploymentsWith calls store body.deployments = .ok validated) :
    deployments = validated :=
  Except.ok.inj (h.valid.symm.trans hvalid)

/-- The rows that `set_deployments` inserts. -/
def newRows (calls : StoreCalls) (name : String) (deployments : List (String × String)) :
    List StoredDeployment :=
  (CatalogDb.deploymentRows name deployments).map fun row =>
    { row with id := calls.newId ((deployments.map Prod.fst).idxOf row.providerId) }

/-- The rows that `set_deployments` writes are those that it deletes, with the same ids and the same
time. -/
structure Rewrites (calls : StoreCalls) (store : ModelStore) (name : String)
    (deployments : List (String × String)) : Prop where
  time : store.updatedAt name = calls.now .setDeployments
  rows : (newRows calls name deployments).Perm
    (store.deployments.filter (·.modelName = name))

/-- What `set_deployments` writes, row by row. -/
theorem setDeployments_rows (hname : name ∈ store.db.models.map ModelRow.name)
    (h : store.setDeployments calls name deployments = .ok store') :
    store'.models = store.models.map (fun row =>
        if row.name = name then { row with updatedAt := calls.now .setDeployments } else row) ∧
      store'.deployments =
        store.deployments.filter (·.modelName ≠ name) ++ newRows calls name deployments := by
  obtain ⟨-, ht, hupdated, hid⟩ := ModelStore.setDeployments_stored hname h
  constructor
  · simp only [ModelStore.models, ht, hupdated, List.map_map]
    refine List.map_congr_left fun row _ => ?_
    by_cases hrn : row.name = name <;> simp [hrn, Function.update]
  · simp only [ModelStore.deployments, ht, hid, List.map_append, newRows, List.filter_map]
    congr 1
    · refine List.map_congr_left fun row hrow => ?_
      have hne : row.modelName ≠ name := by simpa using (List.mem_filter.1 hrow).2
      simp [hne]
    · refine List.map_congr_left fun row hrow => ?_
      simp [(CatalogDb.mem_deploymentRows hrow).1]

/-- A chain that is stored leaves the tables as they were only when the same rows come back. -/
theorem setDeployments_unchanged_iff (hname : name ∈ store.db.models.map ModelRow.name)
    (h : store.setDeployments calls name deployments = .ok store') :
    Unchanged store store' ↔ Rewrites calls store name deployments := by
  obtain ⟨hmodels, hdeployments⟩ := setDeployments_rows hname h
  have hsplit : (store.deployments.filter (·.modelName ≠ name) ++
      store.deployments.filter (·.modelName = name)).Perm store.deployments := by
    simpa using
      List.filter_append_perm (fun row : StoredDeployment => decide (row.modelName ≠ name))
      store.deployments
  constructor
  · rintro ⟨hm, hd⟩
    constructor
    · -- the row of the model carries the time of the call
      obtain ⟨row, hrow, hrn⟩ := List.mem_map.1 hname
      rw [hmodels] at hm
      have hmem := hm.subset (List.mem_map.2
        ⟨{ row with updatedAt := store.updatedAt row.name }, List.mem_map.2 ⟨row, hrow, rfl⟩, rfl⟩)
      obtain ⟨row', -, heq⟩ := List.mem_map.1 hmem
      simp only [hrn, if_true] at heq
      injection heq with hrow' htime
      rw [← htime, hrow', hrn]
    · rw [hdeployments] at hd
      exact (List.perm_append_left_iff _).1 (hd.trans hsplit.symm)
  · rintro ⟨htime, hrows⟩
    constructor
    · have hsame : store'.models = store.models := by
        rw [hmodels]
        conv_rhs => rw [← List.map_id store.models]
        refine List.map_congr_left fun row hrow => ?_
        obtain ⟨row, -, rfl⟩ := List.mem_map.1 hrow
        split
        · rename_i hrn
          simp only at hrn
          rw [← htime, ← hrn]
          rfl
        · rfl
      rw [hsame]
    · rw [hdeployments]
      exact (hrows.append_left _).trans hsplit

variable (calls store name) in
/-- A request that does not come to its first write leaves the store, any other one replaces the
chain and goes on with the status. -/
theorem updateModelWith_cases (body : UpdateModelBody) :
    ((∀ deployments, ¬ Replaces calls store name body deployments) ∧
        (updateModelWith calls store name body).1 = store) ∨
      ∃ deployments saved, Replaces calls store name body deployments ∧
        store.setDeployments calls name deployments = .ok saved ∧
        updateModelWith calls store name body =
          match saved.setModelStatus calls name body.enabled with
          | .error _ => (saved, .error (.internal "failed to update model status"))
          | .ok updated => (updated, .ok 200) := by
  have hget : (store.db.getModel name).isNone ↔ name ∉ store.db.models.map ModelRow.name := by
    simp [CatalogDb.getModel]
  simp only [updateModelWith]
  split
  · rename_i hmissing
    refine .inl ⟨fun _ h => ?_, rfl⟩
    rcases hmissing with hfails | hnone
    · rw [h.lookup] at hfails
      cases hfails
    · exact hget.1 hnone h.found
  · rename_i hthere
    obtain ⟨hlookup, hfound⟩ := not_or.1 hthere
    rw [hget, not_not] at hfound
    split
    · rename_i hvalid
      refine .inl ⟨fun _ h => ?_, rfl⟩
      rw [h.valid] at hvalid
      cases hvalid
    · rename_i deployments hvalid
      split
      · rename_i hgate
        refine .inl ⟨fun _ h => ?_, rfl⟩
        have := h.listable
        rw [h.eq hvalid, hgate] at this
        cases this
      · rename_i hgate
        have hset := ModelStore.setDeployments_iff calls hfound
          (validateDeploymentsWith_ok hvalid)
        split
        · rename_i hsave
          refine .inl ⟨fun _ h => ?_, rfl⟩
          obtain ⟨saved, hok⟩ := hset.2 ⟨h.call, h.eq hvalid ▸ h.texts⟩
          rw [hok] at hsave
          cases hsave
        · rename_i saved hsave
          obtain ⟨hcall, htexts⟩ := hset.1 ⟨saved, hsave⟩
          exact .inr ⟨deployments, saved,
            ⟨hfound, hvalid, hgate, by simpa using hlookup, hcall, htexts⟩, hsave, rfl⟩

theorem updateModelWith_atomic_iff (body : UpdateModelBody) :
    Atomic store (updateModelWith calls store name body) ↔
      ∀ deployments, Replaces calls store name body deployments →
        calls.fails .setModelStatus = false ∨ Rewrites calls store name deployments := by
  rcases updateModelWith_cases calls store name body with
    ⟨hnone, hsame⟩ | ⟨deployments, saved, hreplaces, hsave, heq⟩
  · constructor
    · exact fun _ deployments h => absurd h (hnone deployments)
    · intro _ rejection _
      rw [hsame]
      exact .refl store
  · have hunchanged := setDeployments_unchanged_iff hreplaces.found hsave
    have hstatus := ModelStore.setModelStatus_iff calls saved name body.enabled
    rw [heq]
    cases hupdate : saved.setModelStatus calls name body.enabled with
    | error e =>
      constructor
      · intro h other hother
        rw [hother.eq hreplaces.valid]
        exact .inr (hunchanged.1 (h _ rfl))
      · intro h rejection _
        rcases h deployments hreplaces with hok | hrewrites
        · obtain ⟨updated, hok⟩ := hstatus.2 hok
          rw [hupdate] at hok
          cases hok
        · exact hunchanged.2 hrewrites
    | ok updated =>
      refine iff_of_true (fun rejection h => by cases h) fun other _ => ?_
      exact .inl (hstatus.1 ⟨updated, hupdate⟩)

/-! ## Without failures -/

variable (store name) in
/-- A call that does not fail writes what the catalog's own does. -/
theorem createModel_db (hfails : calls.fails .createModel = false) :
    (∃ e, store.createModel calls name = .error e ∧
        store.db.createModel name (calls.now .createModel) = .error e) ∨
      ∃ created, store.createModel calls name = .ok created ∧
        store.db.createModel name (calls.now .createModel) = .ok created.db := by
  unfold ModelStore.createModel
  rw [hfails]
  cases store.db.createModel name (calls.now .createModel) with
  | error e => exact .inl ⟨e, rfl, rfl⟩
  | ok db => exact .inr ⟨_, rfl, rfl⟩

variable (store name deployments) in
theorem setDeployments_db (hfails : calls.fails .setDeployments = false) :
    (∃ e, store.setDeployments calls name deployments = .error e ∧
        store.db.setDeployments name deployments = .error e) ∨
      ∃ saved found, store.setDeployments calls name deployments = .ok saved ∧
        store.db.setDeployments name deployments = .ok (saved.db, found) := by
  unfold ModelStore.setDeployments
  rw [hfails]
  cases hdb : store.db.setDeployments name deployments with
  | error e => exact .inl ⟨e, rfl, rfl⟩
  | ok result =>
    obtain ⟨db, found⟩ := result
    cases found with
    | true => exact .inr ⟨_, true, rfl, rfl⟩
    | false =>
      have hfound := CatalogDb.setDeployments_found hdb
      unfold CatalogDb.setDeployments at hdb
      rw [← hfound] at hdb
      split at hdb
      · cases hdb
      · cases hdb
        exact .inr ⟨store, false, rfl, rfl⟩

variable (store name) in
theorem setModelStatus_db (hfails : calls.fails .setModelStatus = false) (enabled : Bool) :
    ∃ updated found, store.setModelStatus calls name enabled = .ok updated ∧
      store.db.setModelStatus name enabled = .ok (updated.db, found) := by
  unfold ModelStore.setModelStatus
  rw [hfails]
  obtain ⟨db, found, hdb, -⟩ := @CatalogDb.setModelStatus_ok store.db name enabled
  rw [hdb]
  cases found with
  | true => exact ⟨_, true, rfl, rfl⟩
  | false =>
    unfold CatalogDb.setModelStatus at hdb
    split at hdb
    · cases hc : store.db.commit _ with
      | error e => rw [hc] at hdb; cases hdb
      | ok db => rw [hc] at hdb; cases hdb
    · cases hdb
      exact ⟨store, false, rfl, rfl⟩

theorem validateDeploymentsWith_of (hfails : calls.fails .listProviders = false)
    (bodies : List DeploymentBody) :
    validateDeploymentsWith calls store bodies = validateDeployments store.db bodies :=
  if_neg (by simp [hfails])

theorem ensureListableWith_of (hfails : calls.fails .listPricing = false) (enabled : Bool) :
    ensureListableWith calls store enabled name deployments =
      ensureListableIf enabled store.db name deployments (calls.now .listPricing) :=
  if_neg (by simp [hfails])

/-- Without failures, and with one time for every call, the handlers are those of the catalog
alone. -/
theorem createModelWith_ok (hfails : ∀ call, calls.fails call = false) {now : DateTime}
    (hnow : ∀ call, calls.now call = now) (body : CreateModelBody) :
    ((createModelWith calls store body).1.db, (createModelWith calls store body).2) =
      createModel store.db body now := by
  simp only [createModelWith, createModel, validateDeploymentsWith_of (hfails .listProviders)]
  split
  · rfl
  · cases validateDeployments store.db body.deployments with
    | error rejection => rfl
    | ok deployments =>
      simp only [ensureListableWith_of (hfails .listPricing), hnow]
      cases ensureListableIf body.enabled store.db (Text.trim body.name) deployments now with
      | error rejection => rfl
      | ok _ =>
        have hcreate := createModel_db store (Text.trim body.name) (hfails .createModel)
        rw [hnow] at hcreate
        rcases hcreate with ⟨e, hw, hd⟩ | ⟨created, hw, hd⟩ <;> simp only [hw, hd]
        rcases setDeployments_db created (Text.trim body.name) deployments
          (hfails .setDeployments) with ⟨e, hw, hd⟩ | ⟨saved, _, hw, hd⟩ <;> simp only [hw, hd]
        obtain ⟨listed, _, hw, hd⟩ := setModelStatus_db saved (Text.trim body.name)
          (hfails .setModelStatus) true
        simp only [hw, hd]
        split <;> rfl

theorem updateModelWith_ok (hfails : ∀ call, calls.fails call = false) {now : DateTime}
    (hnow : ∀ call, calls.now call = now) (body : UpdateModelBody) :
    ((updateModelWith calls store name body).1.db, (updateModelWith calls store name body).2) =
      updateModel store.db name body now := by
  simp only [updateModelWith, updateModel, validateDeploymentsWith_of (hfails .listProviders),
    hfails .getModel, Bool.false_eq_true, false_or]
  split
  · rfl
  · cases validateDeployments store.db body.deployments with
    | error rejection => rfl
    | ok deployments =>
      simp only [ensureListableWith_of (hfails .listPricing), hnow]
      cases ensureListableIf body.enabled store.db name deployments now with
      | error rejection => rfl
      | ok _ =>
        rcases setDeployments_db store name deployments (hfails .setDeployments) with
          ⟨e, hw, hd⟩ | ⟨saved, _, hw, hd⟩ <;> simp only [hw, hd]
        obtain ⟨updated, _, hw, hd⟩ := setModelStatus_db saved name (hfails .setModelStatus)
          body.enabled
        simp only [hw, hd]

end

/-! ## Both handlers -/

/-- An answer with an error leaves the tables as they were exactly when no store call after the
first write fails, and none rejects what it is given, unless the chain that was already written is
the stored one with the same ids and time. -/
theorem model_mutations_atomic_iff (calls : StoreCalls) (store : ModelStore) :
    (∀ body : CreateModelBody, Atomic store (createModelWith calls store body) ↔
        ∀ deployments, Creates calls store body deployments →
          calls.fails .setDeployments = false ∧ (∀ d ∈ deployments, isText d.2) ∧
          (body.enabled → calls.fails .setModelStatus = false)) ∧
      ∀ (name : String) (body : UpdateModelBody),
        Atomic store (updateModelWith calls store name body) ↔
          ∀ deployments, Replaces calls store name body deployments →
            calls.fails .setModelStatus = false ∨ Rewrites calls store name deployments :=
  ⟨createModelWith_atomic_iff, fun _ => updateModelWith_atomic_iff⟩

/-- One model, listed with a chain. -/
def listedStore : ModelStore where
  db :=
    { providers := [{ id := "p", protocol := .openAi, baseUrl := "u", apiKey := "k" }]
      models := [{ name := "m", enabled := true, createdAt := 0 }]
      deployments :=
        [{ modelName := "m", providerId := "p", upstreamModel := "x", priority := 0 }]
      collation := fun _ _ => true
      constraints := by decide }
  updatedAt := fun _ => 0
  deploymentId := fun _ => 0

/-- The database goes away before the last call. -/
def lastCallFails : StoreCalls where
  fails := fun call => call = .setModelStatus
  now := fun _ => 1
  newId := fun n => n

/-- Its chain is cleared and it is to be unlisted: the request fails, and the model is listed
without a chain. -/
theorem listed_without_chain :
    let outcome := updateModelWith lastCallFails listedStore "m"
      { deployments := [], enabled := false }
    outcome.2 = .error (.internal "failed to update model status") ∧
      outcome.1.db.models = [{ name := "m", enabled := true, createdAt := 0 }] ∧
      outcome.1.db.deployments = [] ∧
      ¬ ∀ (calls : StoreCalls) (store : ModelStore) (name : String) (body : UpdateModelBody),
        Atomic store (updateModelWith calls store name body) := by
  refine ⟨by decide, by decide, by decide, fun h => ?_⟩
  have hsame := h lastCallFails listedStore "m" { deployments := [], enabled := false } _
    (show _ = Except.error (.internal "failed to update model status") by decide)
  have hlen := hsame.deployments.length_eq
  revert hlen
  decide

end Admin

end LiteAgentify
