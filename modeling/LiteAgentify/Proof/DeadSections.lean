import LiteAgentify.Admin.Lifetime
import LiteAgentify.Proof.Bootable
import LiteAgentify.Proof.Startup

/-!
# Sections of the file that are dead

A boot leaves every table as it is that it does not find empty; while no boot finds a table empty,
all rows of it were there at the start or were created by a management call
(`sections_stay_dead`). A table that the management calls have emptied is imported again
(`deleted_model_returns`).
-/

set_option autoImplicit false

namespace LiteAgentify

variable {P : Packages} {config : GatewayConfig}

/-! ## What a call creates -/

namespace CatalogDb

variable {db db' : CatalogDb} {row : CatalogRow}

/-- A row after a write of the providers. -/
theorem Has.of_providers {providers : List ProviderConfig}
    (ht : db'.toCatalogTables = ⟨providers, db.pricing, db.models, db.deployments⟩)
    (h : db'.Has row) : db.Has row ∨ ∃ provider ∈ providers, row = .provider provider.id := by
  cases row with
  | provider id =>
    rw [Has, ht] at h
    obtain ⟨provider, hp, rfl⟩ := List.mem_map.1 h
    exact .inr ⟨provider, hp, rfl⟩
  | rule id => exact .inl (by rwa [Has, ht] at h)
  | model name => exact .inl (by rwa [Has, ht] at h)

/-- A row after a write of the rules. -/
theorem Has.of_pricing {pricing : List PricingRecord}
    (ht : db'.toCatalogTables = ⟨db.providers, pricing, db.models, db.deployments⟩)
    (h : db'.Has row) : db.Has row ∨ ∃ rule ∈ pricing, row = .rule rule.id := by
  cases row with
  | provider id => exact .inl (by rwa [Has, ht] at h)
  | rule id =>
    rw [Has, ht] at h
    obtain ⟨rule, hr, rfl⟩ := List.mem_map.1 h
    exact .inr ⟨rule, hr, rfl⟩
  | model name => exact .inl (by rwa [Has, ht] at h)

/-- A row after a write of the models. -/
theorem Has.of_models {models : List ModelRow} {deployments : List DeploymentRow}
    (ht : db'.toCatalogTables = ⟨db.providers, db.pricing, models, deployments⟩)
    (h : db'.Has row) : db.Has row ∨ ∃ model ∈ models, row = .model model.name := by
  cases row with
  | provider id => exact .inl (by rwa [Has, ht] at h)
  | rule id => exact .inl (by rwa [Has, ht] at h)
  | model name =>
    rw [Has, ht] at h
    obtain ⟨model, hm, rfl⟩ := List.mem_map.1 h
    exact .inr ⟨model, hm, rfl⟩

theorem upsertProvider_has {provider : ProviderConfig} {isNew : Bool}
    (hw : db.upsertProvider provider isNew = .ok db') (h : db'.Has row) :
    db.Has row ∨ row = .provider provider.id := by
  obtain ⟨providers, ht, -, hrows⟩ := upsertProvider_ok hw
  rcases h.of_providers ht with h | ⟨p, hp, rfl⟩
  · exact .inl h
  · rcases hrows p hp with rfl | hp
    · exact .inr rfl
    · exact .inl (List.mem_map_of_mem hp)

theorem createModel_has {name : String} {now : DateTime} (hc : db.createModel name now = .ok db')
    (h : db'.Has row) : db.Has row ∨ row = .model name := by
  rcases h.of_models (createModel_ok hc).2 with h | ⟨model, hm, rfl⟩
  · exact .inl h
  · rcases List.mem_append.1 hm with hm | hm
    · exact .inl (List.mem_map_of_mem hm)
    · rw [List.mem_singleton.1 hm]
      exact .inr rfl

theorem setDeployments_has {name : String} {deployments : List (String × String)} {found : Bool}
    (hs : db.setDeployments name deployments = .ok (db', found)) (h : db'.Has row) :
    db.Has row := by
  rcases setDeployments_ok hs with ⟨rfl, -⟩ | ht
  · exact h
  · rcases h.of_models ht with h | ⟨model, hm, rfl⟩
    · exact h
    · exact List.mem_map_of_mem hm

theorem setModelStatus_has {name : String} {enabled found : Bool}
    (hu : db.setModelStatus name enabled = .ok (db', found)) (h : db'.Has row) : db.Has row := by
  rcases h.of_models (setModelStatus_tables hu) with h | ⟨model, hm, rfl⟩
  · exact h
  · rw [Has, ← withStatus_names name enabled]
    exact List.mem_map_of_mem hm

end CatalogDb

/-- **A call adds no row but the one it asks for.** -/
theorem effect_has {request : CatalogRequest} {db : CatalogDb} {outcome : Admin.Outcome}
    (h : request.Effect P db outcome) {row : CatalogRow} (hrow : outcome.1.Has row) :
    db.Has row ∨ request.creates = some row := by
  cases h with
  | rejected => exact .inl hrow
  | createProvider _ hb hw =>
    rw [CatalogRequest.creates, ← (buildProvider_ok hb).1]
    exact (CatalogDb.upsertProvider_has hw hrow).imp_right fun h => congrArg some h.symm
  | updateProvider hc hb hw =>
    obtain ⟨hmem, hid⟩ := CatalogDb.getProvider_some hc
    rcases CatalogDb.upsertProvider_has hw hrow with h | rfl
    · exact .inl h
    · rw [(buildProvider_ok hb).1, ← hid]
      exact .inl (List.mem_map_of_mem hmem)
  | deleteProvider _ hw =>
    rcases hrow.of_providers (CatalogDb.deleteProvider_ok hw).1 with h | ⟨provider, hp, rfl⟩
    · exact .inl h
    · exact .inl (List.mem_map_of_mem (List.mem_of_mem_filter hp))
  | createPricing _ hw =>
    obtain ⟨stored, -, ht⟩ := CatalogDb.createPricing_ok hw
    rcases hrow.of_pricing ht with h | ⟨rule, hr, rfl⟩
    · exact .inl h
    · rcases List.mem_append.1 hr with hr | hr
      · exact .inl (List.mem_map_of_mem hr)
      · rw [List.mem_singleton.1 hr]
        exact .inr rfl
  | updatePricing _ _ hw =>
    rcases CatalogDb.updatePricing_ok hw with ⟨-, rfl⟩ | ⟨-, -, stored, -, ht⟩
    · exact .inl hrow
    · rcases hrow.of_pricing ht with h | ⟨rule, hr, rfl⟩
      · exact .inl h
      · -- an updated rule keeps its id
        obtain ⟨old, hold, rfl⟩ := List.mem_map.1 hr
        refine .inl (List.mem_map.2 ⟨old, hold, ?_⟩)
        split <;> rfl
  | deletePricing _ hw =>
    rcases hrow.of_pricing (CatalogDb.deletePricing_ok hw).1 with h | ⟨rule, hr, rfl⟩
    · exact .inl h
    · exact .inl (List.mem_map_of_mem (List.mem_of_mem_filter hr))
  | unsavedModel hc =>
    exact (CatalogDb.createModel_has hc hrow).imp_right fun h => congrArg some h.symm
  | createDraft _ _ _ hc hs =>
    exact (CatalogDb.createModel_has hc (CatalogDb.setDeployments_has hs hrow)).imp_right
      fun h => congrArg some h.symm
  | createListed _ _ _ hc hs hu =>
    exact (CatalogDb.createModel_has hc (CatalogDb.setDeployments_has hs
      (CatalogDb.setModelStatus_has hu hrow))).imp_right fun h => congrArg some h.symm
  | updateModel _ _ hs hu =>
    exact .inl (CatalogDb.setDeployments_has hs (CatalogDb.setModelStatus_has hu hrow))
  | deleteModel hw =>
    rcases hrow.of_models (CatalogDb.deleteModel_ok hw).1 with h | ⟨model, hm, rfl⟩
    · exact .inl h
    · exact .inl (List.mem_map_of_mem (List.mem_of_mem_filter hm))

theorem write_has {call : CatalogCall} {db : CatalogDb} {row : CatalogRow}
    (hrow : (call.write P db).Has row) : db.Has row ∨ call.request.creates = some row := by
  unfold CatalogCall.write at hrow
  split at hrow
  · exact .inl hrow
  · exact effect_has (run_effect call.request) hrow

theorem ImportStage.Untouched.has {a b : CatalogDb} {row : CatalogRow}
    (h : row.stage.Untouched a b) : a.Has row ↔ b.Has row := by
  cases row with
  | provider id => exact iff_of_eq (congrArg (id ∈ List.map ProviderConfig.id ·) h)
  | rule id => exact iff_of_eq (congrArg (id ∈ List.map PricingRecord.id ·) h)
  | model name => exact iff_of_eq (congrArg (name ∈ List.map ModelRow.name ·) h.1)

/-! ## What a boot leaves alone -/

/-- The tables that the latest boot found. -/
def noteBoot (found : CatalogDb) (u : Startup) (l : LifeStep) (_ : Startup) : CatalogDb :=
  match l with
  | .process (.boot _) => u.db
  | _ => found

/-- A running boot has left the tables alone that it found with rows, and has no calls on them. -/
def Startup.Spares (found : CatalogDb) (s : Startup) : Prop :=
  match s.place with
  | .importing _ stage left =>
    (∀ call ∈ left, call.stage = stage) ∧ ∀ other : ImportStage, ¬ other.Empty found →
      other.Untouched s.db found ∧ (stage = other → left = [])
  | _ => True

theorem Startup.Spares.begin {draw : BootDraw} {stage : ImportStage} {db found : CatalogDb}
    (h : ∀ other : ImportStage, ¬ other.Empty found → other.Untouched db found) :
    Startup.Spares found ⟨db, .importing draw stage (stage.calls config draw db)⟩ := by
  refine ⟨fun _ => ImportStage.stage_of_mem_calls, fun other hne => ⟨h other hne, ?_⟩⟩
  rintro rfl
  exact ImportStage.calls_of_not_empty fun he => hne ((h stage hne).agrees.empty.1 he)

theorem Startup.Spares.step {found : CatalogDb} {u w : Startup} {l : LifeStep}
    (hu : u.Spares found) (hs : u.live P config l = some w) :
    w.Spares (noteBoot found u l w) := by
  cases l with
  | call call =>
    obtain ⟨db, place⟩ := u
    cases place <;> cases hs
    trivial
  | process l =>
    have hs' : u.step config l = some w := hs
    cases Startup.step_kind hs' with
    | boot db draw => exact .begin fun other _ => .refl other db
    | @call db db' draw stage call left hexec =>
      obtain ⟨hcalls, hother⟩ := hu
      refine ⟨fun c hc => hcalls c (List.mem_cons_of_mem _ hc), fun other hne => ?_⟩
      obtain ⟨hsame, hleft⟩ := hother other hne
      have hstage : stage ≠ other := fun heq => absurd (hleft heq) (List.cons_ne_nil _ _)
      have hframe := (ImportCall.exec_frame hexec).2 other
        (hcalls call List.mem_cons_self ▸ hstage.symm)
      exact ⟨hframe.trans hsame, fun heq => absurd heq hstage⟩
    | fail _ _ _ _ _ _ _ => trivial
    | advance db draw _ => exact .begin fun other hne => (hu.2 other hne).1
    | finish _ _ => trivial
    | stop _ _ => trivial

/-- No boot finds the table of the stage empty. -/
def BootFinds (stage : ImportStage) (u : Startup) (l : LifeStep) : Prop :=
  match l with
  | .process (.boot _) => ¬ stage.Empty u.db
  | _ => True

instance (stage : ImportStage) (u : Startup) (l : LifeStep) : Decidable (BootFinds stage u l) :=
  match l with
  | .process (.boot _) => inferInstanceAs (Decidable (¬ _))
  | .process .next => inferInstanceAs (Decidable True)
  | .process .stop => inferInstanceAs (Decidable True)
  | .call _ => inferInstanceAs (Decidable True)

/-- A step of the process spares what the latest boot found with rows. -/
theorem Startup.Spares.untouched {found : CatalogDb} {u w : Startup} {l : StartupStep}
    (hu : u.Spares found) (hs : u.step config l = some w) {stage : ImportStage}
    (hne : ¬ stage.Empty found) : stage.Untouched w.db u.db := by
  cases Startup.step_kind hs with
  | @call db db' draw current call left hexec =>
    obtain ⟨hcalls, hother⟩ := hu
    have hstage : current ≠ stage := fun heq =>
      absurd ((hother stage hne).2 heq) (List.cons_ne_nil _ _)
    exact (ImportCall.exec_frame hexec).2 stage (hcalls call List.mem_cons_self ▸ hstage.symm)
  | _ => exact .refl stage _

/-! ## Histories -/

/-- The rows that the management calls of a history ask for, those that fail included. -/
def createdRows (tr : List LifeStep) : List CatalogRow :=
  tr.filterMap fun l =>
    match l with
    | .call call => call.request.creates
    | .process _ => none

theorem createdRows_snoc (tr : List LifeStep) (l : LifeStep) :
    createdRows (tr ++ [l]) = createdRows tr ++ createdRows [l] := List.filterMap_append

/-- The invariant of a history in which every boot finds rows of the stage: what the latest boot
found has rows, or no boot is running; and every row is an old or a created one. -/
theorem rows_accounted {stage : ImportStage} {s v : Startup} (hup : s.place = .up)
    {tr : List LifeStep}
    (h : Lts.Run (Startup.live P config) (BootFinds stage) s tr v) :
    ((¬ stage.Empty (Lts.observe (Startup.live P config) noteBoot s s.db tr) ∧
        v.Spares (Lts.observe (Startup.live P config) noteBoot s s.db tr)) ∨
      ∀ draw current left, v.place ≠ .importing draw current left) ∧
    ∀ row : CatalogRow, row.stage = stage → v.db.Has row → s.db.Has row ∨ row ∈ createdRows tr := by
  induction h with
  | nil =>
    refine ⟨.inr fun draw current left => ?_, fun row _ hrow => .inl hrow⟩
    rw [hup]
    exact nofun
  | @snoc tr u w l hr hg hs ih =>
    obtain ⟨hfound, hrows⟩ := ih
    rw [Lts.observe_snoc _ hr.exec hs, createdRows_snoc]
    have hold : ∀ row : CatalogRow, row.stage = stage → u.db.Has row →
        s.db.Has row ∨ row ∈ createdRows tr ++ createdRows [l] := fun row hst hrow =>
      (hrows row hst hrow).imp_right (List.mem_append_left _)
    cases l with
    | call call =>
      obtain ⟨db, place⟩ := u
      cases place with
      | down => cases hs
      | importing _ _ _ => cases hs
      | up =>
        cases hs
        refine ⟨.inr fun _ _ _ => nofun, fun row hst hrow => ?_⟩
        rcases write_has hrow with h | h
        · exact hold row hst h
        · refine .inr (List.mem_append_right _ ?_)
          simp [createdRows, h]
    | process l =>
      have hspares : u.Spares (Lts.observe (Startup.live P config) noteBoot s s.db tr) :=
        hr.inv_observe (I := fun u found => u.Spares found) (by rw [Startup.Spares, hup]; trivial)
          fun _ _ _ _ hu _ hs => hu.step hs
      have hw := hspares.step hs
      have hs' : u.step config l = some w := hs
      cases l with
      | boot draw =>
        refine ⟨.inl ⟨hg, hw⟩, ?_⟩
        cases Startup.step_kind hs'
        exact hold
      | next =>
        rcases hfound with ⟨hne, -⟩ | hidle
        · refine ⟨.inl ⟨hne, hw⟩, fun row hst hrow => hold row hst ?_⟩
          subst hst
          exact (hspares.untouched hs' hne).has.1 hrow
        · -- only a running boot has a next step
          cases Startup.step_kind hs' <;> exact absurd rfl (hidle _ _ _)
      | stop =>
        cases Startup.step_kind hs'
        exact ⟨.inr fun _ _ _ => nofun, hold⟩

/-- **Sections stay dead while their tables have rows.** In every history of management calls and
boots that follows a completed boot: a boot leaves every table as it is that it finds with rows; and
if every boot finds rows in a table, each of its rows was there at the start or is one that a call
asked for. -/
theorem sections_stay_dead {s v : Startup} (hup : s.place = .up) {tr : List LifeStep}
    (h : Lts.Steps (Startup.live P config) s tr v) :
    (∀ draw current left, v.place = .importing draw current left →
      ∀ stage : ImportStage,
        ¬ stage.Empty (Lts.observe (Startup.live P config) noteBoot s s.db tr) →
          stage.Untouched v.db (Lts.observe (Startup.live P config) noteBoot s s.db tr)) ∧
      ∀ stage : ImportStage, Lts.Run (Startup.live P config) (BootFinds stage) s tr v →
        ∀ row : CatalogRow, row.stage = stage → v.db.Has row →
          s.db.Has row ∨ row ∈ createdRows tr := by
  refine ⟨fun draw current left hplace stage hne => ?_, fun stage hrun =>
    (rows_accounted hup hrun).2⟩
  have hspares : v.Spares (Lts.observe (Startup.live P config) noteBoot s s.db tr) :=
    h.inv_observe (I := fun u found => u.Spares found) (by rw [Startup.Spares, hup]; trivial)
      fun _ _ _ _ hu _ hs => hu.step hs
  obtain ⟨db, place⟩ := v
  cases hplace
  exact (hspares.2 stage hne).1

/-- A boot of so many steps. -/
def bootSteps (n : Nat) : List LifeStep :=
  .process (.boot countingDraw) :: List.replicate n (.process .next)

/-- The gateway has booted on the sample file. -/
def bootedSample : Startup := ⟨importedDb, .up⟩

/-- A provider is created and the gateway restarted: the boot adds none to the two that it finds. -/
theorem sections_stay_dead_sample :
    ∃ v, Lts.Steps (Startup.live catalogPackages catalogConfig) bootedSample
        [.call ⟨catalogAdmin, .createProvider { id := "q", fields :=
          { protocol := "openai", baseUrl := "https://a", apiKey := "k" } }⟩, .process .stop,
          .process (.boot countingDraw), .process .next] v ∧
      v.db.providers.map ProviderConfig.id = ["p", "q"] ∧
      (∀ id ∈ v.db.providers.map ProviderConfig.id,
        bootedSample.db.Has (.provider id) ∨ CatalogRow.provider id ∈ [.provider "q"]) ∧
      ∃ found : CatalogDb, found.providers.map ProviderConfig.id = ["p", "q"] ∧
        ImportStage.providers.Untouched v.db found := by
  obtain ⟨v, hexec, hids, hplace, hfound⟩ : ∃ v, Lts.exec (Lts.guarded
      (Startup.live catalogPackages catalogConfig) (BootFinds .providers)) bootedSample
      [.call ⟨catalogAdmin, .createProvider { id := "q", fields :=
          { protocol := "openai", baseUrl := "https://a", apiKey := "k" } }⟩, .process .stop,
          .process (.boot countingDraw), .process .next] = some v ∧
        v.db.providers.map ProviderConfig.id = ["p", "q"] ∧
        v.place = .importing countingDraw .pricing [] ∧
        (Lts.observe (Startup.live catalogPackages catalogConfig) noteBoot bootedSample
          bootedSample.db
          [.call ⟨catalogAdmin, .createProvider { id := "q", fields :=
            { protocol := "openai", baseUrl := "https://a", apiKey := "k" } }⟩, .process .stop,
            .process (.boot countingDraw), .process .next]).providers.map ProviderConfig.id =
              ["p", "q"] := ⟨_, rfl, rfl, rfl, rfl⟩
  have hrun := Lts.run_of_guarded hexec
  have hsteps := hrun.mono fun _ _ _ => trivial
  obtain ⟨hspared, hrows⟩ := sections_stay_dead rfl hsteps
  exact ⟨v, hsteps, hids, fun id hid => hrows .providers hrun (.provider id) rfl hid, _, hfound,
    hspared _ _ _ hplace .providers fun hempty => by
      have hnil := congrArg (List.map ProviderConfig.id) hempty
      rw [hfound] at hnil
      cases hnil⟩

/-- **A deleted model returns.** The only model of the catalog is deleted; the next boot finds the
models table empty and migrates the routes of the file again. -/
theorem deleted_model_returns :
    ∃ s v, Lts.Steps (Startup.live catalogPackages catalogConfig)
        (.init fun a b => a ≤ b) (bootSteps 8) s ∧ s.place = .up ∧
      s.db.models.map ModelRow.name = ["m"] ∧
      ((CatalogRequest.deleteModel "m").run catalogPackages s.db).2 = .ok 200 ∧
      ((CatalogRequest.deleteModel "m").run catalogPackages s.db).1.models = [] ∧
      Lts.Steps (Startup.live catalogPackages catalogConfig) s
        (.call ⟨catalogAdmin, .deleteModel "m"⟩ :: .process .stop :: bootSteps 6) v ∧
      v.place = .up ∧ v.db.models.map ModelRow.name = ["m"] := by
  obtain ⟨v, hexec, hplace, hback⟩ : ∃ v,
      Lts.exec (Startup.live catalogPackages catalogConfig) bootedSample
        (.call ⟨catalogAdmin, .deleteModel "m"⟩ :: .process .stop :: bootSteps 6) = some v ∧
        v.place = .up ∧ v.db.models.map ModelRow.name = ["m"] := ⟨_, rfl, rfl, rfl⟩
  exact ⟨bootedSample, v, Lts.steps_of_exec rfl, rfl, rfl, rfl, rfl, Lts.steps_of_exec hexec,
    hplace, hback⟩

end LiteAgentify
