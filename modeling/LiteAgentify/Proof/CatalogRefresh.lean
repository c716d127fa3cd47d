import LiteAgentify.Proof.CatalogAlone
import LiteAgentify.Proof.CatalogThread

/-!
# Refreshes that overtake one another

Two calls refresh from what each has read, in any order: the gateway may serve the older snapshot
when both have returned. The rows stay valid all the time, so the refresh of the next call that runs
undisturbed goes through and brings the gateway up to date (`undisturbed_call_heals`).
-/

set_option autoImplicit false

namespace LiteAgentify

open Threads Lts

namespace AdminState

variable {P : Packages} {config : GatewayConfig} {s : AdminState}

/-- A call that leaves a database that a start succeeds on is rejected, or applied without a
warning. -/
theorem handle_startable {call : CatalogCall} (hfile : config.Loads P)
    (hv : (s.handle P (.ok config) call).1.db.Startable P config) :
    (∃ rejection, (s.handle P (.ok config) call).2 = .error rejection) ∨
      (∃ status, (s.handle P (.ok config) call).2 = .ok status none) ∧
        (s.handle P (.ok config) call).1.UpToDate P config := by
  unfold handle at hv ⊢
  split at hv
  · exact .inl ⟨_, rfl⟩
  · split at hv
    · exact .inl ⟨_, rfl⟩
    · rename_i db status _
      rw [refreshAndRespond_db] at hv
      have hnext : rebuild P config db.snapshot s.shared.state = .ok _ :=
        (rebuild_ok _).2 ⟨CatalogDb.snapshot_valid.2 hv.rows, (loads_iff.1 hfile).retry, rfl⟩
      have hup : ({ s with db := db }.refreshAndRespond P (.ok config) status).1.UpToDate P
          config := (upToDate_refresh hfile).2 hv
      refine .inr ⟨⟨status, ?_⟩, hup⟩
      rw [refreshAndRespond_applies (s := { s with db := db }) status hnext]

end AdminState

/-- **The next undisturbed call heals.** The file starts a gateway on an empty database, the calls
write base URLs with scheme and host, and neither the boot nor a call has left a provider that a
route of the file lists with a blank alias. Whatever calls at the same time have left, a call that
then runs by itself and reads the file is rejected, or is applied without a warning and leaves the
gateway up to date. -/
theorem undisturbed_call_heals {ι : Type} [DecidableEq ι] {P : Packages}
    {config file : GatewayConfig} {draw : BootDraw} {db : CatalogDb} {accounts : GatewayState}
    {s : AdminState} {calls : ι → CatalogCall} {tr : List (ι × StepChoice)} {v : CatalogThreads ι}
    {i : ι} (hfile : file.Loads P) (h0 : AdminState.boot P config draw db accounts = .ok s)
    (haliases : file.RoutedNamed s.db.providers)
    (hurl : ∀ i, (calls i).request.HasBaseUrl P)
    (hnames : ∀ i, (calls i).request.NamesAliases file)
    (h : Steps CatalogThreads.step (CatalogThreads.init P s calls) tr v)
    (hi : v.thread i = CatalogThread.handle P (calls i)) :
    ∃ n u, Steps CatalogThreads.step v (List.replicate n (i, { file := .ok file })) u ∧
      ((∃ rejection, u.thread i = .done (.error rejection)) ∨
        (∃ status, u.thread i = .done (.ok status none)) ∧ u.state.UpToDate P file) := by
  obtain ⟨n, hrun⟩ := System.steps_alone CatalogStep.exec ({ file := .ok file } : StepChoice) i _ hi
  have halone : (CatalogThread.handle P (calls i)).alone CatalogStep.exec { file := .ok file }
      v.state = v.state.handle P (.ok file) (calls i) := CatalogThread.handle_alone (calls i)
  rw [halone] at hrun
  have hservable := CatalogThreads.servable (.of_boot h0 haliases) hurl hnames (h.trans hrun)
  refine ⟨n, _, hrun, ?_⟩
  rw [System.next_self]
  rcases AdminState.handle_startable hfile hservable.startable with
    ⟨rejection, hanswer⟩ | ⟨⟨status, hanswer⟩, hup⟩
  · exact .inl ⟨rejection, congrArg _ hanswer⟩
  · exact .inr ⟨⟨status, congrArg _ hanswer⟩, hup⟩

/-! ## A stale snapshot -/

/-- A provider and a model on it, and a rule that is not asked for yet. -/
def overtakenCalls : ℕ → CatalogCall
  | 0 => (createAt "https://a").1
  | 1 => draftModel.1
  | _ => ⟨catalogAdmin, .createPricing
      { provider := "p", model := "x", inputPer1m := "1", outputPer1m := "1", currency := "USD" } 7⟩

/-- The first call stores what it has read before the second one wrote. -/
def overtaken : List (ℕ × StepChoice) :=
  (List.replicate 6 0 ++ List.replicate 12 1 ++ List.replicate 4 0).map fun i =>
    (i, { file := .ok {} })

theorem undisturbed_call_heals_sample : ∃ v,
    exec CatalogThreads.step (.init catalogPackages startedState overtakenCalls) overtaken =
      some v ∧
    v.thread 0 = .done (.ok 201 none) ∧ v.thread 1 = .done (.ok 201 none) ∧
    v.state.db.models.map (·.name) = ["m"] ∧ v.state.shared.catalog.models = [] ∧
    ∃ n u, Steps CatalogThreads.step v (List.replicate n (2, { file := .ok {} })) u ∧
      ((∃ rejection, u.thread 2 = .done (.error rejection)) ∨
        (∃ status, u.thread 2 = .done (.ok status none)) ∧
          u.state.UpToDate catalogPackages {}) := by
  have hfile : GatewayConfig.Loads catalogPackages {} := ⟨_, _, _, _, startedState_boot⟩
  have hurl : ∀ i, (overtakenCalls i).request.HasBaseUrl catalogPackages
    | 0 => ⟨_, rfl, rfl, rfl⟩
    | 1 => trivial
    | _ + 2 => trivial
  have hnames : ∀ i, (overtakenCalls i).request.NamesAliases {}
    | 0 => fun _ => aliasesNamed_of_forall (List.forall_mem_nil _)
    | 1 => trivial
    | _ + 2 => trivial
  exact ⟨_, rfl, rfl, rfl, by decide +kernel, by decide +kernel,
    @undisturbed_call_heals ℕ _ catalogPackages {} {} countingDraw emptyDb noAccounts startedState
      overtakenCalls overtaken _ 2 hfile startedState_boot (fun _ hp => absurd hp List.not_mem_nil)
      hurl hnames (steps_of_exec rfl) rfl⟩

end LiteAgentify
