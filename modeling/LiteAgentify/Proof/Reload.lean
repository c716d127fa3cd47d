import LiteAgentify.Reload
import LiteAgentify.Proof.Snapshot

/-!
# Updates of the shared snapshot

The four operations on the snapshot load it, build from what they loaded and store the result, with
no lock between. Run by itself, a call's steps do what its body does (`steps_alone`). Run together,
calls lose updates (`stale_reload_loses_key_map`). What a run must avoid is a store of carried-over
fields that are no longer those of the cells (`CarriesCurrent`): then every published map stays
until the next one of its kind, and when all calls have returned the cells are those of the calls
run one after another, in the order of their stores (`serializable_of_current`).
-/

set_option autoImplicit false

namespace LiteAgentify

open Keyed

/-! ## Rebuilding -/

/-- The fields that no rebuild and no refresh touches. -/
def GatewayState.handles (state : GatewayState) : SpendCounter × Handle × Handle :=
  (state.spendCounter, state.upstream, state.usageRecorder)

def GatewayState.withRouting (state : GatewayState) (routing : Routing) : GatewayState :=
  { state with
    providers := routing.providers
    models := routing.models
    pricing := routing.pricing
    retryPolicy := routing.retryPolicy }

theorem GatewayState.ext_parts {s t : GatewayState} (hk : s.apiKeys = t.apiKeys)
    (hg : s.granted = t.granted) (hh : s.handles = t.handles) (hr : s.routing = t.routing) :
    s = t := by
  cases s
  cases t
  simp_all [handles, routing]

theorem rebuild_ok {P : Packages} {config : GatewayConfig} {catalog : CatalogSnapshot}
    (current : GatewayState) {next : GatewayState} :
    rebuild P config catalog current = .ok next ↔
      catalog.Valid P ∧ config.retry.Valid ∧
        next = current.withRouting (routingOf catalog config.retry) := by
  simp only [rebuild, bind_ok, fromParts_ok, pure, Except.pure, Except.ok.injEq]
  constructor
  · rintro ⟨_, ⟨hc, hr, rfl⟩, rfl⟩
    exact ⟨hc, hr, rfl⟩
  · rintro ⟨hc, hr, rfl⟩
    exact ⟨_, ⟨hc, hr, rfl⟩, rfl⟩

/-! ## Calls by themselves -/

section
variable {ι : Type} [DecidableEq ι] (P : Packages) (calls : ι → Call)

/-- The steps of a call that nothing interrupts do what its body does, and return what it
returns. -/
theorem steps_alone (s : Sys ι) (i : ι) (hs : s.pc i = .start) :
    ∃ n, Lts.exec (Sys.step P calls) s (List.replicate n i) =
      some ⟨(calls i).exec P s.shared,
        Function.update s.pc i (.returned ((calls i).result P s.shared))⟩ := by
  obtain ⟨shared, pc⟩ := s
  simp only at hs
  cases hc : calls i with
  | storeApiKeys apiKeys =>
    refine ⟨3, ?_⟩
    simp [Lts.exec, List.replicate, Sys.step, Call.step, Call.exec, Call.result, hc, hs]
  | storeGranted granted =>
    refine ⟨3, ?_⟩
    simp [Lts.exec, List.replicate, Sys.step, Call.step, Call.exec, Call.result, hc, hs]
  | storeCatalog catalog file =>
    cases file with
    | error e =>
      refine ⟨1, ?_⟩
      simp [Lts.exec, Sys.step, Call.step, Call.exec, Call.result, Except.bind, hc, hs]
    | ok config =>
      cases hr : rebuild P config catalog shared.state with
      | error e =>
        refine ⟨2, ?_⟩
        simp [Lts.exec, List.replicate, Sys.step, Call.step, Call.exec, Call.result, Pc.ofBuild,
          Except.bind, Except.map, hc, hs, hr]
      | ok next =>
        refine ⟨4, ?_⟩
        simp [Lts.exec, List.replicate, Sys.step, Call.step, Call.exec, Call.result, Pc.ofBuild,
          Except.bind, Except.map, hc, hs, hr]
  | reload file =>
    cases file with
    | error e =>
      refine ⟨1, ?_⟩
      simp [Lts.exec, Sys.step, Call.step, Call.exec, Call.result, Except.bind, hc, hs]
    | ok config =>
      cases hr : rebuild P config shared.catalog shared.state with
      | error e =>
        refine ⟨3, ?_⟩
        simp [Lts.exec, List.replicate, Sys.step, Call.step, Call.exec, Call.result, Pc.ofBuild,
          Except.bind, Except.map, hc, hs, hr]
      | ok next =>
        refine ⟨4, ?_⟩
        simp [Lts.exec, List.replicate, Sys.step, Call.step, Call.exec, Call.result, Pc.ofBuild,
          Except.bind, Except.map, hc, hs, hr]

end

/-! ## What a call holds -/

/-- The call is given a catalog and a file that pass validation. -/
def Call.Valid (P : Packages) : Call → Prop
  | .storeCatalog catalog file =>
    ∃ config, file = .ok config ∧ catalog.Valid P ∧ config.retry.Valid
  | .reload file => ∃ config, file = .ok config ∧ config.retry.Valid
  | _ => True

def Call.isStoreCatalog : Call → Bool
  | .storeCatalog _ _ => true
  | _ => false

def Call.isReload : Call → Bool
  | .reload _ => true
  | _ => false

/-- The part of the next state that comes from the call's own input. -/
def Call.Own : Call → GatewayState → Prop
  | .storeApiKeys apiKeys, next => next.apiKeys = apiKeys
  | .storeGranted granted, next => next.granted = granted
  | .storeCatalog catalog (.ok config), next => next.routing = routingOf catalog config.retry
  | _, _ => True

/-- What the locals of a call hold in a run with the handles `h`. -/
def Call.Holds (h : SpendCounter × Handle × Handle) (call : Call) : Pc → Prop
  | .sawState current | .sawBoth _ current => current.handles = h
  | .built next | .storedCatalog next => next.handles = h ∧ call.Own next
  | _ => True

/-- The next step of a call at this place stores `next` in the state cell. -/
inductive Stores : Call → Pc → GatewayState → Prop
  | apiKeys (apiKeys : ApiKeyMap) (next : GatewayState) :
      Stores (.storeApiKeys apiKeys) (.built next) next
  | granted (granted : HashMap Uuid ℚ) (next : GatewayState) :
      Stores (.storeGranted granted) (.built next) next
  | catalog (catalog : CatalogSnapshot) (file : Except String GatewayConfig)
      (next : GatewayState) : Stores (.storeCatalog catalog file) (.storedCatalog next) next
  | reload (file : Except String GatewayConfig) (next : GatewayState) :
      Stores (.reload file) (.built next) next

/-- A `reload` that has loaded a catalog which does not validate: it will fail. -/
def Doomed (P : Packages) : Call → Pc → Prop
  | .reload _, .sawCatalog catalog | .reload _, .sawBoth catalog _ => ¬ catalog.Valid P
  | _, _ => False

theorem Stores.not_doomed {P : Packages} {call : Call} {pc : Pc} {next : GatewayState}
    (h : Stores call pc next) : ¬ Doomed P call pc := by
  cases h <;> simp [Doomed]

/-- A call at this place has seen, or stored, a cached catalog that validates. -/
def SawValid (P : Packages) : Call → Pc → Prop
  | .storeCatalog _ _, .storedCatalog _ | .reload _, .built _ => True
  | .reload _, .sawCatalog catalog | .reload _, .sawBoth catalog _ => catalog.Valid P
  | _, _ => False

/-- The three kinds of steps of a valid call: one that leaves the cells alone, the catalog store of
`store_catalog`, and the store of the next state. -/
inductive StepKind (P : Packages) (shared : SharedGatewayState) (call : Call) (pc : Pc) :
    SharedGatewayState → Pc → Prop
  | quiet (pc' : Pc) : (∀ next, ¬ Stores call pc next) →
      (call.isStoreCatalog → ¬ pc'.isReturned) →
      (SawValid P call pc' → SawValid P call pc ∨ shared.catalog.Valid P) →
      (∀ h, shared.state.handles = h → call.Holds h pc → call.Holds h pc') →
      (pc'.isReturned ∨ Doomed P call pc' ↔
        Doomed P call pc ∨ pc = .start ∧ call.isReload ∧ ¬ shared.catalog.Valid P) →
      StepKind P shared call pc shared pc'
  | catalog (catalog : CatalogSnapshot) (config : GatewayConfig) (next : GatewayState) :
      call = .storeCatalog catalog (.ok config) → pc = .built next →
      StepKind P shared call pc { shared with catalog := catalog } (.storedCatalog next)
  | state (next : GatewayState) : Stores call pc next →
      StepKind P shared call pc { shared with state := next } (.returned (.ok ()))


theorem step_kind {P : Packages} {shared shared' : SharedGatewayState} {call : Call} {pc pc' : Pc}
    (hv : call.Valid P) (h : call.step P shared pc = some (shared', pc')) :
    StepKind P shared call pc shared' pc' := by
  cases call with
  | storeApiKeys apiKeys =>
    cases pc <;> simp only [Call.step, Option.some.injEq, Prod.mk.injEq, reduceCtorEq] at h <;>
      obtain ⟨rfl, rfl⟩ := h
    · exact .quiet _ nofun nofun nofun (fun _ h _ => h)
        (by simp [Doomed, Pc.isReturned, Call.isReload])
    · refine .quiet _ nofun nofun nofun (fun _ _ h => ⟨h, rfl⟩) (by simp [Doomed, Pc.isReturned])
    · exact .state _ (.apiKeys _ _)
  | storeGranted granted =>
    cases pc <;> simp only [Call.step, Option.some.injEq, Prod.mk.injEq, reduceCtorEq] at h <;>
      obtain ⟨rfl, rfl⟩ := h
    · exact .quiet _ nofun nofun nofun (fun _ h _ => h)
        (by simp [Doomed, Pc.isReturned, Call.isReload])
    · refine .quiet _ nofun nofun nofun (fun _ _ h => ⟨h, rfl⟩) (by simp [Doomed, Pc.isReturned])
    · exact .state _ (.granted _ _)
  | storeCatalog catalog file =>
    obtain ⟨config, rfl, hc, hr⟩ := hv
    cases pc <;> simp only [Call.step, Option.some.injEq, Prod.mk.injEq, reduceCtorEq] at h <;>
      obtain ⟨rfl, rfl⟩ := h
    · exact .quiet _ nofun (by simp [Pc.isReturned]) nofun (fun _ h _ => h)
        (by simp [Doomed, Pc.isReturned, Call.isReload])
    · rename_i current
      have hb := (rebuild_ok current).2 ⟨hc, hr, rfl⟩
      rw [hb]
      exact .quiet _ nofun (by simp [Pc.ofBuild, Pc.isReturned]) nofun (fun _ _ h => ⟨h, rfl⟩)
        (by simp [Doomed, Pc.isReturned, Pc.ofBuild])
    · exact .catalog _ config _ rfl rfl
    · exact .state _ (.catalog _ _ _)
  | reload file =>
    obtain ⟨config, rfl, hr⟩ := hv
    cases pc <;> simp only [Call.step, Option.some.injEq, Prod.mk.injEq, reduceCtorEq] at h <;>
      obtain ⟨rfl, rfl⟩ := h
    · exact .quiet _ nofun nofun .inr (fun _ _ _ => trivial)
        (by simp [Doomed, Pc.isReturned, Call.isReload])
    · exact .quiet _ nofun nofun .inl (fun _ h _ => h) (by simp [Doomed, Pc.isReturned])
    · rename_i catalog current
      by_cases hc : catalog.Valid P
      · have hb := (rebuild_ok current).2 ⟨hc, hr, rfl⟩
        rw [hb]
        exact .quiet _ nofun nofun (fun _ => .inl hc) (fun _ _ h => ⟨h, trivial⟩)
          (by simp [Doomed, Pc.isReturned, Pc.ofBuild, hc])
      · cases hb : rebuild P config catalog current with
        | ok next => exact absurd ((rebuild_ok _).1 hb).1 hc
        | error e =>
          exact .quiet _ nofun nofun nofun (fun _ _ _ => trivial)
            (by simp [Doomed, Pc.isReturned, Pc.ofBuild, hc])
    · exact .state _ (.reload _ _)

/-! ## Commit points -/

section
variable {ι : Type} [DecidableEq ι] (P : Packages) (calls : ι → Call)

/-- A call takes effect where it stores the next state; a reload that is going to fail, where it
loads the catalog that does not validate. -/
def Commits (s : Sys ι) (i : ι) : Prop :=
  (∃ next, Stores (calls i) (s.pc i) next) ∨
    s.pc i = .start ∧ (calls i).isReload ∧ ¬ s.shared.catalog.Valid P

open Classical in
/-- The order in which the calls of a run take effect. -/
noncomputable def commitOrder (shared : SharedGatewayState) (tr : List ι) : List ι :=
  Lts.commits (Sys.step P calls) (fun s i => decide (Commits P calls s i)) (Sys.init shared) tr

def Committed (s : Sys ι) (i : ι) : Prop :=
  (s.pc i).isReturned ∨ Doomed P (calls i) (s.pc i)

variable {P calls}

/-- A step of a run: its kind, and the places after it. -/
theorem Sys.step_kind (hv : ∀ i, (calls i).Valid P) {s w : Sys ι} {i : ι}
    (h : Sys.step P calls s i = some w) :
    StepKind P s.shared (calls i) (s.pc i) w.shared (w.pc i) ∧ ∀ j, j ≠ i → w.pc j = s.pc j := by
  simp only [Sys.step, Option.map_eq_some_iff, Prod.exists] at h
  obtain ⟨shared, pc, h, rfl⟩ := h
  refine ⟨?_, fun j hj => Function.update_of_ne hj _ _⟩
  simp only [Function.update_self]
  exact LiteAgentify.step_kind (hv i) h

theorem not_returned_of_step {s w : Sys ι} {i : ι} (h : Sys.step P calls s i = some w) :
    ¬ (s.pc i).isReturned := by
  intro hr
  cases hp : s.pc i with
  | returned result => cases hc : calls i <;> simp [Sys.step, Call.step, hc, hp] at h
  | _ => simp [hp, Pc.isReturned] at hr

theorem committed_step (hv : ∀ i, (calls i).Valid P) {s w : Sys ι} {i : ι}
    (h : Sys.step P calls s i = some w) (j : ι) :
    Committed P calls w j ↔ Committed P calls s j ∨ (j = i ∧ Commits P calls s i) := by
  obtain ⟨hk, hpc⟩ := Sys.step_kind hv h
  have hnr := not_returned_of_step h
  by_cases hj : j = i
  · subst hj
    simp only [Committed, Commits, true_and]
    generalize w.pc j = pc' at hk
    generalize w.shared = shared' at hk
    cases hk with
    | quiet _ hns _ _ _ hd =>
      rw [hd]
      simp [hnr, hns]
    | catalog catalog config next hc hp =>
      have hns : ∀ next', ¬ Stores (.storeCatalog catalog (.ok config)) (.built next) next' := nofun
      simp [hc, hp, hns, Pc.isReturned, Doomed]
    | state next hs =>
      simp only [Pc.isReturned, true_or, true_iff]
      exact .inr (.inl ⟨next, hs⟩)
  · simp [Committed, hpc j hj, hj]

theorem not_committed_of_commits {s w : Sys ι} {i : ι} (h : Sys.step P calls s i = some w)
    (hc : Commits P calls s i) : ¬ Committed P calls s i := by
  rintro (hr | hd)
  · exact not_returned_of_step h hr
  · rcases hc with ⟨next, hs⟩ | ⟨hp, -, -⟩
    · exact hs.not_doomed hd
    · rw [hp] at hd
      simp [Doomed] at hd

open Classical in
/-- Every call takes effect at most once, and has taken effect when it has returned. -/
theorem commitOrder_spec (hv : ∀ i, (calls i).Valid P) {ok : Sys ι → ι → Prop}
    {shared : SharedGatewayState} {tr : List ι} {s : Sys ι}
    (h : Lts.Run (Sys.step P calls) ok (Sys.init shared) tr s) :
    (commitOrder P calls shared tr).Nodup ∧
      ∀ i, i ∈ commitOrder P calls shared tr ↔ Committed P calls s i := by
  refine h.commits_nodup (Committed P calls) ?_ ?_ ?_
  · intro i hd
    simp [Committed, Sys.init, Pc.isReturned, Doomed] at hd
  · intro u l w hs j
    simp only [decide_eq_true_eq]
    exact committed_step hv hs j
  · intro u l w hs hc
    exact not_committed_of_commits hs (of_decide_eq_true hc)

end

/-! ## Stores of current fields -/

section
variable {ι : Type} (P : Packages) (calls : ι → Call)

/-- Another `store_catalog` has yet to store the state it rebuilds. -/
def RefreshPending (s : Sys ι) (i : ι) : Prop :=
  ∃ j, j ≠ i ∧ (calls j).isStoreCatalog ∧ ¬ (s.pc j).isReturned

/-- If call `i` stores a state next, the database-owned fields it carries over are still those of
the cell, and so are the routing fields or the catalog they come from, unless another
`store_catalog` is about to rebuild them. -/
def CarriesCurrent (s : Sys ι) (i : ι) : Prop :=
  ∀ next, Stores (calls i) (s.pc i) next →
    match calls i with
    | .storeApiKeys _ =>
      next.granted = s.shared.state.granted ∧
        (next.routing = s.shared.state.routing ∨ RefreshPending calls s i)
    | .storeGranted _ =>
      next.apiKeys = s.shared.state.apiKeys ∧
        (next.routing = s.shared.state.routing ∨ RefreshPending calls s i)
    | .storeCatalog catalog _ =>
      next.apiKeys = s.shared.state.apiKeys ∧ next.granted = s.shared.state.granted ∧
        (s.shared.catalog = catalog ∨ RefreshPending calls s i)
    | .reload file =>
      next.apiKeys = s.shared.state.apiKeys ∧ next.granted = s.shared.state.granted ∧
        ((∃ config, file = .ok config ∧
          next.routing = routingOf s.shared.catalog config.retry) ∨ RefreshPending calls s i)

/-- The cells `s` against those of the calls that have taken effect, run one after another. -/
structure Agrees (s : Sys ι) (a : SharedGatewayState) : Prop where
  apiKeys : s.shared.state.apiKeys = a.state.apiKeys
  granted : s.shared.state.granted = a.state.granted
  handles : s.shared.state.handles = a.state.handles
  /-- Without a `store_catalog` under way the cells agree altogether. -/
  settled : (∀ i, (calls i).isStoreCatalog → (s.pc i).isReturned) →
    s.shared.catalog = a.catalog ∧ s.shared.state.routing = a.state.routing
  /-- A catalog that does not validate is the initial one. -/
  invalid : ¬ s.shared.catalog.Valid P → s.shared.catalog = a.catalog
  holds : ∀ i, (calls i).Holds a.state.handles (s.pc i)
  valid : ∀ i, SawValid P (calls i) (s.pc i) → s.shared.catalog.Valid P

variable {P calls}

theorem agrees_init (shared : SharedGatewayState) :
    Agrees P calls (Sys.init shared) shared where
  apiKeys := rfl
  granted := rfl
  handles := rfl
  settled _ := ⟨rfl, rfl⟩
  invalid _ := rfl
  holds _ := trivial
  valid i h := by cases hc : calls i <;> simp [Sys.init, SawValid, hc] at h

/-- A call that has not stored a state keeps what it is waiting for. -/
theorem settled_before {s w : Sys ι} {i : ι} (hpc : ∀ j, j ≠ i → w.pc j = s.pc j)
    (hi : (calls i).isStoreCatalog → (w.pc i).isReturned → (s.pc i).isReturned)
    (hw : ∀ j, (calls j).isStoreCatalog → (w.pc j).isReturned) :
    ∀ j, (calls j).isStoreCatalog → (s.pc j).isReturned := by
  intro j hj
  by_cases h : j = i
  · subst h
    exact hi hj (hw j hj)
  · rw [← hpc j h]
    exact hw j hj

theorem not_pending {s w : Sys ι} {i : ι} (hpc : ∀ j, j ≠ i → w.pc j = s.pc j)
    (hw : ∀ j, (calls j).isStoreCatalog → (w.pc j).isReturned) : ¬ RefreshPending calls s i := by
  rintro ⟨j, hj, hc, hr⟩
  rw [← hpc j hj] at hr
  exact hr (hw j hc)

/-- The effect of a valid call: its own part is new, the rest is carried over. -/
theorem exec_storeCatalog {catalog : CatalogSnapshot} {config : GatewayConfig}
    (hc : catalog.Valid P) (hr : config.retry.Valid) (a : SharedGatewayState) :
    Call.exec P a (.storeCatalog catalog (.ok config)) =
      ⟨a.state.withRouting (routingOf catalog config.retry), catalog⟩ := by
  simp only [Call.exec]
  rw [(rebuild_ok a.state).2 ⟨hc, hr, rfl⟩]

theorem exec_reload {config : GatewayConfig} (hr : config.retry.Valid) (a : SharedGatewayState)
    (hc : a.catalog.Valid P) :
    Call.exec P a (.reload (.ok config)) =
      { a with state := a.state.withRouting (routingOf a.catalog config.retry) } := by
  simp only [Call.exec]
  rw [(rebuild_ok a.state).2 ⟨hc, hr, rfl⟩]

theorem exec_reload_invalid {config : GatewayConfig} (a : SharedGatewayState)
    (hc : ¬ a.catalog.Valid P) : Call.exec P a (.reload (.ok config)) = a := by
  simp only [Call.exec]
  cases hb : rebuild P config a.catalog a.state with
  | error e => rfl
  | ok next => exact absurd ((rebuild_ok _).1 hb).1 hc

/-- A step that leaves the cells alone agrees with no effect at all. -/
theorem Agrees.of_pc {s w : Sys ι} {i : ι} {a : SharedGatewayState} (ha : Agrees P calls s a)
    (hsh : w.shared = s.shared) (hpc : ∀ j, j ≠ i → w.pc j = s.pc j)
    (hret : (calls i).isStoreCatalog → ¬ (w.pc i).isReturned)
    (hsv : SawValid P (calls i) (w.pc i) → s.shared.catalog.Valid P)
    (hh : (calls i).Holds a.state.handles (w.pc i)) :
    Agrees P calls w a where
  apiKeys := by rw [hsh]; exact ha.apiKeys
  granted := by rw [hsh]; exact ha.granted
  handles := by rw [hsh]; exact ha.handles
  settled hw := by
    rw [hsh]
    exact ha.settled (settled_before hpc (fun hc hr => absurd hr (hret hc)) hw)
  invalid := by rw [hsh]; exact ha.invalid
  holds j := by
    by_cases hj : j = i
    · subst hj; exact hh
    · rw [hpc j hj]; exact ha.holds j
  valid j hj := by
    rw [hsh]
    by_cases h : j = i
    · subst h; exact hsv hj
    · rw [hpc j h] at hj; exact ha.valid j hj

/-- The store of a state whose parts agree with those of `a`. -/
theorem Agrees.of_store {s w : Sys ι} {i : ι} {a b : SharedGatewayState} {next : GatewayState}
    (ha : Agrees P calls s a) (hw : w.shared = { s.shared with state := next })
    (hpc : ∀ j, j ≠ i → w.pc j = s.pc j) (hi : w.pc i = .returned (.ok ()))
    (hk : next.apiKeys = b.state.apiKeys) (hg : next.granted = b.state.granted)
    (hn : next.handles = a.state.handles) (hb : b.state.handles = a.state.handles)
    (hs : (∀ j, (calls j).isStoreCatalog → (w.pc j).isReturned) →
      s.shared.catalog = b.catalog ∧ next.routing = b.state.routing)
    (hv : ¬ s.shared.catalog.Valid P → s.shared.catalog = b.catalog) : Agrees P calls w b where
  apiKeys := by rw [hw]; exact hk
  granted := by rw [hw]; exact hg
  handles := by rw [hw, hb]; exact hn
  settled := by rw [hw]; exact hs
  invalid := by rw [hw]; exact hv
  holds j := by
    rw [hb]
    by_cases hj : j = i
    · subst hj; rw [hi]; trivial
    · rw [hpc j hj]; exact ha.holds j
  valid j hj := by
    rw [hw]
    by_cases h : j = i
    · subst h
      rw [hi] at hj
      cases hc : calls j <;> simp [SawValid, hc] at hj
    · rw [hpc j h] at hj; exact ha.valid j hj

/-- A guarded store agrees with the effect of the call. -/
theorem agrees_store (hv : ∀ i, (calls i).Valid P) {s w : Sys ι} {i : ι} {a : SharedGatewayState}
    {next : GatewayState} (ha : Agrees P calls s a) (hg : CarriesCurrent calls s i)
    (hs : Stores (calls i) (s.pc i) next) (hw : w.shared = { s.shared with state := next })
    (hpc : ∀ j, j ≠ i → w.pc j = s.pc j) (hi : w.pc i = .returned (.ok ())) :
    Agrees P calls w ((calls i).exec P a) := by
  have hcur := hg next hs
  have hold := ha.holds i
  have hvi := hv i
  -- a call that is not a `store_catalog` settles nothing by returning
  have before : ¬ (calls i).isStoreCatalog →
      (∀ j, (calls j).isStoreCatalog → (w.pc j).isReturned) →
      s.shared.catalog = a.catalog ∧ s.shared.state.routing = a.state.routing :=
    fun hn hall => ha.settled (settled_before hpc (fun h => absurd h hn) hall)
  generalize hcall : calls i = call at hs hcur hold hvi before ⊢
  generalize hp : s.pc i = pc at hs hold
  cases hs with
  | apiKeys apiKeys =>
    obtain ⟨hh, hown⟩ := hold
    refine ha.of_store hw hpc hi hown (hcur.1.trans ha.granted) hh rfl (fun hall => ?_) ha.invalid
    have hset := before (by simp [Call.isStoreCatalog]) hall
    exact ⟨hset.1, (hcur.2.resolve_right (not_pending hpc hall)).trans hset.2⟩
  | granted granted =>
    obtain ⟨hh, hown⟩ := hold
    refine ha.of_store hw hpc hi (hcur.1.trans ha.apiKeys) hown hh rfl (fun hall => ?_) ha.invalid
    have hset := before (by simp [Call.isStoreCatalog]) hall
    exact ⟨hset.1, (hcur.2.resolve_right (not_pending hpc hall)).trans hset.2⟩
  | catalog catalog file =>
    obtain ⟨config, rfl, hc, hr⟩ := hvi
    obtain ⟨hh, hown⟩ := hold
    obtain ⟨hk, hgr, hcat⟩ := hcur
    rw [exec_storeCatalog hc hr]
    refine ha.of_store hw hpc hi (hk.trans ha.apiKeys) (hgr.trans ha.granted) hh rfl
      (fun hall => ?_) (fun hn => absurd (ha.valid i (by rw [hcall, hp]; trivial)) hn)
    exact ⟨hcat.resolve_right (not_pending hpc hall), hown⟩
  | reload file =>
    obtain ⟨config, rfl, hr⟩ := hvi
    obtain ⟨hk, hgr, hrt⟩ := hcur
    have hset := before (by simp [Call.isStoreCatalog])
    by_cases hc : a.catalog.Valid P
    · rw [exec_reload hr a hc]
      refine ha.of_store hw hpc hi (hk.trans ha.apiKeys) (hgr.trans ha.granted) hold.1 rfl
        (fun hall => ⟨(hset hall).1, ?_⟩) ha.invalid
      obtain ⟨_, hcfg, hrt⟩ := hrt.resolve_right (not_pending hpc hall)
      cases hcfg
      rw [hrt, (hset hall).1]
      rfl
    · rw [exec_reload_invalid a hc]
      -- the reload has seen a catalog that validates, so one is being published
      have hcell := ha.valid i (by rw [hcall, hp]; trivial)
      exact ha.of_store hw hpc hi (hk.trans ha.apiKeys) (hgr.trans ha.granted) hold.1 rfl
        (fun hall => absurd ((hset hall).1 ▸ hcell) hc) ha.invalid

variable [DecidableEq ι]

open Classical in
/-- **The step lemma.** A guarded step agrees with the effect of its call where the call takes
effect, and with none elsewhere. -/
theorem agrees_step (hv : ∀ i, (calls i).Valid P) {s w : Sys ι} {i : ι} {a : SharedGatewayState}
    (ha : Agrees P calls s a) (hg : CarriesCurrent calls s i)
    (h : Sys.step P calls s i = some w) :
    Agrees P calls w (if decide (Commits P calls s i) then (calls i).exec P a else a) := by
  obtain ⟨hk, hpc⟩ := Sys.step_kind hv h
  have hvi := hv i
  generalize hsh : w.shared = shared at hk
  generalize hp : w.pc i = pc at hk
  cases hk with
  | quiet _ hns hret hsv hh _ =>
    have hnone : (if decide (Commits P calls s i) then (calls i).exec P a else a) = a := by
      split
      · rename_i hc
        obtain ⟨next, hs⟩ | ⟨-, hr, hinv⟩ := of_decide_eq_true hc
        · exact absurd hs (hns next)
        · generalize calls i = call at hr hvi
          cases call with
          | reload file =>
            obtain ⟨config, rfl, -⟩ := hvi
            exact exec_reload_invalid a (ha.invalid hinv ▸ hinv)
          | _ => simp [Call.isReload] at hr
      · rfl
    rw [hnone]
    refine ha.of_pc hsh hpc (by rw [hp]; exact hret) (fun hs => ?_) ?_
    · rw [hp] at hs
      exact (hsv hs).elim (ha.valid i) id
    · rw [hp]
      exact hh _ ha.handles (ha.holds i)
  | catalog catalog config next hc hb =>
    have hnc : ¬ Commits P calls s i := by
      rintro (⟨next', hs⟩ | ⟨hst, -, -⟩)
      · rw [hc, hb] at hs
        cases hs
      · rw [hb] at hst
        cases hst
    rw [hc] at hvi
    obtain ⟨config', hcfg, hcat, -⟩ := hvi
    have hold := ha.holds i
    rw [hb] at hold
    simp only [hnc, decide_false, Bool.false_eq_true, if_false]
    refine ⟨?_, ?_, ?_, fun hw => ?_, fun hn => ?_, fun j => ?_, fun j _ => ?_⟩
    · rw [hsh]; exact ha.apiKeys
    · rw [hsh]; exact ha.granted
    · rw [hsh]; exact ha.handles
    · have := hw i (by rw [hc]; rfl)
      rw [hp] at this
      cases this
    · rw [hsh] at hn
      exact absurd hcat hn
    · by_cases hj : j = i
      · subst hj; rw [hp]; exact hold
      · rw [hpc j hj]; exact ha.holds j
    · rw [hsh]; exact hcat
  | state next hs =>
    have hc : Commits P calls s i := .inl ⟨next, hs⟩
    simp only [hc, decide_true, if_true]
    exact agrees_store hv ha hg hs hsh hpc hp

end

/-! ## Runs -/

section
variable {ι : Type} {P : Packages} {calls : ι → Call}

/-- A guarded store publishes the call's own map and carries the published one over. -/
theorem published_store {s : Sys ι} {i : ι} {a : SharedGatewayState} {next : GatewayState}
    {m : ApiKeyMap × HashMap Uuid ℚ} (ha : Agrees P calls s a) (hg : CarriesCurrent calls s i)
    (hs : Stores (calls i) (s.pc i) next)
    (hm : (s.shared.state.apiKeys, s.shared.state.granted) = m) :
    (next.apiKeys, next.granted) =
      match calls i, s.pc i with
      | .storeApiKeys apiKeys, .built _ => (apiKeys, m.2)
      | .storeGranted granted, .built _ => (m.1, granted)
      | _, _ => m := by
  have hcur := hg next hs
  have hold := ha.holds i
  subst hm
  generalize calls i = call at hs hcur hold ⊢
  generalize s.pc i = pc at hs hold ⊢
  cases hs with
  | apiKeys apiKeys => exact Prod.ext hold.2 hcur.1
  | granted granted => exact Prod.ext hcur.1 hold.2
  | catalog catalog file => exact Prod.ext hcur.1 hcur.2.1
  | reload file => exact Prod.ext hcur.1 hcur.2.1

variable [DecidableEq ι] (P calls)

/-- The key map and the grants that were published last. -/
def published (shared : SharedGatewayState) (tr : List ι) : ApiKeyMap × HashMap Uuid ℚ :=
  Lts.observe (Sys.step P calls) (fun m s i _ =>
    match calls i, s.pc i with
    | .storeApiKeys apiKeys, .built _ => (apiKeys, m.2)
    | .storeGranted granted, .built _ => (m.1, granted)
    | _, _ => m) (Sys.init shared) (shared.state.apiKeys, shared.state.granted) tr

variable {P calls}

open Classical in
/-- **No lost update in runs that store current fields.** In every state the snapshot serves the
key map and the grants published last; and when every call has returned, the cells are those of the
calls run one after another in some order. -/
theorem serializable_of_current (hv : ∀ i, (calls i).Valid P) {shared : SharedGatewayState}
    {tr : List ι} {s : Sys ι}
    (h : Lts.Run (Sys.step P calls) (CarriesCurrent calls) (Sys.init shared) tr s) :
    (s.shared.state.apiKeys, s.shared.state.granted) = published P calls shared tr ∧
      ((∀ i, (s.pc i).isReturned) →
        ∃ order : List ι, order.Nodup ∧ (∀ i, i ∈ order) ∧
          s.shared = sequentially P calls shared order) := by
  constructor
  · refine (h.inv_observe (I := fun u m => (∃ a, Agrees P calls u a) ∧
      (u.shared.state.apiKeys, u.shared.state.granted) = m) ⟨⟨_, agrees_init shared⟩, rfl⟩ ?_).2
    rintro u i w m ⟨⟨a, ha⟩, hm⟩ hg hs
    refine ⟨⟨_, agrees_step hv ha hg hs⟩, ?_⟩
    obtain ⟨hk, -⟩ := Sys.step_kind hv hs
    generalize w.shared = sh at hk
    generalize w.pc i = pc at hk
    cases hk with
    | quiet _ hns _ _ _ _ =>
      rw [hm]
      split
      · rename_i hc hp
        exact absurd (by rw [hc, hp]; exact .apiKeys _ _) (hns _)
      · rename_i hc hp
        exact absurd (by rw [hc, hp]; exact .granted _ _) (hns _)
      · rfl
    | catalog catalog config next hc hp => simpa only [hc, hp] using hm
    | state next hst => exact published_store ha hg hst hm
  · intro hall
    obtain ⟨hnd, hmem⟩ := commitOrder_spec hv h
    refine ⟨commitOrder P calls shared tr, hnd, fun i => (hmem i).2 (.inl (hall i)), ?_⟩
    have ha : Agrees P calls s (sequentially P calls shared (commitOrder P calls shared tr)) :=
      h.serial (fun i a => (calls i).exec P a) (agrees_init shared)
        fun u i w a ha hg hs => agrees_step hv ha hg hs
    obtain ⟨hcat, hrt⟩ := ha.settled fun i _ => hall i
    have hst := GatewayState.ext_parts ha.apiKeys ha.granted ha.handles hrt
    generalize sequentially P calls shared (commitOrder P calls shared tr) = b at hcat hst
    cases hb : s.shared
    cases b
    simp_all

end

/-! ## A lost update -/

/-- A snapshot that serves one key over an empty catalog. -/
def servesOneKey : SharedGatewayState where
  state := { GatewayState.ofRouting (routingOf {} {}) 0 0 with
    apiKeys := Finmap.insert (Vector.replicate 32 7) { userId := 1, apiKeyId := 2 } ∅ }
  catalog := {}

/-- The file is reloaded while a key map without the key is published. -/
def revokeDuringReload : Fin 2 → Call
  | 0 => .reload (.ok {})
  | 1 => .storeApiKeys ∅

theorem revokeDuringReload_valid (i : Fin 2) : (revokeDuringReload i).Valid default := by
  match i with
  | 0 => exact ⟨{}, rfl, ⟨by decide, by decide, by decide⟩⟩
  | 1 => trivial

theorem revoked_in_either_order : ∀ i j : Fin 2, (∀ k, k ∈ [i, j]) →
    (sequentially default revokeDuringReload servesOneKey [i, j]).state.apiKeys = ∅ := by
  decide

/-- A reload that loads the state after the key map is published carries the new map over. -/
theorem revocation_survives_reload :
    ∃ tr s, Lts.Run (Sys.step default revokeDuringReload) (CarriesCurrent revokeDuringReload)
        (Sys.init servesOneKey) tr s ∧
      (s.shared.state.apiKeys, s.shared.state.granted) =
        published default revokeDuringReload servesOneKey tr ∧
      ∃ order : List (Fin 2), order.Nodup ∧ (∀ i, i ∈ order) ∧
        s.shared = sequentially default revokeDuringReload servesOneKey order := by
  have hrun : ∃ tr s, Lts.Run (Sys.step default revokeDuringReload)
      (CarriesCurrent revokeDuringReload) (Sys.init servesOneKey) tr s ∧
        ∀ i, (s.pc i).isReturned := by
    refine ⟨_, _, .snoc (l := 0) (.snoc (l := 0) (.snoc (l := 0) (.snoc (l := 1) (.snoc (l := 1)
      (.snoc (l := 1) (.snoc (l := 0) .nil ?_ rfl) ?_ rfl) ?_ rfl) ?_ rfl) ?_ rfl) ?_ rfl) ?_ rfl,
      by decide⟩
    · exact nofun
    · exact nofun
    · exact nofun
    · rintro _ (_ | _)
      exact ⟨rfl, .inl rfl⟩
    · exact nofun
    · exact nofun
    · rintro _ (_ | _ | _ | _)
      exact ⟨rfl, rfl, .inl ⟨_, rfl, rfl⟩⟩
  obtain ⟨tr, s, h, hall⟩ := hrun
  have := serializable_of_current revokeDuringReload_valid h
  exact ⟨tr, s, h, this.1, this.2 hall⟩

/-- **A reload can bring a revoked key back.** It loads the state, the key map without the key is
published, then it stores what it built from the old state: the key is served again, as after
neither order of the two calls. -/
theorem stale_reload_loses_key_map :
    ∃ s, Lts.Steps (Sys.step default revokeDuringReload) (Sys.init servesOneKey)
        [0, 0, 1, 1, 1, 0, 0] s ∧
      (∀ i, (revokeDuringReload i).Valid default) ∧ (∀ i, (s.pc i).isReturned) ∧
      s.shared.state.apiKeys = servesOneKey.state.apiKeys ∧
      ∀ order : List (Fin 2), order.Nodup → (∀ i, i ∈ order) →
        s.shared ≠ sequentially default revokeDuringReload servesOneKey order := by
  refine ⟨_, Lts.steps_of_exec (v := ⟨servesOneKey, _⟩) rfl, revokeDuringReload_valid, ?_, rfl, ?_⟩
  · decide
  intro order hnd hall heq
  have hperm : order.Perm [0, 1] := (List.perm_ext_iff_of_nodup hnd (by decide)).2
    fun i => ⟨fun _ => (by decide : ∀ i : Fin 2, i ∈ [0, 1]) i, fun _ => hall i⟩
  obtain ⟨i, j, rfl⟩ := List.length_eq_two.1 hperm.length_eq
  have hkeys : servesOneKey.state.apiKeys = ∅ := by
    have := congrArg (fun sh => sh.state.apiKeys) heq
    exact this.trans (revoked_in_either_order i j hall)
  exact absurd hkeys (by decide)

end LiteAgentify
