import LiteAgentify.Proof.Gateway
import LiteAgentify.Proof.Refresh

/-!
# Credits

The ledger is what `create_grant` has acknowledged (`Gateway.step_grants`), and the served sums are
those of the ledger while no acknowledgement carries a warning (`step_granted`). So what a user has
been granted, what the balance shows and what the quota check enforces are the same
(`acknowledged_grants_are_credited`). Requests come one after another, the process dies between
requests only, and an `INSERT` that fails leaves no row: a reply that is lost after its commit would
leave a grant in the ledger that nobody acknowledged.
-/

set_option autoImplicit false

namespace LiteAgentify

open AdminApi Lts

variable {X : Externals} {s s' : Gateway} {event : GatewayEvent}

/-- A request that is not acknowledged with a warning, if it asks for a grant. -/
def Gateway.GrantsApplied (X : Externals) (s : Gateway) : GatewayEvent → Prop
  | .call c => ∀ w, s = .up w → (serve X w c).1.warning ≠ some grantWarning
  | _ => True

/-- The grants that a run acknowledges, in order. -/
def Gateway.ledger (X : Externals) (s : Gateway) (tr : List GatewayEvent) : List GrantRecord :=
  observe (Gateway.step X) (fun m u event _ => m ++ u.acknowledges X event) s [] tr

/-- **A step serves the sums it served, of an unchanged ledger, or those of the ledger.** -/
theorem Gateway.step_granted {w' : Backend} (hok : s.GrantsApplied X event)
    (h : s.step X event = some (.up w')) : w'.granted = w'.tables.granted ∨
      ∃ w, s = .up w ∧ w'.granted = w.granted ∧ w'.grants = w.grants := by
  cases s with
  | down t =>
    cases event with
    | boot b =>
      unfold step at h
      dsimp only at h
      split at h
      · rename_i t' w hbuilt
        cases h
        have hbooted := ((buildRouter_cases hbuilt).2.2.2 w' rfl).1
        exact .inl (buildRouterShared_ok hbooted.shared).2.1
      · cases h
    | die => cases h
    | call call => cases h
    | reload file => cases h
    | traffic counters usage lastUsedAt => cases h
  | up w =>
    cases event with
    | boot b => cases h
    | die => cases h
    | call call =>
      cases h
      obtain ⟨c, request⟩ := call
      have hserved := serve_served (X := X) (w := w) ⟨c, request⟩
      have hwarned := hok w rfl
      generalize serve X w ⟨c, request⟩ = out at hserved hwarned
      cases hserved with
      | nothing => exact .inr ⟨w, rfl, rfl, rfl⟩
      | newUser hinsert => exact .inr ⟨w, rfl, rfl, rfl⟩
      | newPassword id hash => exact .inr ⟨w, rfl, rfl, rfl⟩
      | @refreshed _ users keys n body =>
        rcases refresh_cases { w with users := users, keys := keys } c.faults n body with hr | hr
        · rw [hr]
          exact .inr ⟨w, rfl, rfl, rfl⟩
        · rw [hr]
          exact .inr ⟨w, rfl, rfl, rfl⟩
      | granted _ _ hv =>
        rcases hv with ⟨-, rfl⟩ | ⟨hv, -⟩
        · exact absurd rfl hwarned
        · cases hv
          exact .inl rfl
      | @catalog request =>
        exact .inr ⟨w, rfl, (writeCatalog_accounts (X := X) w c request).2.2.2.2.2, rfl⟩
    | reload file =>
      cases h
      exact .inr ⟨w, rfl, (reload_accounts w file).2, rfl⟩
    | traffic counters usage lastUsedAt =>
      cases h
      exact .inr ⟨w, rfl, rfl, rfl⟩

/-- **Acknowledged grants are credited, once.** Take any run from the migrated database, with any
boots, requests, reloads and traffic one after another, with deaths between them and with failures
that leave no row, in which no grant is acknowledged with a warning. The ledger is the list of the
acknowledged grants; what a user's balance shows as granted is the sum of those to the user; and the
user's requests pass the check of the user's quota exactly while the balance that is shown is
positive. -/
theorem acknowledged_grants_are_credited {collation : String → String → Bool}
    {tr : List GatewayEvent} {w : Backend}
    (hrun : Run (Gateway.step X) (Gateway.GrantsApplied X) (.down (.empty collation)) tr (.up w))
    (identity : KeyIdentity) :
    let ledger := Gateway.ledger X (.down (.empty collation)) tr
    let spent := w.counters.get (.user identity.userId)
    let total := granted (ledger.map GrantRecord.toGrantRow) identity.userId
    w.grants = ledger ∧ w.balanceParts identity.userId = ⟨total, spent, total - spent⟩ ∧
      (w.console.shared.state.checkUserQuota identity spent = .allowed ↔
        0 < (w.balanceParts identity.userId).balance) := by
  intro ledger spent total
  have hinv : (Gateway.up w).tables.grants = ledger ∧
      ∀ v, Gateway.up w = .up v → v.granted = v.tables.granted := by
    refine hrun.inv_observe (I := fun u m => u.tables.grants = m ∧
      ∀ v, u = .up v → v.granted = v.tables.granted) ⟨rfl, fun v hv => by cases hv⟩ ?_
    rintro u event u' m ⟨hledger, hserved⟩ hok hs
    refine ⟨by rw [Gateway.step_grants hs, hledger], ?_⟩
    rintro v rfl
    rcases Gateway.step_granted hok hs with hnew | ⟨v', rfl, hsame, hgrants⟩
    · exact hnew
    · have htables : v.tables.granted = v'.tables.granted := by
        rw [Tables.granted, Tables.granted, show v.tables.grants = v'.tables.grants from hgrants]
      rw [hsame, hserved v' rfl, htables]
  have hlookup : (w.console.shared.state.granted.lookup identity.userId).getD 0 = total := by
    have hserved : w.console.shared.state.granted = w.tables.granted := hinv.2 w rfl
    rw [hserved, Tables.granted, grantSums_getD, show w.tables.grants = ledger from hinv.1]
  have hbalance : w.balanceParts identity.userId = ⟨total, spent, total - spent⟩ := by
    rw [Backend.balanceParts, hlookup]
  refine ⟨hinv.1, hbalance, ?_⟩
  rw [hbalance, GatewayState.checkUserQuota, hlookup]
  dsimp only
  rw [sub_pos]
  by_cases hspent : spent < total
  · rw [if_neg (not_le.2 hspent)]
    exact iff_of_true rfl hspent
  · rw [if_pos (not_lt.1 hspent)]
    exact iff_of_false (by simp) hspent

/-- A parser of one amount. -/
def fiveDollars : Externals :=
  { sampleExternals with
    decimalFromStr := fun text => if text = "5" then some (.ofUInt8 5) else none }

def fiveDollarsGrant : GrantRecord := ⟨⟨1, 5⟩, 20, none, 1, 5⟩

/-- The gateway after that grant. -/
def AdminApi.Backend.grantedFive (w : Backend) : Backend :=
  let w := { w with grants := w.grants ++ [fiveDollarsGrant] }
  (w.refreshGranted false).getD w

theorem fiveDollars_granted {w : Backend} (huser : (w.users.find 1).isSome) :
    serve fiveDollars w ⟨sampleContext, .createGrant ⟨1, "5"⟩ none⟩ =
      (⟨201, .grant fiveDollarsGrant, none⟩, w.grantedFive) := by
  have hvalid : validateGrant fiveDollars.toPackages ⟨1, "5"⟩ = .ok (.ofUInt8 5) := by
    have hparse : fiveDollars.decimalFromStr (Text.trim "5") = some (.ofUInt8 5) := rfl
    rw [validateGrant, hparse]
    simp [Decimal.toRat, Decimal.ofUInt8]
  have happend (row : ℚ → GrantRecord) (hrow : row 5 = fiveDollarsGrant) :
      w.appendGrant false (.ofUInt8 5) row = some fiveDollarsGrant := by
    have hstored : (Decimal.ofUInt8 5).toNumeric = some (.ofNat 50000000000 10) := rfl
    have hrat : (Decimal.ofNat 50000000000 10).toRat = 5 := by
      norm_num [Decimal.toRat, Decimal.ofNat]
    rw [Backend.appendGrant, hstored]
    dsimp only
    rw [hrat, hrow]
    refine if_neg ?_
    rintro (h | h | h | h)
    · cases h
    · rw [show fiveDollarsGrant.userId = 1 from rfl, Option.isNone_eq_false_iff.2 huser] at h
      cases h
    · rw [show fiveDollarsGrant.grantedBy = 1 from rfl, Option.isNone_eq_false_iff.2 huser] at h
      cases h
    · exact h rfl
  have hadmin : requireAdmin sampleContext.identity = .ok () := rfl
  have hfault (n : Nat) : sampleContext.faults.statement n = false := rfl
  change AdminApi.createGrant fiveDollars w sampleContext ⟨1, "5"⟩ none = _
  unfold AdminApi.createGrant adminOnly
  rw [hadmin, hvalid]
  dsimp only
  rw [hfault, hfault, hfault, if_neg (by decide), Option.isNone_eq_false_iff.2 huser,
    if_neg (by decide), happend _ rfl]
  rfl

/-- A grant survives a restart. -/
theorem acknowledged_grants_are_credited_sample : ∃ v,
    Steps (Gateway.step fiveDollars) sampleDown [.boot sampleBoot,
      .call ⟨sampleContext, .createGrant ⟨1, "5"⟩ none⟩, .die, .boot sampleBoot] (.up v) ∧
    (v.balanceParts 1).granted = 5 := by
  obtain ⟨w, v, hboot, huser, hrestart, hgrants⟩ : ∃ w v,
      sampleDown.step fiveDollars (.boot sampleBoot) = some (.up w) ∧
      (w.users.find 1).isSome ∧
      (Gateway.down w.grantedFive.tables).step fiveDollars (.boot sampleBoot) = some (.up v) ∧
      v.grants = [fiveDollarsGrant] :=
    ⟨_, _, rfl, rfl, rfl, rfl⟩
  have hgranted := fiveDollars_granted huser
  have hcall : (Gateway.up w).step fiveDollars
      (.call ⟨sampleContext, .createGrant ⟨1, "5"⟩ none⟩) = some (.up w.grantedFive) := by
    show some (Gateway.up (serve _ _ _).2) = _
    rw [hgranted]
  have happlied : (Gateway.up w).GrantsApplied fiveDollars
      (.call ⟨sampleContext, .createGrant ⟨1, "5"⟩ none⟩) := by
    rintro _ ⟨⟩
    rw [hgranted]
    exact (Option.some_ne_none _).symm
  have hbooted : sampleDown.GrantsApplied fiveDollars (.boot sampleBoot) := trivial
  have hdied : (Gateway.up w.grantedFive).GrantsApplied fiveDollars .die := trivial
  have hrebooted : (Gateway.down w.grantedFive.tables).GrantsApplied fiveDollars
      (.boot sampleBoot) := trivial
  have hrun : Run (Gateway.step fiveDollars) (Gateway.GrantsApplied fiveDollars) sampleDown
      [.boot sampleBoot, .call ⟨sampleContext, .createGrant ⟨1, "5"⟩ none⟩, .die, .boot sampleBoot]
      (.up v) :=
    .snoc (.snoc (.snoc (.snoc .nil hbooted hboot) happlied hcall) hdied rfl) hrebooted hrestart
  obtain ⟨hledger, hbalance, -⟩ := acknowledged_grants_are_credited hrun ⟨1, 10, none, none⟩
  have htotal : granted (v.grants.map GrantRecord.toGrantRow) 1 = 5 := by
    rw [hgrants]
    simp [granted, fiveDollarsGrant]
  refine ⟨v, hrun.restrict fun _ _ _ => trivial, ?_⟩
  rw [hbalance, ← hledger, htotal]

end LiteAgentify
