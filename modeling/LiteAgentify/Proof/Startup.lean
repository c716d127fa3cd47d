import LiteAgentify.Proof.Import

/-!
# Interrupted imports

A boot that stops between two stages leaves tables that are empty or complete (`Clean`), from which
the next boot completes the import. One that stops within a stage leaves a table that is neither,
and no later boot touches it again (`Ruined`). So the import is completed exactly when no boot stops
within a stage (`import_recovers`).
-/

set_option autoImplicit false

namespace LiteAgentify

variable {config : GatewayConfig}

/-! ## A boot that nothing stops -/

theorem Startup.run_stage {draw : BootDraw} {stage : ImportStage} {left : List ImportCall}
    {db db' : CatalogDb} (h : left.foldlM ImportCall.exec db = .ok db') :
    Lts.exec (Startup.step config) ⟨db, .importing draw stage left⟩
      (List.replicate left.length .next) = some ⟨db', .importing draw stage []⟩ := by
  induction left generalizing db with
  | nil =>
    cases h
    rfl
  | cons call left ih =>
    rw [List.foldlM_cons, Keyed.bind_ok] at h
    obtain ⟨a, hexec, h⟩ := h
    have hstep : Startup.step config ⟨db, .importing draw stage (call :: left)⟩ .next =
        some ⟨a, .importing draw stage left⟩ := by
      simp only [Startup.step, hexec]
    rw [List.length_cons, List.replicate_succ, Lts.exec, List.foldlM_cons, hstep]
    exact ih h

/-- **A boot that nothing stops** runs `importOnce`. -/
theorem Startup.boot_importOnce {draw : BootDraw} {db db' : CatalogDb}
    (h : db.importOnce config draw.newId draw.now = .ok db') :
    ∃ n, Lts.exec (Startup.step config) ⟨db, .down⟩ (.boot draw :: List.replicate n .next) =
      some ⟨db', .up⟩ := by
  obtain ⟨a, b, ha, hb, hd⟩ := importOnce_calls.1 h
  refine ⟨(ImportStage.calls config draw db .providers).length + (1 +
    ((ImportStage.calls config draw a .pricing).length + (1 +
      ((ImportStage.calls config draw b .models).length + 1)))), ?_⟩
  have hsplit : ∀ {s : Startup} {m n : Nat} {u : Startup},
      Lts.exec (Startup.step config) s (List.replicate m .next) = some u →
      Lts.exec (Startup.step config) s (List.replicate (m + n) .next) =
        Lts.exec (Startup.step config) u (List.replicate n .next) := by
    intro s m n u hu
    rw [List.replicate_add, Lts.exec, List.foldlM_append]
    exact congrArg (· >>= _) hu
  rw [Lts.exec, List.foldlM_cons]
  change Lts.exec (Startup.step config) ⟨db, .importing draw .providers _⟩ _ = _
  rw [hsplit (run_stage ha),
    hsplit (u := ⟨a, .importing draw .pricing (ImportStage.calls config draw a .pricing)⟩) rfl,
    hsplit (run_stage hb),
    hsplit (u := ⟨b, .importing draw .models (ImportStage.calls config draw b .models)⟩) rfl,
    hsplit (run_stage hd)]
  rfl

/-! ## Steps -/

/-- What a step of the process can do. -/
inductive StartupKind (config : GatewayConfig) : Startup → StartupStep → Startup → Prop
  | boot (db : CatalogDb) (draw : BootDraw) :
      StartupKind config ⟨db, .down⟩ (.boot draw)
        ⟨db, .importing draw .providers (ImportStage.calls config draw db .providers)⟩
  | call {db db' : CatalogDb} {draw : BootDraw} {stage : ImportStage} {call : ImportCall}
      {left : List ImportCall} : call.exec db = .ok db' →
      StartupKind config ⟨db, .importing draw stage (call :: left)⟩ .next
        ⟨db', .importing draw stage left⟩
  | fail (db : CatalogDb) (draw : BootDraw) (stage : ImportStage) (call : ImportCall)
      (left : List ImportCall) (e : StoreError) : call.exec db = .error e →
      StartupKind config ⟨db, .importing draw stage (call :: left)⟩ .next ⟨db, .down⟩
  | advance (db : CatalogDb) (draw : BootDraw) {stage stage' : ImportStage} :
      stage'.earlier = stage.earlier ++ [stage] →
      StartupKind config ⟨db, .importing draw stage []⟩ .next
        ⟨db, .importing draw stage' (stage'.calls config draw db)⟩
  | finish (db : CatalogDb) (draw : BootDraw) :
      StartupKind config ⟨db, .importing draw .models []⟩ .next ⟨db, .up⟩
  | stop (db : CatalogDb) {place : BootPlace} : place ≠ .down →
      StartupKind config ⟨db, place⟩ .stop ⟨db, .down⟩

theorem Startup.step_kind {u w : Startup} {l : StartupStep} (h : u.step config l = some w) :
    StartupKind config u l w := by
  obtain ⟨db, place⟩ := u
  cases l with
  | boot draw =>
    cases place <;> cases h
    exact .boot db draw
  | next =>
    cases place with
    | down => cases h
    | up => cases h
    | importing draw stage left =>
      cases left with
      | nil => cases stage <;> cases h <;> first | exact .finish .. | exact .advance _ _ rfl
      | cons call left =>
        simp only [Startup.step] at h
        split at h <;> cases h
        · rename_i hexec
          exact .call hexec
        · rename_i e hexec
          exact .fail _ _ _ _ _ e hexec
  | stop => cases place <;> cases h <;> exact .stop _ nofun

/-! ## The invariant -/

/-- What holds while no boot has stopped within a stage. -/
def Startup.Good (full : CatalogDb) (s : Startup) : Prop :=
  s.db.collation = full.collation ∧
    match s.place with
    | .down | .up => Clean full s.db
    | .importing _ stage left =>
      (∀ other, other ≠ stage → other.Empty s.db ∨ other.Agrees s.db full) ∧
        (∀ other ∈ stage.earlier, other.Agrees s.db full) ∧
        (∀ call ∈ left, call.stage = stage) ∧ Fills full stage s.db left

/-- A table that is neither empty nor complete, and not being filled. -/
def Startup.Ruined (full : CatalogDb) (s : Startup) : Prop :=
  ∃ stage : ImportStage, ¬ stage.Empty s.db ∧ ¬ stage.Agrees s.db full ∧
    match s.place with
    | .down | .up => True
    | .importing _ stage' left =>
      (∀ call ∈ left, call.stage = stage') ∧ (stage' = stage → left = [])

namespace Startup

variable {full : CatalogDb}

/-- A stage that begins with clean tables. -/
theorem Good.begin (hfull : IsImport config full) {db : CatalogDb} (draw : BootDraw)
    {stage : ImportStage} (hcol : db.collation = full.collation) (hclean : Clean full db)
    (hearlier : ∀ other ∈ stage.earlier, other.Agrees db full) :
    Good full ⟨db, .importing draw stage (stage.calls config draw db)⟩ := by
  refine ⟨hcol, fun other _ => hclean other, hearlier,
    fun _ => ImportStage.stage_of_mem_calls, ?_⟩
  by_cases hempty : stage.Empty db
  · exact hfull.fills draw hcol hempty hearlier
  · rw [ImportStage.calls_of_not_empty hempty]
    exact .done ((hclean stage).resolve_left hempty)

/-- Between two stages the tables are clean. -/
theorem Good.clean {draw : BootDraw} {stage : ImportStage} {left : List ImportCall}
    {db : CatalogDb} (h : Good full ⟨db, .importing draw stage left⟩)
    (hwhole : stage.Empty db ∨ left = []) : Clean full db := by
  obtain ⟨-, hother, -, -, hfills⟩ := h
  intro other
  by_cases ho : other = stage
  · subst ho
    rcases hwhole with hempty | rfl
    · exact .inl hempty
    · cases hfills with
      | done h => exact .inr h
  · exact hother other ho

theorem Good.step (hfull : IsImport config full) {u w : Startup} {l : StartupStep}
    (hu : u.Good full) (hwhole : u.Whole l) (hs : Startup.step config u l = some w) :
    w.Good full := by
  cases step_kind hs with
  | boot db draw => exact .begin hfull draw hu.1 hu.2 (by simp [ImportStage.earlier])
  | @call db db' draw stage call left hexec =>
    obtain ⟨hcol, hother, hearlier, hcalls, hfills⟩ := hu
    cases hfills with
    | call hexec' hgrow hrest =>
      rw [hexec] at hexec'
      cases hexec'
      obtain ⟨hcol', hframe⟩ := ImportCall.exec_frame hexec
      rw [hcalls call List.mem_cons_self] at hframe
      refine ⟨hcol'.trans hcol,
        fun other ho => (hframe other ho).agrees.clean (hother other ho), fun other ho => ?_,
        fun c hc => hcalls c (List.mem_cons_of_mem _ hc), hrest⟩
      have hne : other ≠ stage := by
        rintro rfl
        cases other <;> simp [ImportStage.earlier] at ho
      exact (hframe other hne).agrees.trans (hearlier other ho)
  | fail db draw stage call left e hexec =>
    -- the calls that are left succeed
    obtain ⟨-, -, -, -, hfills⟩ := hu
    cases hfills with
    | call hexec' _ _ =>
      rw [hexec] at hexec'
      cases hexec'
  | @advance db draw stage stage' hnext =>
    have hclean := Good.clean hu (.inr rfl)
    obtain ⟨hcol, -, hearlier, -, hfills⟩ := hu
    cases hfills with
    | done hagree =>
      refine .begin hfull draw hcol hclean ?_
      rw [hnext]
      exact List.forall_mem_append.2 ⟨hearlier, List.forall_mem_singleton.2 hagree⟩
  | finish db draw => exact ⟨hu.1, Good.clean hu (.inr rfl)⟩
  | @stop db place hrunning =>
    cases place with
    | down => exact absurd rfl hrunning
    | up => exact hu
    | importing draw stage left =>
      refine ⟨hu.1, Good.clean hu ?_⟩
      by_contra hn
      rw [not_or] at hn
      exact hwhole ⟨hn.2, hn.1⟩

/-- A stop within a stage leaves a table that is neither empty nor complete. -/
theorem Good.torn {u w : Startup} {l : StartupStep} (hu : u.Good full) (hwhole : ¬ u.Whole l)
    (hs : Startup.step config u l = some w) : w.Ruined full := by
  cases step_kind hs with
  | @stop db place _ =>
    have htorn := not_not.1 hwhole
    cases place with
    | down => exact htorn.elim
    | up => exact htorn.elim
    | importing draw stage left =>
      obtain ⟨-, -, -, -, hfills⟩ := hu
      exact ⟨stage, htorn.2, hfills.not_agrees htorn.1, trivial⟩
  | _ => exact absurd trivial hwhole

/-- No boot touches such a table again. -/
theorem Ruined.step {u w : Startup} {l : StartupStep} (hu : u.Ruined full)
    (hs : Startup.step config u l = some w) : w.Ruined full := by
  obtain ⟨stage, hne, hna, hplace⟩ := hu
  have hbegin : ∀ {db : CatalogDb} (draw : BootDraw) (stage' : ImportStage),
      ¬ stage.Empty db → ¬ stage.Agrees db full →
        Ruined full ⟨db, .importing draw stage' (stage'.calls config draw db)⟩ := by
    intro db draw stage' hne hna
    refine ⟨stage, hne, hna, fun _ => ImportStage.stage_of_mem_calls, ?_⟩
    rintro rfl
    exact ImportStage.calls_of_not_empty hne
  cases step_kind hs with
  | boot db draw => exact hbegin draw _ hne hna
  | @call db db' draw stage' call left hexec =>
    obtain ⟨hmem, hleft⟩ := hplace
    have hstage : stage ≠ call.stage := fun heq =>
      absurd (hleft ((hmem call List.mem_cons_self).symm.trans heq.symm)) (List.cons_ne_nil _ _)
    have hframe := ((ImportCall.exec_frame hexec).2 stage hstage).agrees
    refine ⟨stage, fun he => hne (hframe.empty.1 he), fun ha => hna (hframe.symm.trans ha),
      fun c hc => hmem c (List.mem_cons_of_mem _ hc), fun heq => ?_⟩
    exact absurd (hleft heq) (List.cons_ne_nil _ _)
  | fail db draw stage' call left e hexec => exact ⟨stage, hne, hna, trivial⟩
  | advance db draw hnext => exact hbegin draw _ hne hna
  | finish db draw => exact ⟨stage, hne, hna, trivial⟩
  | stop db _ => exact ⟨stage, hne, hna, trivial⟩

end Startup

/-! ## Recovery -/

/-- **When an interrupted import is completed.** For every file and every history of boots from
empty tables, each of them stopped anywhere: the next boot ends with the tables that an
uninterrupted first boot gives exactly when the file can be imported at all and no boot stopped
within a stage. -/
theorem import_recovers {collation : String → String → Bool} {tr : List StartupStep} {s : Startup}
    (h : Lts.Steps (Startup.step config) (.init collation) tr s) (hdown : s.place = .down)
    (draw draw' : BootDraw) :
    (∃ full later, (CatalogDb.empty collation).importOnce config draw.newId draw.now = .ok full ∧
        s.db.importOnce config draw'.newId draw'.now = .ok later ∧ later.Same full) ↔
      config.Importable ∧ Lts.Run (Startup.step config) Startup.Whole (.init collation) tr s := by
  have hempty : ∀ full, Clean full (.empty collation) := by
    rintro full (_ | _ | _) <;> exact .inl rfl
  have hcases : ∀ {full : CatalogDb}, IsImport config full → full.collation = collation →
      (Lts.Run (Startup.step config) Startup.Whole (.init collation) tr s ∧ s.Good full) ∨
        (¬ Lts.Run (Startup.step config) Startup.Whole (.init collation) tr s ∧ s.Ruined full) :=
    fun hfull hcol => h.inv_or_broken ⟨hcol.symm, hempty _⟩ (fun _ _ _ => Startup.Good.step hfull)
      (fun _ _ _ => Startup.Good.torn) fun _ _ _ => Startup.Ruined.step
  constructor
  · rintro ⟨full, later, hfirst, hlater, hsame⟩
    have himportable : config.Importable := (importable_iff draw).2 ⟨full, hfirst⟩
    obtain ⟨target, htarget, hcol⟩ := exists_isImport himportable collation
    obtain ⟨full', hfirst', hfull⟩ := htarget.importOnce_clean hcol.symm (hempty _) draw
    cases hfirst.symm.trans hfirst'
    refine ⟨himportable, ?_⟩
    rcases hcases htarget hcol with ⟨hrun, -⟩ | ⟨-, stage, hne, hna, -⟩
    · exact hrun
    · -- the ruined table is still there after the later boot
      have hkept := importOnce_keeps hlater hne
      have hagree := (CatalogDb.same_iff.1 hsame stage).trans (CatalogDb.same_iff.1 hfull stage)
      exact absurd (hkept.agrees.symm.trans hagree) hna
  · rintro ⟨himportable, hrun⟩
    obtain ⟨target, htarget, hcol⟩ := exists_isImport himportable collation
    obtain ⟨full, hfirst, hfull⟩ := htarget.importOnce_clean hcol.symm (hempty _) draw
    rcases hcases htarget hcol with ⟨-, hgood⟩ | ⟨hn, -⟩
    · obtain ⟨hcol', hclean⟩ := hgood
      rw [hdown] at hclean
      obtain ⟨later, hlater, hsame⟩ := htarget.importOnce_clean hcol' hclean draw'
      refine ⟨full, later, hfirst, hlater, CatalogDb.same_iff.2 fun stage => ?_⟩
      exact (CatalogDb.same_iff.1 hsame stage).trans (CatalogDb.same_iff.1 hfull stage).symm
    · exact absurd hrun hn

/-- A file with two providers and a rule. -/
def twoProviders : GatewayConfig where
  providers := [{ id := "p", protocol := .openAi, baseUrl := "https://p", apiKey := "k" },
    { id := "q", protocol := .anthropic, baseUrl := "https://q", apiKey := "k" }]
  pricing := [{ provider := "*", model := "*", inputPer1m := .ofUInt8 1, outputPer1m := .ofUInt8 2,
                currency := "USD" }]

def countingDraw : BootDraw := ⟨fun n => n, 0, Function.injective_id⟩

/-- The boot stops when the providers are in and the rule is not: the next boot completes the
import. -/
theorem import_recovers_sample :
    ∃ s, Lts.Steps (Startup.step twoProviders) (.init fun a b => a ≤ b)
        [.boot countingDraw, .next, .next, .next, .stop] s ∧
      ∃ full later, (CatalogDb.empty fun a b => a ≤ b).importOnce twoProviders countingDraw.newId
          countingDraw.now = .ok full ∧
        s.db.importOnce twoProviders countingDraw.newId countingDraw.now = .ok later ∧
        later.Same full := by
  have himportable : twoProviders.Importable :=
    ⟨by decide, by decide, by decide, by decide, by decide +kernel⟩
  obtain ⟨s, hexec, hdown⟩ : ∃ s, Lts.exec (Lts.guarded (Startup.step twoProviders) Startup.Whole)
      (.init fun a b => a ≤ b) [.boot countingDraw, .next, .next, .next, .stop] = some s ∧
        s.place = .down := ⟨_, rfl, rfl⟩
  have hrun := Lts.run_of_guarded hexec
  have hsteps := hrun.mono fun _ _ _ => trivial
  exact ⟨s, hsteps, (import_recovers hsteps hdown countingDraw countingDraw).2 ⟨himportable, hrun⟩⟩

/-- **A partial import stays.** The boot stops after the first of two providers: the next boot finds
a provider, imports no other, and completes without the second one. -/
theorem partial_import_stays :
    ∃ s full later, Lts.Steps (Startup.step twoProviders) (.init fun a b => a ≤ b)
        [.boot countingDraw, .next, .stop] s ∧ s.place = .down ∧
      (CatalogDb.empty fun a b => a ≤ b).importOnce twoProviders countingDraw.newId
        countingDraw.now = .ok full ∧
      s.db.importOnce twoProviders countingDraw.newId countingDraw.now = .ok later ∧
      full.providers.map ProviderConfig.id = ["p", "q"] ∧
      later.providers.map ProviderConfig.id = ["p"] ∧ ¬ later.Same full := by
  refine ⟨_, _, _, Lts.steps_of_exec rfl, rfl, rfl, rfl, rfl, rfl, fun h => ?_⟩
  exact absurd (congrArg (List.map ProviderConfig.id) h.providers) (by decide)

end LiteAgentify
