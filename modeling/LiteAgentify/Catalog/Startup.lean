import LiteAgentify.Catalog.Import
import LiteAgentify.Lib.Run

/-!
# Boots that stop during the import

The imports of `src/catalog/import.rs` as the store calls they are made of. Every call commits by
itself; a boot stops when a call fails or the process dies, and the next boot starts from the tables
that are left (`Startup.step`). A boot that nothing stops runs `importOnce`. The alias map of a
provider gives its entries in one order to all boots; in another order a migration that is completed
makes the same models.
-/

set_option autoImplicit false

namespace LiteAgentify

/-! ## The store calls of an import -/

/-- The three loops of the import, in order. -/
inductive ImportStage
  | providers
  | pricing
  | models
  deriving DecidableEq

/-- A store call of the import that writes. -/
inductive ImportCall
  | upsertProvider (provider : ProviderConfig)
  | createPricing (id : Uuid) (entry : PricingConfig)
  | createModel (name : String) (now : DateTime)
  | setDeployments (name : String) (chain : List (String × String))
  | enableModel (name : String)
  deriving DecidableEq

def ImportCall.exec (db : CatalogDb) : ImportCall → Except StoreError CatalogDb
  | .upsertProvider provider => db.upsertProvider provider true
  | .createPricing id entry => db.createPricing id entry
  | .createModel name now => db.createModel name now
  | .setDeployments name chain => (db.setDeployments name chain).map Prod.fst
  | .enableModel name => (db.setModelStatus name true).map Prod.fst

/-- What a boot draws: the ids of pricing rows, no two alike, and the time. -/
structure BootDraw where
  newId : Nat → Uuid
  now : DateTime
  fresh : Function.Injective newId

/-- The rules cover the chain. -/
def chainCovered (pricing : List PricingConfig) (entry : NamedChain) : Bool :=
  (uncoveredDeployments ⟨entry.1, false, 0, deploymentsOf entry.2⟩ pricing).isEmpty

/-- The calls that migrate one model. -/
def migrateCalls (pricing : List PricingConfig) (now : DateTime) (entry : NamedChain) :
    List ImportCall :=
  .createModel entry.1 now :: .setDeployments entry.1 entry.2 ::
    if chainCovered pricing entry then [.enableModel entry.1] else []

namespace ImportStage

/-- The table that decides whether the stage runs is empty. -/
def Empty (db : CatalogDb) : ImportStage → Prop
  | .providers => db.providers = []
  | .pricing => db.pricing = []
  | .models => db.models = []

instance (db : CatalogDb) (stage : ImportStage) : Decidable (stage.Empty db) :=
  match stage with
  | .providers => inferInstanceAs (Decidable (_ = _))
  | .pricing => inferInstanceAs (Decidable (_ = _))
  | .models => inferInstanceAs (Decidable (_ = _))

/-- The calls of a stage that begins with these tables. -/
def calls (config : GatewayConfig) (draw : BootDraw) (db : CatalogDb) :
    ImportStage → List ImportCall
  | .providers =>
    if db.providerCount = 0 then config.providers.map .upsertProvider else []
  | .pricing =>
    if db.pricingCount = 0 then
      config.pricing.zipIdx.map fun (entry, n) => .createPricing (draw.newId n) entry
    else []
  | .models =>
    if db.modelCount > 0 then []
    else (deriveChains db config.routes).flatMap
      (migrateCalls (db.listPricing.map PricingRecord.config) draw.now)

def next : ImportStage → Option ImportStage
  | .providers => some .pricing
  | .pricing => some .models
  | .models => none

end ImportStage

/-! ## Boots -/

/-- Where the gateway process is. -/
inductive BootPlace
  /-- It is not running. -/
  | down
  /-- A boot is at this stage and has these calls left to make. -/
  | importing (draw : BootDraw) (stage : ImportStage) (left : List ImportCall)
  /-- The imports are done. -/
  | up

/-- The catalog database and the process that boots on it. -/
structure Startup where
  db : CatalogDb
  place : BootPlace

inductive StartupStep
  /-- A boot begins. -/
  | boot (draw : BootDraw)
  /-- It makes its next call; a conflict, or a value that the database rejects, ends it. -/
  | next
  /-- The process dies, or a call fails without effect. -/
  | stop

namespace Startup

def step (config : GatewayConfig) (s : Startup) : StartupStep → Option Startup
  | .boot draw =>
    match s.place with
    | .down => some { s with
        place := .importing draw .providers (ImportStage.calls config draw s.db .providers) }
    | _ => none
  | .next =>
    match s.place with
    | .importing draw stage (call :: left) =>
      match call.exec s.db with
      | .ok db => some { db := db, place := .importing draw stage left }
      | .error _ => some { s with place := .down }
    | .importing draw stage [] =>
      match stage.next with
      | some stage' => some { s with
          place := .importing draw stage' (stage'.calls config draw s.db) }
      | none => some { s with place := .up }
    | _ => none
  | .stop =>
    match s.place with
    | .down => none
    | _ => some { s with place := .down }

/-- The migrated database before the first boot. -/
def init (collation : String → String → Bool) : Startup where
  db := .empty collation
  place := .down

/-- The boot has filled the table of its stage in part. -/
def Torn (s : Startup) : Prop :=
  match s.place with
  | .importing _ stage left => left ≠ [] ∧ ¬ stage.Empty s.db
  | _ => False

instance (s : Startup) : Decidable s.Torn :=
  match s with
  | ⟨_, .importing _ _ _⟩ => inferInstanceAs (Decidable (_ ∧ _))
  | ⟨_, .down⟩ => inferInstanceAs (Decidable False)
  | ⟨_, .up⟩ => inferInstanceAs (Decidable False)

/-- A step that does not stop a boot in the middle of a stage. -/
def Whole (s : Startup) (l : StartupStep) : Prop :=
  match l with
  | .stop => ¬ s.Torn
  | _ => True

instance (s : Startup) (l : StartupStep) : Decidable (s.Whole l) :=
  match l with
  | .stop => inferInstanceAs (Decidable (¬ _))
  | .boot _ => inferInstanceAs (Decidable True)
  | .next => inferInstanceAs (Decidable True)

end Startup

/-! ## What an import leaves -/

/-- The name and the status of a model row. -/
def ModelRow.shown (row : ModelRow) : String × Bool := (row.name, row.enabled)

/-- The rows are the same, but for the drawn ids and the times. -/
structure CatalogDb.Same (db db' : CatalogDb) : Prop where
  providers : db.providers = db'.providers
  pricing : db.pricing.map PricingRecord.config = db'.pricing.map PricingRecord.config
  models : db.models.map ModelRow.shown = db'.models.map ModelRow.shown
  deployments : db.deployments = db'.deployments

/-- A file that the import can store: no provider or rule comes twice, and the columns hold every
text and every rate. -/
structure GatewayConfig.Importable (config : GatewayConfig) : Prop where
  providerIds : (config.providers.map ProviderConfig.id).Nodup
  providerTexts : ∀ provider ∈ config.providers, ∀ text ∈ provider.texts, isText text
  pricingPairs : (config.pricing.map fun entry => (entry.provider, entry.model)).Nodup
  pricingTexts : ∀ entry ∈ config.pricing, ∀ text ∈ entry.texts, isText text
  rates : ∀ entry ∈ config.pricing, entry.stored.isSome

end LiteAgentify
