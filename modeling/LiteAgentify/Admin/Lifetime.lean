import LiteAgentify.Admin.ModelsApi
import LiteAgentify.Catalog.Startup

/-!
# The catalog over restarts

The catalog database over the life of a gateway: its process boots on the configuration file and
stops (`Startup.step`), and between a boot and a stop it answers management calls.
-/

set_option autoImplicit false

namespace LiteAgentify

inductive LifeStep
  /-- A step of the gateway process. -/
  | process (l : StartupStep)
  /-- A management call, run to its end. -/
  | call (call : CatalogCall)

/-- What a management call leaves in the database; its refresh does not write. -/
def CatalogCall.write (P : Packages) (db : CatalogDb) (call : CatalogCall) : CatalogDb :=
  match requireAdmin call.identity with
  | .error _ => db
  | .ok () => (call.request.run P db).1

def Startup.live (P : Packages) (config : GatewayConfig) (s : Startup) : LifeStep → Option Startup
  | .process l => s.step config l
  | .call call =>
    match s.place with
    | .up => some { s with db := call.write P s.db }
    | _ => none

/-- The call is the whole handler, as far as the database goes. -/
theorem CatalogCall.write_handle (P : Packages) (file : Except String GatewayConfig)
    (s : AdminState) (call : CatalogCall) : (s.handle P file call).1.db = call.write P s.db := by
  unfold AdminState.handle CatalogCall.write
  cases requireAdmin call.identity with
  | error rejection => rfl
  | ok admin =>
    dsimp only
    split
    · rename_i db rejection hrun
      rw [hrun]
    · rename_i db status hrun
      rw [hrun]
      unfold AdminState.refreshAndRespond
      split <;> rfl

/-! ## Rows -/

/-- A row of one of the tables that the import can fill, by its key. -/
inductive CatalogRow
  | provider (id : String)
  | rule (id : Uuid)
  | model (name : String)
  deriving DecidableEq

def CatalogRow.stage : CatalogRow → ImportStage
  | .provider _ => .providers
  | .rule _ => .pricing
  | .model _ => .models

/-- The row is stored. -/
def CatalogDb.Has (db : CatalogDb) : CatalogRow → Prop
  | .provider id => id ∈ db.providers.map ProviderConfig.id
  | .rule id => id ∈ db.pricing.map PricingRecord.id
  | .model name => name ∈ db.models.map ModelRow.name

/-- The row that a request asks for. -/
def CatalogRequest.creates : CatalogRequest → Option CatalogRow
  | .createProvider body => some (.provider (Text.trim body.id))
  | .createPricing _ newId => some (.rule newId)
  | .createModel body _ => some (.model (Text.trim body.name))
  | _ => none

end LiteAgentify
