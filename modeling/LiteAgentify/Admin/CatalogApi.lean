import LiteAgentify.Admin
import LiteAgentify.Catalog.Store
import LiteAgentify.Reload

/-!
# Provider and pricing management

`src/admin/catalog_api.rs`. A handler checks the request, then writes; it returns the database and
either the rejection or the status of the success (`Outcome`). The snapshot refresh that every
success ends with is `AdminState.refreshAndRespond`.
-/

set_option autoImplicit false

namespace LiteAgentify

/-- How most handlers answer a failed store call: a conflict is reported, anything else is hidden
behind the message. -/
def StoreError.rejection (message : String) : StoreError → Rejection
  | .conflict text => .conflict text
  | .failed => .internal message

namespace Admin

/-- The database a handler leaves, with its rejection or its success status. -/
abbrev Outcome := CatalogDb × Except Rejection Nat

/-- What a handler answers when a store call returns whether it found a row. -/
def ofFound (db : CatalogDb) (status : Nat) (missing : String)
    (failed : StoreError → Rejection) : Except StoreError (CatalogDb × Bool) → Outcome
  | .ok (db', true) => (db', .ok status)
  | .ok (db', false) => (db', .error (.notFound missing))
  | .error e => (db, .error (failed e))

/-! ## Providers -/

/-- A submitted secret with this prefix keeps the current one. -/
def maskPrefix : String := "__MASKED__"

structure ProviderBody where
  protocol : String
  baseUrl : String
  apiKey : String
  anthropicVersion : Option String := none
  modelAliases : List (String × String) := []
  deriving DecidableEq

structure CreateProviderBody where
  id : String
  fields : ProviderBody
  deriving DecidableEq

def parseProtocol (value : String) : Option Protocol :=
  if value = "openai" ∨ value = "open-ai" then some .openAi
  else if value = "anthropic" then some .anthropic
  else none

def buildProvider (id : String) (body : ProviderBody) (currentKey : Option String) :
    Except Rejection ProviderConfig :=
  match parseProtocol body.protocol with
  | none => .error (.badRequest "protocol must be 'openai' or 'anthropic'")
  | some protocol =>
    if Text.trim body.baseUrl = "" then .error (.badRequest "base_url cannot be empty")
    else
      match if Text.startsWith body.apiKey maskPrefix then currentKey else some body.apiKey with
      | none => .error (.badRequest "api_key is required")
      | some apiKey =>
        if Text.trim apiKey = "" then .error (.badRequest "api_key cannot be empty")
        else .ok
          { id := id
            protocol := protocol
            baseUrl := body.baseUrl
            apiKey := apiKey
            anthropicVersion := body.anthropicVersion
            modelAliases := body.modelAliases }

def createProvider (db : CatalogDb) (body : CreateProviderBody) : Outcome :=
  let id := Text.trim body.id
  if id = "" then (db, .error (.badRequest "provider id cannot be empty"))
  else
    match buildProvider id body.fields none with
    | .error rejection => (db, .error rejection)
    | .ok provider =>
      match db.upsertProvider provider true with
      | .ok db' => (db', .ok 201)
      | .error e => (db, .error (e.rejection "failed to create provider"))

def updateProvider (db : CatalogDb) (id : String) (fields : ProviderBody) : Outcome :=
  match db.getProvider id with
  | none => (db, .error (.notFound "provider not found"))
  | some current =>
    match buildProvider id fields (some current.apiKey) with
    | .error rejection => (db, .error rejection)
    | .ok provider =>
      match db.upsertProvider provider false with
      | .ok db' => (db', .ok 200)
      | .error _ => (db, .error (.internal "failed to update provider"))

def deleteProvider (db : CatalogDb) (id : String) : Outcome :=
  match db.providerInUse id with
  | some model => (db, .error (.conflict
      s!"provider '{id}' is still used by model '{model}'; remove that deployment first"))
  | none => ofFound db 200 "provider not found" (fun _ => .internal "failed to delete provider")
      (db.deleteProvider id)

/-! ## Pricing -/

structure PricingBody where
  provider : String
  model : String
  inputPer1m : String
  outputPer1m : String
  cachedInputPer1m : Option String := none
  cacheReadPer1m : Option String := none
  cacheWritePer1m : Option String := none
  currency : String
  pricingSource : Option String := none
  deriving DecidableEq

def parseRate (P : Packages) (name value : String) : Except Rejection Decimal :=
  match P.decimalFromStr value with
  | none => .error (.badRequest s!"{name} must be a decimal number")
  | some decimal =>
    if decimal.isSignNegative then .error (.badRequest s!"{name} cannot be negative")
    else .ok decimal

def parseOptionalRate (P : Packages) (name : String) (value : Option String) :
    Except Rejection (Option Decimal) :=
  match value with
  | none => .ok none
  | some value =>
    if Text.trim value = "" then .ok none else (parseRate P name value).map some

def buildPricing (P : Packages) (body : PricingBody) : Except Rejection PricingConfig :=
  if Text.trim body.provider = "" then .error (.badRequest "provider cannot be empty")
  else if Text.trim body.model = "" then .error (.badRequest "model cannot be empty")
  else
    let currency := Text.trim body.currency
    if currency.utf8ByteSize ≠ 3 ∨ ¬ currency.toList.all Text.isAsciiUppercase then
      .error (.badRequest "currency must be a three-letter uppercase ISO code")
    else do
      let inputPer1m ← parseRate P "input_per_1m" body.inputPer1m
      let outputPer1m ← parseRate P "output_per_1m" body.outputPer1m
      let cachedInputPer1m ← parseOptionalRate P "cached_input_per_1m" body.cachedInputPer1m
      let cacheReadPer1m ← parseOptionalRate P "cache_read_per_1m" body.cacheReadPer1m
      let cacheWritePer1m ← parseOptionalRate P "cache_write_per_1m" body.cacheWritePer1m
      return {
        provider := body.provider
        model := body.model
        inputPer1m := inputPer1m
        outputPer1m := outputPer1m
        cachedInputPer1m := cachedInputPer1m
        cacheReadPer1m := cacheReadPer1m
        cacheWritePer1m := cacheWritePer1m
        currency := currency
        pricingSource := body.pricingSource }

/-- Checks a simulated rule list: the first enabled model with a deployment that it leaves
uncovered. Disabled models are drafts. -/
def ensurePricingGate (db : CatalogDb) (mutate : List PricingRecord → List PricingRecord) :
    Except Rejection Unit :=
  let candidate := (mutate db.listPricing).map PricingRecord.config
  let uncovered := (db.listModels.filter (·.enabled)).findSome? fun model =>
    (uncoveredDeployments model candidate).head?.map fun deployment => (model.name, deployment)
  match uncovered with
  | some (name, deployment) => .error (.conflict
      s!"this pricing change would leave enabled model '{name}' without coverage for deployment '{deployment.providerId}:{deployment.upstreamModel}'; disable the model or add a replacement rule first")
  | none => .ok ()

/-- `newId` is the drawn id of the new rule. -/
def createPricing (P : Packages) (db : CatalogDb) (body : PricingBody) (newId : Uuid) : Outcome :=
  match buildPricing P body with
  | .error rejection => (db, .error rejection)
  | .ok config =>
    match db.createPricing newId config with
    | .ok db' => (db', .ok 201)
    | .error e => (db, .error (e.rejection "failed to create pricing"))

def updatePricing (P : Packages) (db : CatalogDb) (id : Uuid) (body : PricingBody) : Outcome :=
  match buildPricing P body with
  | .error rejection => (db, .error rejection)
  | .ok config =>
    match ensurePricingGate db fun rules =>
        rules.filter (·.id ≠ id) ++ [{ id := id, config := config }] with
    | .error rejection => (db, .error rejection)
    | .ok () => ofFound db 200 "pricing rule not found"
        (StoreError.rejection "failed to update pricing") (db.updatePricing id config)

def deletePricing (db : CatalogDb) (id : Uuid) : Outcome :=
  match ensurePricingGate db fun rules => rules.filter (·.id ≠ id) with
  | .error rejection => (db, .error rejection)
  | .ok () => ofFound db 200 "pricing rule not found"
      (fun _ => .internal "failed to delete pricing") (db.deletePricing id)

end Admin

end LiteAgentify
