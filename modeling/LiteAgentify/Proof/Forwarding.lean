import LiteAgentify.Lib.Assoc
import LiteAgentify.Proof.Failover

/-!
# The body that is sent upstream

A JSON text may repeat a member; parsing keeps the last one. A body that is rewritten is serialised
from the parsed value, so its `model` is the deployment's and its other members are the client's.
A body that passes through has every `model` that the client wrote, so it names the deployment's
model alone only if all of them do (`sent_body_names_model`).
-/

set_option autoImplicit false

namespace LiteAgentify

/-- The members that a text has at its top level, when it is an object, in their order. -/
abbrev TopLevel := Bytes → Option (List (String × Json))

/-- What is relied on of `serde_json`, for the members that its functions read and write. -/
structure SerdeMembers (P : Packages) (members : TopLevel) : Prop where
  /-- A parsed object has each name once, with the value of its last occurrence in the text. -/
  parsed : ∀ body own, P.jsonFromSlice body = some (.object own) →
    (own.map Prod.fst).Nodup ∧
      ∃ text, members body = some text ∧ ∀ name, own.lookup name = Assoc.last text name
  /-- A parsed object whose `model` is set to a string is written with its members, once each. -/
  written : ∀ body own value set, P.jsonFromSlice body = some (.object own) →
    (Json.object own).insert "model" (.string value) = .object set →
    members (P.jsonToVec (.object set)) = some set

/-- `sent` is the text of an object whose every `model` is the upstream's name, and whose other
members have the values of the client's body; the last of repeated members counts. -/
def OnlyModelChanged (members : TopLevel) (client sent : Bytes) (upstreamModel : String) : Prop :=
  ∃ own text, members client = some own ∧ members sent = some text ∧
    Assoc.last text "model" = some (.string upstreamModel) ∧
    (∀ value, ("model", value) ∈ text → value = .string upstreamModel) ∧
    ∀ name, name ≠ "model" → Assoc.last text name = Assoc.last own name

/-- Every `model` that the text has at its top level is this one. -/
def NamesOnly (members : TopLevel) (body : Bytes) (model : String) : Prop :=
  ∀ text, members body = some text → ∀ value, ("model", value) ∈ text → value = .string model

theorem insert_object {own : List (String × Json)} {name : String} {value : Json}
    (h : (own.lookup name).isSome) :
    (Json.object own).insert name value = .object (Assoc.set own name value) := by
  simp only [Json.insert, h, if_true]
  rfl

/-- A payload with a model is an object with that member. -/
theorem parse_object {P : Packages} {body : Bytes} {model : String}
    (h : (RequestPayload.parse P body).model = some model) :
    ∃ own, P.jsonFromSlice body = some (.object own) ∧
      (RequestPayload.parse P body).json = some (.object own) ∧
      own.lookup "model" = some (.string model) := by
  unfold RequestPayload.parse at h ⊢
  split at h
  · cases h
  · rename_i hne
    rw [if_neg hne]
    split at h
    · rename_i value hvalue
      obtain ⟨member, hmember, hstr⟩ := Option.bind_eq_some_iff.1 h
      cases value with
      | object own =>
        refine ⟨own, hvalue, rfl, ?_⟩
        cases member with
        | string s =>
          cases hstr
          exact hmember
        | _ => cases hstr
      | _ => cases hmember
    · cases h

section
variable {P : Packages} {members : TopLevel} {body : Bytes} {model upstreamModel : String}
  {providerBody : ProviderBody}

/-- The rewritten body. -/
theorem rewritten_onlyModelChanged (hserde : SerdeMembers P members)
    (hmodel : (RequestPayload.parse P body).model = some model) (hne : model ≠ upstreamModel)
    (h : bodyForDeployment P body (RequestPayload.parse P body) upstreamModel = .ok providerBody) :
    OnlyModelChanged members body providerBody.body upstreamModel := by
  obtain ⟨own, hparse, hjson, hlookup⟩ := parse_object hmodel
  obtain ⟨hnodup, text, htext, hlast⟩ := hserde.parsed body own hparse
  have hinsert : (Json.object own).insert "model" (.string upstreamModel) =
      .object (Assoc.set own "model" (.string upstreamModel)) := by
    refine insert_object ?_
    rw [hlookup]
    rfl
  have hbody : providerBody.body =
      P.jsonToVec (.object (Assoc.set own "model" (.string upstreamModel))) := by
    rw [bodyForDeployment, hmodel, if_neg (by simpa using hne), hjson] at h
    cases h
    rw [hinsert]
  refine ⟨text, Assoc.set own "model" (.string upstreamModel), htext, ?_, ?_,
    fun value hvalue => Assoc.eq_of_mem_set hvalue, fun name hname => ?_⟩
  · rw [hbody]
    exact hserde.written body own upstreamModel _ hparse hinsert
  · rw [Assoc.last_set_self, Assoc.last_of_nodup hnodup, hlookup]
    rfl
  · rw [Assoc.last_set_ne hname, Assoc.last_of_nodup hnodup, hlast]

/-- The body that passes through. -/
theorem passed_onlyModelChanged_iff (hserde : SerdeMembers P members)
    (hmodel : (RequestPayload.parse P body).model = some model) :
    OnlyModelChanged members body body model ↔ NamesOnly members body model := by
  obtain ⟨own, hparse, -, hlookup⟩ := parse_object hmodel
  obtain ⟨-, text, htext, hlast⟩ := hserde.parsed body own hparse
  constructor
  · intro h
    obtain ⟨-, text', -, htext', -, hvalues, -⟩ := h
    intro text'' htext''
    rw [htext'] at htext''
    cases htext''
    exact hvalues
  · intro h
    exact ⟨text, text, htext, htext, (hlast "model").symm.trans hlookup, h text htext,
      fun _ _ => rfl⟩

/-- Only a body that passes through can name another model. -/
theorem bodyForDeployment_onlyModelChanged_iff (hserde : SerdeMembers P members)
    (hmodel : (RequestPayload.parse P body).model = some model)
    (h : bodyForDeployment P body (RequestPayload.parse P body) upstreamModel = .ok providerBody) :
    OnlyModelChanged members body providerBody.body upstreamModel ↔
      (model = upstreamModel → NamesOnly members body model) := by
  by_cases hsame : model = upstreamModel
  · subst hsame
    have hbody : providerBody.body = body := by
      rw [bodyForDeployment, if_pos hmodel] at h
      cases h
      rfl
    rw [hbody, passed_onlyModelChanged_iff hserde hmodel]
    exact ⟨fun h _ => h, fun h => h rfl⟩
  · exact iff_of_true (rewritten_onlyModelChanged hserde hmodel hsame h) fun heq => absurd heq hsame

end

/-- **The model that is sent upstream.** The sends of an admitted request are those of the blocks of
its chain, whatever the upstreams answer, and the body for a deployment has the deployment's model
and the client's other members, if and only if the deployment has another name for the model or
every `model` in the client's text is the requested one. -/
theorem sent_body_names_model {P : Packages} {env : Env} {state : GatewayState} {request : Request}
    {members : TopLevel} (hserde : SerdeMembers P members) (hserved : state.Served P)
    (a : Admission P env state request) :
    ∃ blocks forwarded, a.context.Follows P a.chain blocks forwarded ∧
      sends (proxy P env state request).2 = a.context.blockSends P a.chain blocks ∧
      ∀ deployment ∈ a.chain, ∀ sent, a.context.upstreamRequest P deployment = some sent →
        (OnlyModelChanged members a.body sent.body deployment.upstreamModel ↔
          (a.model = deployment.upstreamModel → NamesOnly members a.body a.model)) := by
  obtain ⟨blocks, forwarded, hfollows, -, hsends, -⟩ := proxy_follows a hserved.maxAttempts
  refine ⟨blocks, forwarded, hfollows, hsends, fun deployment _ sent hsent => ?_⟩
  unfold ProxyContext.upstreamRequest at hsent
  split at hsent
  · rename_i providerBody uri headers hbody _ _
    cases hsent
    exact bodyForDeployment_onlyModelChanged_iff hserde a.hasModel hbody
  · cases hsent

/-! ## An example -/

def modelText (name : String) : Bytes := Text.asBytes ("\x7b\"model\":\"" ++ name ++ "\"\x7d")

/-- A text with two models; the last one counts. -/
def twoModelsText : Bytes := Text.asBytes "\x7b\"model\":\"u\",\"model\":\"m\"\x7d"

/-- The packages on the two texts above as bodies; of what they write only the name `u` is JSON. -/
def modelPackages : Packages where
  uriFromStr := samplePackages.uriFromStr
  headerFromStr := samplePackages.headerFromStr
  headerToStr := samplePackages.headerToStr
  jsonFromSlice body :=
    if body = modelText "m" ∨ body = twoModelsText then some (.object [("model", .string "m")])
    else none
  jsonFromStr _ := none
  jsonToVec
    | .object [(_, .string name)] => if name = "u" then modelText "u" else 0 :: Text.asBytes name
    | _ => []
  sha256 := samplePackages.sha256
  decimalFromStr _ := none
  parseRfc2822 _ := none

def modelMembers : TopLevel := fun body =>
  if body = modelText "m" then some [("model", .string "m")]
  else if body = modelText "u" then some [("model", .string "u")]
  else if body = twoModelsText then some [("model", .string "u"), ("model", .string "m")]
  else (Text.fromUtf8 body.tail).map fun name => [("model", .string name)]

theorem modelMembers_twice :
    modelMembers twoModelsText = some [("model", .string "u"), ("model", .string "m")] := by
  rw [modelMembers, if_neg (by decide +kernel), if_neg (by decide +kernel), if_pos rfl]

theorem modelMembers_junk (name : String) :
    modelMembers (0 :: Text.asBytes name) = some [("model", .string name)] := by
  have hne : ∀ text : Bytes, text.head? = some 123 → 0 :: Text.asBytes name ≠ text := by
    intro text htext h
    rw [← h] at htext
    cases htext
  rw [modelMembers, if_neg (hne _ (by decide +kernel)), if_neg (hne _ (by decide +kernel)),
    if_neg (hne _ (by decide +kernel)), List.tail_cons, Text.fromUtf8_asBytes]
  rfl

theorem modelMembers_serde : SerdeMembers modelPackages modelMembers where
  parsed := fun body own h => by
    simp only [modelPackages, Option.ite_none_right_eq_some] at h
    obtain ⟨hbody, hown⟩ := h
    cases hown
    refine ⟨by decide, ?_⟩
    rcases hbody with rfl | rfl
    · exact ⟨_, rfl, fun name => rfl⟩
    · refine ⟨_, modelMembers_twice, fun name => ?_⟩
      by_cases hname : name = "model"
      · subst hname
        rfl
      · simp [Assoc.last, List.lookup_cons, beq_eq_false_iff_ne.2 hname]
  written := fun body own value set h hset => by
    simp only [modelPackages, Option.ite_none_right_eq_some] at h
    obtain ⟨-, hown⟩ := h
    cases hown
    cases hset
    show modelMembers (if value = "u" then modelText "u" else 0 :: Text.asBytes value) = _
    split
    · rename_i hu
      subst hu
      rw [modelMembers, if_neg (by decide +kernel), if_pos rfl]
      rfl
    · exact modelMembers_junk value

/-- The model `m` of the sample catalog, under the name `u` on the second provider. -/
def renamedCatalog : CatalogSnapshot where
  providers := sampleCatalog.providers
  models := [{ name := "m", enabled := true, createdAt := 0, deployments := [⟨"p", "m"⟩, ⟨"q", "u"⟩] }]

def renamedState : GatewayState :=
  (((GatewayState.ofRouting (routingOf renamedCatalog {}) 0 0).withApiKeys
    ((∅ : ApiKeyMap).insert digestOfK ⟨1, 2, none, none⟩)).withGranted
      ((∅ : HashMap Uuid ℚ).insert 1 1)).withSpendCounter (.shared 0)

def modelRequest (body : Bytes) : Request where
  endpoint := sampleRequest.endpoint
  method := "POST"
  query := none
  headers := sampleRequest.headers
  body := .ok body

theorem renamedState_served : renamedState.Served modelPackages :=
  ⟨{}, renamedCatalog, 0, 0, _, rfl, _, _, _, rfl⟩

def modelAdmission (body : Bytes)
    (hbody : (RequestPayload.parse modelPackages body).model = some "m") :
    Admission modelPackages sampleEnv renamedState (modelRequest body) where
  identity := ⟨1, 2, none, none⟩
  body := body
  model := "m"
  chain := [⟨⟨"p", .openAi, "https://a", "s", none⟩, "m"⟩,
    ⟨⟨"q", .openAi, "https://a", "s", none⟩, "u"⟩]
  authorized := by
    show renamedState.authorize modelPackages sampleRequest.headers = some ⟨1, 2, none, none⟩
    decide
  allowed := by decide +kernel
  readable := rfl
  hasModel := hbody
  resolved := by
    show renamedState.resolve .openAi "m" ⟨1, 2, none, none⟩ = _
    decide

/-- The bytes pass through to `p`, and are rewritten for `q`. -/
theorem sent_body_names_model_sample :
    (sends (proxy modelPackages sampleEnv renamedState (modelRequest (modelText "m"))).2).map
        (fun sent => (sent.1.id, sent.2.1.body)) = [("p", modelText "m"), ("q", modelText "u")] ∧
      ∀ deployment ∈ (modelAdmission (modelText "m") (by decide +kernel)).chain, ∀ sent,
        (modelAdmission (modelText "m") (by decide +kernel)).context.upstreamRequest modelPackages
          deployment = some sent →
        OnlyModelChanged modelMembers (modelText "m") sent.body deployment.upstreamModel := by
  refine ⟨by decide +kernel, fun deployment hd sent hsent => ?_⟩
  obtain ⟨-, -, -, -, hiff⟩ := sent_body_names_model modelMembers_serde renamedState_served
    (modelAdmission (modelText "m") (by decide +kernel))
  refine (hiff deployment hd sent hsent).2 fun _ text htext value hvalue => ?_
  cases htext
  have hm : value = .string "m" := by simpa using hvalue
  exact hm

/-- The first of two models is sent to `p`, whose model is the second one. -/
theorem other_model_is_sent :
    (modelAdmission twoModelsText (by decide +kernel)).chain.head?.map (·.upstreamModel) =
        some "m" ∧
      (sends (proxy modelPackages sampleEnv renamedState (modelRequest twoModelsText)).2).map
        (fun sent => (sent.1.id, sent.2.1.body)) = [("p", twoModelsText), ("q", modelText "u")] ∧
      ¬ OnlyModelChanged modelMembers twoModelsText twoModelsText "m" := by
  refine ⟨rfl, by decide +kernel, fun h => ?_⟩
  obtain ⟨-, text, -, htext, -, hvalues, -⟩ := h
  rw [modelMembers_twice] at htext
  cases htext
  have hfirst := hvalues (.string "u") (List.mem_cons_self ..)
  exact absurd (Json.string.inj hfirst) (by decide)

end LiteAgentify
