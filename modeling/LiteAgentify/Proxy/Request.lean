import LiteAgentify.State

/-!
# Requests to an upstream

`src/proxy/headers.rs`, `src/proxy/upstream.rs` and the request side of `src/proxy/router.rs`: the
endpoints the proxy is registered on, the payload that is parsed once, and the request that is built
for a deployment (its URI, headers and rewritten body).
-/

set_option autoImplicit false

namespace LiteAgentify

/-- A path the route table sends to the proxy, with its protocol. -/
structure Endpoint where
  path : String
  protocol : Protocol
  routed : protocolOf path = some protocol

/-- A request to an endpoint; reading its body may fail. -/
structure Request where
  endpoint : Endpoint
  method : String
  query : Option String
  headers : HeaderMap
  body : Except String Bytes

/-! ## The payload -/

structure RequestPayload where
  /-- The parsed value, when the body is nonempty and valid JSON. -/
  json : Option Json
  /-- The top-level string `model`, when present. -/
  model : Option String

def RequestPayload.parse (P : Packages) (body : Bytes) : RequestPayload :=
  if body.isEmpty then ⟨none, none⟩
  else
    match P.jsonFromSlice body with
    | some value => ⟨some value, (value.get "model").bind Json.asStr⟩
    | none => ⟨none, none⟩

structure ProviderBody where
  body : Bytes
  requestedModel : Option String
  upstreamModel : Option String

/-- The body with its top-level `model` rewritten to the deployment's upstream name; the bytes pass
through when the names agree. -/
def bodyForDeployment (P : Packages) (body : Bytes) (payload : RequestPayload)
    (upstreamModel : String) : Except String ProviderBody :=
  if payload.model = some upstreamModel then
    .ok { body := body, requestedModel := payload.model, upstreamModel := some upstreamModel }
  else
    match payload.json with
    | none => .error "request body is not a JSON object"
    | some value => .ok
      { body := P.jsonToVec (value.insert "model" (.string upstreamModel))
        requestedModel := payload.model
        upstreamModel := some upstreamModel }

/-! ## Headers and URI -/

/-- The names of a header map are lower case, so `eq_ignore_ascii_case` is equality. -/
def isRequestHeaderForwardable (name : String) : Bool :=
  name ∈ ["accept", "content-type", "anthropic-beta", "anthropic-dangerous-direct-browser-access",
    "openai-organization", "openai-project", "user-agent", "x-app", "x-claude-code-session-id",
    "x-request-id"] || Text.startsWith name "x-stainless-"

def isResponseHeaderForwardable (name : String) : Bool :=
  name ∉ ["host", "authorization", "connection", "transfer-encoding", "keep-alive",
    "proxy-authenticate", "proxy-authorization", "te", "trailer", "upgrade"]

def headerValue (P : Packages) (value context : String) : Except String Bytes :=
  match P.headerFromStr value with
  | some value => .ok value
  | none => .error context

/-- The allowed inbound headers, the last value of each name, and the provider's credentials. -/
def outboundHeaders (P : Packages) (inbound : HeaderMap) (provider : Provider) :
    Except String HeaderMap := do
  let headers := (inbound.filter fun header => isRequestHeaderForwardable header.1).foldl
    (fun (headers : HeaderMap) header => headers.insert header.1 header.2) []
  let bearer ← headerValue P s!"Bearer {provider.apiKey}" "invalid provider API key header"
  let headers := HeaderMap.insert headers "authorization" bearer
  match provider.protocol with
  | .openAi => return headers
  | .anthropic =>
    let key ← headerValue P provider.apiKey "invalid Anthropic API key header"
    let headers := HeaderMap.insert headers "x-api-key" key
    match provider.anthropicVersion with
    | none => return headers
    | some version =>
      let version ← headerValue P version "invalid Anthropic version header"
      return HeaderMap.insert headers "anthropic-version" version

def upstreamUri (P : Packages) (provider : Provider) (path : String) (query : Option String) :
    Except String Uri :=
  let uri := provider.baseUrl ++ path ++ (query.map ("?" ++ ·)).getD ""
  match P.uriFromStr uri with
  | some uri => .ok uri
  | none => .error "invalid upstream URI"

structure UpstreamRequest where
  method : String
  uri : Uri
  headers : HeaderMap
  body : Bytes

/-! ## Responses -/

/-- A response body: its chunks, and the error its stream ends with, if any. -/
structure UpstreamBody where
  chunks : List Bytes
  error : Option String

structure UpstreamResponse where
  status : Nat
  headers : HeaderMap
  body : UpstreamBody

/-- What a send comes to: a transport error, or a response. -/
abbrev Outcome := Except String UpstreamResponse

/-- `StatusCode::is_server_error`. -/
def isServerError (status : Nat) : Bool := 500 ≤ status ∧ status ≤ 599

def isStreamingResponse (P : Packages) (headers : HeaderMap) : Bool :=
  ((headers.get "content-type").bind P.headerToStr).any fun value =>
    Text.contains (Text.toAsciiLowercase value) "text/event-stream"

/-- A `Retry-After` header in milliseconds: seconds, or a date in the future. -/
def parseRetryAfterMs (P : Packages) (headers : HeaderMap) (now : DateTime) : Option Nat := do
  let value ← headers.get "retry-after"
  let value ← P.headerToStr value
  let value := Text.trim value
  match Text.parseU64 value with
  | some seconds => return min (seconds * 1000) (2 ^ 64 - 1)
  | none =>
    let target ← P.parseRfc2822 value
    if target - now > 0 then some (target - now).toNat else none

/-- The request's own id, or a new one. -/
def requestId (P : Packages) (headers : HeaderMap) (fresh : String) : String :=
  ((headers.get "x-request-id").bind P.headerToStr).getD fresh

end LiteAgentify
