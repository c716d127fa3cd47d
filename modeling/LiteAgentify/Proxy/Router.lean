import LiteAgentify.Proxy.Record

/-!
# The proxy

`proxy` and `attempt_provider` of `src/proxy/router.rs`: authentication, the quota gate, the
payload, resolution, and then the failover chain with the retries against each provider. Functions
return their answer with the effects that led to it.
-/

set_option autoImplicit false

namespace LiteAgentify

/-- What the proxy cannot know beforehand: the answers of the upstreams, the counter it reads, its
random numbers and its clock. Answers, fractions and times are indexed by the number of sends made
for the request so far. -/
structure Env where
  answer : Nat → Outcome
  jitter : Nat → ℚ
  now : Nat → DateTime
  elapsedMs : Nat → Int
  counter : MemoryCounter
  freshRequestId : String
  /-- `Display` of an amount. -/
  showUsd : ℚ → String

inductive ProviderAttempt
  /-- A final response; no further deployments are tried. -/
  | forward (response : ProxyResponse)
  /-- A recoverable failure; the next deployment is tried. -/
  | failover (response : ProxyResponse)

/-- The request context that every provider attempt sees. -/
structure ProxyContext where
  state : GatewayState
  requestId : String
  path : String
  query : Option String
  method : String
  originalHeaders : HeaderMap
  body : Bytes
  payload : RequestPayload
  identity : KeyIdentity

/-- The sends among the effects. -/
def sends (effects : List Effect) : List (Provider × UpstreamRequest × Outcome) :=
  effects.filterMap fun
    | .send provider request outcome => some (provider, request, outcome)
    | _ => none

def badGateway (body : String) : ProxyResponse := .text 502 body

namespace ProxyContext

variable (P : Packages) (env : Env) (ctx : ProxyContext)

/-- A capped `Retry-After` when there is one, full-jitter backoff otherwise. -/
def backoffDelay (attempt sent : Nat) (headers : HeaderMap) : Nat :=
  match parseRetryAfterMs P headers (env.now sent) with
  | some retryAfterMs => ctx.state.retryPolicy.capDelayMs retryAfterMs
  | none => ctx.state.retryPolicy.backoffMs attempt (env.jitter sent)

def metadata (provider : Provider) (providerBody : ProviderBody) (upstream : UpstreamResponse)
    (sent : Nat) : UsageMetadata where
  requestId := ctx.requestId
  providerId := provider.id
  protocol := provider.protocol
  path := ctx.path
  userId := some ctx.identity.userId
  apiKeyId := some ctx.identity.apiKeyId
  requestedModel := providerBody.requestedModel
  upstreamModel := providerBody.upstreamModel
  status := upstream.status
  latencyMs := env.elapsedMs sent

def forwardUpstreamResponse (provider : Provider) (providerBody : ProviderBody)
    (upstream : UpstreamResponse) (sent : Nat) : ProxyResponse × List Effect :=
  let headers := upstream.headers.filter fun header => isResponseHeaderForwardable header.1
  let metadata := ctx.metadata env provider providerBody upstream sent
  if isStreamingResponse P upstream.headers then
    (.upstream upstream.status headers (.stream (usageObservedStream metadata upstream.body)), [])
  else
    match upstream.body.error with
    | some _ => (badGateway "failed to read upstream response", [])
    | none =>
      let body := upstream.body.chunks.flatten
      (.upstream upstream.status headers (.bytes body),
        recordUsage ctx.state metadata .providerResponse
          (parseNonStreamingUsage P provider.protocol body) (env.now sent))

/-- The retry loop of `attempt_provider`, with this many attempts left. -/
def attemptLoop (provider : Provider) (providerBody : ProviderBody) (request : UpstreamRequest)
    (isLast : Bool) : Nat → Nat → ProviderAttempt × List Effect
  -- not reached when `max_attempts` is at least 1
  | 0, _ => (.failover (badGateway "upstream request failed"), [])
  | left + 1, sent =>
    let retry := ctx.state.retryPolicy
    let attempt := retry.maxAttempts - (left + 1)
    let sendEffect := Effect.send provider request (env.answer sent)
    match env.answer sent with
    | .error _ => (.failover (badGateway "upstream request failed"), [sendEffect])
    | .ok upstream =>
      let isRetryable := retry.isRetryable upstream.status
      if isServerError upstream.status && !isRetryable then
        (.failover (badGateway "upstream request failed"), [sendEffect])
      else if isRetryable then
        if attempt + 1 ≥ retry.maxAttempts then
          if isLast then
            let (response, effects) :=
              ctx.forwardUpstreamResponse P env provider providerBody upstream (sent + 1)
            (.forward response, sendEffect :: effects)
          else (.failover (badGateway "upstream request failed"), [sendEffect])
        else
          let delay := ctx.backoffDelay P env attempt (sent + 1) upstream.headers
          let (result, effects) :=
            attemptLoop provider providerBody request isLast left (sent + 1)
          (result, sendEffect :: .sleep delay :: effects)
      else
        let (response, effects) :=
          ctx.forwardUpstreamResponse P env provider providerBody upstream (sent + 1)
        (.forward response, sendEffect :: effects)

def attemptProvider (provider : Provider) (upstreamModel : String) (isLast : Bool) (sent : Nat) :
    ProviderAttempt × List Effect :=
  match bodyForDeployment P ctx.body ctx.payload upstreamModel with
  | .error _ => (.forward (.text 400 "failed to rewrite request body"), [])
  | .ok providerBody =>
    match upstreamUri P provider ctx.path ctx.query with
    | .error _ => (.failover (badGateway "failed to build upstream URI"), [])
    | .ok uri =>
      match outboundHeaders P ctx.originalHeaders provider with
      | .error _ => (.failover (badGateway "failed to build outbound headers"), [])
      | .ok headers =>
        ctx.attemptLoop P env provider providerBody
          { method := ctx.method, uri := uri, headers := headers, body := providerBody.body } isLast
          ctx.state.retryPolicy.maxAttempts sent

/-- The failover loop over the rest of a chain of `count` deployments. -/
def failoverLoop (count : Nat) :
    List ResolvedDeployment → Nat → Option ProxyResponse → Nat → ProxyResponse × List Effect
  | [], _, lastError, _ => (lastError.getD (badGateway "upstream request failed"), [])
  | deployment :: rest, index, _, sent =>
    let isLast := index + 1 = count
    match ctx.attemptProvider P env deployment.provider deployment.upstreamModel isLast sent with
    | (.forward response, effects) => (response, effects)
    | (.failover response, effects) =>
      let (answer, effects') :=
        failoverLoop count rest (index + 1) (some response) (sent + (sends effects).length)
      (answer, effects ++ effects')

end ProxyContext

/-! ## The handler -/

def wrongProtocolMessage (model : String) (protocol : Protocol) (available : List Protocol) :
    String :=
  let families :=
    if available.isEmpty then "no protocol"
    else String.intercalate ", " (available.map Protocol.toString)
  s!"model '{model}' is not available on this endpoint (protocol {protocol.toString}); it is served via: {families}"

/-- One request to a model endpoint, answered from one snapshot. -/
def proxy (P : Packages) (env : Env) (state : GatewayState) (request : Request) :
    ProxyResponse × List Effect :=
  let protocol := request.endpoint.protocol
  match state.authorize P request.headers with
  | none => (.text 401 "missing or invalid API key", [])
  | some identity =>
    match state.checkQuota identity (env.counter.get (.user identity.userId))
        (env.counter.get (.key identity.apiKeyId)) with
    | .userExhausted granted =>
      (.protocolError protocol 402 "insufficient_quota"
        s!"credit balance exhausted (granted {env.showUsd granted} USD); ask an administrator to grant more credit", [])
    | .keyCapReached cap =>
      (.protocolError protocol 402 "insufficient_quota"
        s!"this API key reached its spend cap ({env.showUsd cap} USD); raise or remove the cap to continue", [])
    | .allowed =>
      match request.body with
      | .error _ => (.text 400 "failed to read request body", [])
      | .ok body =>
        let payload := RequestPayload.parse P body
        match payload.model with
        | none =>
          (.protocolError protocol 400 "invalid_request_error"
            "the request body must include a string `model` field", [])
        | some model =>
          match state.resolve protocol model identity with
          | .unknownModel =>
            (.protocolError protocol 404 "not_found_error"
              s!"model '{model}' does not exist or is not available", [])
          | .forbidden =>
            (.protocolError protocol 403 "permission_error"
              s!"this API key is not allowed to call model '{model}'", [])
          | .wrongProtocol available =>
            (.protocolError protocol 404 "not_found_error"
              (wrongProtocolMessage model protocol available), [])
          | .chain chain =>
            let ctx : ProxyContext :=
              { state := state
                requestId := requestId P request.headers env.freshRequestId
                path := request.endpoint.path
                query := request.query
                method := request.method
                originalHeaders := request.headers
                body := body
                payload := payload
                identity := identity }
            ctx.failoverLoop P env chain.length chain 0 none 0

/-- A request and the delivery of its response to a client that polls the body this many times: the
bytes the client gets, and all effects. -/
def exchange (P : Packages) (env : Env) (state : GatewayState) (request : Request) (now : DateTime)
    (polls : Nat) : Bytes × List Effect :=
  let (response, effects) := proxy P env state request
  let (delivered, effects') := response.deliver P state now polls
  (delivered, effects ++ effects')

end LiteAgentify
