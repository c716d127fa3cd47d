import LiteAgentify.Proxy.Request
import LiteAgentify.Usage

/-!
# Usage records

`src/usage/record.rs` and the accounting of `src/proxy/router.rs`: what `record_usage` does to the
counter and the recorder, and the stream that observes a forwarded event stream and records when it
ends. What the gateway does besides answering is a list of effects in the order they happen.
-/

set_option autoImplicit false

namespace LiteAgentify

inductive UsageSource
  | providerResponse
  | streamSummary
  | unavailable
  deriving DecidableEq, Repr

structure UsageRecord where
  requestId : String
  createdAt : DateTime
  providerId : String
  protocol : Protocol
  path : String
  userId : Option Uuid
  apiKeyId : Option Uuid
  requestedModel : Option String
  upstreamModel : Option String
  status : Nat
  latencyMs : Int
  inputTokens : Option Int
  outputTokens : Option Int
  cachedInputTokens : Option Int
  cacheReadTokens : Option Int
  cacheWriteTokens : Option Int
  totalTokens : Option Int
  estimatedCost : Option ℚ
  currency : Option String
  usageSource : UsageSource
  pricingSource : Option String
  deriving DecidableEq

structure UsageMetadata where
  requestId : String
  providerId : String
  protocol : Protocol
  path : String
  userId : Option Uuid
  apiKeyId : Option Uuid
  requestedModel : Option String
  upstreamModel : Option String
  status : Nat
  latencyMs : Int
  deriving DecidableEq

/-- What the gateway does on the way to an answer. -/
inductive Effect
  /-- A request sent to a provider, and what came of it. -/
  | send (provider : Provider) (request : UpstreamRequest) (outcome : Outcome)
  | sleep (delayMs : Nat)
  /-- `SpendCounter::add`. -/
  | add (scope : Scope) (cost : ℚ)
  /-- A record handed to the recorder. -/
  | record (record : UsageRecord)

/-- The adds of a cost, none when there is no cost. -/
def spendEffects (userId apiKeyId : Option Uuid) : Option ℚ → List Effect
  | none => []
  | some cost =>
    (userId.map fun id => Effect.add (.user id) cost).toList ++
      (apiKeyId.map fun id => Effect.add (.key id) cost).toList

def recordUsage (state : GatewayState) (metadata : UsageMetadata) (source : UsageSource)
    (usage : Option TokenUsage) (now : DateTime) : List Effect :=
  let usageSource := if usage.isSome then source else .unavailable
  let usage := (usage.getD {}).ensureTotal
  let cost := calculateCost state.pricing metadata.providerId metadata.upstreamModel usage
  let estimatedCost := cost.map (·.1)
  spendEffects metadata.userId metadata.apiKeyId estimatedCost ++
    [.record
      { requestId := metadata.requestId
        createdAt := now
        providerId := metadata.providerId
        protocol := metadata.protocol
        path := metadata.path
        userId := metadata.userId
        apiKeyId := metadata.apiKeyId
        requestedModel := metadata.requestedModel
        upstreamModel := metadata.upstreamModel
        status := metadata.status
        latencyMs := metadata.latencyMs
        inputTokens := usage.inputTokens
        outputTokens := usage.outputTokens
        cachedInputTokens := usage.cachedInputTokens
        cacheReadTokens := usage.cacheReadTokens
        cacheWriteTokens := usage.cacheWriteTokens
        totalTokens := usage.totalTokens
        estimatedCost := estimatedCost
        currency := cost.map (·.2.1)
        usageSource := usageSource
        pricingSource := cost.bind (·.2.2) }]

/-! ## The observed stream -/

/-- The stream of `usage_observed_stream`, between two polls. -/
structure ObservedStream where
  metadata : UsageMetadata
  observer : UsageObserver
  /-- What the upstream has yet to deliver. -/
  body : UpstreamBody
  finished : Bool

def usageObservedStream (metadata : UsageMetadata) (body : UpstreamBody) : ObservedStream :=
  ⟨metadata, .new metadata.protocol, body, false⟩

namespace ObservedStream

variable (P : Packages) (state : GatewayState) (now : DateTime)

/-- The next item, if there is one: a chunk passes through the observer, an error ends the stream,
and the end of the upstream's body is when the usage is recorded. -/
def poll (stream : ObservedStream) :
    Option (Except String Bytes) × ObservedStream × List Effect :=
  if stream.finished then (none, stream, [])
  else
    match stream.body.chunks with
    | bytes :: chunks =>
      (some (.ok bytes),
        { stream with
          observer := stream.observer.feed P bytes
          body := { stream.body with chunks := chunks } }, [])
    | [] =>
      match stream.body.error with
      | some error => (some (.error error), { stream with finished := true }, [])
      | none =>
        let (observer, usage) := stream.observer.finish P
        (none, { stream with observer := observer, finished := true },
          recordUsage state stream.metadata .streamSummary usage now)

/-- A client that polls this many times and then drops the stream: the items it got and the effects
of the polls. -/
def drive : Nat → ObservedStream → List (Except String Bytes) × List Effect
  | 0, _ => ([], [])
  | polls + 1, stream =>
    let (item, stream, effects) := stream.poll P state now
    let (items, effects') := drive polls stream
    (item.toList ++ items, effects ++ effects')

end ObservedStream

/-! ## Responses -/

inductive ForwardedBody
  /-- A body that was buffered. -/
  | bytes (body : Bytes)
  | stream (stream : ObservedStream)

/-- A response to the client: a text or a protocol error of the gateway's own, or the response of an
upstream. -/
inductive ProxyResponse
  | text (status : Nat) (body : String)
  | protocolError (protocol : Protocol) (status : Nat) (kind message : String)
  | upstream (status : Nat) (headers : HeaderMap) (body : ForwardedBody)

/-- What the client reads of the body with this many polls, and the effects of that. -/
def ProxyResponse.deliver (P : Packages) (state : GatewayState) (now : DateTime) (polls : Nat) :
    ProxyResponse → Bytes × List Effect
  | .upstream _ _ (.bytes body) => (body, [])
  | .upstream _ _ (.stream stream) =>
    let (items, effects) := stream.drive P state now polls
    ((items.filterMap Except.toOption).flatten, effects)
  | _ => ([], [])

end LiteAgentify
