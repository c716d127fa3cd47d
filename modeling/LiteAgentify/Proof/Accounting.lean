import LiteAgentify.Proof.Chunking
import LiteAgentify.Proof.Failover

/-!
# One record for a forwarded response

`forwarded_once`: a forwarded response is accounted for exactly once (`Accounted`) when it was
buffered or its stream is polled to a normal end, and not at all otherwise; a request for which
nothing is forwarded leaves the recorder and the counter alone.
-/

set_option autoImplicit false

namespace LiteAgentify

variable {P : Packages} {env : Env} {state : GatewayState} {request : Request}

/-- The records handed to the recorder. -/
def records (effects : List Effect) : List UsageRecord :=
  effects.filterMap fun
    | .record record => some record
    | _ => none

/-- The adds made to the counter. -/
def adds (effects : List Effect) : List (Scope × ℚ) :=
  effects.filterMap fun
    | .add scope cost => some (scope, cost)
    | _ => none

def ProxyResponse.isForwarded : ProxyResponse → Bool
  | .upstream _ _ _ => true
  | _ => false

/-- The usage in the bytes of a response that have been delivered. -/
def visibleUsage (P : Packages) (protocol : Protocol) (upstream : UpstreamResponse)
    (delivered : Bytes) : Option TokenUsage :=
  if isStreamingResponse P upstream.headers then streamUsage P protocol delivered
  else parseNonStreamingUsage P protocol delivered

/-- The effects account once for a response of the deployment with this usage. -/
def Accounted (state : GatewayState) (identity : KeyIdentity) (deployment : ResolvedDeployment)
    (usage : Option TokenUsage) (effects : List Effect) : Prop :=
  ∃ record, records effects = [record] ∧
    record.providerId = deployment.provider.id ∧
    record.upstreamModel = some deployment.upstreamModel ∧
    record.estimatedCost = (calculateCost state.pricing deployment.provider.id
      (some deployment.upstreamModel) (usage.getD {}).ensureTotal).map (·.1) ∧
    adds effects = match record.estimatedCost with
      | some cost => [(.user identity.userId, cost), (.key identity.apiKeyId, cost)]
      | none => []

/-- The body of the response comes to a normal end within this many polls. -/
def EndsNormally (P : Packages) (upstream : UpstreamResponse) (polls : Nat) : Prop :=
  isStreamingResponse P upstream.headers →
    upstream.body.error = none ∧ upstream.body.chunks.length < polls

/-! ## Effects -/

theorem records_accounting (effects : List Effect) :
    records (accounting effects) = records effects := by
  rw [records, accounting, List.filterMap_filter, records]
  congr 1
  funext effect
  cases effect <;> rfl

theorem adds_accounting (effects : List Effect) : adds (accounting effects) = adds effects := by
  rw [adds, accounting, List.filterMap_filter, adds]
  congr 1
  funext effect
  cases effect <;> rfl

/-- `record_usage` accounts once. -/
theorem recordUsage_accounted {effects : List Effect} {metadata : UsageMetadata}
    {source : UsageSource} {usage : Option TokenUsage} {now : DateTime} {identity : KeyIdentity}
    {deployment : ResolvedDeployment}
    (h : accounting effects = recordUsage state metadata source usage now)
    (huser : metadata.userId = some identity.userId)
    (hkey : metadata.apiKeyId = some identity.apiKeyId)
    (hprovider : metadata.providerId = deployment.provider.id)
    (hmodel : metadata.upstreamModel = some deployment.upstreamModel) :
    Accounted state identity deployment usage effects := by
  have hr := records_accounting effects
  have ha := adds_accounting effects
  rw [h, recordUsage] at hr ha
  rw [huser, hkey, hprovider, hmodel] at hr ha
  cases hcost : (calculateCost state.pricing deployment.provider.id
      (some deployment.upstreamModel) (usage.getD {}).ensureTotal).map (·.1) with
  | none =>
    rw [hcost] at hr ha
    exact ⟨_, hr.symm, rfl, rfl, hcost.symm, ha.symm⟩
  | some cost =>
    rw [hcost] at hr ha
    exact ⟨_, hr.symm, rfl, rfl, hcost.symm, ha.symm⟩

/-! ## The observed stream -/

namespace ObservedStream

theorem drive_finished (now : DateTime) (polls : Nat) {stream : ObservedStream}
    (h : stream.finished = true) : stream.drive P state now polls = ([], []) := by
  induction polls with
  | zero => rfl
  | succ polls ih =>
    have hpoll : stream.poll P state now = (none, stream, []) := by simp [poll, h]
    simp only [drive, hpoll, ih]
    rfl

/-- What a client reads is a prefix of the chunks, and a usage is recorded when it has polled past
the last one. -/
theorem drive_chunks (now : DateTime) (polls : Nat) {stream : ObservedStream}
    (h : stream.finished = false) :
    ((stream.drive P state now polls).1.filterMap Except.toOption).flatten =
        (stream.body.chunks.take polls).flatten ∧
      (stream.drive P state now polls).2 =
        if stream.body.error = none ∧ stream.body.chunks.length < polls then
          recordUsage state stream.metadata .streamSummary
            ((stream.body.chunks.foldl (UsageObserver.feed P) stream.observer).finish P).2 now
        else [] := by
  induction polls generalizing stream with
  | zero => simp [drive]
  | succ polls ih =>
    cases hc : stream.body.chunks with
    | nil =>
      cases he : stream.body.error with
      | none =>
        have hpoll : stream.poll P state now = (none,
            { stream with observer := (stream.observer.finish P).1, finished := true },
            recordUsage state stream.metadata .streamSummary (stream.observer.finish P).2 now) := by
          simp [poll, h, hc, he]
        have hdone := @drive_finished P state now polls
          { stream with observer := (stream.observer.finish P).1, finished := true } rfl
        simp only [drive, hpoll, hdone]
        simp
      | some error =>
        have hpoll : stream.poll P state now =
            (some (.error error), { stream with finished := true }, []) := by
          simp [poll, h, hc, he]
        have hdone := @drive_finished P state now polls { stream with finished := true } rfl
        simp only [drive, hpoll, hdone]
        simp [Except.toOption]
    | cons bytes chunks =>
      have hpoll : stream.poll P state now = (some (.ok bytes),
          { stream with
            observer := stream.observer.feed P bytes
            body := { stream.body with chunks := chunks } }, []) := by
        simp [poll, h, hc]
      obtain ⟨hread, heff⟩ := @ih { stream with
        observer := stream.observer.feed P bytes
        body := { stream.body with chunks := chunks } } h
      simp only [drive, hpoll]
      constructor
      · simp only [Option.toList_some, List.cons_append, List.nil_append, List.filterMap_cons,
          Except.toOption, List.flatten_cons, List.take_succ_cons]
        rw [← hread]
      · simp only [List.nil_append, heff, List.length_cons, Nat.add_lt_add_iff_right,
          List.foldl_cons]

end ObservedStream

/-! ## The response -/

theorem recordUsage_accounting (metadata : UsageMetadata) (source : UsageSource)
    (usage : Option TokenUsage) (now : DateTime) :
    accounting (recordUsage state metadata source usage now) =
      recordUsage state metadata source usage now :=
  (sends_spend _ _ _ _).2

/-- Without accounting effects nothing is accounted for. -/
theorem not_accounted {identity : KeyIdentity} {deployment : ResolvedDeployment}
    {usage : Option TokenUsage} {effects : List Effect} (h : accounting effects = []) :
    ¬ Accounted state identity deployment usage effects := by
  rintro ⟨record, hr, -⟩
  rw [← records_accounting, h] at hr
  cases hr

/-- A forwarded response and its delivery: the accounting is that of the buffered body, or that of
the stream when it has ended normally. -/
theorem deliver_forwarded {ctx : ProxyContext} {result : ProxyResponse × List Effect}
    {deployment : ResolvedDeployment} {upstream : UpstreamResponse} (now : DateTime) (polls : Nat)
    (h : ctx.Answers P env (some (deployment, upstream)) result) (hf : result.1.isForwarded) :
    Forwards result.1 upstream ∧
      (Accounted ctx.state ctx.identity deployment
          (visibleUsage P deployment.provider.protocol upstream
            (result.1.deliver P ctx.state now polls).1)
          (result.2 ++ (result.1.deliver P ctx.state now polls).2) ↔
        EndsNormally P upstream polls) := by
  obtain ⟨response, effects⟩ := result
  obtain ⟨providerBody, sent, hmodel, hresponse, hacc⟩ := h
  simp only [ProxyContext.forwardUpstreamResponse] at hresponse hacc
  cases hs : isStreamingResponse P upstream.headers with
  | false =>
    simp only [hs, Bool.false_eq_true, if_false] at hresponse hacc
    cases he : upstream.body.error with
    | some error =>
      -- the body could not be read, and a 502 stands in for the response
      rw [he] at hresponse
      subst hresponse
      cases hf
    | none =>
      simp only [he] at hresponse hacc
      subst hresponse
      refine ⟨⟨rfl, rfl, he, rfl⟩, ?_⟩
      simp only [ProxyResponse.deliver, List.append_nil, visibleUsage, EndsNormally, hs,
        Bool.false_eq_true, if_false, false_imp_iff, iff_true]
      exact recordUsage_accounted hacc rfl rfl rfl hmodel
  | true =>
    simp only [hs, if_true] at hresponse hacc
    subst hresponse
    refine ⟨⟨rfl, rfl, rfl, rfl⟩, ?_⟩
    obtain ⟨hread, heff⟩ := @ObservedStream.drive_chunks P ctx.state now polls
      (usageObservedStream
        (ctx.metadata env deployment.provider providerBody upstream sent) upstream.body) rfl
    simp only [ProxyResponse.deliver, visibleUsage, EndsNormally, hs, if_true, true_imp_iff]
    rw [hread, heff]
    by_cases hend : upstream.body.error = none ∧ upstream.body.chunks.length < polls
    · simp only [usageObservedStream, hend, and_self, if_true, iff_true]
      rw [List.take_of_length_le hend.2.le, UsageObserver.finish_feed]
      have hall : accounting (effects ++ recordUsage ctx.state
          (ctx.metadata env deployment.provider providerBody upstream sent) .streamSummary
          (streamUsage P deployment.provider.protocol upstream.body.chunks.flatten) now) =
          recordUsage ctx.state
            (ctx.metadata env deployment.provider providerBody upstream sent) .streamSummary
            (streamUsage P deployment.provider.protocol upstream.body.chunks.flatten) now := by
        rw [accounting_append, hacc, List.nil_append, recordUsage_accounting]
      exact recordUsage_accounted hall rfl rfl rfl hmodel
    · simp only [usageObservedStream, hend, if_false, iff_false]
      exact not_accounted (by rw [List.append_nil, hacc])

/-- A request for which nothing is forwarded has no accounting. -/
theorem unforwarded_accounting {ctx : ProxyContext} {result : ProxyResponse × List Effect}
    {forwarded : Option (ResolvedDeployment × UpstreamResponse)} (now : DateTime) (polls : Nat)
    (h : ctx.Answers P env forwarded result) (hf : result.1.isForwarded = false) :
    accounting (result.2 ++ (result.1.deliver P ctx.state now polls).2) = [] := by
  obtain ⟨response, effects⟩ := result
  have hdeliver : (response.deliver P ctx.state now polls).2 = [] := by
    cases response with
    | upstream status headers body => cases hf
    | _ => rfl
  rw [hdeliver, List.append_nil]
  cases forwarded with
  | none => exact h.2
  | some forwarded =>
    obtain ⟨providerBody, sent, -, hresponse, hacc⟩ := h
    rw [hacc]
    simp only at hresponse hf
    rw [hresponse] at hf
    unfold ProxyContext.forwardUpstreamResponse at hf ⊢
    split at hf
    · cases hf
    · split at hf
      · rename_i hs _ _ _
        rw [if_neg hs]
      · cases hf

/-- **Every forwarded response is accounted for exactly once**, exactly when it was buffered or its
stream comes to a normal end; nothing else is accounted for. -/
theorem forwarded_once (hserved : state.Served P) (now : DateTime) (polls : Nat) :
    ((proxy P env state request).1.isForwarded →
      ∃ (a : Admission P env state request) (blocks : List (List Outcome))
        (deployment : ResolvedDeployment) (upstream : UpstreamResponse),
        a.context.Follows P a.chain blocks (some (deployment, upstream)) ∧
        sends (proxy P env state request).2 = a.context.blockSends P a.chain blocks ∧
        Forwards (proxy P env state request).1 upstream ∧
        (Accounted state a.identity deployment
            (visibleUsage P deployment.provider.protocol upstream
              (exchange P env state request now polls).1)
            (exchange P env state request now polls).2 ↔
          EndsNormally P upstream polls)) ∧
    ((proxy P env state request).1.isForwarded = false →
      accounting (exchange P env state request now polls).2 = []) := by
  rcases isEmpty_or_nonempty (Admission P env state request) with hnone | ⟨⟨a⟩⟩
  · obtain ⟨heff, hresponse⟩ := proxy_rejected hnone
    cases hp : (proxy P env state request).1 with
    | upstream status headers body => exact absurd hp (hresponse status headers body)
    | _ => exact ⟨fun h => (by cases h), fun _ => by simp only [exchange, heff, hp]; rfl⟩
  · obtain ⟨blocks, forwarded, hfollows, -, hsends, hans⟩ := proxy_follows a hserved.maxAttempts
    refine ⟨fun hf => ?_, fun hf => unforwarded_accounting now polls hans hf⟩
    cases forwarded with
    | none =>
      obtain ⟨⟨text, htext⟩, -⟩ := hans
      rw [htext] at hf
      cases hf
    | some forwarded =>
      obtain ⟨deployment, upstream⟩ := forwarded
      exact ⟨a, blocks, deployment, upstream, hfollows, hsends, deliver_forwarded now polls hans hf⟩

/-- The sample request is forwarded the response of `q`, which is accounted for once. -/
theorem forwarded_once_sample :
    ∃ (a : Admission samplePackages sampleEnv sampleState sampleRequest)
      (deployment : ResolvedDeployment) (upstream : UpstreamResponse),
      Forwards (proxy samplePackages sampleEnv sampleState sampleRequest).1 upstream ∧
      (Accounted sampleState a.identity deployment
          (visibleUsage samplePackages deployment.provider.protocol upstream
            (exchange samplePackages sampleEnv sampleState sampleRequest 0 1).1)
          (exchange samplePackages sampleEnv sampleState sampleRequest 0 1).2 ↔
        EndsNormally samplePackages upstream 1) := by
  obtain ⟨a, _, deployment, upstream, _, _, hforwards, haccounted⟩ :=
    (@forwarded_once samplePackages sampleEnv sampleState sampleRequest sampleState_served 0 1).1
      (by decide +kernel)
  exact ⟨a, deployment, upstream, hforwards, haccounted⟩

/-- Every send is answered with an event stream of one chunk that ends with the given error. -/
def streamEnv (error : Option String) : Env :=
  { sampleEnv with
    answer _ := .ok ⟨200, [("content-type", Text.asBytes "text/event-stream")],
      ⟨[Text.asBytes "data: {}"], error⟩⟩ }

/-- A stream that breaks off after its chunk, and one that the client leaves after its chunk, are
forwarded and not recorded. -/
theorem interrupted_stream_unrecorded :
    (proxy samplePackages (streamEnv (some "reset")) sampleState sampleRequest).1.isForwarded ∧
    (proxy samplePackages (streamEnv none) sampleState sampleRequest).1.isForwarded ∧
    ∀ identity deployment usage,
      ¬ Accounted sampleState identity deployment usage
        (exchange samplePackages (streamEnv (some "reset")) sampleState sampleRequest 0 2).2 ∧
      ¬ Accounted sampleState identity deployment usage
        (exchange samplePackages (streamEnv none) sampleState sampleRequest 0 1).2 := by
  have hbroken : (accounting (exchange samplePackages (streamEnv (some "reset")) sampleState
      sampleRequest 0 2).2).length = 0 := by decide +kernel
  have hleft : (accounting (exchange samplePackages (streamEnv none) sampleState
      sampleRequest 0 1).2).length = 0 := by decide +kernel
  exact ⟨by decide +kernel, by decide +kernel, fun identity deployment usage =>
    ⟨not_accounted (List.length_eq_zero_iff.1 hbroken),
      not_accounted (List.length_eq_zero_iff.1 hleft)⟩⟩

end LiteAgentify
