import LiteAgentify.Usage

/-!
# Chunking does not matter

`observed_usage`: however a stream is cut into chunks, the observer reports what the lines of the
whole stream say, each field as the last line that reports it has it.
-/

set_option autoImplicit false

namespace LiteAgentify

/-! ## The reference -/

/-- The usage a line reports: it is UTF-8, carries a JSON payload after `data:`, and the payload has
a usage object of the protocol. -/
def reportedUsage (P : Packages) (protocol : Protocol) (line : Bytes) : Option TokenUsage := do
  let line ← Text.fromUtf8 line
  let data ← Text.stripPrefix "data:" (Text.trimEnd line)
  let payload := Text.trim data
  guard (payload ≠ "" ∧ payload ≠ "[DONE]")
  let value ← P.jsonFromStr payload
  match protocol with
  | .openAi => (value.get "usage").bind parseOpenaiUsage
  | .anthropic =>
    (((value.get "message").bind (Json.get "usage")).bind parseAnthropicUsage).or
      ((value.get "usage").bind parseAnthropicUsage)

/-- The value of the last report that has one. -/
def lastReported (field : TokenUsage → Option Int) (reports : List TokenUsage) : Option Int :=
  (reports.filterMap field).getLast?

/-- The usage reported by the lines of a whole stream. -/
def streamUsage (P : Packages) (protocol : Protocol) (stream : Bytes) : Option TokenUsage :=
  let reports := (stream.splitOn newline).filterMap (reportedUsage P protocol)
  if reports = [] then none
  else some
    { inputTokens := lastReported TokenUsage.inputTokens reports
      outputTokens := lastReported TokenUsage.outputTokens reports
      cachedInputTokens := lastReported TokenUsage.cachedInputTokens reports
      cacheReadTokens := lastReported TokenUsage.cacheReadTokens reports
      cacheWriteTokens := lastReported TokenUsage.cacheWriteTokens reports
      totalTokens := lastReported TokenUsage.totalTokens reports }

/-! ## Merging -/

/-- Merging reports one after another keeps, in each field, the last value reported. -/
theorem lastReported_merge {field : TokenUsage → Option Int}
    (hf : ∀ u v, field (u.mergeFrom v) = (field v).or (field u)) (reports : List TokenUsage)
    (u : TokenUsage) :
    field (reports.foldl TokenUsage.mergeFrom u) = (lastReported field reports).or (field u) := by
  induction reports using List.reverseRecOn with
  | nil => rfl
  | append_singleton reports v ih =>
    rw [List.foldl_append, List.foldl_cons, List.foldl_nil, hf, ih, lastReported, lastReported,
      List.filterMap_append]
    cases h : field v <;> simp [h]

theorem foldl_mergeFrom (reports : List TokenUsage) :
    reports.foldl TokenUsage.mergeFrom {} =
      { inputTokens := lastReported TokenUsage.inputTokens reports
        outputTokens := lastReported TokenUsage.outputTokens reports
        cachedInputTokens := lastReported TokenUsage.cachedInputTokens reports
        cacheReadTokens := lastReported TokenUsage.cacheReadTokens reports
        cacheWriteTokens := lastReported TokenUsage.cacheWriteTokens reports
        totalTokens := lastReported TokenUsage.totalTokens reports } := by
  have field {f : TokenUsage → Option Int} (hf : ∀ u v, f (u.mergeFrom v) = (f v).or (f u))
      (h0 : f {} = none) : f (reports.foldl TokenUsage.mergeFrom {}) = lastReported f reports := by
    rw [lastReported_merge hf, h0, Option.or_none]
  ext1
  · exact field (fun _ _ => rfl) rfl
  · exact field (fun _ _ => rfl) rfl
  · exact field (fun _ _ => rfl) rfl
  · exact field (fun _ _ => rfl) rfl
  · exact field (fun _ _ => rfl) rfl
  · exact field (fun _ _ => rfl) rfl

/-! ## Lines -/

namespace UsageObserver

variable {P : Packages}

/-- A line is merged when it reports a usage. -/
theorem consumeLine_eq (observer : UsageObserver) (line : Bytes) :
    observer.consumeLine P line =
      match reportedUsage P observer.protocol line with
      | some parsed =>
        { observer with usage := observer.usage.mergeFrom parsed, seenUsage := true }
      | none => observer := by
  unfold consumeLine reportedUsage
  cases Text.fromUtf8 line with
  | none => rfl
  | some line =>
    simp only [Option.bind_eq_bind, Option.bind_some]
    cases Text.stripPrefix "data:" (Text.trimEnd line) with
    | none => rfl
    | some data =>
      simp only [Option.bind_some]
      by_cases h : Text.trim data = "" ∨ Text.trim data = "[DONE]"
      · rw [if_pos h, guard, if_neg (by rwa [← not_or, not_not])]
        rfl
      · rw [if_neg h, guard, if_pos (by rwa [← not_or])]
        cases P.jsonFromStr (Text.trim data) <;> rfl

/-- The separator at the end of a line does not matter. -/
theorem consumeLine_newline (observer : UsageObserver) (line : Bytes) :
    observer.consumeLine P (line ++ [newline]) = observer.consumeLine P line := by
  have : reportedUsage P observer.protocol (line ++ [newline]) =
      reportedUsage P observer.protocol line := by
    unfold reportedUsage
    rw [newline, Text.fromUtf8_newline]
    cases Text.fromUtf8 line with
    | none => rfl
    | some text =>
      simp only [Option.map_some, Option.bind_eq_bind, Option.bind_some, Text.trimEnd_newline]
  rw [consumeLine_eq, consumeLine_eq, this]

theorem consumeLine_nil (observer : UsageObserver) : observer.consumeLine P [] = observer := by
  rw [consumeLine_eq]
  rfl

/-- A line is consumed without regard to the buffer. -/
theorem consumeLine_buffer (observer : UsageObserver) (buffer line : Bytes) :
    { observer with lineBuffer := buffer }.consumeLine P line =
      { observer.consumeLine P line with lineBuffer := buffer } := by
  rw [consumeLine_eq, consumeLine_eq]
  cases reportedUsage P observer.protocol line <;> rfl

/-- Consuming lines merges their reports. -/
theorem foldl_consumeLine (lines : List Bytes) (observer : UsageObserver) :
    lines.foldl (consumeLine P) observer =
      let reports := lines.filterMap (reportedUsage P observer.protocol)
      { observer with
        usage := reports.foldl TokenUsage.mergeFrom observer.usage
        seenUsage := observer.seenUsage || reports ≠ [] } := by
  induction lines using List.reverseRecOn with
  | nil => simp
  | append_singleton lines line ih =>
    rw [List.foldl_append, List.foldl_cons, List.foldl_nil, ih, consumeLine_eq]
    simp only [List.filterMap_append, List.filterMap_cons, List.filterMap_nil]
    cases reportedUsage P observer.protocol line <;> simp

/-- The observer as the library's line reader: its buffer beside the rest of it. -/
theorem feed_eq (observer : UsageObserver) (buffer chunk : Bytes) :
    { observer with lineBuffer := buffer }.feed P chunk =
      let fed := Lines.feed newline (consumeLine P) (buffer, observer) chunk
      { fed.2 with lineBuffer := fed.1 } := by
  rw [feed, Lines.drain_map (fun o => { o with lineBuffer := buffer })
    fun o line => consumeLine_buffer o buffer line]
  rfl

theorem foldl_feed (chunks : List Bytes) (observer : UsageObserver) :
    chunks.foldl (feed P) { observer with lineBuffer := [] } =
      let fed := chunks.foldl (Lines.feed newline (consumeLine P)) ([], observer)
      { fed.2 with lineBuffer := fed.1 } := by
  induction chunks using List.reverseRecOn with
  | nil => rfl
  | append_singleton chunks chunk ih =>
    rw [List.foldl_append, List.foldl_cons, List.foldl_nil, ih, feed_eq, List.foldl_append]
    rfl

/-- What the observer reports at the end is what its line reader has consumed. -/
theorem finish_eq (observer : UsageObserver) (buffer : Bytes) :
    ({ observer with lineBuffer := buffer }.finish P).2 =
      let done := Lines.finish (consumeLine P) (buffer, observer)
      if done.seenUsage then some done.usage else none := by
  unfold finish Lines.finish
  by_cases h : buffer = []
  · simp only [h, ne_eq, not_true_eq_false, if_false, if_true]
  · simp only [h, ne_eq, not_false_eq_true, if_true, if_false, consumeLine_buffer]

/-- What the observer reports of a stream, in whatever chunks it comes. -/
theorem finish_feed (protocol : Protocol) (chunks : List Bytes) :
    ((chunks.foldl (feed P) (.new protocol)).finish P).2 =
      streamUsage P protocol chunks.flatten := by
  have hlines := Lines.finish_feed (consumeLine_newline (P := P)) consumeLine_nil chunks
    (.new protocol)
  rw [show UsageObserver.new protocol =
      { UsageObserver.new protocol with lineBuffer := [] } from rfl,
    foldl_feed, finish_eq, hlines, foldl_consumeLine]
  simp only [streamUsage, ← foldl_mergeFrom]
  by_cases h : (chunks.flatten.splitOn newline).filterMap (reportedUsage P protocol) = []
  · simp [UsageObserver.new, h]
  · simp [UsageObserver.new, h]

end UsageObserver

/-- **Streaming usage does not depend on chunking**, and nothing is reported when no line of the
stream reports a usage. -/
theorem observed_usage (P : Packages) (protocol : Protocol) (chunks : List Bytes) :
    ((chunks.foldl (UsageObserver.feed P) (.new protocol)).finish P).2 =
        streamUsage P protocol chunks.flatten ∧
      (((chunks.foldl (UsageObserver.feed P) (.new protocol)).finish P).2 = none ↔
        ∀ line ∈ chunks.flatten.splitOn newline, reportedUsage P protocol line = none) := by
  rw [UsageObserver.finish_feed]
  refine ⟨rfl, ?_⟩
  simp only [streamUsage, ite_eq_left_iff, reduceCtorEq, imp_false, not_not,
    List.filterMap_eq_nil_iff]

end LiteAgentify
