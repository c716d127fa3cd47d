import LiteAgentify.Pricing
import LiteAgentify.Lib.Lines

/-!
# Usage in upstream responses

`src/usage/parse.rs` and `src/usage/observer.rs`: the token counts a JSON body reports, and the
observer that collects them from a server-sent event stream as its chunks pass through.
-/

set_option autoImplicit false

namespace LiteAgentify

/-! ## Parsing -/

/-- A member of an object that is a nonnegative `i64`. -/
def number (value : Json) (key : String) : Option Int := do
  let value ← value.get key
  let value ← value.asI64
  if value ≥ 0 then some value else none

def parseOpenaiUsage (usage : Json) : Option TokenUsage :=
  let parsed : TokenUsage :=
    { inputTokens := number usage "prompt_tokens"
      outputTokens := number usage "completion_tokens"
      totalTokens := number usage "total_tokens"
      cachedInputTokens :=
        (usage.get "prompt_tokens_details").bind fun details => number details "cached_tokens" }
  if parsed.hasTokens then some parsed else none

def parseAnthropicUsage (usage : Json) : Option TokenUsage :=
  let parsed : TokenUsage :=
    { inputTokens := number usage "input_tokens"
      outputTokens := number usage "output_tokens"
      cacheWriteTokens := number usage "cache_creation_input_tokens"
      cacheReadTokens := number usage "cache_read_input_tokens" }
  if parsed.hasTokens then some parsed else none

def parseNonStreamingUsage (P : Packages) (protocol : Protocol) (body : Bytes) :
    Option TokenUsage := do
  let value ← P.jsonFromSlice body
  let usage ← value.get "usage"
  match protocol with
  | .openAi => parseOpenaiUsage usage
  | .anthropic => parseAnthropicUsage usage

/-! ## Observing a stream -/

def newline : UInt8 := 10

structure UsageObserver where
  protocol : Protocol
  lineBuffer : Bytes
  usage : TokenUsage
  seenUsage : Bool
  deriving DecidableEq

namespace UsageObserver

def new (protocol : Protocol) : UsageObserver := ⟨protocol, [], {}, false⟩

variable (P : Packages)

def consumeLine (observer : UsageObserver) (line : Bytes) : UsageObserver :=
  match Text.fromUtf8 line with
  | none => observer
  | some line =>
    match Text.stripPrefix "data:" (Text.trimEnd line) with
    | none => observer
    | some data =>
      let data := Text.trim data
      if data = "" ∨ data = "[DONE]" then observer
      else
        match P.jsonFromStr data with
        | none => observer
        | some value =>
          let parsed :=
            match observer.protocol with
            | .openAi => (value.get "usage").bind parseOpenaiUsage
            | .anthropic =>
              (((value.get "message").bind (Json.get "usage")).bind parseAnthropicUsage).or
                ((value.get "usage").bind parseAnthropicUsage)
          match parsed with
          | some parsed =>
            { observer with usage := observer.usage.mergeFrom parsed, seenUsage := true }
          | none => observer

/-- The complete lines of the buffer are consumed, the rest stays in it. -/
def feed (observer : UsageObserver) (chunk : Bytes) : UsageObserver :=
  let (rest, observer) := Lines.drain newline (consumeLine P) (observer.lineBuffer ++ chunk) observer
  { observer with lineBuffer := rest }

/-- The observer after the last, unterminated line, and what it reports. -/
def finish (observer : UsageObserver) : UsageObserver × Option TokenUsage :=
  let observer :=
    if observer.lineBuffer ≠ [] then
      { observer with lineBuffer := [] }.consumeLine P observer.lineBuffer
    else observer
  (observer, if observer.seenUsage then some observer.usage else none)

end UsageObserver

end LiteAgentify
