import LiteAgentify.Lib.Run
import LiteAgentify.Proxy.Record
import LiteAgentify.Quota.Reconcile

/-!
# The usage writer

`SeaOrmUsageRecorder::record` and `run_writer` of `src/usage/recorder.rs`: senders put records into
a bounded channel, and the writer's `select!` takes them out into batches, until it is told to shut
down or all senders are gone. Any ready branch may be chosen, and records may be sent between any
two steps of the writer.
-/

set_option autoImplicit false

namespace LiteAgentify

def usageChannelCapacity : Nat := 1024

/-- Where `run_writer` is. -/
inductive WriterPhase
  /-- In the loop over the branches. -/
  | selecting
  /-- In the loop of the shutdown branch. -/
  | draining
  /-- After the loop, before the last flush. -/
  | exiting
  | returned
  deriving DecidableEq

inductive WriterEvent
  /-- A `try_send` that succeeds. -/
  | send (record : UsageRecord)
  /-- The last sender is dropped. -/
  | close
  /-- The shutdown signal is sent, or its sender dropped. -/
  | signal
  | recv
  | tick
  | shutdown
  /-- A `try_recv` of the shutdown branch. -/
  | drain
  | finalFlush
  deriving DecidableEq

structure UsageWriter where
  channel : List UsageRecord
  /-- Some sender is left. -/
  isOpen : Bool
  signalled : Bool
  buffer : List UsageRecord
  /-- What `flush` was called with. -/
  flushed : List (List UsageRecord)
  phase : WriterPhase
  deriving DecidableEq

namespace UsageWriter

def init : UsageWriter := ⟨[], true, false, [], [], .selecting⟩

/-- `sink.flush(std::mem::take(&mut buffer))`. -/
def flush (s : UsageWriter) : UsageWriter :=
  { s with buffer := [], flushed := s.flushed ++ [s.buffer] }

/-- The receiver takes the first record into the buffer. -/
def take (s : UsageWriter) (record : UsageRecord) (rest : List UsageRecord) : UsageWriter :=
  { s with channel := rest, buffer := s.buffer ++ [record] }

def step (s : UsageWriter) : WriterEvent → Option UsageWriter
  | .send record =>
    -- the receiver lives until `run_writer` returns
    if s.isOpen ∧ s.channel.length < usageChannelCapacity ∧ s.phase ≠ .returned then
      some { s with channel := s.channel ++ [record] }
    else none
  | .close => some { s with isOpen := false }
  | .signal => some { s with signalled := true }
  | .recv =>
    if s.phase = .selecting then
      match s.channel with
      | record :: rest =>
        let s := s.take record rest
        if s.buffer.length ≥ usageBatchSize then some s.flush else some s
      | [] => if s.isOpen then none else some { s with phase := .exiting }
    else none
  | .tick =>
    if s.phase = .selecting then
      if s.buffer ≠ [] then some s.flush else some s
    else none
  | .shutdown =>
    if s.phase = .selecting ∧ s.signalled then some { s with phase := .draining } else none
  | .drain =>
    if s.phase = .draining then
      match s.channel with
      | record :: rest => some (s.take record rest)
      | [] => some { s with phase := .exiting }
    else none
  | .finalFlush =>
    if s.phase = .exiting then some { s.flush with phase := .returned } else none

end UsageWriter

end LiteAgentify
