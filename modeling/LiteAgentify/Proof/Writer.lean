import LiteAgentify.Usage.Writer

/-!
# The usage writer delivers what it accepts

Before the writer leaves its loop, the flushed batches, the buffer and the channel hold together,
in order, the records that were accepted; it leaves the loop only on an empty channel, and then
flushes what is left (`UsageWriter.Holds`). So when it returns it has flushed exactly the records
accepted until its channel was found empty, each once and in order (`writer_delivers`).
-/

set_option autoImplicit false

namespace LiteAgentify

open Lts

def WriterEvent.accepted : WriterEvent → Option UsageRecord
  | .send record => some record
  | _ => none

/-- The writer has not found its channel empty for good. -/
def WriterPhase.receiving : WriterPhase → Bool
  | .selecting | .draining => true
  | .exiting | .returned => false

namespace UsageWriter

/-- One more event, for the records that were accepted in time. -/
def noteInTime (inTime : List UsageRecord) (s : UsageWriter) (event : WriterEvent)
    (_ : UsageWriter) : List UsageRecord :=
  if s.phase.receiving then inTime ++ event.accepted.toList else inTime

/-- The records that were accepted while the writer was still receiving. -/
def inTime (tr : List WriterEvent) : List UsageRecord := observe step noteInTime init [] tr

/-- The records that were accepted. -/
def accepted (tr : List WriterEvent) : List UsageRecord := tr.filterMap WriterEvent.accepted

/-- A batch flushed in the loop. -/
def Batch (batch : List UsageRecord) : Prop := 1 ≤ batch.length ∧ batch.length ≤ usageBatchSize

/-! ## The invariant -/

/-- Where the records accepted in time are. -/
structure Holds (s : UsageWriter) (inTime : List UsageRecord) : Prop where
  receiving : s.phase.receiving = true → s.flushed.flatten ++ s.buffer ++ s.channel = inTime
  exiting : s.phase.receiving = false → s.flushed.flatten ++ s.buffer = inTime
  returned : s.phase = .returned → s.buffer = []
  batches : s.phase ≠ .returned → ∀ batch ∈ s.flushed, Batch batch
  last : s.phase = .returned →
    ∃ batches batch, s.flushed = batches ++ [batch] ∧ ∀ batch ∈ batches, Batch batch

/-- A full buffer does not stay in the loop. -/
def Room (s : UsageWriter) : Prop := s.phase = .selecting → s.buffer.length < usageBatchSize

variable {s s' : UsageWriter} {records : List UsageRecord} {event : WriterEvent}
  {tr : List WriterEvent}

theorem holds_init : Holds init [] where
  receiving := fun _ => rfl
  exiting := fun h => by cases h
  returned := fun h => by cases h
  batches := fun _ batch h => by cases h
  last := fun h => by cases h

theorem flush_flatten :
    s.flush.flushed.flatten ++ s.flush.buffer = s.flushed.flatten ++ s.buffer := by
  simp [flush]

theorem flush_room : s.flush.Room := fun _ => Nat.zero_lt_succ 127

theorem flush_batches (h : ∀ batch ∈ s.flushed, Batch batch) (hbuffer : Batch s.buffer) :
    ∀ batch ∈ s.flush.flushed, Batch batch := by
  intro batch hbatch
  rcases List.mem_append.1 hbatch with hbatch | hbatch
  · exact h batch hbatch
  · rw [List.mem_singleton] at hbatch
    exact hbatch ▸ hbuffer

/-- The records stay in place when the loop flushes. -/
theorem Holds.flush (h : Holds s records) (hp : s.phase = .selecting) (hbuffer : Batch s.buffer) :
    Holds s.flush records where
  receiving := fun hr => by
    rw [flush_flatten]
    exact h.receiving hr
  exiting := fun hr => by
    rw [flush_flatten]
    exact h.exiting hr
  returned := fun _ => rfl
  batches := fun hne => flush_batches (h.batches hne) hbuffer
  last := fun hr => by
    rw [show s.flush.phase = s.phase from rfl, hp] at hr
    cases hr

theorem Holds.take (h : Holds s records) {record : UsageRecord} {rest : List UsageRecord}
    (hr : s.phase.receiving = true) (hchannel : s.channel = record :: rest) :
    Holds (s.take record rest) records where
  receiving := fun _ => by
    have hin := h.receiving hr
    rw [hchannel] at hin
    simpa [UsageWriter.take] using hin
  exiting := fun hnr => by
    rw [show (s.take record rest).phase = s.phase from rfl, hr] at hnr
    cases hnr
  returned := fun hp => by
    rw [show s.phase = .returned from hp] at hr
    cases hr
  batches := h.batches
  last := h.last

/-- The loop is left on an empty channel. -/
theorem Holds.exit (h : Holds s records) (hr : s.phase.receiving = true) (hempty : s.channel = []) :
    Holds { s with phase := .exiting } records where
  receiving := fun h => by cases h
  exiting := fun _ => by
    have hin := h.receiving hr
    rwa [hempty, List.append_nil] at hin
  returned := fun h => by cases h
  batches := fun _ => h.batches fun hp => by
    rw [hp] at hr
    cases hr
  last := fun h => by cases h

theorem Holds.finalFlush (h : Holds s records) (hp : s.phase = .exiting) :
    Holds { s.flush with phase := .returned } records where
  receiving := fun h => by cases h
  exiting := fun _ => by
    have hin := h.exiting (by rw [hp]; rfl)
    rwa [← flush_flatten] at hin
  returned := fun _ => rfl
  batches := fun hne => absurd rfl hne
  last := fun _ => ⟨s.flushed, s.buffer, rfl, h.batches (by rw [hp]; decide)⟩

theorem Holds.step (h : Holds s records) (hroom : s.Room) (hs : s.step event = some s') :
    Holds s' (noteInTime records s event s') ∧ s'.Room := by
  have hnote : ∀ {event : WriterEvent}, event.accepted = none →
      noteInTime records s event s' = records := by
    intro event hnone
    simp [noteInTime, hnone]
  cases event with
  | send record =>
    simp only [UsageWriter.step, Option.ite_none_right_eq_some] at hs
    obtain ⟨⟨-, -, hne⟩, hs⟩ := hs
    cases hs
    refine ⟨⟨fun hr => ?_, fun hr => ?_, h.returned, h.batches, h.last⟩, hroom⟩
    · have hr' : s.phase.receiving = true := hr
      rw [noteInTime, if_pos hr', ← h.receiving hr']
      simp [WriterEvent.accepted]
    · have hr' : s.phase.receiving = false := hr
      rw [noteInTime, hr']
      exact h.exiting hr'
  | close =>
    cases hs
    rw [hnote rfl]
    exact ⟨⟨h.receiving, h.exiting, h.returned, h.batches, h.last⟩, hroom⟩
  | signal =>
    cases hs
    rw [hnote rfl]
    exact ⟨⟨h.receiving, h.exiting, h.returned, h.batches, h.last⟩, hroom⟩
  | recv =>
    rw [hnote rfl]
    simp only [UsageWriter.step, Option.ite_none_right_eq_some] at hs
    obtain ⟨hp, hs⟩ := hs
    have hr : s.phase.receiving = true := by rw [hp]; rfl
    split at hs
    · rename_i record rest hchannel
      have htake := h.take hr hchannel
      have hbuffer : (s.take record rest).buffer.length = s.buffer.length + 1 := by
        simp [UsageWriter.take]
      have hlt := hroom hp
      split at hs
      · cases hs
        exact ⟨htake.flush hp ⟨by omega, by omega⟩, flush_room⟩
      · cases hs
        exact ⟨htake, fun _ => by omega⟩
    · rename_i hempty
      split at hs
      · cases hs
      · cases hs
        exact ⟨h.exit hr hempty, fun h => by cases h⟩
  | tick =>
    rw [hnote rfl]
    simp only [UsageWriter.step, Option.ite_none_right_eq_some] at hs
    obtain ⟨hp, hs⟩ := hs
    have hlt := hroom hp
    split at hs
    · rename_i hbuffer
      cases hs
      exact ⟨h.flush hp ⟨List.length_pos_of_ne_nil hbuffer, by omega⟩, flush_room⟩
    · cases hs
      exact ⟨h, hroom⟩
  | shutdown =>
    rw [hnote rfl]
    simp only [UsageWriter.step, Option.ite_none_right_eq_some] at hs
    obtain ⟨⟨hp, -⟩, hs⟩ := hs
    cases hs
    have hr : s.phase.receiving = true := by rw [hp]; rfl
    have hbatches := h.batches (by rw [hp]; decide)
    exact ⟨⟨fun _ => h.receiving hr, (fun h => by cases h), (fun h => by cases h),
      fun _ => hbatches, fun h => by cases h⟩, fun h => by cases h⟩
  | drain =>
    rw [hnote rfl]
    simp only [UsageWriter.step, Option.ite_none_right_eq_some] at hs
    obtain ⟨hp, hs⟩ := hs
    have hr : s.phase.receiving = true := by rw [hp]; rfl
    split at hs
    · rename_i record rest hchannel
      cases hs
      refine ⟨h.take hr hchannel, fun hselect => ?_⟩
      rw [show s.phase = .selecting from hselect] at hp
      cases hp
    · rename_i hempty
      cases hs
      exact ⟨h.exit hr hempty, fun h => by cases h⟩
  | finalFlush =>
    rw [hnote rfl]
    simp only [UsageWriter.step, Option.ite_none_right_eq_some] at hs
    obtain ⟨hp, hs⟩ := hs
    cases hs
    exact ⟨h.finalFlush hp, fun h => by cases h⟩

/-! ## Runs -/

theorem holds_run (h : Steps step init tr s) : Holds s (inTime tr) ∧ s.Room :=
  h.inv_observe (I := fun s records => Holds s records ∧ s.Room) ⟨holds_init, fun _ => by decide⟩
    fun _ _ _ _ hu _ hs => hu.1.step hu.2 hs

/-- The writer is in its loop, or no sender is left. -/
def LoopOrClosed (s : UsageWriter) : Prop :=
  s.phase = .selecting ∨ s.phase ≠ .draining ∧ s.isOpen = false

/-- Without a shutdown the loop is left only when no sender is left. -/
theorem LoopOrClosed.step (h : s.LoopOrClosed) (hevent : event ≠ .shutdown)
    (hs : s.step event = some s') : s'.LoopOrClosed := by
  cases event with
  | send record =>
    simp only [UsageWriter.step, Option.ite_none_right_eq_some] at hs
    obtain ⟨-, hs⟩ := hs
    cases hs
    exact h
  | close =>
    cases hs
    exact h.imp_right fun hclosed => ⟨hclosed.1, rfl⟩
  | signal =>
    cases hs
    exact h
  | recv =>
    simp only [UsageWriter.step, Option.ite_none_right_eq_some] at hs
    obtain ⟨hp, hs⟩ := hs
    split at hs
    · split at hs
      · cases hs
        exact .inl hp
      · cases hs
        exact .inl hp
    · split at hs
      · cases hs
      · rename_i hclosed
        cases hs
        exact .inr ⟨(fun hdrain => by cases hdrain), eq_false_of_ne_true hclosed⟩
  | tick =>
    simp only [UsageWriter.step, Option.ite_none_right_eq_some] at hs
    obtain ⟨hp, hs⟩ := hs
    split at hs
    · cases hs
      exact .inl hp
    · cases hs
      exact .inl hp
  | shutdown => exact absurd rfl hevent
  | drain =>
    simp only [UsageWriter.step, Option.ite_none_right_eq_some] at hs
    obtain ⟨hp, -⟩ := hs
    rcases h with hselect | ⟨hne, -⟩
    · rw [hp] at hselect
      cases hselect
    · exact absurd hp hne
  | finalFlush =>
    simp only [UsageWriter.step, Option.ite_none_right_eq_some] at hs
    obtain ⟨hp, hs⟩ := hs
    rcases h with hselect | ⟨-, hclosed⟩
    · rw [hp] at hselect
      cases hselect
    · cases hs
      exact .inr ⟨(fun hdrain => by cases hdrain), hclosed⟩

/-- Then every record that is accepted is accepted in time. -/
theorem LoopOrClosed.noteInTime (h : s.LoopOrClosed) (hs : s.step event = some s') :
    noteInTime records s event s' = records ++ event.accepted.toList := by
  rcases h with hselect | ⟨-, hclosed⟩
  · rw [UsageWriter.noteInTime, hselect]
    rfl
  · have hnone : event.accepted = none := by
      cases event with
      | send record =>
        simp only [UsageWriter.step, hclosed, Bool.false_eq_true, false_and, if_false] at hs
        cases hs
      | _ => rfl
    simp [UsageWriter.noteInTime, hnone]

/-- A run without a shutdown accepts every record in time. -/
theorem inTime_eq_accepted (h : Steps step init tr s) (hshutdown : .shutdown ∉ tr) :
    inTime tr = accepted tr ∧ s.LoopOrClosed := by
  induction h with
  | nil => exact ⟨rfl, .inl rfl⟩
  | @snoc tr u v event hr _ hs ih =>
    obtain ⟨hsame, hloop⟩ := ih fun hmem => hshutdown (List.mem_append_left _ hmem)
    have hevent : event ≠ .shutdown := fun heq => hshutdown (by simp [heq])
    refine ⟨?_, hloop.step hevent hs⟩
    calc inTime (tr ++ [event]) = UsageWriter.noteInTime (inTime tr) u event v :=
          observe_snoc [] hr.exec hs
      _ = accepted tr ++ event.accepted.toList := by rw [hloop.noteInTime hs, hsame]
      _ = accepted (tr ++ [event]) := by
          cases hrecord : event.accepted <;> simp [accepted, hrecord]

end UsageWriter

open UsageWriter

/-- **The writer delivers.** However sends, receives, ticks, a shutdown and the closing of the
channel interleave: every batch flushed in the loop has between one record and a full batch, and
when the writer returns it has flushed exactly the records that were accepted until it found its
channel empty on the way out, each once and in order; these are all accepted records when it was
not shut down. -/
theorem writer_delivers {tr : List WriterEvent} {s : UsageWriter} (hrun : Steps step init tr s) :
    (s.phase ≠ .returned → ∀ batch ∈ s.flushed, Batch batch) ∧
      (s.phase = .returned → s.flushed.flatten = inTime tr ∧
        (.shutdown ∉ tr → s.flushed.flatten = accepted tr) ∧
        ∃ batches last, s.flushed = batches ++ [last] ∧ ∀ batch ∈ batches, Batch batch) := by
  obtain ⟨h, -⟩ := holds_run hrun
  refine ⟨h.batches, fun hreturned => ?_⟩
  have hflushed : s.flushed.flatten = inTime tr := by
    have hexit := h.exiting (by rw [hreturned]; rfl)
    rwa [h.returned hreturned, List.append_nil] at hexit
  refine ⟨hflushed, fun hshutdown => ?_, h.last hreturned⟩
  rw [hflushed, (inTime_eq_accepted hrun hshutdown).1]

/-- A record of a request to `p` that reports no usage. -/
def sampleRecord (requestId : String) : UsageRecord :=
  ⟨requestId, 0, "p", .openAi, "/v1/chat/completions", none, none, none, none, 200, 1, none, none,
    none, none, none, none, none, none, .providerResponse, none⟩

/-- A record is flushed by a tick; one more arrives with the shutdown, one while the writer drains,
and one too late. -/
def writerRun : List WriterEvent :=
  [.send (sampleRecord "a"), .recv, .tick, .send (sampleRecord "b"), .signal, .shutdown,
    .drain, .send (sampleRecord "c"), .drain, .drain, .send (sampleRecord "d"), .finalFlush]

theorem writer_delivers_sample : ∃ s, exec step init writerRun = some s ∧
    s.phase = .returned ∧ s.flushed.flatten = inTime writerRun ∧
    inTime writerRun = [sampleRecord "a", sampleRecord "b", sampleRecord "c"] := by
  have hex : (exec step init writerRun).any (·.phase = .returned) = true := by decide +kernel
  obtain ⟨s, hs, hreturned⟩ := (Option.any_eq_true _ _).1 hex
  have hreturned := of_decide_eq_true hreturned
  exact ⟨s, hs, hreturned, ((writer_delivers (steps_of_exec hs)).2 hreturned).1,
    by decide +kernel⟩

end LiteAgentify
