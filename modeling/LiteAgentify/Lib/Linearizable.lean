import LiteAgentify.Lib.Run

/-!
# Linearizable objects

Calls that run at the same time on an object, each with at most one step at which it takes effect
(its commit point). `Committing` says so of a step function and of a sequential object: a commit
applies the call to the abstract state and fixes its answer, every other step keeps both. Then every
run is linearizable (`Committing.linearizable`): the calls that took effect, in the order of their
commit points, are a sequential run with the same answers, and a call that returned before another
began comes before it.
-/

set_option autoImplicit false

namespace Lts

variable {σ L ι α β : Type*}

/-- How far a call has come, with its answer once that is fixed. -/
inductive CallPhase (β : Type*)
  | idle
  | pending
  /-- It has taken effect. -/
  | committed (answer : β)
  | returned (answer : β)
  /-- It ends without an effect. -/
  | aborted

namespace CallPhase

def answer : CallPhase β → Option β
  | committed b | returned b => some b
  | _ => none

/-- What a step that is no commit may do to the phase of a call. -/
inductive Moves : CallPhase β → CallPhase β → Prop
  | stay (p : CallPhase β) : Moves p p
  | begin : Moves idle pending
  | reply (b : β) : Moves (committed b) (returned b)
  | abort : Moves pending aborted
  | fail : Moves idle aborted

theorem Moves.answer {p q : CallPhase β} (h : Moves p q) : q.answer = p.answer := by
  cases h <;> rfl

theorem Moves.idle {p : CallPhase β} (h : Moves p idle) : p = .idle := by
  cases h
  rfl

end CallPhase

/-- The calls in the order of their commit points along a run. -/
def commitOrder (step : σ → L → Option σ) (commit : σ → L → Option ι) (s : σ) (tr : List L) :
    List ι :=
  observe step (fun order u l _ => order ++ (commit u l).toList) s [] tr

/-- A sequential order of calls explains a run: it has every call that took effect once, each with
the answer that the sequential object gives it there, and in an order that respects which calls had
returned before others began. -/
structure Linearization (step : σ → L → Option σ) (phase : σ → ι → CallPhase β) (apply : ι → α → α)
    (answer : ι → α → β) (s : σ) (a : α) (tr : List L) (v : σ) (order : List ι) : Prop where
  nodup : order.Nodup
  mem : ∀ i, i ∈ order ↔ (phase v i).answer.isSome
  answers : ∀ pre i post, order = pre ++ i :: post →
    (phase v i).answer = some (answer i (pre.foldl (fun a i => apply i a) a))
  realTime : ∀ pre u i j, pre <+: tr → exec step s pre = some u → (phase u i).answer.isSome →
    phase u j = .idle → ∃ before after, order = before ++ after ∧ i ∈ before ∧ j ∉ before

/-- Every step either commits one call, which had not taken effect, or keeps the abstract state and
every answer. -/
structure Committing (step : σ → L → Option σ) (ok : σ → L → Prop) (commit : σ → L → Option ι)
    (phase : σ → ι → CallPhase β) (apply : ι → α → α) (answer : ι → α → β) (rel : σ → α → Prop) :
    Prop where
  keeps : ∀ {u l w a}, rel u a → ok u l → step u l = some w → commit u l = none →
    rel w a ∧ ∀ i, (phase u i).Moves (phase w i)
  commits : ∀ {u l w a i}, rel u a → ok u l → step u l = some w → commit u l = some i →
    rel w (apply i a) ∧ (phase u i).answer = none ∧ (phase w i).answer = some (answer i a) ∧
      ∀ j, j ≠ i → (phase u j).Moves (phase w j)

section
variable {step : σ → L → Option σ} {ok : σ → L → Prop} {commit : σ → L → Option ι}
  {phase : σ → ι → CallPhase β} {apply : ι → α → α} {answer : ι → α → β} {rel : σ → α → Prop}
  {s u v : σ} {a : α} {tr : List L} {l : L}

theorem commitOrder_snoc (h : exec step s tr = some u) (hs : step u l = some v) :
    commitOrder step commit s (tr ++ [l]) =
      commitOrder step commit s tr ++ (commit u l).toList := by
  rw [commitOrder, observe_snoc [] h hs]
  rfl

/-- What has committed early in a run comes first in its order. -/
theorem commitOrder_prefix {pre : List L} (h : Run step ok s tr v) (hpre : pre <+: tr) :
    commitOrder step commit s pre <+: commitOrder step commit s tr := by
  induction h with
  | nil =>
    rw [List.prefix_nil] at hpre
    subst hpre
    exact List.prefix_refl _
  | @snoc tr u w l hr hg hs ih =>
    rcases List.prefix_concat_iff.1 hpre with rfl | hpre
    · exact List.prefix_refl _
    · rw [commitOrder_snoc hr.exec hs]
      exact (ih hpre).trans (List.prefix_append _ _)

/-- The part of a linearization that one state shows. -/
structure Committed (phase : σ → ι → CallPhase β) (apply : ι → α → α) (answer : ι → α → β)
    (rel : σ → α → Prop) (a : α) (v : σ) (order : List ι) : Prop where
  rel : rel v (order.foldl (fun a i => apply i a) a)
  nodup : order.Nodup
  mem : ∀ i, i ∈ order ↔ (phase v i).answer.isSome
  answers : ∀ pre i post, order = pre ++ i :: post →
    (phase v i).answer = some (answer i (pre.foldl (fun a i => apply i a) a))

theorem Committed.keeps {order : List ι} {w : σ} (h : Committed phase apply answer rel a v order)
    (hrel : rel w (order.foldl (fun a i => apply i a) a))
    (hmoves : ∀ i, (phase v i).Moves (phase w i)) :
    Committed phase apply answer rel a w order where
  rel := hrel
  nodup := h.nodup
  mem i := by rw [h.mem, (hmoves i).answer]
  answers pre i post hsplit := by rw [(hmoves i).answer, h.answers pre i post hsplit]

theorem Committed.commits {order : List ι} {w : σ} {i : ι}
    (h : Committed phase apply answer rel a v order)
    (hrel : rel w (apply i (order.foldl (fun a i => apply i a) a)))
    (hnone : (phase v i).answer = none)
    (hsome : (phase w i).answer = some (answer i (order.foldl (fun a i => apply i a) a)))
    (hmoves : ∀ j, j ≠ i → (phase v j).Moves (phase w j)) :
    Committed phase apply answer rel a w (order ++ [i]) := by
  have hnew : i ∉ order := by
    rw [h.mem, hnone]
    simp
  refine ⟨?_, ?_, fun j => ?_, fun pre j post hsplit => ?_⟩
  · rw [List.foldl_append]
    exact hrel
  · exact List.nodup_append.2 ⟨h.nodup, List.nodup_singleton i, by
      intro x hx y hy
      rw [List.mem_singleton] at hy
      rintro rfl
      exact hnew (hy ▸ hx)⟩
  · by_cases hj : j = i
    · subst hj
      simp [hsome]
    · rw [List.mem_append, h.mem, (hmoves j hj).answer]
      simp [hj]
  · -- the call at the split is the new one exactly if nothing follows it
    rcases List.append_eq_append_iff.1 hsplit with ⟨rest, rfl, hrest⟩ | ⟨rest, rfl, hrest⟩
    · cases rest with
      | nil =>
        cases hrest
        simpa using hsome
      | cons x rest =>
        simp only [List.cons_append, List.cons.injEq] at hrest
        obtain ⟨-, hrest⟩ := hrest
        exact absurd hrest (by simp)
    · cases rest with
      | nil =>
        simp only [List.nil_append, List.cons.injEq] at hrest
        obtain ⟨rfl, -⟩ := hrest
        simpa using hsome
      | cons x rest =>
        simp only [List.cons_append, List.cons.injEq] at hrest
        obtain ⟨rfl, -⟩ := hrest
        have hne : j ≠ i := by
          rintro rfl
          exact hnew (by simp)
        rw [(hmoves j hne).answer, h.answers pre j rest rfl]

theorem Committing.committed (h : Committing step ok commit phase apply answer rel)
    (hr : Run step ok s tr v) (hrel : rel s a) (hidle : ∀ i, (phase s i).answer = none) :
    Committed phase apply answer rel a v (commitOrder step commit s tr) := by
  induction hr with
  | nil => exact ⟨hrel, List.nodup_nil, fun i => by simp [commitOrder, observe, hidle], by
      simp [commitOrder, observe]⟩
  | @snoc tr u w l hr hg hs ih =>
    rw [commitOrder_snoc hr.exec hs]
    cases hc : commit u l with
    | none =>
      obtain ⟨hw, hmoves⟩ := h.keeps ih.rel hg hs hc
      rw [Option.toList_none, List.append_nil]
      exact ih.keeps hw hmoves
    | some i =>
      obtain ⟨hw, hnone, hsome, hmoves⟩ := h.commits ih.rel hg hs hc
      exact ih.commits hw hnone hsome hmoves

/-- **Linearizability.** A run whose steps commit the calls one at a time is explained by the order
of its commit points, and ends in an abstract state that the calls reach in that order. -/
theorem Committing.linearizable (h : Committing step ok commit phase apply answer rel)
    (hr : Run step ok s tr v) (hrel : rel s a) (hidle : ∀ i, (phase s i).answer = none) :
    Linearization step phase apply answer s a tr v (commitOrder step commit s tr) ∧
      rel v ((commitOrder step commit s tr).foldl (fun a i => apply i a) a) := by
  have hv := h.committed hr hrel hidle
  refine ⟨⟨hv.nodup, hv.mem, hv.answers, fun pre u i j hpre hu hi hj => ?_⟩, hv.rel⟩
  obtain ⟨after, hafter⟩ : commitOrder step commit s pre <+: commitOrder step commit s tr :=
    commitOrder_prefix hr hpre
  have hrun : Run step ok s pre u := hr.prefix hpre hu
  have hmem := (h.committed hrun hrel hidle).mem
  refine ⟨_, after, hafter.symm, (hmem i).2 hi, fun hmem' => ?_⟩
  have := (hmem j).1 hmem'
  rw [hj] at this
  cases this

end

end Lts
