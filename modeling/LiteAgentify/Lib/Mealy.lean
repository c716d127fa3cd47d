import Mathlib.Data.List.Induction
import Mathlib.Logic.Function.Basic

/-!
# Machines that answer

A machine answers a call and changes its state. `answers` and `after` are what a list of calls
brings. Two machines answer alike when their states can be kept in a relation, which may look back
at the calls so far, as may the condition on the calls (`simulate`). `each` runs one machine for
every key. One is answered as if alone when no one else's calls can be seen (`alone`).
-/

set_option autoImplicit false

namespace Mealy

variable {σ τ ι α κ : Type*}

/-- The state after a list of calls. -/
def after (call : σ → ι → α × σ) (s : σ) (calls : List ι) : σ :=
  calls.foldl (fun s c => (call s c).2) s

def answers (call : σ → ι → α × σ) : σ → List ι → List α
  | _, [] => []
  | s, c :: calls => (call s c).1 :: answers call (call s c).2 calls

/-- The answers to one's own calls, when others call in between. -/
def ownAnswers (call : σ → ι → α × σ) (own : ι → Bool) : σ → List ι → List α
  | _, [] => []
  | s, c :: calls =>
    (if own c then [(call s c).1] else []) ++ ownAnswers call own (call s c).2 calls

/-- Every call meets the condition in the state in which it comes. -/
def Throughout (call : σ → ι → α × σ) (ok : σ → ι → Prop) : σ → List ι → Prop
  | _, [] => True
  | s, c :: calls => ok s c ∧ Throughout call ok (call s c).2 calls

/-- One machine for every key; a call is for the machine of its key. -/
def each [DecidableEq κ] (key : ι → κ) (call : σ → ι → α × σ) (s : κ → σ) (c : ι) :
    α × (κ → σ) :=
  ((call (s (key c)) c).1, Function.update s (key c) (call (s (key c)) c).2)

section
variable {call : σ → ι → α × σ} {call' : τ → ι → α × τ} {s : σ} {t : τ}

theorem after_append (calls calls' : List ι) :
    after call s (calls ++ calls') = after call (after call s calls) calls' :=
  List.foldl_append

theorem after_snoc (calls : List ι) (c : ι) :
    after call s (calls ++ [c]) = (call (after call s calls) c).2 := after_append calls [c]

theorem answers_snoc (calls : List ι) (c : ι) :
    answers call s (calls ++ [c]) = answers call s calls ++ [(call (after call s calls) c).1] := by
  induction calls generalizing s with
  | nil => rfl
  | cons c' calls ih =>
    rw [List.cons_append, answers, ih]
    rfl

theorem ownAnswers_snoc {own : ι → Bool} (calls : List ι) (c : ι) :
    ownAnswers call own s (calls ++ [c]) =
      ownAnswers call own s calls ++ if own c then [(call (after call s calls) c).1] else [] := by
  induction calls generalizing s with
  | nil => exact List.append_nil _
  | cons c' calls ih =>
    rw [List.cons_append, ownAnswers, ih, ownAnswers, List.append_assoc]
    rfl

theorem throughout_snoc {ok : σ → ι → Prop} (calls : List ι) (c : ι) :
    Throughout call ok s (calls ++ [c]) ↔
      Throughout call ok s calls ∧ ok (after call s calls) c := by
  induction calls generalizing s with
  | nil => exact ⟨fun h => ⟨trivial, h.1⟩, fun h => ⟨h.2, trivial⟩⟩
  | cons c' calls ih =>
    rw [List.cons_append, Throughout, ih, Throughout, and_assoc]
    rfl

instance decidableThroughout {ok : σ → ι → Prop} [∀ s c, Decidable (ok s c)] :
    ∀ (s : σ) (calls : List ι), Decidable (Throughout call ok s calls)
  | _, [] => inferInstanceAs (Decidable True)
  | s, c :: calls =>
    have : Decidable (Throughout call ok (call s c).2 calls) := decidableThroughout _ calls
    inferInstanceAs (Decidable (_ ∧ _))

/-- **Simulation.** Two machines that stay related answer alike. -/
theorem simulate {R : List ι → σ → τ → Prop} {C : List ι → Prop}
    (hinit : ∀ calls c, C (calls ++ [c]) → C calls) (h0 : R [] s t)
    (hstep : ∀ calls c u v, R calls u v → C (calls ++ [c]) →
      (call u c).1 = (call' v c).1 ∧ R (calls ++ [c]) (call u c).2 (call' v c).2)
    {calls : List ι} (h : C calls) :
    answers call s calls = answers call' t calls ∧
      R calls (after call s calls) (after call' t calls) := by
  induction calls using List.reverseRecOn with
  | nil => exact ⟨rfl, h0⟩
  | append_singleton calls c ih =>
    obtain ⟨hanswers, hr⟩ := ih (hinit _ _ h)
    obtain ⟨hanswer, hr'⟩ := hstep calls c _ _ hr h
    rw [answers_snoc, answers_snoc, after_snoc, after_snoc, hanswers, hanswer]
    exact ⟨rfl, hr'⟩

/-- **Noninterference.** When one's own calls are answered alike in related states and the calls of
others keep the relation, one is answered as if the others had not called. -/
theorem alone {own : ι → Bool} {s t : σ} {R : List ι → σ → σ → Prop} {C : List ι → Prop}
    (hinit : ∀ calls c, C (calls ++ [c]) → C calls) (h0 : R [] s t)
    (hown : ∀ calls c u v, R calls u v → C (calls ++ [c]) → own c = true →
      (call u c).1 = (call v c).1 ∧ R (calls ++ [c]) (call u c).2 (call v c).2)
    (hother : ∀ calls c u v, R calls u v → C (calls ++ [c]) → own c = false →
      R (calls ++ [c]) (call u c).2 v)
    {calls : List ι} (h : C calls) :
    ownAnswers call own s calls = answers call t (calls.filter own) ∧
      R calls (after call s calls) (after call t (calls.filter own)) := by
  induction calls using List.reverseRecOn with
  | nil => exact ⟨rfl, h0⟩
  | append_singleton calls c ih =>
    obtain ⟨hanswers, hr⟩ := ih (hinit _ _ h)
    rw [ownAnswers_snoc, after_snoc, List.filter_append, hanswers]
    cases hc : own c with
    | true =>
      obtain ⟨hanswer, hr'⟩ := hown calls c _ _ hr h hc
      rw [List.filter_cons_of_pos hc, List.filter_nil, if_pos rfl, answers_snoc, after_snoc,
        hanswer]
      exact ⟨rfl, hr'⟩
    | false =>
      rw [List.filter_cons_of_neg (by simp [hc]), List.filter_nil, if_neg (by decide),
        List.append_nil, List.append_nil]
      exact ⟨rfl, hother calls c _ _ hr h hc⟩

end

end Mealy
