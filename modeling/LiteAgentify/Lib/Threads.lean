import LiteAgentify.Lib.Run
import Mathlib.Logic.Function.Basic

/-!
# Programs that share a state

A program is a sequence of statements on a state that it shares with others; it goes on with the
answer of each. Any number of programs run at the same time, one statement of one of them after
another; what a statement leaves open (whether it fails, say) is a choice that may be made
differently every time. `Program.Safe` says of a program that its statements keep an invariant of
the state when others that keep it run in between: all that a program knows of the state is what its
answers told it. Safe programs keep the invariant together (`System.Safe.run`). `Program.alone` runs
a program by itself, and programs that run so one after another are a run of the system
(`System.steps_sequentially`).
-/

set_option autoImplicit false

namespace Threads

universe u v w

/-- A program of statements `q : Q` with answers in `A q`. -/
inductive Program (Q : Type u) (A : Q → Type v) (R : Type w)
  | done (result : R)
  | call (q : Q) (next : A q → Program Q A R)

namespace Program

variable {Q : Type u} {A : Q → Type v} {R R' : Type w}

protected def bind : Program Q A R → (R → Program Q A R') → Program Q A R'
  | done result, k => k result
  | call q next, k => call q fun answer => (next answer).bind k

instance : Monad (Program Q A) where
  pure := done
  bind := Program.bind

/-- One statement. -/
def query {Q : Type u} {A : Q → Type v} (q : Q) : Program Q A (A q) := call q done

section
variable {σ C : Type*} (exec : (q : Q) → C → σ → σ × A q)

/-! ## A program by itself -/

/-- Every statement with the same choice. -/
def alone (choice : C) : Program Q A R → σ → σ × R
  | done result, s => (s, result)
  | call q next, s => (next (exec q choice s).2).alone choice (exec q choice s).1

variable {exec} {choice : C}

theorem alone_bind (p : Program Q A R) (k : R → Program Q A R') (s : σ) :
    (p >>= k).alone exec choice s =
      (k (p.alone exec choice s).2).alone exec choice (p.alone exec choice s).1 := by
  induction p generalizing s with
  | done result => rfl
  | call q next ih => exact ih (exec q choice s).2 (exec q choice s).1

/-! ## Safe programs -/

variable (exec) in
/-- The statements keep `I`, whatever others that keep it do in between, and the result has the
property. -/
def Safe (I : σ → Prop) (post : R → Prop) : Program Q A R → Prop
  | done result => post result
  | call q next => ∀ choice s, I s →
    I (exec q choice s).1 ∧ (next (exec q choice s).2).Safe I post

variable {I : σ → Prop} {post : R → Prop} {post' : R' → Prop}

theorem Safe.bind {p : Program Q A R} {k : R → Program Q A R'} (h : p.Safe exec I post)
    (hk : ∀ result, post result → (k result).Safe exec I post') :
    (p >>= k).Safe exec I post' := by
  induction p with
  | done result => exact hk result h
  | call q next ih => exact fun choice s hs => ⟨(h choice s hs).1, ih _ (h choice s hs).2⟩

end

end Program

/-! ## Systems -/

/-- Programs on one state. -/
structure System (ι : Type*) (σ : Type*) (Q : Type u) (A : Q → Type v) (R : Type w) where
  state : σ
  thread : ι → Program Q A R

namespace System

variable {ι σ C : Type*} {Q : Type u} {A : Q → Type v} {R : Type w} [DecidableEq ι]
  (exec : (q : Q) → C → σ → σ × A q)

/-- The state that a statement leaves, and how its thread goes on. -/
def next (s : System ι σ Q A R) (i : ι) (state : σ) (p : Program Q A R) : System ι σ Q A R :=
  ⟨state, Function.update s.thread i p⟩

@[simp]
theorem next_self (s : System ι σ Q A R) (i : ι) (state : σ) (p : Program Q A R) :
    (s.next i state p).thread i = p := Function.update_self _ _ _

theorem next_of_ne {s : System ι σ Q A R} {i j : ι} {state : σ} {p : Program Q A R} (h : j ≠ i) :
    (s.next i state p).thread j = s.thread j := Function.update_of_ne h _ _

theorem next_next (s : System ι σ Q A R) (i : ι) (state state' : σ) (p p' : Program Q A R) :
    (s.next i state p).next i state' p' = s.next i state' p' := by
  simp only [next, Function.update_idem]

/-- The next statement of a thread. -/
def step (s : System ι σ Q A R) (l : ι × C) : Option (System ι σ Q A R) :=
  match s.thread l.1 with
  | .done _ => none
  | .call q next => some (s.next l.1 (exec q l.2 s.state).1 (next (exec q l.2 s.state).2))

variable {exec} {I : σ → Prop} {post : ι → R → Prop} {s s' : System ι σ Q A R} {l : ι × C}

/-- The invariant holds, and every thread is safe. -/
structure Safe (exec : (q : Q) → C → σ → σ × A q) (I : σ → Prop)
    (post : ι → R → Prop) (s : System ι σ Q A R) : Prop where
  state : I s.state
  thread : ∀ i, (s.thread i).Safe exec I (post i)

theorem Safe.step (h : s.Safe exec I post) (hs : s.step exec l = some s') :
    s'.Safe exec I post := by
  obtain ⟨i, choice⟩ := l
  unfold System.step at hs
  have hthread := h.thread i
  dsimp only at hs
  split at hs
  · cases hs
  · rename_i q next hcall
    cases hs
    rw [hcall] at hthread
    obtain ⟨hstate, hnext⟩ := hthread choice s.state h.state
    refine ⟨hstate, fun j => ?_⟩
    by_cases hj : j = i
    · subst hj
      rw [next_self]
      exact hnext
    · rw [next_of_ne hj]
      exact h.thread j

/-- **Safe programs keep their invariant together.** -/
theorem Safe.run {tr : List (ι × C)} (h : s.Safe exec I post)
    (hrun : Lts.Steps (System.step exec) s tr s') : s'.Safe exec I post :=
  hrun.inv h fun _ _ _ hu _ hs => hu.step hs

variable (exec) in
/-- A program that runs by itself is a run of its thread. -/
theorem steps_alone (choice : C) (i : ι) (p : Program Q A R) (h : s.thread i = p) :
    ∃ n, Lts.Steps (step exec) s (List.replicate n (i, choice))
      (s.next i (p.alone exec choice s.state).1 (.done (p.alone exec choice s.state).2)) := by
  induction p generalizing s with
  | done result =>
    refine ⟨0, ?_⟩
    have hsame : s.next i s.state (.done result) = s := by
      rw [next, ← h, Function.update_eq_self]
    change Lts.Steps (step exec) s [] (s.next i s.state (.done result))
    rw [hsame]
    exact .nil
  | call q next ih =>
    have hstep : s.step exec (i, choice) =
        some (s.next i (exec q choice s.state).1 (next (exec q choice s.state).2)) := by
      simp only [step, h]
    obtain ⟨n, hrun⟩ := ih _ (s := s.next i _ (next (exec q choice s.state).2)) (next_self ..)
    rw [next_next] at hrun
    exact ⟨n + 1, (Lts.Run.nil.snoc trivial hstep).trans hrun⟩

variable (exec) in
/-- Programs that run one after another are a run of the system. -/
theorem steps_sequentially (s : System ι σ Q A R) (order : List (ι × C))
    (hnd : (order.map Prod.fst).Nodup) :
    ∃ tr v, Lts.Steps (step exec) s tr v ∧
      v.state = order.foldl (fun state l => ((s.thread l.1).alone exec l.2 state).1) s.state ∧
      ∀ i ∉ order.map Prod.fst, v.thread i = s.thread i := by
  induction order using List.reverseRecOn with
  | nil => exact ⟨[], s, .nil, rfl, fun _ _ => rfl⟩
  | append_singleton order l ih =>
    rw [List.map_append, List.map_singleton, List.nodup_append] at hnd
    obtain ⟨hnd, -, hdisjoint⟩ := hnd
    obtain ⟨tr, u, hrun, hstate, hthread⟩ := ih hnd
    -- the program has not been touched by the ones before it
    have hl : u.thread l.1 = s.thread l.1 :=
      hthread l.1 fun hmem => hdisjoint l.1 hmem l.1 (List.mem_singleton_self _) rfl
    obtain ⟨n, hlast⟩ := steps_alone exec (s := u) l.2 l.1 _ rfl
    refine ⟨_, _, hrun.trans hlast, ?_, fun i hi => ?_⟩
    · rw [List.foldl_append, ← hstate, hl]
      rfl
    · rw [List.map_append, List.mem_append, List.map_singleton, List.mem_singleton,
        not_or] at hi
      rw [next_of_ne hi.2, hthread i hi.1]

end System

end Threads
