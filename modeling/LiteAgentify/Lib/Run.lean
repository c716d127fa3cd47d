import Mathlib.Data.List.Induction
import Mathlib.Data.List.Nodup

/-!
# Runs of a labelled step function

`Run step ok s tr v`: from `s` the labels `tr` lead to `v`, every step taken in a state where the
guard `ok` allows it. `Run.inv` is the invariant rule, `Run.inv_iff` its form for a condition on the
steps that is necessary too, and `Run.inv_or_broken` for a guard that is; `observe` accumulates
what an observer sees along a run (`Run.inv_observe` is its invariant rule); `commits` lists the
labels of the steps marked as commit points, and `Run.serial` says that a run whose steps either
leave an abstract state alone or apply the committed label to it ends in the state that the
committed labels, applied one after another in that order, reach.
-/

set_option autoImplicit false

namespace Lts

variable {σ ι : Type*}

/-- Runs from `s` whose steps all meet the guard `ok`. -/
inductive Run (step : σ → ι → Option σ) (ok : σ → ι → Prop) (s : σ) : List ι → σ → Prop
  | nil : Run step ok s [] s
  | snoc {tr : List ι} {u v : σ} {l : ι} :
      Run step ok s tr u → ok u l → step u l = some v → Run step ok s (tr ++ [l]) v

/-- Runs without a guard. -/
abbrev Steps (step : σ → ι → Option σ) : σ → List ι → σ → Prop := Run step fun _ _ => True

/-- The state a list of labels leads to, when every step is possible. -/
def exec (step : σ → ι → Option σ) (s : σ) (tr : List ι) : Option σ :=
  tr.foldlM step s

section
variable {step : σ → ι → Option σ} {ok ok' : σ → ι → Prop} {s v : σ} {tr : List ι}

theorem Run.mono (h : Run step ok s tr v) (hok : ∀ u l, ok u l → ok' u l) :
    Run step ok' s tr v := by
  induction h with
  | nil => exact .nil
  | snoc _ hg hs ih => exact .snoc ih (hok _ _ hg) hs

/-- A guard that allows every label of a run. -/
theorem Run.restrict (h : Run step ok s tr v) (hok : ∀ u, ∀ l ∈ tr, ok' u l) :
    Run step ok' s tr v := by
  induction h with
  | nil => exact .nil
  | snoc _ _ hs ih =>
    have hpre := ih fun u l hl => hok u l (List.mem_append_left _ hl)
    exact hpre.snoc (hok _ _ (by simp)) hs

/-- The invariant rule: what holds at the start and is kept by every guarded step. -/
theorem Run.inv {I : σ → Prop} (h : Run step ok s tr v) (h0 : I s)
    (hstep : ∀ u l w, I u → ok u l → step u l = some w → I w) : I v := by
  induction h with
  | nil => exact h0
  | snoc _ hg hs ih => exact hstep _ _ _ ih hg hs

theorem Run.exec (h : Run step ok s tr v) : exec step s tr = some v := by
  induction h with
  | nil => rfl
  | snoc _ _ hs ih => simp [Lts.exec, List.foldlM_append] at ih ⊢; simp [ih, hs]

theorem steps_of_exec (h : exec step s tr = some v) : Steps step s tr v := by
  induction tr using List.reverseRecOn generalizing v with
  | nil => simp only [Lts.exec, List.foldlM_nil, pure, Option.some.injEq] at h; exact h ▸ .nil
  | append_singleton tr l ih =>
    simp only [Lts.exec, List.foldlM_append, List.foldlM_cons, List.foldlM_nil, bind_pure] at h
    cases hu : tr.foldlM step s with
    | none => simp [hu] at h
    | some u => exact .snoc (ih hu) trivial (by simpa [hu] using h)

/-- The steps that the guard allows. -/
def guarded (step : σ → ι → Option σ) (ok : σ → ι → Prop) [∀ s l, Decidable (ok s l)] (s : σ)
    (l : ι) : Option σ :=
  if ok s l then step s l else none

theorem run_of_guarded [∀ s l, Decidable (ok s l)] (h : Lts.exec (guarded step ok) s tr = some v) :
    Run step ok s tr v := by
  induction tr using List.reverseRecOn generalizing v with
  | nil =>
    cases h
    exact .nil
  | append_singleton tr l ih =>
    simp only [Lts.exec, List.foldlM_append, List.foldlM_cons, List.foldlM_nil, bind_pure] at h
    cases hu : tr.foldlM (guarded step ok) s with
    | none => simp [hu] at h
    | some u =>
      simp only [hu, Option.bind_eq_bind, Option.bind_some, guarded, Option.ite_none_right_eq_some]
        at h
      exact .snoc (ih hu) h.1 h.2

theorem Run.trans {tr' : List ι} {w : σ} (h : Run step ok s tr v) (h' : Run step ok v tr' w) :
    Run step ok s (tr ++ tr') w := by
  induction h' with
  | nil =>
    rw [List.append_nil]
    exact h
  | snoc _ hg hs ih =>
    rw [← List.append_assoc]
    exact ih.snoc hg hs

/-- The first part of a run is a run. -/
theorem Run.prefix {pre : List ι} {u : σ} (h : Run step ok s tr v) (hpre : pre <+: tr)
    (hu : Lts.exec step s pre = some u) : Run step ok s pre u := by
  induction h with
  | nil =>
    rw [List.prefix_nil] at hpre
    subst hpre
    cases hu
    exact .nil
  | snoc hr hg hs ih =>
    rcases List.prefix_concat_iff.1 hpre with rfl | hpre
    · cases (hr.snoc hg hs).exec.symm.trans hu
      exact hr.snoc hg hs
    · exact ih hpre

/-- A run is guarded when it was before its last step, and the guard allows that step. -/
theorem run_snoc_iff {u : σ} {l : ι} (h : Steps step s tr u) (hs : step u l = some v) :
    Run step ok s (tr ++ [l]) v ↔ Run step ok s tr u ∧ ok u l := by
  constructor
  · intro hr
    generalize htr : tr ++ [l] = tr' at hr
    cases hr with
    | nil => simp at htr
    | snoc hr' hg _ =>
      obtain ⟨rfl, hl⟩ := List.append_inj' htr rfl
      cases hl
      have := h.exec.symm.trans hr'.exec
      cases this
      exact ⟨hr', hg⟩
  · rintro ⟨hr, hg⟩
    exact hr.snoc hg hs

/-- When a step from a state with the invariant keeps it exactly if a condition holds of the state
and the label, a run has the invariant throughout exactly if all its steps meet the condition. -/
theorem Run.inv_iff {I : σ → Prop} {c : σ → ι → Prop} (h : Run step ok s tr v) (h0 : I s)
    (hstep : ∀ u l w, I u → ok u l → step u l = some w → (I w ↔ c u l)) :
    (∀ pre u, pre <+: tr → Lts.exec step s pre = some u → I u) ↔ Run step c s tr v := by
  induction h with
  | nil =>
    refine iff_of_true (fun pre u hpre hu => ?_) .nil
    rw [List.prefix_nil] at hpre
    subst hpre
    cases hu
    exact h0
  | @snoc tr u w l hr hg hs ih =>
    have hw : Lts.exec step s (tr ++ [l]) = some w := (hr.snoc hg hs).exec
    rw [run_snoc_iff (hr.mono fun _ _ _ => trivial) hs]
    constructor
    · intro hall
      have hpre := ih.1 fun pre u' hpre => hall pre u' (hpre.trans (List.prefix_append _ _))
      have hl := (hstep _ _ _ (hall tr u (List.prefix_append _ _) hr.exec) hg hs).1
        (hall _ w (List.prefix_refl _) hw)
      exact ⟨hpre, hl⟩
    · rintro ⟨hrun, hl⟩ pre u' hpre hu'
      have hold := ih.2 hrun
      rcases List.prefix_concat_iff.1 hpre with rfl | hpre
      · rw [hw] at hu'
        cases hu'
        exact (hstep _ _ _ (hold tr u (List.prefix_refl _) hr.exec) hg hs).2 hl
      · exact hold pre u' hpre hu'

/-- The invariant rule for a guard that is necessary too: guarded steps keep the invariant, a step
that the guard forbids breaks it, and what is broken stays so. -/
theorem Run.inv_or_broken {I J : σ → Prop} (h : Steps step s tr v) (h0 : I s)
    (hkeep : ∀ u l w, I u → ok u l → step u l = some w → I w)
    (hbreak : ∀ u l w, I u → ¬ ok u l → step u l = some w → J w)
    (hbroken : ∀ u l w, J u → step u l = some w → J w) :
    (Run step ok s tr v ∧ I v) ∨ (¬ Run step ok s tr v ∧ J v) := by
  induction h with
  | nil => exact .inl ⟨.nil, h0⟩
  | @snoc tr u w l hr _ hs ih =>
    rw [run_snoc_iff hr hs]
    rcases ih with ⟨hrun, hi⟩ | ⟨hrun, hj⟩
    · by_cases hg : ok u l
      · exact .inl ⟨⟨hrun, hg⟩, hkeep u l w hi hg hs⟩
      · exact .inr ⟨fun hc => hg hc.2, hbreak u l w hi hg hs⟩
    · exact .inr ⟨fun hc => hrun hc.1, hbroken u l w hj hs⟩

end

/-! ## Observers -/

/-- The step function with a record kept beside the state, for guards that look back. -/
def recorded {μ : Type*} (step : σ → ι → Option σ) (f : μ → σ → ι → σ → μ) (s : σ × μ) (l : ι) :
    Option (σ × μ) :=
  (step s.1 l).map fun v => (v, f s.2 s.1 l v)

theorem recorded_eq_some {μ : Type*} {step : σ → ι → Option σ} {f : μ → σ → ι → σ → μ}
    {s v : σ × μ} {l : ι} :
    recorded step f s l = some v ↔ step s.1 l = some v.1 ∧ v.2 = f s.2 s.1 l v.1 := by
  unfold recorded
  rw [Option.map_eq_some_iff]
  constructor
  · intro h
    obtain ⟨w, hw, rfl⟩ := h
    exact ⟨hw, rfl⟩
  · intro h
    exact ⟨v.1, h.1, Prod.ext rfl h.2.symm⟩

/-- What an observer that updates its view with `f` has seen after the labels `tr`. -/
def observe {μ : Type*} (step : σ → ι → Option σ) (f : μ → σ → ι → σ → μ) :
    σ → μ → List ι → μ
  | _, m, [] => m
  | s, m, l :: tr =>
    match step s l with
    | some s' => observe step f s' (f m s l s') tr
    | none => m

section
variable {μ : Type*} {step : σ → ι → Option σ} {ok : σ → ι → Prop} {f : μ → σ → ι → σ → μ}

theorem observe_snoc {s u v : σ} {tr : List ι} {l : ι} (m : μ)
    (h : exec step s tr = some u) (hs : step u l = some v) :
    observe step f s m (tr ++ [l]) = f (observe step f s m tr) u l v := by
  induction tr generalizing s m with
  | nil =>
    simp only [exec, List.foldlM_nil, pure, Option.some.injEq] at h
    subst h
    simp [observe, hs]
  | cons a tr ih =>
    simp only [exec, List.foldlM_cons] at h
    cases ha : step s a with
    | none => simp [ha] at h
    | some s' =>
      simp only [ha, Option.bind_eq_bind, Option.bind_some] at h
      simp only [List.cons_append, observe, ha]
      exact ih _ h

/-- The invariant rule for a state and what an observer has seen on the way to it. -/
theorem Run.inv_observe {I : σ → μ → Prop} {s v : σ} {tr : List ι} {m : μ}
    (h : Run step ok s tr v) (h0 : I s m)
    (hstep : ∀ u l w n, I u n → ok u l → step u l = some w → I w (f n u l w)) :
    I v (observe step f s m tr) := by
  induction h with
  | nil => exact h0
  | snoc hr hg hs ih =>
    rw [observe_snoc m hr.exec hs]
    exact hstep _ _ _ _ ih hg hs

end

/-! ## Commit points -/

/-- The labels of the commit steps of a run, in order. -/
def commits (step : σ → ι → Option σ) (commit : σ → ι → Bool) (s : σ) (tr : List ι) : List ι :=
  observe step (fun m u l _ => if commit u l then m ++ [l] else m) s [] tr

section
variable {α : Type*} {step : σ → ι → Option σ} {ok : σ → ι → Prop} {commit : σ → ι → Bool}

theorem commits_snoc {s u v : σ} {tr : List ι} {l : ι} (h : exec step s tr = some u)
    (hs : step u l = some v) :
    commits step commit s (tr ++ [l]) =
      if commit u l then commits step commit s tr ++ [l] else commits step commit s tr := by
  rw [commits, observe_snoc [] h hs]
  rfl

/-- **Serialization at commit points.** When every step either keeps the abstract state (no commit)
or applies the committed label to it, the run ends where the committed labels lead, applied one
after another. -/
theorem Run.serial {rel : σ → α → Prop} {s v : σ} {a : α} {tr : List ι}
    (h : Run step ok s tr v) (apply : ι → α → α) (h0 : rel s a)
    (hstep : ∀ u l w b, rel u b → ok u l → step u l = some w →
      rel w (if commit u l then apply l b else b)) :
    rel v ((commits step commit s tr).foldl (fun b l => apply l b) a) := by
  induction h with
  | nil => exact h0
  | snoc hr hg hs ih =>
    have := hstep _ _ _ _ ih hg hs
    rw [commits_snoc hr.exec hs]
    split
    · rename_i hc
      simpa [hc, List.foldl_append] using this
    · rename_i hc
      simpa [hc] using this

/-- Labels that commit at most once: the commit list has no duplicates and holds exactly the labels
that are `done`. -/
theorem Run.commits_nodup {s v : σ} {tr : List ι} (h : Run step ok s tr v)
    (done : σ → ι → Prop) (h0 : ∀ l, ¬ done s l)
    (hstep : ∀ u l w, step u l = some w → ∀ j, done w j ↔ done u j ∨ (j = l ∧ commit u l = true))
    (hnew : ∀ u l w, step u l = some w → commit u l = true → ¬ done u l) :
    (commits step commit s tr).Nodup ∧ ∀ l, l ∈ commits step commit s tr ↔ done v l := by
  induction h with
  | nil => exact ⟨List.nodup_nil, fun l => by simp [commits, observe, h0]⟩
  | @snoc tr u w l hr hg hs ih =>
    obtain ⟨hnd, hmem⟩ := ih
    rw [commits_snoc hr.exec hs]
    split
    · rename_i hc
      refine ⟨List.nodup_append.2 ⟨hnd, List.nodup_singleton l, ?_⟩, fun j => ?_⟩
      · intro a ha b hb
        rw [List.mem_singleton] at hb
        subst hb
        rintro rfl
        exact hnew _ _ _ hs hc ((hmem _).1 ha)
      · rw [List.mem_append, hmem, hstep _ _ _ hs, List.mem_singleton]
        simp [hc]
    · rename_i hc
      refine ⟨hnd, fun j => ?_⟩
      rw [hmem, hstep _ _ _ hs]
      simp [hc]

end

end Lts
