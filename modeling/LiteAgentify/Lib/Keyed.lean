import Mathlib.Data.Finmap

/-!
# Building a map by checked insertion

`Inserts step check key value`: the step `step` inserts `value x` under `key x` when `x` passes the
check and the key is new, and fails otherwise. A fold of such a step over a list succeeds exactly
when every element passes and the keys are new and distinct (`Inserts.foldlM_ok`), and then a key
maps to the value of its element (`Inserts.lookup`). Beside it, the facts about `Except` that peel
such computations apart (`bind_ok`, `mapM_ok`) and the invariant rule of a fold (`foldlM_inv`).
-/

set_option autoImplicit false

namespace Keyed

theorem bind_ok {ε α β : Type} {x : Except ε α} {f : α → Except ε β} {b : β} :
    x >>= f = .ok b ↔ ∃ a, x = .ok a ∧ f a = .ok b := by
  cases x with
  | error e => simp [bind, Except.bind]
  | ok a => simp [bind, Except.bind]

/-- A mapped check succeeds when every element passes it. -/
theorem mapM_ok {ε α β : Type} {f : α → Except ε β} {check : α → Prop} {g : α → β}
    (hf : ∀ a b, f a = .ok b ↔ check a ∧ b = g a) {xs : List α} {ys : List β} :
    xs.mapM f = .ok ys ↔ (∀ a ∈ xs, check a) ∧ ys = xs.map g := by
  induction xs generalizing ys with
  | nil => simp [pure, Except.pure, eq_comm]
  | cons x xs ih =>
    simp only [List.mapM_cons, bind_ok, hf, ih, pure, Except.pure, Except.ok.injEq, List.mem_cons,
      List.map_cons]
    constructor
    · rintro ⟨_, ⟨hx, rfl⟩, _, ⟨hxs, rfl⟩, rfl⟩
      exact ⟨by rintro a (rfl | ha); exacts [hx, hxs _ ha], rfl⟩
    · rintro ⟨h, rfl⟩
      exact ⟨_, ⟨h _ (.inl rfl), rfl⟩, _, ⟨fun a ha => h a (.inr ha), rfl⟩, rfl⟩

/-- What every successful step of a fold keeps, a successful fold keeps. -/
theorem foldlM_inv {ε α β : Type} {f : β → α → Except ε β} {I : β → Prop} {xs : List α}
    (hstep : ∀ b a b', a ∈ xs → I b → f b a = .ok b' → I b') {b b' : β} (h0 : I b)
    (h : xs.foldlM f b = .ok b') : I b' := by
  induction xs generalizing b with
  | nil =>
    cases h
    exact h0
  | cons x xs ih =>
    obtain ⟨c, hc, hrest⟩ := bind_ok.1 h
    exact ih (fun b a b' ha => hstep b a b' (.tail _ ha)) (hstep _ _ _ (.head _) h0 hc) hrest

variable {ε K V X : Type} [DecidableEq K]

/-- A step that inserts one element under its key, checked. -/
def Inserts (step : Finmap (fun _ : K => V) → X → Except ε (Finmap fun _ : K => V))
    (check : X → Prop) (key : X → K) (value : X → V) : Prop :=
  ∀ m x m', step m x = .ok m' ↔ check x ∧ key x ∉ m ∧ m' = m.insert (key x) (value x)

/-- The map that the elements of a list insert into `m`. -/
def insertAll (key : X → K) (value : X → V) (m : Finmap fun _ : K => V) (xs : List X) :
    Finmap fun _ : K => V :=
  xs.foldl (fun m x => m.insert (key x) (value x)) m

theorem mem_insertAll {key : X → K} {value : X → V} {m : Finmap fun _ : K => V} {xs : List X}
    {k : K} : k ∈ insertAll key value m xs ↔ k ∈ m ∨ ∃ x ∈ xs, key x = k := by
  induction xs generalizing m with
  | nil => simp [insertAll]
  | cons x xs ih =>
    have := ih (m := m.insert (key x) (value x))
    simp only [insertAll, List.foldl_cons] at this ⊢
    rw [this, Finmap.mem_insert]
    simp only [List.mem_cons, exists_eq_or_imp]
    tauto

theorem lookup_insertAll {key : X → K} {value : X → V} {m : Finmap fun _ : K => V} {xs : List X}
    (hnd : (xs.map key).Nodup) {x : X} (hx : x ∈ xs) :
    (insertAll key value m xs).lookup (key x) = some (value x) := by
  induction xs using List.reverseRecOn with
  | nil => cases hx
  | append_singleton xs y ih =>
    rw [List.map_append, List.nodup_append] at hnd
    simp only [insertAll, List.foldl_append, List.foldl_cons, List.foldl_nil]
    rcases List.mem_append.1 hx with hx | hx
    · have hne : key x ≠ key y := hnd.2.2 _ (List.mem_map_of_mem hx) _ (by simp)
      rw [Finmap.lookup_insert_of_ne _ hne]
      exact ih hnd.1 hx
    · rw [List.mem_singleton] at hx
      subst hx
      rw [Finmap.lookup_insert]

/-- With distinct keys the order of the insertions plays no part. -/
theorem insertAll_perm {key : X → K} {value : X → V} {m : Finmap fun _ : K => V} {xs ys : List X}
    (h : xs.Perm ys) (hnd : (xs.map key).Nodup) :
    insertAll key value m xs = insertAll key value m ys := by
  induction h generalizing m with
  | nil => rfl
  | cons x _ ih => exact ih (List.nodup_cons.1 hnd).2
  | swap x y xs =>
    simp only [List.map_cons, List.nodup_cons, List.mem_cons, not_or] at hnd
    simp only [insertAll, List.foldl_cons]
    rw [Finmap.insert_insert_of_ne _ hnd.1.1]
  | trans hxy _ ihxy ihyz => exact (ihxy hnd).trans (ihyz ((hxy.map key).nodup_iff.1 hnd))

namespace Inserts

variable {step : Finmap (fun _ : K => V) → X → Except ε (Finmap fun _ : K => V)}
  {check : X → Prop} {key : X → K} {value : X → V} {xs : List X}

theorem foldlM_ok (h : Inserts step check key value) {m m' : Finmap fun _ : K => V} :
    xs.foldlM step m = .ok m' ↔
      (∀ x ∈ xs, check x) ∧ (xs.map key).Nodup ∧ (∀ x ∈ xs, key x ∉ m) ∧
        m' = insertAll key value m xs := by
  induction xs generalizing m with
  | nil => simp [insertAll, pure, Except.pure, eq_comm]
  | cons x xs ih =>
    rw [List.foldlM_cons, bind_ok]
    simp only [h m x, ih, List.mem_cons, forall_eq_or_imp, List.map_cons, List.nodup_cons,
      List.mem_map, not_exists, not_and]
    constructor
    · rintro ⟨_, ⟨hx, hm, rfl⟩, hxs, hnd, hnew, rfl⟩
      refine ⟨⟨hx, hxs⟩, ⟨fun y hy hxy => ?_, hnd⟩, ⟨hm, fun y hy hy' => ?_⟩, rfl⟩
      · exact hnew y hy (Finmap.mem_insert.2 (.inl hxy))
      · exact hnew y hy (Finmap.mem_insert.2 (.inr hy'))
    · rintro ⟨⟨hx, hxs⟩, ⟨hxk, hnd⟩, ⟨hm, hnew⟩, rfl⟩
      refine ⟨_, ⟨hx, hm, rfl⟩, hxs, hnd, fun y hy hy' => ?_, rfl⟩
      rcases Finmap.mem_insert.1 hy' with hyx | hym
      · exact hxk y hy hyx
      · exact hnew y hy hym

/-- The order of the list decides neither whether the fold succeeds nor what it builds. -/
theorem foldlM_perm (h : Inserts step check key value) {m m' : Finmap fun _ : K => V}
    {ys : List X} (hp : xs.Perm ys) (hm : xs.foldlM step m = .ok m') :
    ys.foldlM step m = .ok m' := by
  obtain ⟨hc, hnd, hnew, rfl⟩ := h.foldlM_ok.1 hm
  exact h.foldlM_ok.2 ⟨fun x hx => hc x (hp.mem_iff.2 hx), (hp.map key).nodup_iff.1 hnd,
    fun x hx => hnew x (hp.mem_iff.2 hx), insertAll_perm hp hnd⟩

theorem mem_iff (h : Inserts step check key value) {m : Finmap fun _ : K => V}
    (hm : xs.foldlM step ∅ = .ok m) {k : K} : k ∈ m ↔ ∃ x ∈ xs, key x = k := by
  obtain ⟨-, -, -, rfl⟩ := h.foldlM_ok.1 hm
  simp [mem_insertAll, Finmap.notMem_empty]

theorem lookup (h : Inserts step check key value) {m : Finmap fun _ : K => V}
    (hm : xs.foldlM step ∅ = .ok m) {x : X} (hx : x ∈ xs) : m.lookup (key x) = some (value x) := by
  obtain ⟨-, hnd, -, rfl⟩ := h.foldlM_ok.1 hm
  exact lookup_insertAll hnd hx

/-- Every entry comes from an element. -/
theorem lookup_eq_some (h : Inserts step check key value) {m : Finmap fun _ : K => V}
    (hm : xs.foldlM step ∅ = .ok m) {k : K} {v : V} :
    m.lookup k = some v ↔ ∃ x ∈ xs, key x = k ∧ value x = v := by
  constructor
  · intro hv
    have hk : k ∈ m := Finmap.mem_iff.2 ⟨v, hv⟩
    obtain ⟨x, hx, rfl⟩ := (h.mem_iff hm).1 hk
    rw [h.lookup hm hx] at hv
    exact ⟨x, hx, rfl, Option.some.inj hv⟩
  · rintro ⟨x, hx, rfl, rfl⟩
    exact h.lookup hm hx

end Inserts

end Keyed
