import LiteAgentify.Lib.Maps
import LiteAgentify.Lib.Table
import Mathlib.Algebra.BigOperators.Group.Finset.Basic

/-!
# Totals by key

A loop over rows that adds each to the entry of its key (`collect`), which takes the rows of the key
in their order (`lookup_collect`). When the order in which an entry takes its rows does not matter,
neither does that of the rows (`collect_perm`), and rows can be taken group by group, by any finer
grouping (`collect_groupBy`). What the rows add to the entries they add to the sum over the entries
(`total_collect`).
-/

set_option autoImplicit false

namespace Groups

variable {K V : Type} {X M : Type*} [DecidableEq K] {d : V} {key : X → K} {step : V → X → V}
  {m : Finmap fun _ : K => V} {k k' : K} {xs ys : List X}

/-- Changes the entry of a key, which a new key has by default. -/
def upsert (d : V) (m : Finmap fun _ : K => V) (k : K) (f : V → V) : Finmap fun _ : K => V :=
  m.insert k (f ((m.lookup k).getD d))

def collect (d : V) (key : X → K) (step : V → X → V) (m : Finmap fun _ : K => V) (xs : List X) :
    Finmap fun _ : K => V :=
  xs.foldl (fun m x => upsert d m (key x) fun v => step v x) m

theorem upsert_upsert (f g : V → V) :
    upsert d (upsert d m k f) k g = upsert d m k fun v => g (f v) := by
  rw [upsert, upsert, upsert, Finmap.lookup_insert, Finmap.insert_insert]
  rfl

/-- Changes of different entries commute, and changes of one that commute. -/
theorem upsert_comm {f g : V → V} (h : ∀ v, g (f v) = f (g v)) :
    upsert d (upsert d m k f) k' g = upsert d (upsert d m k' g) k f := by
  by_cases hk : k = k'
  · subst hk
    rw [upsert_upsert, upsert_upsert]
    simp only [h]
  · rw [upsert, upsert, upsert, upsert, Finmap.lookup_insert_of_ne _ (Ne.symm hk),
      Finmap.lookup_insert_of_ne _ hk, Finmap.insert_insert_of_ne _ hk]

/-- The entry of a key takes the rows of the key, in their order. -/
theorem lookup_collect : ((collect d key step m xs).lookup k).getD d =
    (xs.filter (key · = k)).foldl step ((m.lookup k).getD d) := by
  induction xs generalizing m with
  | nil => rfl
  | cons x xs ih =>
    rw [collect, List.foldl_cons, ← collect, ih, upsert]
    by_cases h : key x = k
    · rw [List.filter_cons, if_pos (decide_eq_true h), List.foldl_cons, h, Finmap.lookup_insert]
      rfl
    · rw [List.filter_cons, if_neg (by simpa using h), Finmap.lookup_insert_of_ne _ (Ne.symm h)]

/-- The rows of each key in a list. -/
theorem lookup_collect_snoc {Y : Type} (f : X → Y) {m : Finmap fun _ : K => List Y} :
    ((collect [] key (fun ys x => ys ++ [f x]) m xs).lookup k).getD [] =
      (m.lookup k).getD [] ++ (xs.filter (key · = k)).map f := by
  rw [lookup_collect]
  generalize (m.lookup k).getD [] = ys
  generalize xs.filter (key · = k) = xs
  induction xs generalizing ys with
  | nil => simp
  | cons x xs ih => simp [ih]

theorem collect_perm (hcomm : ∀ v x y, step (step v x) y = step (step v y) x)
    (h : xs.Perm ys) : collect d key step m xs = collect d key step m ys :=
  h.foldl_eq' (fun x _ y _ _ => upsert_comm fun v => hcomm v x y) m

/-- Rows of one key are added to one entry. -/
theorem collect_group (hne : xs ≠ []) (hkey : ∀ x ∈ xs, key x = k) :
    collect d key step m xs = upsert d m k fun v => xs.foldl step v := by
  cases xs with
  | nil => exact absurd rfl hne
  | cons x xs =>
    clear hne
    induction xs generalizing m x with
    | nil => rw [collect, List.foldl_cons, List.foldl_nil, hkey x (List.mem_cons_self ..)]; rfl
    | cons y xs ih =>
      obtain ⟨hx, hxs⟩ := List.forall_mem_cons.1 hkey
      rw [collect, List.foldl_cons, ← collect, ih y hxs, hx, upsert_upsert]
      rfl

/-- The rows may be taken group by group. -/
theorem collect_groupBy {G : Type*} [DecidableEq G] (group : X → G) (keyOf : G → K)
    (hcomm : ∀ v x y, step (step v x) y = step (step v y) x)
    (hkey : ∀ x, key x = keyOf (group x)) :
    (Table.groupBy group xs).foldl
        (fun m entry => upsert d m (keyOf entry.1) fun v => entry.2.foldl step v) m =
      collect d key step m xs := by
  rw [← collect_perm hcomm (Table.groupBy_perm group xs), collect, List.foldl_flatMap]
  refine List.foldl_ext _ _ _ fun m entry hentry => ?_
  obtain ⟨hne, hgroup⟩ := Table.mem_groupBy hentry
  exact (collect_group hne fun x hx => by rw [hkey, hgroup x hx]).symm

/-! ## Sums over the entries -/

variable [AddCommMonoid M] {φ : V → M} {δ : X → M}

/-- The sum over the entries. -/
def total (φ : V → M) (m : Finmap fun _ : K => V) : M :=
  ∑ k ∈ m.keys, ((m.lookup k).map φ).getD 0

theorem total_upsert {f : V → V} {a : M} (hd : φ d = 0) (hf : ∀ v, φ (f v) = φ v + a) :
    total φ (upsert d m k f) = total φ m + a := by
  have hother : ∀ j ∈ m.keys.erase k,
      (((upsert d m k f).lookup j).map φ).getD 0 = ((m.lookup j).map φ).getD 0 := by
    intro j hj
    rw [upsert, Finmap.lookup_insert_of_ne _ (Finset.ne_of_mem_erase hj)]
  have hself : (((upsert d m k f).lookup k).map φ).getD 0 = ((m.lookup k).map φ).getD 0 + a := by
    rw [upsert, Finmap.lookup_insert]
    cases m.lookup k with
    | none => simp [hf, hd]
    | some v => exact hf v
  have hkeys : (upsert d m k f).keys = insert k (m.keys.erase k) := by
    rw [upsert, Maps.keys_insert]
    ext j
    by_cases hj : j = k <;> simp [hj]
  have hbefore : total φ m =
      ((m.lookup k).map φ).getD 0 + ∑ j ∈ m.keys.erase k, ((m.lookup j).map φ).getD 0 := by
    by_cases hk : k ∈ m.keys
    · exact (Finset.add_sum_erase _ (fun j => ((m.lookup j).map φ).getD 0) hk).symm
    · have hnone : m.lookup k = none := by
        rw [Finmap.lookup_eq_none]
        exact fun hmem => hk (Finmap.mem_keys.2 hmem)
      rw [total, Finset.erase_eq_of_notMem hk, hnone]
      simp
  rw [total, hkeys, Finset.sum_insert (Finset.notMem_erase _ _), hself, Finset.sum_congr rfl hother,
    hbefore, add_right_comm]

theorem total_collect (hd : φ d = 0) (hstep : ∀ v x, φ (step v x) = φ v + δ x) :
    total φ (collect d key step m xs) = total φ m + (xs.map δ).sum := by
  induction xs generalizing m with
  | nil => simp [collect]
  | cons x xs ih =>
    rw [collect, List.foldl_cons, ← collect, ih, total_upsert hd fun v => hstep v x, List.map_cons,
      List.sum_cons, add_assoc]

end Groups
