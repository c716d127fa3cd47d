import Mathlib.Data.List.Nodup
import Mathlib.Data.List.Dedup

/-!
# Tables with a primary key

The rows of a table, with a primary key and another unique column, and the statements on them:
`find` by primary key, `select` by a condition, `insert` and `update`. What a condition selects
decides the lookups of the rows that meet it (`find_filter`), and a statement says what it does to a
selection (`select_insert`, `select_update`). `Grows` says that a table lost no row and changed its
rows in given ways only. `groupBy` is `GROUP BY`.
-/

set_option autoImplicit false

/-- The rows, in the order of their insertion. -/
structure Table {R K U : Type*} (key : R → K) (unique : R → U) where
  rows : List R
  keys : (rows.map key).Nodup
  uniques : (rows.map unique).Nodup

namespace Table

variable {R K U : Type*} [DecidableEq K] {key : R → K} {unique : R → U}

def empty : Table key unique := ⟨[], List.nodup_nil, List.nodup_nil⟩

def find (t : Table key unique) (k : K) : Option R := t.rows.find? (key · = k)

/-- `SELECT … WHERE`. -/
def select (t : Table key unique) (p : R → Bool) : List R := t.rows.filter p

omit [DecidableEq K] in
theorem nodup_snoc {α β : Type*} {f : α → β} {l : List α} {a : α} (hl : (l.map f).Nodup)
    (ha : f a ∉ l.map f) : ((l ++ [a]).map f).Nodup := by
  rw [List.map_append, List.nodup_append]
  refine ⟨hl, List.nodup_singleton _, fun x hx y hy hxy => ?_⟩
  rw [List.map_singleton, List.mem_singleton] at hy
  exact ha (hy ▸ hxy ▸ hx)

/-- `INSERT`; fails on a duplicate key. -/
def insert [DecidableEq U] (t : Table key unique) (row : R) : Option (Table key unique) :=
  if h : key row ∉ t.rows.map key ∧ unique row ∉ t.rows.map unique then
    some ⟨t.rows ++ [row], nodup_snoc t.keys h.1, nodup_snoc t.uniques h.2⟩
  else none

/-- The row with this key is changed. -/
def change (key : R → K) (k : K) (f : R → R) (row : R) : R := if key row = k then f row else row

/-- What a change leaves alone in each row. -/
theorem change_eq {α : Type*} {g : R → α} {k : K} {f : R → R} (h : ∀ row, g (f row) = g row)
    (row : R) : g (change key k f row) = g row := by
  rw [change]
  split
  · exact h row
  · rfl

/-- `UPDATE … WHERE` on the primary key; the key and the unique column stay as they are. -/
def update (t : Table key unique) (k : K) (f : R → R) (hkey : ∀ row, key (f row) = key row)
    (hunique : ∀ row, unique (f row) = unique row) : Table key unique where
  rows := t.rows.map (change key k f)
  keys := by
    have : key ∘ change key k f = key := funext (change_eq hkey)
    rw [List.map_map, this]
    exact t.keys
  uniques := by
    have : unique ∘ change key k f = unique := funext (change_eq hunique)
    rw [List.map_map, this]
    exact t.uniques

/-- `UPDATE … WHERE` on a condition; the key and the unique column stay as they are. -/
def updateWhere (t : Table key unique) (p : R → Bool) (f : R → R)
    (hkey : ∀ row, key (f row) = key row) (hunique : ∀ row, unique (f row) = unique row) :
    Table key unique where
  rows := t.rows.map fun row => if p row then f row else row
  keys := by
    have : key ∘ (fun row => if p row then f row else row) = key := by
      funext row
      rw [Function.comp_apply, apply_ite key, hkey, ite_self]
    rw [List.map_map, this]
    exact t.keys
  uniques := by
    have : unique ∘ (fun row => if p row then f row else row) = unique := by
      funext row
      rw [Function.comp_apply, apply_ite unique, hunique, ite_self]
    rw [List.map_map, this]
    exact t.uniques

/-! ## Lookups -/

section
variable {t t' : Table key unique} {k : K} {p : R → Bool} {row : R}

theorem find_eq_some : t.find k = some row ↔ row ∈ t.rows ∧ key row = k := by
  constructor
  · intro h
    exact ⟨List.mem_of_find?_eq_some h, by simpa using List.find?_some h⟩
  · rintro ⟨hrow, rfl⟩
    obtain ⟨found, hfound⟩ : ∃ found, t.find (key row) = some found := by
      refine Option.isSome_iff_exists.1 ?_
      rw [find, List.find?_isSome]
      exact ⟨row, hrow, by simp⟩
    have hmem := List.mem_of_find?_eq_some hfound
    have hkey : key found = key row := by simpa using List.find?_some hfound
    rw [hfound, List.inj_on_of_nodup_map t.keys hmem hrow hkey]

/-- A lookup of a row that meets a condition reads the selection alone. -/
theorem find_filter : (t.find k).filter p = (t.select p).find? (key · = k) := by
  cases h : (t.find k).filter p with
  | some row =>
    obtain ⟨hrow, hp⟩ := Option.filter_eq_some_iff.1 h
    obtain ⟨hmem, hkey⟩ := find_eq_some.1 hrow
    cases hs : (t.select p).find? (key · = k) with
    | none =>
      rw [List.find?_eq_none] at hs
      exact absurd (by simpa using hkey) (hs row (List.mem_filter.2 ⟨hmem, hp⟩))
    | some row' =>
      have hmem' := (List.mem_filter.1 (List.mem_of_find?_eq_some hs)).1
      have hkey' : key row' = k := by simpa using List.find?_some hs
      rw [List.inj_on_of_nodup_map t.keys hmem hmem' (hkey.trans hkey'.symm)]
  | none =>
    symm
    rw [List.find?_eq_none]
    intro row hrow hkey
    obtain ⟨hmem, hp⟩ := List.mem_filter.1 hrow
    rw [find_eq_some.2 ⟨hmem, by simpa using hkey⟩, Option.filter_some, if_pos hp] at h
    cases h

/-! ## What statements do to a selection -/

theorem insert_eq_some [DecidableEq U] : t.insert row = some t' ↔
    key row ∉ t.rows.map key ∧ unique row ∉ t.rows.map unique ∧ t'.rows = t.rows ++ [row] := by
  unfold insert
  split
  next h =>
    rw [Option.some.injEq]
    constructor
    · rintro rfl
      exact ⟨h.1, h.2, rfl⟩
    · rintro ⟨-, -, hrows⟩
      cases t'
      simp only at hrows
      subst hrows
      rfl
  next h =>
    constructor
    · intro h'
      cases h'
    · rintro ⟨hkey, hunique, -⟩
      exact absurd ⟨hkey, hunique⟩ h

theorem select_insert [DecidableEq U] (h : t.insert row = some t') :
    t'.select p = t.select p ++ if p row then [row] else [] := by
  obtain ⟨-, -, hrows⟩ := insert_eq_some.1 h
  rw [select, hrows, List.filter_append]
  cases hp : p row <;> simp [select, hp]

variable {f : R → R} {hkey : ∀ row, key (f row) = key row}
  {hunique : ∀ row, unique (f row) = unique row}

/-- A condition that the change leaves alone selects the changed rows. -/
theorem select_update (hp : ∀ row, p (f row) = p row) :
    (t.update k f hkey hunique).select p = (t.select p).map (change key k f) := by
  have : p ∘ change key k f = p := funext (change_eq hp)
  rw [select, update, List.filter_map, this, select]

variable (hkey hunique) in
/-- An update of a row that is not selected leaves the selection alone. -/
theorem select_update_of_not (hp : ∀ row, p (f row) = p row)
    (hnot : ∀ row ∈ t.rows, key row = k → p row = false) :
    (t.update k f hkey hunique).select p = t.select p := by
  rw [select_update hp]
  conv_rhs => rw [← List.map_id (t.select p)]
  refine List.map_congr_left fun row hrow => ?_
  obtain ⟨hmem, hrow⟩ := List.mem_filter.1 hrow
  rw [change, if_neg, id_eq]
  intro hk
  rw [hnot row hmem hk] at hrow
  cases hrow

theorem find_update (k' : K) :
    (t.update k f hkey hunique).find k' = (t.find k').map (change key k f) := by
  have : (fun row => decide (key row = k')) ∘ change key k f =
      fun row => decide (key row = k') := by
    funext row
    simp only [Function.comp_apply, change_eq hkey]
  rw [find, update, List.find?_map, this, find]

theorem find_updateWhere (k' : K) :
    (t.updateWhere p f hkey hunique).find k' =
      (t.find k').map fun row => if p row then f row else row := by
  have : (fun row => decide (key row = k')) ∘ (fun row => if p row then f row else row) =
      fun row => decide (key row = k') := by
    funext row
    simp only [Function.comp_apply, apply_ite key, hkey, ite_self]
  rw [find, updateWhere, List.find?_map, this, find]

/-- The rows of before keep their keys. -/
theorem find_insert [DecidableEq U] (h : t.insert row = some t') (k' : K) :
    t'.find k' = (t.find k').or (if key row = k' then some row else none) := by
  obtain ⟨-, -, hrows⟩ := insert_eq_some.1 h
  rw [find, hrows, List.find?_append, find]
  by_cases hk : key row = k' <;> simp [hk]

end

/-! ## Tables that only grow -/

/-- Every row is still there, changed in the ways that `rel` allows. -/
def Grows (rel : R → R → Prop) (t t' : Table key unique) : Prop :=
  ∀ k row, t.find k = some row → ∃ row', t'.find k = some row' ∧ rel row row'

section
variable {rel : R → R → Prop} {t t' t'' : Table key unique} {k : K} {f : R → R}
  {hkey : ∀ row, key (f row) = key row} {hunique : ∀ row, unique (f row) = unique row}

theorem Grows.refl (hrefl : ∀ row, rel row row) : t.Grows rel t :=
  fun _ row h => ⟨row, h, hrefl row⟩

theorem Grows.trans (htrans : ∀ a b c, rel a b → rel b c → rel a c) (h : t.Grows rel t')
    (h' : t'.Grows rel t'') : t.Grows rel t'' := by
  intro k row hrow
  obtain ⟨row', hrow', hrel⟩ := h k row hrow
  obtain ⟨row'', hrow'', hrel'⟩ := h' k row' hrow'
  exact ⟨row'', hrow'', htrans _ _ _ hrel hrel'⟩

theorem grows_insert [DecidableEq U] {row : R} (hrefl : ∀ row, rel row row)
    (h : t.insert row = some t') : t.Grows rel t' := by
  intro k old hold
  refine ⟨old, ?_, hrefl old⟩
  rw [find_insert h, hold, Option.some_or]

theorem grows_update (hrefl : ∀ row, rel row row) (hf : ∀ row, rel row (f row)) :
    t.Grows rel (t.update k f hkey hunique) := by
  intro k' row hrow
  refine ⟨change key k f row, by rw [find_update, hrow, Option.map_some], ?_⟩
  rw [change]
  split
  · exact hf row
  · exact hrefl row

theorem grows_updateWhere {p : R → Bool} (hrefl : ∀ row, rel row row)
    (hf : ∀ row, rel row (f row)) : t.Grows rel (t.updateWhere p f hkey hunique) := by
  intro k' row hrow
  refine ⟨if p row then f row else row, by rw [find_updateWhere, hrow, Option.map_some], ?_⟩
  split
  · exact hf row
  · exact hrefl row

end

/-! ## Grouping -/

/-- `GROUP BY`: the groups by key, with their rows. -/
def groupBy {G : Type*} [DecidableEq G] (group : R → G) (rows : List R) : List (G × List R) :=
  (rows.map group).dedup.map fun g => (g, rows.filter (group · = g))

/-- A group has the rows of its key, and at least one. -/
theorem mem_groupBy {G : Type*} [DecidableEq G] {group : R → G} {rows : List R}
    {entry : G × List R} (h : entry ∈ groupBy group rows) :
    entry.2 ≠ [] ∧ ∀ row ∈ entry.2, group row = entry.1 := by
  obtain ⟨g, hg, rfl⟩ := List.mem_map.1 h
  obtain ⟨row, hrow, rfl⟩ := List.mem_map.1 (List.mem_dedup.1 hg)
  constructor
  · exact List.ne_nil_of_mem (List.mem_filter.2 ⟨hrow, decide_eq_true rfl⟩)
  · intro other hother
    simpa using (List.mem_filter.1 hother).2

/-- The groups together have the rows. -/
theorem groupBy_perm {G : Type*} [DecidableEq G] (group : R → G) (rows : List R) :
    ((groupBy group rows).flatMap Prod.snd).Perm rows := by
  have hkeys : ∀ keys : List G, keys.Nodup →
      (keys.flatMap fun g => rows.filter (group · = g)).Perm (rows.filter (group · ∈ keys)) := by
    intro keys hnd
    induction keys with
    | nil => simp
    | cons g keys ih =>
      obtain ⟨hg, hnd⟩ := List.nodup_cons.1 hnd
      rw [List.flatMap_cons]
      refine ((ih hnd).append_left _).trans ?_
      have hsplit := List.filter_append_perm (fun row => decide (group row = g))
        (rows.filter (group · ∈ g :: keys))
      rw [List.filter_filter, List.filter_filter] at hsplit
      have hfirst : rows.filter (group · = g) =
          rows.filter fun row => decide (group row = g) && decide (group row ∈ g :: keys) := by
        refine List.filter_congr fun row _ => ?_
        by_cases hrow : group row = g <;> simp [hrow]
      have hrest : rows.filter (group · ∈ keys) =
          rows.filter fun row => !decide (group row = g) && decide (group row ∈ g :: keys) := by
        refine List.filter_congr fun row _ => ?_
        by_cases hrow : group row = g
        · simp [hrow, hg]
        · simp [hrow]
      rw [hfirst, hrest]
      exact hsplit
  have hall : rows.filter (group · ∈ (rows.map group).dedup) = rows :=
    List.filter_eq_self.2 fun row hrow =>
      decide_eq_true (List.mem_dedup.2 (List.mem_map_of_mem hrow))
  rw [groupBy, List.flatMap_map]
  exact (hkeys _ (List.nodup_dedup _)).trans (.of_eq hall)

end Table
