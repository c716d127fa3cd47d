import Mathlib.Data.List.Sort

/-!
# Pages cut from sorted rows

Rows in descending order of a key are cut into pages of one size. Rows with the same key may stand
in any order, and every page may be cut from another arrangement of the rows. The pages together
have the rows of the table, each as often as it occurs there, for every choice of the arrangements
exactly when no page ends between rows of one key that look different (`pages_perm_iff`).
-/

set_option autoImplicit false

namespace Pages

variable {α β κ : Type*} [LinearOrder κ] {key : α → κ} {shown : α → β} {rows l l' : List α}
  {size count k : Nat} {t : κ}

/-- The rows in descending order; those with one key stand in any order. -/
structure Arranges (key : α → κ) (rows arranged : List α) : Prop where
  perm : arranged.Perm rows
  sorted : arranged.Pairwise fun a b => key b ≤ key a

/-- A page; pages count from zero. -/
def page (size : Nat) (l : List α) (n : Nat) : List α := (l.drop (n * size)).take size

/-- The first pages one after another, each cut from its own arrangement. -/
def pages (size count : Nat) (arrange : Nat → List α) : List α :=
  (List.range count).flatMap fun n => page size (arrange n) n

/-- The rows of every key between which a page ends look the same. -/
def Tied (key : α → κ) (shown : α → β) (size : Nat) (rows : List α) : Prop :=
  ∀ (t : κ) (k : Nat), size ∣ k → rows.countP (t < key ·) < k → k < rows.countP (t ≤ key ·) →
    ∀ a ∈ rows, ∀ b ∈ rows, key a = t → key b = t → shown a = shown b

/-! ## Cutting pages -/

theorem pages_succ (arrange : Nat → List α) :
    pages size (count + 1) arrange =
      pages size count arrange ++ page size (arrange count) count := by
  rw [pages, List.range_succ, List.flatMap_append, List.flatMap_singleton]
  rfl

theorem take_append_page (l : List α) (n : Nat) :
    l.take (n * size) ++ page size l n = l.take ((n + 1) * size) := by
  rw [Nat.add_mul, Nat.one_mul, List.take_add, page]

theorem pages_congr {arrange arrange' : Nat → List α}
    (h : ∀ n < count, arrange n = arrange' n) :
    pages size count arrange = pages size count arrange' := by
  refine congrArg List.flatten (List.map_congr_left fun n hn => ?_)
  rw [h n (List.mem_range.1 hn)]

/-- The pages of one list. -/
theorem pages_const (l : List α) : pages size count (fun _ => l) = l.take (count * size) := by
  induction count with
  | zero => simp [pages]
  | succ count ih => rw [pages_succ, ih, take_append_page]

/-- Pages that are cut from one list up to `m` and from another one after it. -/
theorem pages_switch (m c : Nat) (l l' : List α) :
    pages size (m + c) (fun n => if n < m then l else l') =
      l.take (m * size) ++ (l'.drop (m * size)).take (c * size) := by
  induction c with
  | zero =>
    rw [Nat.add_zero, pages_congr fun n hn => if_pos hn, pages_const]
    simp
  | succ c ih =>
    rw [← Nat.add_assoc, pages_succ, ih, if_neg (by omega), page, List.append_assoc, Nat.add_mul m,
      ← List.drop_drop, ← take_append_page, page]

/-! ## Arrangements -/

/-- Sorted rows begin with those of a set of keys that is closed upwards. -/
theorem filter_append_filter {p : α → Bool} (hp : ∀ a b, key b ≤ key a → p b → p a)
    (h : l.Pairwise fun a b => key b ≤ key a) : l.filter p ++ l.filter (fun a => !p a) = l := by
  induction h with
  | nil => rfl
  | @cons a l ha _ ih =>
    by_cases hpa : p a
    · rw [List.filter_cons_of_pos hpa, List.filter_cons_of_neg (by simpa using hpa),
        List.cons_append, ih]
    · have hnone : l.filter p = [] :=
        List.filter_eq_nil_iff.2 fun b hb hpb => hpa (hp a b (ha b hb) hpb)
      rw [hnone, List.nil_append] at ih
      rw [List.filter_cons_of_neg hpa, hnone, List.nil_append,
        List.filter_cons_of_pos (by simpa using hpa), ih]

/-- Sorted rows: those above a key, those that have it, those below. -/
theorem split (t : κ) (h : l.Pairwise fun a b => key b ≤ key a) :
    l = l.filter (t < key ·) ++ (l.filter (key · = t) ++ l.filter (key · < t)) := by
  have habove := filter_append_filter (p := fun a => t < key a)
    (fun a b hba hb => by simp only [decide_eq_true_eq] at hb ⊢; exact hb.trans_le hba) h
  have hrest := filter_append_filter (p := fun a => t ≤ key a)
    (fun a b hba hb => by simp only [decide_eq_true_eq] at hb ⊢; exact hb.trans hba)
    (h.filter fun a => !decide (t < key a))
  rw [List.filter_filter, List.filter_filter] at hrest
  have heq : l.filter (fun a => decide (t ≤ key a) && !decide (t < key a)) =
      l.filter (key · = t) := by
    refine List.filter_congr fun a _ => ?_
    rw [Bool.eq_iff_iff]
    simp only [Bool.and_eq_true, Bool.not_eq_true', decide_eq_true_eq, decide_eq_false_iff_not,
      not_lt]
    exact ⟨fun hk => le_antisymm hk.2 hk.1, fun hk => ⟨hk.ge, hk.le⟩⟩
  have hlt : l.filter (fun a => !decide (t ≤ key a) && !decide (t < key a)) =
      l.filter (key · < t) := by
    refine List.filter_congr fun a _ => ?_
    by_cases hk : key a < t
    · simp [hk, hk.le]
    · simp [hk]
  rw [← hlt, ← heq, hrest, habove]

theorem countP_le_split (t : κ) (rows : List α) :
    rows.countP (t ≤ key ·) = rows.countP (t < key ·) + (rows.filter (key · = t)).length := by
  induction rows with
  | nil => rfl
  | cons a rows ih =>
    rw [List.countP_cons, List.countP_cons, List.filter_cons, ih]
    rcases lt_trichotomy t (key a) with hk | hk | hk
    · simp [hk, hk.le, hk.ne']
      omega
    · simp [hk]
      omega
    · simp [hk.not_ge, hk.not_gt, hk.ne]

/-- The first rows, when they end among those of one key. -/
theorem take_split (h : l.Pairwise fun a b => key b ≤ key a) (hlow : l.countP (t < key ·) ≤ k)
    (hhigh : k ≤ l.countP (t ≤ key ·)) :
    l.take k = l.filter (t < key ·) ++
      (l.filter (key · = t)).take (k - l.countP (t < key ·)) := by
  have hlen : (l.filter (t < key ·)).length = l.countP (t < key ·) :=
    List.countP_eq_length_filter.symm
  rw [countP_le_split] at hhigh
  conv_lhs => rw [split t h]
  rw [List.take_append, List.take_of_length_le (by omega), hlen, List.take_append_of_le_length]
  omega

/-- The first rows end among those of some key. -/
theorem exists_split (h : l.Pairwise fun a b => key b ≤ key a) (hk : k < l.length) :
    ∃ x ∈ l, l.countP (key x < key ·) ≤ k ∧ k < l.countP (key x ≤ key ·) := by
  have hcut : l = l.take k ++ l[k] :: l.drop (k + 1) := by
    rw [← List.drop_eq_getElem_cons hk, List.take_append_drop]
  have hlen : (l.take k).length = k := by simp [hk.le]
  generalize l.take k = before, l[k] = x, l.drop (k + 1) = after at hcut hlen
  subst hcut
  obtain ⟨-, hafter, hacross⟩ := List.pairwise_append.1 h
  rw [List.pairwise_cons] at hafter
  refine ⟨x, by simp, ?_, ?_⟩
  · have hnone : after.countP (key x < key ·) = 0 :=
      List.countP_eq_zero.2 fun b hb => by simpa using hafter.1 b hb
    have := List.countP_le_length (p := fun a => decide (key x < key a)) (l := before)
    rw [List.countP_append, List.countP_cons, hnone]
    simp
    omega
  · have hall : before.countP (key x ≤ key ·) = before.length :=
      List.countP_eq_length.2 fun a ha => by simpa using hacross a ha x (by simp)
    rw [List.countP_append, List.countP_cons, hall]
    simp
    omega

namespace Arranges

/-- Arrangements show the keys in one order. -/
theorem keys_eq (h : Arranges key rows l) (h' : Arranges key rows l') :
    l.map key = l'.map key := by
  have hkeys : (l.map key).Pairwise fun a b => b ≤ a := List.pairwise_map.2 h.sorted
  have hkeys' : (l'.map key).Pairwise fun a b => b ≤ a := List.pairwise_map.2 h'.sorted
  exact List.Perm.eq_of_pairwise (fun a b _ _ hab hba => le_antisymm hba hab) hkeys hkeys'
    ((h.perm.trans h'.perm.symm).map key)

/-- The rows of one key may be permuted. -/
theorem permute (h : Arranges key rows l) {group : List α}
    (hgroup : group.Perm (rows.filter (key · = t))) :
    Arranges key rows (l.filter (t < key ·) ++ (group ++ l.filter (key · < t))) where
  perm := by
    have hsame : group.Perm (l.filter (key · = t)) := hgroup.trans (h.perm.filter _).symm
    refine ((hsame.append_right _).append_left _).trans ?_
    rw [← split t h.sorted]
    exact h.perm
  sorted := by
    have hkey : ∀ a ∈ group, key a = t := fun a ha => by
      simpa using (List.mem_filter.1 (hgroup.subset ha)).2
    have habove : ∀ a ∈ l.filter (t < key ·), t < key a := fun a ha => by
      simpa using (List.mem_filter.1 ha).2
    have hbelow : ∀ a ∈ l.filter (key · < t), key a < t := fun a ha => by
      simpa using (List.mem_filter.1 ha).2
    refine List.pairwise_append.2 ⟨h.sorted.filter _, List.pairwise_append.2
      ⟨List.pairwise_of_forall_mem_list fun a ha b hb => ?_, h.sorted.filter _,
        fun a ha b hb => ?_⟩, fun a ha b hb => ?_⟩
    · rw [hkey a ha, hkey b hb]
    · rw [hkey a ha]
      exact (hbelow b hb).le
    · rcases List.mem_append.1 hb with hb | hb
      · rw [hkey b hb]
        exact (habove a ha).le
      · exact ((hbelow b hb).trans (habove a ha)).le

/-- Where a page ends, arrangements have shown the same. -/
theorem take_perm (h : Arranges key rows l) (h' : Arranges key rows l')
    (htied : Tied key shown size rows) (hk : size ∣ k) :
    ((l.take k).map shown).Perm ((l'.take k).map shown) := by
  have hsame : l.Perm l' := h.perm.trans h'.perm.symm
  by_cases hlen : k < l.length
  · obtain ⟨x, hx, hlow, hhigh⟩ := exists_split h.sorted hlen
    have hlow' := hsame.countP_eq (fun a => decide (key x < key a)) ▸ hlow
    have hhigh' := hsame.countP_eq (fun a => decide (key x ≤ key a)) ▸ hhigh
    rw [take_split h.sorted hlow hhigh.le, take_split h'.sorted hlow' hhigh'.le, List.map_append,
      List.map_append, ← hsame.countP_eq]
    refine ((hsame.filter _).map shown).append ?_
    -- the pages end between rows of the key, or just before them
    rcases hlow.eq_or_lt with heq | hlt
    · rw [heq, Nat.sub_self, List.take_zero, List.take_zero]
    · rw [h.perm.countP_eq] at hlt hhigh
      have hshown : ∀ u : List α, u.Perm rows → ∀ n, ((u.filter (key · = key x)).take n).map shown =
          List.replicate (min n (rows.filter (key · = key x)).length) (shown x) := by
        intro u hu n
        refine List.eq_replicate_iff.2 ⟨?_, fun b hb => ?_⟩
        · rw [List.length_map, List.length_take, (hu.filter _).length_eq]
        · obtain ⟨a, ha, rfl⟩ := List.mem_map.1 hb
          obtain ⟨hmem, hkey⟩ := List.mem_filter.1 (List.mem_of_mem_take ha)
          exact htied (key x) k hk hlt hhigh a (hu.subset hmem) x (h.perm.subset hx)
            (by simpa using hkey) rfl
      rw [hshown l h.perm, hshown l' h'.perm]
  · have hlen' : l'.length ≤ k := hsame.length_eq ▸ Nat.le_of_not_lt hlen
    rw [List.take_of_length_le (Nat.le_of_not_lt hlen), List.take_of_length_le hlen']
    exact hsame.map shown

end Arranges

/-! ## Pages of arrangements -/

/-- However the pages are arranged, the keys descend. -/
theorem pages_keys {arrange : Nat → List α} (h : ∀ n, Arranges key rows (arrange n))
    (hl : Arranges key rows l) :
    (pages size count arrange).map key = (l.take (count * size)).map key := by
  induction count with
  | zero => simp [pages]
  | succ count ih =>
    have hpage : (page size (arrange count) count).map key = (page size l count).map key := by
      rw [page, page, List.map_take, List.map_drop, (h count).keys_eq hl, ← List.map_drop,
        ← List.map_take]
    rw [pages_succ, List.map_append, ih, hpage, ← List.map_append, take_append_page]

theorem pages_sorted {arrange : Nat → List α} (h : ∀ n, Arranges key rows (arrange n)) :
    (pages size count arrange).Pairwise fun a b => key b ≤ key a := by
  have hfirst : (((arrange 0).take (count * size)).map key).Pairwise fun s t => t ≤ s :=
    List.pairwise_map.2 ((h 0).sorted.sublist (List.take_sublist _ _))
  rw [← pages_keys h (h 0)] at hfirst
  exact List.pairwise_map.1 hfirst

theorem pages_perm {arrange : Nat → List α} (h : ∀ n, Arranges key rows (arrange n))
    (hl : Arranges key rows l) (htied : Tied key shown size rows) :
    ((pages size count arrange).map shown).Perm ((l.take (count * size)).map shown) := by
  induction count with
  | zero => simp [pages]
  | succ count ih =>
    have hnow := (h count).take_perm hl htied (Nat.dvd_mul_left size count)
    have hnext := (h count).take_perm hl htied (Nat.dvd_mul_left size (count + 1))
    rw [← take_append_page, ← take_append_page, List.map_append, List.map_append] at hnext
    have hpage : ((page size (arrange count) count).map shown).Perm
        ((page size l count).map shown) :=
      (List.perm_append_left_iff _).1 ((hnow.symm.append_right _).trans hnext)
    rw [pages_succ, ← take_append_page, List.map_append, List.map_append]
    exact ih.append hpage

theorem take_of_append (before middle after l : List α) (a : α) :
    (before ++ ((middle ++ a :: after) ++ l)).take (before.length + (middle.length + 1)) =
      before ++ (middle ++ [a]) := by
  rw [List.take_length_add_append, List.append_assoc, List.take_length_add_append]
  rfl

theorem insertionSort_arranges (key : α → κ) (rows : List α) :
    Arranges key rows (rows.insertionSort fun a b => key b ≤ key a) := by
  refine ⟨List.perm_insertionSort _ rows, ?_⟩
  have : Std.Total fun a b : α => key b ≤ key a := ⟨fun a b => le_total (key b) (key a)⟩
  have : IsTrans α fun a b => key b ≤ key a := ⟨fun a b c hab hbc => hbc.trans hab⟩
  exact List.pairwise_insertionSort _ rows

/-- Two rows of one key can be exchanged across the end of a page, for the pages before it only. -/
theorem shown_eq_of_pages (hcover : rows.length ≤ count * size)
    (hall : ∀ arrange : Nat → List α, (∀ n, Arranges key rows (arrange n)) →
      ((pages size count arrange).map shown).Perm (rows.map shown))
    (hk : size ∣ k) (hlow : rows.countP (t < key ·) < k) (hhigh : k < rows.countP (t ≤ key ·))
    {a b : α} {rest : List α} (hgroup : (a :: b :: rest).Perm (rows.filter (key · = t))) :
    shown a = shown b := by
  have hl := insertionSort_arranges key rows
  generalize rows.insertionSort (fun a b => key b ≤ key a) = l at hl
  obtain ⟨m, rfl⟩ := hk
  rw [Nat.mul_comm] at hlow hhigh
  have hend : m * size < rows.length := hhigh.trans_le List.countP_le_length
  obtain ⟨c, rfl⟩ : ∃ c, count = m + c :=
    ⟨count - m, by have := Nat.lt_of_mul_lt_mul_right (hend.trans_le hcover); omega⟩
  -- as many rows of the key stand before the end of the page as it takes
  have hsize := hgroup.length_eq
  rw [countP_le_split, ← hsize] at hhigh
  obtain ⟨middle, after, rfl, hmiddle⟩ : ∃ middle after, rest = middle ++ after ∧
      rows.countP (t < key ·) + (middle.length + 1) = m * size := by
    refine ⟨rest.take (m * size - rows.countP (t < key ·) - 1), _,
      (List.take_append_drop _ rest).symm, ?_⟩
    simp only [List.length_cons] at hhigh
    rw [List.length_take]
    omega
  have hone : (middle ++ a :: b :: after).Perm (rows.filter (key · = t)) := by
    refine (List.perm_middle.trans (List.Perm.cons a List.perm_middle)).trans hgroup
  have htwo : (middle ++ b :: a :: after).Perm (rows.filter (key · = t)) :=
    ((List.Perm.swap a b after).append_left middle).trans hone
  have h₁ := hl.permute hone
  have h₂ := hl.permute htwo
  have hbefore : (l.filter (t < key ·)).length = rows.countP (t < key ·) := by
    rw [← List.countP_eq_length_filter, hl.perm.countP_eq]
  have htake₁ := take_of_append (l.filter (t < key ·)) middle (b :: after)
    (l.filter (key · < t)) a
  have htake₂ := take_of_append (l.filter (t < key ·)) middle (a :: after)
    (l.filter (key · < t)) b
  rw [hbefore, hmiddle] at htake₁ htake₂
  generalize l.filter (t < key ·) ++ ((middle ++ a :: b :: after) ++ l.filter (key · < t)) = l₁
    at h₁ htake₁
  generalize l.filter (t < key ·) ++ ((middle ++ b :: a :: after) ++ l.filter (key · < t)) = l₂
    at h₂ htake₂
  have hdrop : (l₂.drop (m * size)).take (c * size) = l₂.drop (m * size) := by
    refine List.take_of_length_le ?_
    rw [Nat.add_mul] at hcover
    rw [List.length_drop, h₂.perm.length_eq]
    omega
  have hpages := hall (fun n => if n < m then l₁ else l₂) fun n => by
    split
    · exact h₁
    · exact h₂
  rw [pages_switch, hdrop] at hpages
  have hboth := hpages.trans (h₂.perm.map shown).symm
  have hcut : l₂.map shown = (l₂.take (m * size)).map shown ++ (l₂.drop (m * size)).map shown := by
    rw [← List.map_append, List.take_append_drop]
  rw [hcut, List.map_append, htake₁, htake₂, List.perm_append_right_iff, List.map_append,
    List.map_append, List.map_append, List.map_append, List.perm_append_left_iff,
    List.perm_append_left_iff] at hboth
  simpa using hboth

/-- **When pages partition the rows**, whatever arrangements they are cut from. -/
theorem pages_perm_iff (hcover : rows.length ≤ count * size) :
    (∀ arrange : Nat → List α, (∀ n, Arranges key rows (arrange n)) →
        ((pages size count arrange).map shown).Perm (rows.map shown)) ↔
      Tied key shown size rows := by
  constructor
  · intro hall t k hdvd hlow hhigh a ha b hb hkeya hkeyb
    by_contra hne
    have hab : b ≠ a := fun heq => hne (heq ▸ rfl)
    classical
    have ha' : a ∈ rows.filter (key · = t) := List.mem_filter.2 ⟨ha, by simpa using hkeya⟩
    have hb' : b ∈ rows.filter (key · = t) := List.mem_filter.2 ⟨hb, by simpa using hkeyb⟩
    have hgroup := ((List.perm_cons_erase ((List.mem_erase_of_ne hab).2 hb')).cons a).symm.trans
      (List.perm_cons_erase ha').symm
    exact hne (shown_eq_of_pages hcover hall hdvd hlow hhigh hgroup)
  · intro htied arrange h
    have hl := insertionSort_arranges key rows
    have hpages : ((pages size count arrange).map shown).Perm _ := pages_perm h hl htied
    rw [List.take_of_length_le (by rw [hl.perm.length_eq]; exact hcover)] at hpages
    exact hpages.trans (hl.perm.map shown)

end Pages
