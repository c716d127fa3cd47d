import Mathlib.Data.List.Induction
import Mathlib.Data.List.Nodup

/-!
# Association lists with repeated keys

`last` is the value of the last entry of a key, the one that counts in a format where a later entry
replaces an earlier one; `set` gives every entry of a key a new value. Where keys are distinct,
`last` is `List.lookup`. `firsts` keeps the first entry of every key, which is what adding the
entries one by one under new keys gives (`foldl_addNew`).
-/

set_option autoImplicit false

namespace Assoc

variable {K V : Type*} [DecidableEq K] {l : List (K × V)} {k key : K} {v : V}

/-- The value of the last entry of a key. -/
def last (l : List (K × V)) (k : K) : Option V := l.reverse.lookup k

/-- Every entry of the key gets the value. -/
def set (l : List (K × V)) (k : K) (v : V) : List (K × V) :=
  l.map fun entry => if entry.1 = k then (k, v) else entry

theorem last_cons (entry : K × V) :
    last (entry :: l) k = (last l k).or (if k = entry.1 then some entry.2 else none) := by
  rw [last, List.reverse_cons, List.lookup_append, ← last, List.lookup_cons, List.lookup_nil]
  by_cases h : k = entry.1
  · simp [h]
  · simp [h, beq_eq_false_iff_ne.2 h]

theorem last_of_nodup (h : (l.map Prod.fst).Nodup) (k : K) : last l k = l.lookup k := by
  induction l with
  | nil => rfl
  | cons entry l ih =>
    rw [List.map_cons, List.nodup_cons] at h
    rw [last_cons, ih h.2, List.lookup_cons]
    by_cases hk : k = entry.1
    · have hnone : l.lookup entry.1 = none := by
        rw [List.lookup_eq_none_iff]
        intro entry' hmem
        rw [bne_iff_ne]
        intro heq
        exact h.1 (heq ▸ List.mem_map_of_mem hmem)
      simp [hk, hnone]
    · simp [hk, beq_eq_false_iff_ne.2 hk]

theorem last_set_ne (h : k ≠ key) : last (set l key v) k = last l k := by
  induction l with
  | nil => rfl
  | cons entry l ih =>
    rw [set, List.map_cons, ← set, last_cons, last_cons, ih]
    by_cases hentry : entry.1 = key
    · simp [hentry, h]
    · simp [hentry]

theorem last_set_self : last (set l k v) k = (last l k).map fun _ => v := by
  induction l with
  | nil => rfl
  | cons entry l ih =>
    rw [set, List.map_cons, ← set, last_cons, last_cons, ih]
    by_cases hentry : entry.1 = k
    · cases last l k <;> simp [hentry]
    · simp [hentry, Ne.symm hentry]

theorem eq_of_mem_set {v' : V} (h : (k, v') ∈ set l k v) : v' = v := by
  obtain ⟨entry, -, heq⟩ := List.mem_map.1 h
  split at heq
  · exact (Prod.mk.inj heq).2.symm
  · rename_i hne
    exact absurd (congrArg Prod.fst heq) hne

/-! ## Distinct keys -/

theorem lookup_iff_mem (h : (l.map Prod.fst).Nodup) : l.lookup k = some v ↔ (k, v) ∈ l := by
  rw [List.lookup_eq_some_iff]
  constructor
  · rintro ⟨before, after, rfl, -⟩
    simp
  · intro hmem
    obtain ⟨before, after, rfl⟩ := List.append_of_mem hmem
    refine ⟨before, after, rfl, fun entry hentry => ?_⟩
    rw [List.map_append, List.map_cons, List.nodup_append] at h
    rw [bne_iff_ne]
    exact (h.2.2 entry.1 (List.mem_map_of_mem hentry) k (List.mem_cons_self ..)).symm

/-- The order of entries with distinct keys does not matter. -/
theorem lookup_perm {l' : List (K × V)} (h : (l.map Prod.fst).Nodup) (hperm : l.Perm l') (k : K) :
    l.lookup k = l'.lookup k := by
  have h' := (hperm.map Prod.fst).nodup_iff.1 h
  ext v
  rw [lookup_iff_mem h, lookup_iff_mem h', hperm.mem_iff]

/-! ## The first entry of every key -/

/-- Appends an entry whose key is new. -/
def addNew (l : List (K × V)) (entry : K × V) : List (K × V) :=
  if l.any (·.1 = entry.1) then l else l ++ [entry]

def firsts (l : List (K × V)) : List (K × V) := l.eraseDupsBy fun a b => a.1 == b.1

theorem any_addNew (k : K) :
    (addNew l (k, v)).any (·.1 = k) = true := by
  unfold addNew
  split
  · assumption
  · simp

theorem addNew_addNew (v' : V) : addNew (addNew l (k, v)) (k, v') = addNew l (k, v) :=
  if_pos (any_addNew k)

theorem foldl_addNew (acc : List (K × V)) :
    l.foldl addNew acc = acc ++ firsts (l.filter fun entry => ¬ acc.any (·.1 = entry.1)) := by
  induction l generalizing acc with
  | nil => simp [firsts]
  | cons entry l ih =>
    rw [List.foldl_cons, ih]
    by_cases hold : acc.any (·.1 = entry.1)
    · rw [addNew, if_pos hold, List.filter_cons_of_neg (by simpa using hold)]
    · have hrest : l.filter (fun e => ¬ (acc ++ [entry]).any (·.1 = e.1)) =
          (l.filter fun e => ¬ acc.any (·.1 = e.1)).filter fun e => (e.1 == entry.1) = false := by
        rw [List.filter_filter]
        refine List.filter_congr fun e _ => ?_
        rw [List.any_append, List.any_cons, List.any_nil]
        by_cases he : e.1 = entry.1
        · simp [he]
        · simp [he, Ne.symm he]
      rw [addNew, if_neg hold, List.filter_cons, if_pos (decide_eq_true hold), hrest, firsts,
        firsts,
        List.eraseDupsBy_cons, List.append_assoc]
      rfl

theorem foldl_addNew_nil : l.foldl addNew [] = firsts l := by
  rw [foldl_addNew]
  simp

theorem firsts_eq_nil : firsts l = [] ↔ l = [] := by
  cases l with
  | nil => exact iff_of_true rfl rfl
  | cons entry l => simp [firsts, List.eraseDupsBy_cons]

theorem firsts_concat (l : List (K × V)) (entry : K × V) :
    firsts (l ++ [entry]) = addNew (firsts l) entry := by
  rw [← foldl_addNew_nil, ← foldl_addNew_nil, List.foldl_append]
  rfl

/-- When a key has one value, nothing is lost. -/
theorem mem_firsts (h : ∀ a ∈ l, ∀ b ∈ l, a.1 = b.1 → a = b) {entry : K × V} :
    entry ∈ firsts l ↔ entry ∈ l := by
  induction l using List.reverseRecOn generalizing entry with
  | nil => exact Iff.rfl
  | append_singleton l last ih =>
    have ih := fun {e : K × V} =>
      @ih (fun a ha b hb => h a (List.mem_append_left _ ha) b (List.mem_append_left _ hb)) e
    rw [firsts_concat, addNew, List.mem_append, List.mem_singleton, ← ih]
    split
    · rename_i hold
      obtain ⟨e, he, hkey⟩ := List.any_eq_true.1 hold
      have hmem : e ∈ l ++ [last] := List.mem_append_left _ (ih.1 he)
      have hlast : e = last := h e hmem last (by simp) (of_decide_eq_true hkey)
      exact ⟨.inl, fun hor => hor.elim id fun heq => by rw [heq, ← hlast]; exact he⟩
    · rw [List.mem_append, List.mem_singleton]

end Assoc
