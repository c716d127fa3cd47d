import Mathlib.Data.List.Nodup
import Mathlib.Data.List.TakeDrop

/-!
# Items taken once, in order

A list of named items that change some data, each of which may fail, and a log of the names of the
items taken. `Store.take` takes an item and logs it, or does nothing; a log has every name once.
`Store.Taken` says that a store holds what the first items leave, taken one after another. It is
kept by whoever takes an item after all those before it (`Taken.take`), and lets anyone catch up
(`Taken.takeAll`).
-/

set_option autoImplicit false

namespace Once

structure Item (ν σ : Type*) where
  name : ν
  run : σ → Option σ

structure Store (ν σ : Type*) where
  data : σ
  log : List ν

section
variable {ν σ : Type*} {items : List (Item ν σ)} {item : Item ν σ} {start : σ} {i k : Nat}

/-- Every item in a row. -/
def runAll (items : List (Item ν σ)) (data : σ) : Option σ :=
  items.foldlM (fun data item => item.run data) data

theorem runAll_take_succ (h : items[k]? = some item) :
    runAll (items.take (k + 1)) start = (runAll (items.take k) start).bind item.run := by
  rw [List.take_add_one, h, Option.toList_some, runAll, List.foldlM_append]
  simp [runAll]

/-- The items before one that runs have run. -/
theorem runAll_take {final : σ} (h : runAll items start = some final) :
    ∃ data, runAll (items.take k) start = some data := by
  rw [← List.take_append_drop k items, runAll, List.foldlM_append] at h
  obtain ⟨data, hdata, -⟩ := Option.bind_eq_some_iff.1 h
  exact ⟨data, hdata⟩

namespace Store

/-- The store holds what the first `k` items leave. -/
structure Taken (items : List (Item ν σ)) (start : σ) (k : Nat) (store : Store ν σ) : Prop where
  le : k ≤ items.length
  log : store.log = (items.take k).map Item.name
  data : runAll (items.take k) start = some store.data

theorem Taken.nothing : Taken items start 0 ⟨start, []⟩ :=
  ⟨Nat.zero_le _, rfl, rfl⟩

variable {store store' : Store ν σ}

/-- The items that are logged are the first. -/
theorem Taken.logged_iff (h : Taken items start k store) (hnames : (items.map Item.name).Nodup)
    (hi : items[i]? = some item) : item.name ∈ store.log ↔ i < k := by
  have hlt : i < items.length := (List.getElem?_eq_some_iff.1 hi).1
  have hname : (items.map Item.name)[i]? = some item.name := by rw [List.getElem?_map, hi]; rfl
  rw [h.log, List.map_take, List.mem_take_iff_getElem]
  constructor
  · rintro ⟨j, hj, heq⟩
    have hj' : (items.map Item.name)[j]? = some item.name := by
      rw [← heq]
      exact List.getElem?_eq_getElem _
    have hij : i = j := (List.getElem?_inj (by simpa using hlt) hnames).1 (hname.trans hj'.symm)
    omega
  · intro hik
    have hlen : i < (items.map Item.name).length := by simpa using hlt
    refine ⟨i, by omega, ?_⟩
    rw [List.getElem?_eq_getElem hlen] at hname
    exact Option.some.inj hname

variable [DecidableEq ν]

/-- One transaction. -/
def take (store : Store ν σ) (item : Item ν σ) : Option (Store ν σ) :=
  match item.run store.data with
  | none => none
  | some data => if item.name ∈ store.log then none else some ⟨data, store.log ++ [item.name]⟩

theorem take_eq_some : store.take item = some store' ↔ ∃ data, item.run store.data = some data ∧
    item.name ∉ store.log ∧ store' = ⟨data, store.log ++ [item.name]⟩ := by
  unfold take
  cases item.run store.data with
  | none => simp
  | some data => by_cases h : item.name ∈ store.log <;> simp [h, eq_comm]

/-- **Nobody takes an item twice or too early.** Whoever knows that the items before an item are
taken takes it as the next, or not at all. -/
theorem Taken.take (h : Taken items start k store) (hnames : (items.map Item.name).Nodup)
    (hi : items[i]? = some item) (hle : i ≤ k) (htake : store.take item = some store') :
    i = k ∧ store'.Taken items start (k + 1) := by
  obtain ⟨data, hrun, hnew, rfl⟩ := take_eq_some.1 htake
  rw [h.logged_iff hnames hi] at hnew
  obtain rfl : i = k := by omega
  refine ⟨rfl, (List.getElem?_eq_some_iff.1 hi).1, ?_, ?_⟩
  · rw [List.take_add_one, hi, List.map_append, ← h.log]
    rfl
  · rw [runAll_take_succ hi, h.data]
    exact hrun

/-- What is left to take, in order. -/
def takeAll (items : List (Item ν σ)) (store : Store ν σ) : Option (Store ν σ) :=
  items.foldlM (fun store item => if item.name ∈ store.log then some store else store.take item)
    store

/-- **Anyone can catch up.** When all items run one after another from the start, those that are not
taken can be, and then the store holds what they all leave. -/
theorem Taken.takeAll {final : σ} (h : Taken items start k store)
    (hnames : (items.map Item.name).Nodup) (hall : runAll items start = some final) :
    store.takeAll items = some ⟨final, items.map Item.name⟩ := by
  suffices hrest : ∀ rest i k store, items.drop i = rest → i ≤ k → Taken items start k store →
      Store.takeAll rest store = some ⟨final, items.map Item.name⟩ from
    hrest _ 0 k store rfl (Nat.zero_le k) h
  intro rest
  induction rest with
  | nil =>
    intro i k store hrest hik h
    have hlen := List.drop_eq_nil_iff.1 hrest
    obtain rfl : k = items.length := by have := h.le; omega
    have hdata := h.data
    have hlog := h.log
    rw [List.take_length] at hdata hlog
    obtain ⟨data, log⟩ := store
    cases hlog
    cases hall.symm.trans hdata
    rfl
  | cons item rest ih =>
    intro i k store hrest hik h
    have hi : items[i]? = some item := by
      have := congrArg (fun l => l[0]?) hrest
      simpa using this
    have hrest' : items.drop (i + 1) = rest := by
      rw [← List.tail_drop, hrest]
      rfl
    rw [Store.takeAll, List.foldlM_cons]
    by_cases hlogged : item.name ∈ store.log
    · rw [if_pos hlogged]
      have hlt := (h.logged_iff hnames hi).1 hlogged
      exact ih (i + 1) k store hrest' hlt h
    · rw [if_neg hlogged]
      obtain rfl : i = k := by
        have := mt (h.logged_iff hnames hi).2 hlogged
        omega
      obtain ⟨data, hdata⟩ := runAll_take (k := i + 1) hall
      rw [runAll_take_succ hi, h.data] at hdata
      have htake : store.take item = some ⟨data, store.log ++ [item.name]⟩ :=
        take_eq_some.2 ⟨data, hdata, hlogged, rfl⟩
      rw [htake]
      exact ih (i + 1) (i + 1) _ hrest' (Nat.le_refl _) (h.take hnames hi (Nat.le_refl _) htake).2

end Store

end

end Once
