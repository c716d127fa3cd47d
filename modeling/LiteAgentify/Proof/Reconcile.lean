import LiteAgentify.Quota.Reconcile
import LiteAgentify.Lib.Sums
import Mathlib.Algebra.Order.BigOperators.Group.Finset
import Mathlib.Algebra.Order.Ring.Rat
import Mathlib.Tactic.Linarith
import Mathlib.Tactic.Ring

/-!
# Counter drift under reconciliation

`counter_drift`: in every reachable state a counter stands at its boot value plus the cost of all
adds made to its scope, less the cost of the overlooked requests: those whose add came before the
last reset of the scope and whose record was not in the table when that pass ran its query. So
nobody is charged twice. The invariant is that a record in the table has made both of its adds, so
that a sum read by a query never counts a request that the counter has not counted.
-/

set_option autoImplicit false

namespace LiteAgentify

/-! ## Sums of a table -/

/-- The row is counted in the scope. -/
def UsageRow.InScope (row : UsageRow) : Scope → Prop
  | .user id => row.userId = some id
  | .key id => row.apiKeyId = some id

instance (row : UsageRow) (scope : Scope) : Decidable (row.InScope scope) :=
  match scope with
  | .user _ => inferInstanceAs (Decidable (_ = _))
  | .key _ => inferInstanceAs (Decidable (_ = _))

/-- What a table says a scope has spent. -/
def spent (rows : List UsageRow) (scope : Scope) : ℚ :=
  ((rows.filter (·.InScope scope)).map (·.estimatedCost.getD 0)).sum

theorem spent_append (rows rows' : List UsageRow) (scope : Scope) :
    spent (rows ++ rows') scope = spent rows scope + spent rows' scope := by
  simp [spent]

/-- The sum that a grouping query finds for a key of it. -/
theorem groupSums_some {key : UsageRow → Option Uuid} {rows : List UsageRow} {id : Uuid} {v : ℚ}
    (h : (groupSums key (·.estimatedCost.getD 0) rows).lookup id = some v) :
    v = ((rows.filter (key · = some id)).map (·.estimatedCost.getD 0)).sum := by
  rw [lookup_groupSums] at h
  split at h
  · exact (Option.some.inj h).symm
  · cases h

theorem spendByUser_some {rows : List UsageRow} {id : Uuid} {v : ℚ}
    (h : (spendByUser rows).lookup id = some v) : v = spent rows (.user id) := groupSums_some h

theorem spendByKey_some {rows : List UsageRow} {id : Uuid} {v : ℚ}
    (h : (spendByKey rows).lookup id = some v) : v = spent rows (.key id) := groupSums_some h

/-- An entry of an iteration is an entry of the map. -/
theorem Iterates.lookup {m : HashMap Uuid ℚ} {order : List (Uuid × ℚ)} (h : Iterates m order)
    {entry : Uuid × ℚ} (he : entry ∈ order) : m.lookup entry.1 = some entry.2 := by
  obtain ⟨hnd, rfl⟩ := h
  exact Keyed.lookup_insertAll hnd he

/-- A key that an iteration does not meet is not in the map. -/
theorem Iterates.not_mem {m : HashMap Uuid ℚ} {order : List (Uuid × ℚ)} (h : Iterates m order)
    {id : Uuid} (hid : ∀ entry ∈ order, entry.1 ≠ id) : m.lookup id = none := by
  obtain ⟨-, rfl⟩ := h
  rw [Finmap.lookup_eq_none, Keyed.mem_insertAll]
  rintro (h | ⟨entry, he, rfl⟩)
  · exact Finmap.notMem_empty h
  · exact hid entry he rfl

/-- What belongs to the kind of a scope: users, or keys. -/
def Scope.pick {α : Type} (users keys : α) : Scope → α
  | .user _ => users
  | .key _ => keys

/-- The resets of a pass over these sums are to what the tables say. -/
theorem mem_resets {rows rows' : List UsageRow} {users keys : List (Uuid × ℚ)}
    (hu : Iterates (spendByUser rows) users) (hk : Iterates (spendByKey rows') keys)
    {scope : Scope} {total : ℚ} (h : (scope, total) ∈ resets users keys) :
    total = spent (scope.pick rows rows') scope := by
  rcases List.mem_append.1 h with h | h
  · obtain ⟨entry, he, heq⟩ := List.mem_map.1 h
    cases heq
    exact spendByUser_some (hu.lookup he)
  · obtain ⟨entry, he, heq⟩ := List.mem_map.1 h
    cases heq
    exact spendByKey_some (hk.lookup he)

/-- A pass resets the scopes that have rows. -/
theorem exists_reset_iff {rows : List UsageRow} {users keys : List (Uuid × ℚ)}
    (hu : Iterates (spendByUser rows) users) (hk : Iterates (spendByKey rows) keys)
    {scope : Scope} :
    (∃ entry ∈ resets users keys, entry.1 = scope) ↔ ∃ row ∈ rows, row.InScope scope := by
  have hsum : ∀ {key : UsageRow → Option Uuid} {order : List (Uuid × ℚ)} {id : Uuid},
      Iterates (groupSums key (·.estimatedCost.getD 0) rows) order →
      ((∃ entry ∈ order, entry.1 = id) ↔ ∃ row ∈ rows, key row = some id) := by
    intro key order id h
    have hany : (∃ row ∈ rows, key row = some id) ↔ rows.any (key · = some id) = true := by simp
    rw [hany]
    constructor
    · rintro ⟨entry, he, rfl⟩
      have hl := h.lookup he
      rw [lookup_groupSums] at hl
      by_contra hn
      rw [if_neg hn] at hl
      cases hl
    · intro ha
      by_contra hn
      have hl := h.not_mem fun entry he hid => hn ⟨entry, he, hid⟩
      rw [lookup_groupSums, if_pos ha] at hl
      cases hl
  cases scope with
  | user id =>
    refine .trans ?_ (hsum hu)
    simp [resets]
  | key id =>
    refine .trans ?_ (hsum hk)
    simp [resets]

theorem spent_eq_zero {rows : List UsageRow} {scope : Scope}
    (h : ¬ ∃ row ∈ rows, row.InScope scope) : spent rows scope = 0 := by
  have hnil : rows.filter (·.InScope scope) = [] := by
    rw [List.filter_eq_nil_iff]
    exact fun row hrow hin => h ⟨row, hrow, of_decide_eq_true hin⟩
  rw [spent, hnil]
  rfl

/-! ## A pass by itself -/

section
variable {C : Type} {get : C → Scope → ℚ} {reset : C → Scope → ℚ → C}

/-- What a scope stands at after resets that agree on it. -/
theorem get_resets
    (hget : ∀ counter scope value scope',
      get (reset counter scope value) scope' = if scope' = scope then value else get counter scope')
    (l : List (Scope × ℚ)) (counter : C) {scope : Scope} {total : ℚ}
    (hall : ∀ entry ∈ l, entry.1 = scope → entry.2 = total) :
    get (l.foldl (fun counter entry => reset counter entry.1 entry.2) counter) scope =
      if ∃ entry ∈ l, entry.1 = scope then total else get counter scope := by
  induction l generalizing counter with
  | nil => simp
  | cons entry l ih =>
    rw [List.foldl_cons, ih _ fun e he => hall e (List.mem_cons_of_mem _ he), hget]
    by_cases hs : entry.1 = scope
    · rw [if_pos hs.symm, hall entry (List.mem_cons_self ..) hs, ite_self, if_pos]
      exact ⟨entry, List.mem_cons_self .., hs⟩
    · have hiff : (∃ e ∈ entry :: l, e.1 = scope) ↔ ∃ e ∈ l, e.1 = scope := by
        rw [List.exists_mem_cons_iff, or_iff_right hs]
      simp only [hiff, if_neg (Ne.symm hs)]

/-- A pass brings the scopes that have rows to what the table says, and leaves the others. -/
theorem get_reconciled
    (hget : ∀ counter scope value scope',
      get (reset counter scope value) scope' = if scope' = scope then value else get counter scope')
    {rows : List UsageRow} {users keys : List (Uuid × ℚ)} (hu : Iterates (spendByUser rows) users)
    (hk : Iterates (spendByKey rows) keys) (counter : C) (scope : Scope) :
    get ((resets users keys).foldl (fun counter entry => reset counter entry.1 entry.2) counter)
        scope =
      if ∃ row ∈ rows, row.InScope scope then spent rows scope else get counter scope := by
  have hall : ∀ entry ∈ resets users keys, entry.1 = scope → entry.2 = spent rows scope := by
    rintro ⟨scope', total⟩ he rfl
    have := mem_resets hu hk he
    cases scope' <;> exact this
  rw [get_resets hget (resets users keys) counter hall]
  simp only [exists_reset_iff hu hk]

end

/-- A pass over a new counter sets every scope to what the table says. -/
theorem get_reconcileCounters {rows : List UsageRow} {users keys : List (Uuid × ℚ)}
    (hu : Iterates (spendByUser rows) users) (hk : Iterates (spendByKey rows) keys)
    (scope : Scope) : (reconcileCounters users keys ∅).get scope = spent rows scope := by
  rw [reconcileCounters, get_reconciled (fun _ _ _ _ => MemoryCounter.get_reset ..) hu hk]
  split
  · rfl
  · rename_i h
    rw [MemoryCounter.get_empty, spent_eq_zero h]

/-! ## The records of some requests -/

section
variable {ι : Type} (old : List UsageRow) (requests : ι → PricedRequest)

/-- What a scope has spent according to the old rows and the records of some requests. -/
def spentBy (seen : Finset ι) (scope : Scope) : ℚ :=
  spent old scope + ∑ i ∈ seen, if (requests i).InScope scope then (requests i).cost else 0

variable {old requests}

theorem row_inScope (request : PricedRequest) (scope : Scope) :
    request.row.InScope scope ↔ request.InScope scope := by
  cases scope <;> simp [UsageRow.InScope, PricedRequest.InScope, PricedRequest.row]

theorem added_congr {s w : Books ι} {scope : Scope} {i : ι} (h : w.progress i = s.progress i) :
    w.Added requests scope i ↔ s.Added requests scope i := by
  rw [Books.Added, Books.Added, h]

section
variable [Fintype ι] (requests)

/-- The cost of the adds made to a scope. -/
def charged (s : Books ι) (scope : Scope) : ℚ :=
  ∑ i, if s.Added requests scope i then (requests i).cost else 0

variable {requests}

/-- The adds change by the step of one request. -/
theorem charged_change {s w : Books ι} {i : ι} (hw : ∀ j, j ≠ i → w.progress j = s.progress j)
    (scope : Scope) :
    charged requests w scope = charged requests s scope +
      if (requests i).InScope scope then
        (if (w.progress i).counts scope then (requests i).cost else 0) -
          if (s.progress i).counts scope then (requests i).cost else 0
      else 0 := by
  have hsum := Sums.sum_change
    (f := fun j => if s.Added requests scope j then (requests j).cost else 0)
    (g := fun j => if w.Added requests scope j then (requests j).cost else 0) i
    fun j hj => if_congr (added_congr (hw j hj)) rfl rfl
  rw [charged, hsum, charged]
  congr 1
  by_cases h : (requests i).InScope scope <;> simp [Books.Added, h]

theorem charged_same {s w : Books ι} (hw : w.progress = s.progress) (scope : Scope) :
    charged requests w scope = charged requests s scope :=
  Finset.sum_congr rfl fun i _ => if_congr (added_congr (by rw [hw])) rfl rfl

end

variable [DecidableEq ι]

theorem spent_rows (l : List ι) (hl : l.Nodup) (scope : Scope) :
    spent (old ++ l.map fun i => (requests i).row) scope =
      spentBy old requests l.toFinset scope := by
  rw [spent_append, spentBy, List.sum_toFinset _ hl]
  congr 1
  clear hl
  induction l with
  | nil => rfl
  | cons i l ih =>
    simp only [spent] at ih ⊢
    by_cases h : (requests i).InScope scope
    · simp only [List.map_cons, List.filter_cons, row_inScope, h, decide_true, if_true,
        List.sum_cons, ih]
      rfl
    · simp only [List.map_cons, List.filter_cons, row_inScope, h, decide_false, Bool.false_eq_true,
        if_false, List.sum_cons, ih, zero_add]

/-! ## What an observer of the passes has seen -/

/-- The requests in the table at the last query of each kind, and for each scope the requests that
its last reset overlooked. -/
structure History (ι : Type) where
  users : Finset ι
  keys : Finset ι
  overlooked : Scope → Finset ι

variable [Fintype ι] (old requests)

/-- A query notes the table; a reset notes the requests that were added to its scope before and were
not in the table that its pass has read. -/
def History.note (m : History ι) (s : Books ι) (action : Action ι) : History ι :=
  match action, s.pass with
  | .queryUsers, _ => { m with users := s.table.toFinset }
  | .queryKeys _ _, _ => { m with keys := s.table.toFinset }
  | .reset, .resetting ((scope, _) :: _) =>
    let late := Finset.univ.filter fun i =>
      s.Added requests scope i ∧ i ∉ scope.pick m.users m.keys
    { m with overlooked := Function.update m.overlooked scope late }
  | _, _ => m

/-- What the observer has seen in a run from boot. -/
def history (counter : MemoryCounter) (tr : List (Action ι)) : History ι :=
  Lts.observe (Books.step old requests) (fun m s action _ => m.note requests s action)
    (Books.init counter) ⟨∅, ∅, fun _ => ∅⟩ tr

variable {old requests}

/-! ## The invariant -/

/-- The records under way and in the table are those of the requests that have handed them over,
once each; a query has seen no other; the sums of a pass are of what its queries saw; and every
counter stands at the old spending and the adds, less what its last reset overlooked. -/
structure Balanced (old : List UsageRow) (requests : ι → PricedRequest) (s : Books ι)
    (m : History ι) : Prop where
  handed : ∀ i, i ∈ s.channel ++ s.buffer ++ s.table ↔ s.progress i = .enqueued
  nodup : (s.channel ++ s.buffer ++ s.table).Nodup
  seen : ∀ scope : Scope, ∀ i ∈ scope.pick m.users m.keys, s.progress i = .enqueued
  sums : ∀ byUser, s.pass = .sawUsers byUser → ∃ l : List ι, l.Nodup ∧ l.toFinset = m.users ∧
    byUser = spendByUser (old ++ l.map fun i => (requests i).row)
  left : ∀ left, s.pass = .resetting left → ∀ entry ∈ left,
    entry.2 = spentBy old requests (entry.1.pick m.users m.keys) entry.1
  drift : ∀ scope, s.counter.get scope =
    spent old scope + charged requests s scope - ∑ i ∈ m.overlooked scope, (requests i).cost

theorem balanced_init {counter : MemoryCounter} (hc : ∀ scope, counter.get scope = spent old scope) :
    Balanced old requests (Books.init counter) ⟨∅, ∅, fun _ => ∅⟩ where
  handed i := by simp [Books.init]
  nodup := by simp [Books.init]
  seen scope i h := by cases scope <;> simp [Scope.pick] at h
  sums _ h := by simp [Books.init] at h
  left _ h := by simp [Books.init] at h
  drift scope := by simp [Books.init, hc, charged, Books.Added, Progress.counts]

/-- A request that a query has seen has been added to both of its scopes. -/
theorem Balanced.added {s : Books ι} {m : History ι} (h : Balanced old requests s m)
    {scope : Scope} {i : ι} (hi : i ∈ scope.pick m.users m.keys) :
    s.Added requests scope i ↔ (requests i).InScope scope := by
  simp [Books.Added, h.seen scope i hi, Progress.counts]

/-- The writer moves records along. -/
theorem Balanced.move {s w : Books ι} {m : History ι} (h : Balanced old requests s m)
    (hperm : (w.channel ++ w.buffer ++ w.table).Perm (s.channel ++ s.buffer ++ s.table))
    (hc : w.counter = s.counter) (hp : w.progress = s.progress) (hpass : w.pass = s.pass) :
    Balanced old requests w m where
  handed i := by rw [hperm.mem_iff, hp]; exact h.handed i
  nodup := hperm.nodup_iff.2 h.nodup
  seen := by rw [hp]; exact h.seen
  sums := by rw [hpass]; exact h.sums
  left := by rw [hpass]; exact h.left
  drift scope := by rw [hc, charged_same hp]; exact h.drift scope

/-- A pass that is over. -/
theorem Balanced.idle {s : Books ι} {m : History ι} (h : Balanced old requests s m) :
    Balanced old requests { s with pass := .idle } m :=
  ⟨h.handed, h.nodup, h.seen, fun _ hb => (by cases hb), fun _ hl => (by cases hl), h.drift⟩

/-- A flush moves the buffer to the end of the table. -/
theorem flush_perm {α : Type} (channel buffer table : List α) :
    (channel ++ [] ++ (table ++ buffer)).Perm (channel ++ buffer ++ table) := by
  rw [List.append_nil, List.append_assoc]
  exact List.Perm.append_left _ List.perm_append_comm

/-- A record moves from the channel to the end of the buffer. -/
theorem receive_perm {α : Type} (i : α) (rest buffer table : List α) :
    (rest ++ (buffer ++ [i]) ++ table).Perm (i :: rest ++ buffer ++ table) := by
  simp only [List.append_assoc, List.cons_append, List.nil_append]
  rw [← List.append_assoc, ← List.append_assoc rest]
  exact List.perm_middle

/-- An add of a request that comes so far. -/
theorem Balanced.add {s : Books ι} {m : History ι} {i : ι} {p : Progress} {scope' : Scope}
    (h : Balanced old requests s m) (hs : s.progress i ≠ .enqueued) (hp : p ≠ .enqueued)
    (hin : (requests i).InScope scope')
    (hcount : ∀ scope, (requests i).InScope scope →
      (p.counts scope = true ↔ (s.progress i).counts scope = true ∨ scope = scope') ∧
        ((s.progress i).counts scope = true → scope ≠ scope')) :
    Balanced old requests { s with
      counter := s.counter.add scope' (requests i).cost
      progress := Function.update s.progress i p } m where
  handed j := by
    by_cases hj : j = i
    · subst hj
      simp only [Function.update_self]
      rw [h.handed]
      exact ⟨fun h => absurd h hs, fun h => absurd h hp⟩
    · simp only [Function.update_of_ne hj]
      exact h.handed j
  nodup := h.nodup
  seen scope j hj := by
    have := h.seen scope j hj
    by_cases hji : j = i
    · subst hji
      exact absurd this hs
    · simpa only [Function.update_of_ne hji] using this
  sums := h.sums
  left := h.left
  drift scope := by
    have hch := @charged_change ι requests _ s { s with
        counter := s.counter.add scope' (requests i).cost
        progress := Function.update s.progress i p } i (fun j hj => Function.update_of_ne hj _ _) scope
    rw [MemoryCounter.get_add, h.drift scope, hch]
    simp only [Function.update_self]
    by_cases hsc : (requests i).InScope scope
    · obtain ⟨h1, h2⟩ := hcount scope hsc
      by_cases heq : scope = scope'
      · subst heq
        have hc : (s.progress i).counts scope = false := by
          by_contra hne
          exact h2 (by simpa using hne) rfl
        simp only [hsc, h1.2 (.inr rfl), hc, if_true, Bool.false_eq_true, if_false]
        ring
      · have : p.counts scope = (s.progress i).counts scope := by
          rw [Bool.eq_iff_iff, h1]
          simp [heq]
        simp [hsc, heq, this]
    · have : scope ≠ scope' := fun he => hsc (he ▸ hin)
      simp [hsc, this]

/-- The hand-over of a record. -/
theorem Balanced.enqueue {s : Books ι} {m : History ι} {i : ι} (h : Balanced old requests s m)
    (hs : s.progress i = .addedKey) :
    Balanced old requests { s with
      channel := s.channel ++ [i]
      progress := Function.update s.progress i .enqueued } m where
  handed j := by
    by_cases hj : j = i
    · subst hj
      simp
    · have := h.handed j
      simp only [Function.update_of_ne hj]
      rw [← this]
      simp [hj]
  nodup := by
    have hn : i ∉ s.channel ++ s.buffer ++ s.table := by
      rw [h.handed, hs]
      decide
    have hperm : (s.channel ++ [i] ++ s.buffer ++ s.table).Perm
        (i :: (s.channel ++ s.buffer ++ s.table)) := by
      simp only [List.append_assoc]
      exact List.perm_middle
    exact hperm.nodup_iff.2 (List.nodup_cons.2 ⟨hn, h.nodup⟩)
  seen scope j hj := by
    by_cases hji : j = i
    · subst hji
      simp
    · simpa only [Function.update_of_ne hji] using h.seen scope j hj
  sums := h.sums
  left := h.left
  drift scope := by
    rw [charged_change (s := s) (i := i) (fun j hj => by simp [hj]) scope]
    have : Progress.counts .enqueued scope = Progress.counts .addedKey scope := by
      cases scope <;> rfl
    simpa [hs, this] using h.drift scope

theorem Balanced.table_nodup {s : Books ι} {m : History ι} (h : Balanced old requests s m) :
    s.table.Nodup :=
  (List.nodup_append.1 h.nodup).2.1

theorem Balanced.table_enqueued {s : Books ι} {m : History ι} (h : Balanced old requests s m)
    {i : ι} (hi : i ∈ s.table.toFinset) : s.progress i = .enqueued :=
  (h.handed i).1 (List.mem_append_right _ (List.mem_toFinset.1 hi))

theorem Balanced.queryUsers {s : Books ι} {m : History ι} (h : Balanced old requests s m) :
    Balanced old requests { s with pass := .sawUsers (spendByUser (s.rows old requests)) }
      { m with users := s.table.toFinset } where
  handed := h.handed
  nodup := h.nodup
  seen scope i hi := by
    cases scope with
    | user id => exact h.table_enqueued hi
    | key id => exact h.seen (.key id) i hi
  sums byUser hb := by
    cases hb
    exact ⟨s.table, h.table_nodup, rfl, rfl⟩
  left _ hl := by cases hl
  drift := h.drift

theorem Balanced.queryKeys {s : Books ι} {m : History ι} {byUser : HashMap Uuid ℚ}
    {users keys : List (Uuid × ℚ)} (h : Balanced old requests s m) (hp : s.pass = .sawUsers byUser)
    (hu : Iterates byUser users) (hk : Iterates (spendByKey (s.rows old requests)) keys) :
    Balanced old requests { s with pass := .resetting (resets users keys) }
      { m with keys := s.table.toFinset } where
  handed := h.handed
  nodup := h.nodup
  seen scope i hi := by
    cases scope with
    | user id => exact h.seen (.user id) i hi
    | key id => exact h.table_enqueued hi
  sums _ hb := by cases hb
  left left hl entry he := by
    cases hl
    obtain ⟨l, hnd, hlu, rfl⟩ := h.sums byUser hp
    have hmem := mem_resets hu hk he
    rw [hmem]
    cases entry.1 with
    | user id =>
      rw [Scope.pick, spent_rows l hnd, hlu]
      rfl
    | key id =>
      rw [Scope.pick, Books.rows, spent_rows s.table h.table_nodup]
      rfl
  drift := h.drift

/-- What a reset brings the counter to is what was charged, less what the pass has not seen. -/
theorem Balanced.spentBy_eq {s : Books ι} {m : History ι} (h : Balanced old requests s m)
    (scope : Scope) :
    spentBy old requests (scope.pick m.users m.keys) scope =
      spent old scope + charged requests s scope -
        ∑ i with s.Added requests scope i ∧ i ∉ scope.pick m.users m.keys, (requests i).cost := by
  have hin : (∑ i ∈ scope.pick m.users m.keys,
      if (requests i).InScope scope then (requests i).cost else 0) =
      ∑ i with s.Added requests scope i ∧ i ∈ scope.pick m.users m.keys, (requests i).cost := by
    rw [← Finset.sum_filter]
    refine Finset.sum_congr ?_ fun _ _ => rfl
    ext i
    simp only [Finset.mem_filter, Finset.mem_univ, true_and]
    exact ⟨fun ⟨hm, hs⟩ => ⟨(h.added hm).2 hs, hm⟩, fun ⟨ha, hm⟩ => ⟨hm, (h.added hm).1 ha⟩⟩
  have hsplit : charged requests s scope =
      ∑ i with s.Added requests scope i ∧ i ∈ scope.pick m.users m.keys, (requests i).cost +
        ∑ i with s.Added requests scope i ∧ i ∉ scope.pick m.users m.keys, (requests i).cost := by
    rw [charged, ← Finset.sum_filter,
      ← Finset.sum_filter_add_sum_filter_not _ (· ∈ scope.pick m.users m.keys),
      Finset.filter_filter, Finset.filter_filter]
  rw [spentBy, hin, hsplit]
  ring

theorem Balanced.reset {s : Books ι} {m : History ι} {scope : Scope} {total : ℚ}
    {left : List (Scope × ℚ)} (h : Balanced old requests s m)
    (hp : s.pass = .resetting ((scope, total) :: left)) :
    Balanced old requests { s with
      counter := s.counter.reset scope total
      pass := .resetting left } (m.note requests s .reset) := by
  simp only [History.note, hp]
  refine ⟨h.handed, h.nodup, h.seen, fun _ hb => (by cases hb), fun left' hl entry he => ?_,
    fun scope' => ?_⟩
  · cases hl
    exact h.left _ hp entry (List.mem_cons_of_mem _ he)
  · have htotal := h.left _ hp _ (List.mem_cons_self ..)
    have hch : charged requests { s with
        counter := s.counter.reset scope total
        pass := .resetting left } scope' = charged requests s scope' := charged_same rfl _
    rw [MemoryCounter.get_reset, hch]
    by_cases hs : scope' = scope
    · subst hs
      simp only [if_true, Function.update_self]
      exact htotal.trans (h.spentBy_eq _)
    · simp only [hs, if_false, Function.update_of_ne hs]
      exact h.drift scope'

/-- **The step lemma.** -/
theorem balanced_step {s w : Books ι} {m : History ι} {action : Action ι}
    (h : Balanced old requests s m) (hs : s.step old requests action = some w) :
    Balanced old requests w (m.note requests s action) := by
  cases action with
  | request i =>
    simp only [Books.step] at hs
    cases hp : s.progress i with
    | fresh =>
      simp only [hp, Option.some.injEq] at hs
      subst hs
      refine h.add (by rw [hp]; decide) (by decide)
        (show (requests i).InScope (.user (requests i).userId) from rfl) fun scope hsc => ?_
      cases scope <;> simp_all [Progress.counts, PricedRequest.InScope]
    | addedUser =>
      simp only [hp, Option.some.injEq] at hs
      subst hs
      refine h.add (by rw [hp]; decide) (by decide)
        (show (requests i).InScope (.key (requests i).apiKeyId) from rfl) fun scope hsc => ?_
      cases scope <;> simp_all [Progress.counts, PricedRequest.InScope]
    | addedKey =>
      simp only [hp, Option.some.injEq] at hs
      subst hs
      exact h.enqueue hp
    | enqueued => simp [hp] at hs
  | receive =>
    simp only [Books.step] at hs
    cases hc : s.channel with
    | nil => simp [hc] at hs
    | cons i rest =>
      have hperm := receive_perm i rest s.buffer s.table
      rw [← hc] at hperm
      simp only [hc] at hs
      split at hs <;> cases hs
      · exact h.move ((flush_perm rest (s.buffer ++ [i]) s.table).trans hperm) rfl rfl rfl
      · exact h.move hperm rfl rfl rfl
  | tick =>
    simp only [Books.step] at hs
    split at hs
    · cases hs
    · cases hs
      exact h.move (flush_perm s.channel s.buffer s.table) rfl rfl rfl
  | queryUsers =>
    simp only [Books.step] at hs
    split at hs <;> cases hs
    exact h.queryUsers
  | queryKeys users keys =>
    simp only [Books.step] at hs
    split at hs
    · rename_i byUser hp
      split at hs
      · rename_i hi
        cases hs
        exact h.queryKeys hp hi.1 hi.2
      · cases hs
    · cases hs
  | queryFails =>
    simp only [Books.step] at hs
    split at hs <;> cases hs
    exact h.idle
  | reset =>
    simp only [Books.step] at hs
    split at hs
    · rename_i hp
      cases hs
      exact h.reset hp
    · rename_i hp
      cases hs
      simp only [History.note, hp]
      exact h.idle
    · cases hs

/-- **Counter drift.** In every state of every run from boot, a counter stands at its boot value
plus the cost of the adds made to its scope, less the cost of the requests that its last reset
overlooked; so it never stands above the boot value plus the adds. -/
theorem counter_drift {users keys : List (Uuid × ℚ)} (hu : Iterates (spendByUser old) users)
    (hk : Iterates (spendByKey old) keys) {tr : List (Action ι)} {s : Books ι}
    (h : Lts.Steps (Books.step old requests)
      (Books.init (reconcileCounters users keys ∅)) tr s) (scope : Scope) :
    s.counter.get scope = (reconcileCounters users keys ∅).get scope + charged requests s scope -
        ∑ i ∈ (history old requests (reconcileCounters users keys ∅) tr).overlooked scope,
          (requests i).cost ∧
      s.counter.get scope ≤
        (reconcileCounters users keys ∅).get scope + charged requests s scope := by
  have hb : Balanced old requests s (history old requests (reconcileCounters users keys ∅) tr) :=
    h.inv_observe (balanced_init (get_reconcileCounters hu hk)) fun _ _ _ _ hu _ hs =>
      balanced_step hu hs
  have hd := hb.drift scope
  rw [← get_reconcileCounters hu hk] at hd
  have hnn : 0 ≤ ∑ i ∈ (history old requests (reconcileCounters users keys ∅) tr).overlooked scope,
      (requests i).cost := Finset.sum_nonneg fun i _ => (requests i).cost_nonneg
  exact ⟨hd, by linarith⟩

end

/-- A request of cost 5 of user 1 with key 2, who have spent 1 before. -/
def lateRequest : Unit → PricedRequest := fun _ => ⟨1, 2, 5, by decide⟩

/-- A pass that runs after both adds and before the record is in the table: the counter falls back
to 1, short by the cost of the request that the reset overlooked. -/
theorem counter_drift_lateRequest :
    ∃ s, Lts.Steps (Books.step [⟨some 1, some 2, some 1⟩] lateRequest)
        (Books.init (reconcileCounters [(1, 1)] [(2, 1)] ∅))
        [.request (), .request (), .queryUsers, .queryKeys [(1, 1)] [(2, 1)], .reset, .reset] s ∧
      s.counter.get (.user 1) = 1 ∧ charged lateRequest s (.user 1) = 5 ∧
      s.counter.get (.user 1) ≤
        (reconcileCounters [(1, 1)] [(2, 1)] ∅).get (.user 1) + charged lateRequest s (.user 1) := by
  have hrun : (Lts.exec (Books.step [⟨some 1, some 2, some 1⟩] lateRequest)
      (Books.init (reconcileCounters [(1, 1)] [(2, 1)] ∅))
      [.request (), .request (), .queryUsers, .queryKeys [(1, 1)] [(2, 1)], .reset, .reset]).map
        (fun s => (s.counter.get (.user 1), charged lateRequest s (.user 1))) = some (1, 5) := by
    decide +kernel
  obtain ⟨s, hs, hv⟩ := Option.map_eq_some_iff.1 hrun
  rw [Prod.mk.injEq] at hv
  have h := Lts.steps_of_exec hs
  exact ⟨s, h, hv.1, hv.2, (counter_drift (by decide +kernel) (by decide +kernel) h _).2⟩

end LiteAgentify
