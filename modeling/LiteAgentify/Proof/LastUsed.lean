import LiteAgentify.Usage.Sink

/-!
# When keys were last used

A flush collects the newest time of each key of the batch (`lookup_lastUsed`) and then writes the
newest of these times to all of them. A key gets its own newest time exactly when it is as new as
that of every other key of the batch (`last_used_iff`), flush after flush.
-/

set_option autoImplicit false

namespace LiteAgentify

open AdminApi UsageQuery

/-! ## The times of a batch -/

/-- The newest time of the records of a key. -/
def newestOf (batch : List UsageRecord) (id : Uuid) : Option DateTime :=
  ((batch.filter (·.apiKeyId = some id)).map UsageRecord.createdAt).max?

theorem newestOf_eq_some {batch : List UsageRecord} {id : Uuid} {t : DateTime} :
    newestOf batch id = some t ↔
      (∃ record ∈ batch, record.apiKeyId = some id ∧ record.createdAt = t) ∧
      ∀ record ∈ batch, record.apiKeyId = some id → record.createdAt ≤ t := by
  simp only [newestOf, List.max?_eq_some_iff, List.mem_map, List.mem_filter, decide_eq_true_eq,
    and_assoc, forall_exists_index, and_imp]
  refine and_congr_right fun _ => ⟨?_, ?_⟩
  · exact fun h record hr hid => h _ record hr hid rfl
  · rintro h _ record hr hid rfl
    exact h record hr hid

theorem max?_snoc (l : List Int) (a : Int) : (l ++ [a]).max? = some (max (l.max?.getD a) a) := by
  cases l with
  | nil => simp
  | cons b l =>
    rw [List.cons_append, List.max?_cons', List.foldl_append, List.max?_cons']
    rfl

/-- The loop keeps the newest time of every key. -/
theorem lookup_lastUsed (batch : List UsageRecord) (id : Uuid) :
    (lastUsed batch).lookup id = newestOf batch id := by
  induction batch using List.reverseRecOn with
  | nil => rfl
  | append_singleton batch record ih =>
    rw [lastUsed, List.foldl_append, List.foldl_cons, List.foldl_nil, ← lastUsed, touch, newestOf,
      List.filter_append, List.map_append]
    by_cases h : record.apiKeyId = some id
    · rw [h, List.filter_cons_of_pos (by simpa using h), List.filter_nil, List.map_singleton,
        max?_snoc, ← newestOf, ← ih]
      show (Finmap.insert _ _ _).lookup id = _
      rw [Finmap.lookup_insert]
      congr 1
      split
      · rename_i hlt
        exact (max_eq_right hlt.le).symm
      · rename_i hle
        exact (max_eq_left (not_lt.1 hle)).symm
    · rw [List.filter_cons_of_neg (by simpa using h), List.filter_nil, List.map_nil,
        List.append_nil, ← newestOf, ← ih]
      cases hid : record.apiKeyId with
      | none => rfl
      | some apiKeyId =>
        have hne : id ≠ apiKeyId := by
          rintro rfl
          exact h hid
        exact Finmap.lookup_insert_of_ne _ hne

/-- The keys that the batch names, each with its newest time. -/
theorem mem_used {batch : List UsageRecord} {entry : Uuid × DateTime} :
    entry ∈ entries (lastUsed batch) ↔ newestOf batch entry.1 = some entry.2 := by
  rw [← lookup_lastUsed]
  exact mem_entries

/-! ## A flush -/

/-- Every key that the batch names has its own newest time, the others are as they were. -/
def TouchedEach (batch : List UsageRecord) (before after : Keys) : Prop :=
  after.rows = before.rows.map fun key =>
    match newestOf batch key.id with
    | some t => { key with lastUsedAt := some t }
    | none => key

/-- Those of the keys that the batch names were all last used at the same time, and no other key
later. -/
def UsedTogether (ids : List Uuid) (batch : List UsageRecord) : Prop :=
  ∀ id ∈ ids, ∀ t, newestOf batch id = some t →
    ∀ record ∈ batch, record.apiKeyId.isSome → record.createdAt ≤ t

/-- The primary keys of the table. -/
def keyIds (keys : Keys) : List Uuid := keys.rows.map fun key => key.id

/-- The time that a flush writes is the newest of any key. -/
theorem newest_used {batch : List UsageRecord} {t : DateTime} :
    ((entries (lastUsed batch)).map Prod.snd).max? = some t ↔
      (∃ id, newestOf batch id = some t) ∧
      ∀ record ∈ batch, record.apiKeyId.isSome → record.createdAt ≤ t := by
  rw [List.max?_eq_some_iff]
  simp only [List.mem_map, forall_exists_index, and_imp, forall_apply_eq_imp_iff₂, mem_used]
  refine and_congr ⟨?_, ?_⟩ ⟨?_, ?_⟩
  · rintro ⟨entry, hentry, rfl⟩
    exact ⟨entry.1, hentry⟩
  · rintro ⟨id, hid⟩
    exact ⟨(id, t), hid, rfl⟩
  · intro h record hr hsome
    obtain ⟨id, hid⟩ := Option.isSome_iff_exists.1 hsome
    obtain ⟨t', ht'⟩ : ∃ t', newestOf batch id = some t' := by
      refine Option.ne_none_iff_exists'.1 fun hnone => ?_
      rw [newestOf, List.max?_eq_none_iff, List.map_eq_nil_iff, List.filter_eq_nil_iff] at hnone
      exact hnone record hr (by simpa using hid)
    exact ((newestOf_eq_some.1 ht').2 record hr hid).trans (h (id, t') ht')
  · intro h entry hentry
    obtain ⟨⟨record, hr, hid, ht⟩, -⟩ := newestOf_eq_some.1 hentry
    exact ht ▸ h record hr (by simp [hid])

/-- A flush whose statements succeed writes one time to all keys that the batch names. -/
theorem flush_rows (db : DbSink) (batch : List UsageRecord) :
    (db.flush ⟨batch, false, false⟩).apiKeys.rows = db.apiKeys.rows.map fun key =>
      if (newestOf batch key.id).isSome then
        { key with lastUsedAt := ((entries (lastUsed batch)).map Prod.snd).max? } else key := by
  have hmem : ∀ id, id ∈ (entries (lastUsed batch)).map Prod.fst ↔ (newestOf batch id).isSome := by
    intro id
    rw [List.mem_map, Option.isSome_iff_exists]
    constructor
    · rintro ⟨entry, hentry, rfl⟩
      exact ⟨entry.2, mem_used.1 hentry⟩
    · rintro ⟨t, ht⟩
      exact ⟨(id, t), mem_used.2 ht, rfl⟩
  unfold DbSink.flush
  by_cases hbatch : batch = []
  · subst hbatch
    simp [newestOf]
  · rw [if_neg hbatch]
    by_cases hused : entries (lastUsed batch) = []
    · have hnone : ∀ id, ¬ (newestOf batch id).isSome := by
        intro id hid
        rw [← hmem, hused] at hid
        cases hid
      simp [hused, hnone, DbSink.insertMany]
    · simp only [hused, Bool.false_eq_true, or_self, if_false]
      simp only [DbSink.setLastUsed, DbSink.insertMany, Table.updateWhere, hmem, decide_eq_true_eq]

theorem touchedEach_flush_iff (db : DbSink) (batch : List UsageRecord) :
    TouchedEach batch db.apiKeys (db.flush ⟨batch, false, false⟩).apiKeys ↔
      UsedTogether (keyIds db.apiKeys) batch := by
  rw [TouchedEach, flush_rows, List.map_inj_left, UsedTogether, keyIds]
  simp only [List.mem_map, forall_exists_index, and_imp, forall_apply_eq_imp_iff₂]
  refine forall₂_congr fun key _ => ?_
  cases hid : newestOf batch key.id with
  | none => simp
  | some t =>
    simp only [Option.isSome_some, if_true, Option.some.injEq, forall_eq']
    constructor
    · intro h
      have hnewest := congrArg ApiKeyModel.lastUsedAt h
      exact (newest_used.1 hnewest).2
    · intro h
      rw [newest_used.2 ⟨⟨key.id, hid⟩, h⟩]

/-! ## Flush after flush -/

def flushes (db : DbSink) (calls : List Flush) : DbSink := calls.foldl DbSink.flush db

theorem keyIds_flush (db : DbSink) (call : Flush) :
    keyIds (db.flush call).apiKeys = keyIds db.apiKeys := by
  have hset (db : DbSink) (newest : Option DateTime) (ids : List Uuid) :
      keyIds (db.setLastUsed newest ids).apiKeys = keyIds db.apiKeys := by
    rw [keyIds, DbSink.setLastUsed, Table.updateWhere, List.map_map, keyIds]
    refine List.map_congr_left fun key _ => ?_
    rw [Function.comp_apply]
    split <;> rfl
  unfold DbSink.flush
  split
  · rfl
  · simp only
    split <;> split <;> first | rfl | exact hset _ _ _

theorem keyIds_flushes (db : DbSink) (calls : List Flush) :
    keyIds (flushes db calls).apiKeys = keyIds db.apiKeys := by
  induction calls using List.reverseRecOn with
  | nil => rfl
  | append_singleton calls call ih =>
    rw [flushes, List.foldl_append, List.foldl_cons, List.foldl_nil, keyIds_flush]
    exact ih

/-- Nothing failed. -/
def Flush.succeeds (call : Flush) : Prop := call.insertFails = false ∧ call.updateFails = false

/-- **When keys were last used.** In a sequence of flushes, every one that succeeds leaves each key
with its own newest time exactly when in every such batch the keys of the table were last used at
the same time, and no other key later. -/
theorem last_used_iff (db : DbSink) (calls : List Flush) :
    (∀ earlier call later, calls = earlier ++ call :: later → call.succeeds →
      TouchedEach call.batch (flushes db earlier).apiKeys
        ((flushes db earlier).flush call).apiKeys) ↔
    ∀ call ∈ calls, call.succeeds → UsedTogether (keyIds db.apiKeys) call.batch := by
  have hstep : ∀ earlier (call : Flush), call.succeeds →
      (TouchedEach call.batch (flushes db earlier).apiKeys
          ((flushes db earlier).flush call).apiKeys ↔
        UsedTogether (keyIds db.apiKeys) call.batch) := by
    rintro earlier ⟨batch, _, _⟩ ⟨rfl, rfl⟩
    rw [touchedEach_flush_iff, keyIds_flushes]
  constructor
  · intro h call hcall hok
    obtain ⟨earlier, later, hsplit⟩ := List.append_of_mem hcall
    exact (hstep earlier call hok).1 (h earlier call later hsplit hok)
  · intro h earlier call later hsplit hok
    exact (hstep earlier call hok).2 (h call (by simp [hsplit]) hok)

def keyRow (id : Uuid) : ApiKeyModel where
  id := id
  userId := 1
  keyHash := toString id
  status := .active
  allowedModels := none
  spendCapUsd := none
  keyPrefix := "la-"
  name := "k"
  createdAt := 0
  lastUsedAt := none

def usedAt (apiKeyId : Uuid) (createdAt : DateTime) : UsageRecord where
  requestId := "r"
  createdAt := createdAt
  providerId := "p"
  protocol := .openAi
  path := "/v1/chat/completions"
  userId := some 1
  apiKeyId := some apiKeyId
  requestedModel := none
  upstreamModel := none
  status := 200
  latencyMs := 1
  inputTokens := none
  outputTokens := none
  cachedInputTokens := none
  cacheReadTokens := none
  cacheWriteTokens := none
  totalTokens := none
  estimatedCost := none
  currency := none
  usageSource := .unavailable
  pricingSource := none

def twoUnusedKeys : DbSink where
  usageRecords := []
  apiKeys := ⟨[keyRow 1, keyRow 2], by decide, by decide⟩

/-- Two keys used ten milliseconds apart, in one batch: the first gets the time of the second. -/
theorem last_used_of_another_key :
    newestOf [usedAt 1 10, usedAt 2 20] 1 = some 10 ∧
      (twoUnusedKeys.flush ⟨[usedAt 1 10, usedAt 2 20], false, false⟩).apiKeys.rows.map
        (fun key => (key.id, key.lastUsedAt)) = [(1, some 20), (2, some 20)] ∧
      ¬ TouchedEach [usedAt 1 10, usedAt 2 20] twoUnusedKeys.apiKeys
        (twoUnusedKeys.flush ⟨[usedAt 1 10, usedAt 2 20], false, false⟩).apiKeys := by
  have hrows : (twoUnusedKeys.flush ⟨[usedAt 1 10, usedAt 2 20], false, false⟩).apiKeys.rows.map
      (fun key => (key.id, key.lastUsedAt)) = [(1, some 20), (2, some 20)] := by
    have hnewest : ((entries (lastUsed [usedAt 1 10, usedAt 2 20])).map Prod.snd).max? = some 20 :=
      newest_used.2 ⟨⟨2, by decide⟩, by decide⟩
    rw [flush_rows, hnewest]
    decide
  refine ⟨by decide, hrows, fun h => ?_⟩
  rw [h] at hrows
  revert hrows
  decide

end LiteAgentify
