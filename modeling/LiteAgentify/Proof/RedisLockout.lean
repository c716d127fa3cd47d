import LiteAgentify.Admin.RedisSession
import LiteAgentify.Lib.Mealy
import LiteAgentify.Proof.Lockout

/-!
# Lockout in Redis and in memory

Redis keeps the count of failures with the window as a rolling TTL, the memory store until success.
So a Redis store answers as one automaton for each username whose count lapses when the window has
passed since the last failure (`RollingLockout`), a memory store as one whose count does not
(`Lockout`), and they answer alike where no count lapses (`lockout_backends`);
`slow_failures_lapse` is where one does.
-/

set_option autoImplicit false

namespace LiteAgentify

/-- A call; a question is answered. -/
def RedisSessionStore.callLimiter (store : RedisSessionStore) (c : LimiterCall) :
    Option Bool × RedisSessionStore :=
  match c.op with
  | .isLocked => (some (store.isLocked c.username c.now), store)
  | .registerFailure => (none, store.registerFailure c.username c.now)
  | .reset => (none, store.clearFailures c.username c.now)

def MemorySessionStore.callLimiter (store : MemorySessionStore) (c : LimiterCall) :
    Option Bool × MemorySessionStore :=
  match c.op with
  | .isLocked =>
    let (locked, store) := store.isLocked c.username c.now
    (some locked, store)
  | .registerFailure => (none, store.registerFailure c.username c.now)
  | .reset => (none, store.clearFailures c.username)

/-! ## The automaton with a rolling count -/

/-- What Redis should know of a username. -/
structure RollingLockout where
  failures : Nat := 0
  /-- When the count lapses. -/
  lapse : Nat := 0
  lockedUntil : Option Nat := none
  deriving DecidableEq

namespace RollingLockout

/-- The failures that have not lapsed. -/
def counted (s : RollingLockout) (now : Nat) : Nat := if now < s.lapse then s.failures else 0

/-- The answer, for a question, and the next state. -/
def call (window : Nat) (s : RollingLockout) (now : Nat) :
    LimiterOp → Option Bool × RollingLockout
  | .isLocked => (some (s.lockedUntil.any (now < ·)), s)
  | .registerFailure =>
    if s.counted now + 1 = lockoutThreshold then (none, ⟨0, 0, some (now + window)⟩)
    else (none, { s with failures := s.counted now + 1, lapse := now + window })
  | .reset => (none, {})

end RollingLockout

/-- One automaton for every username. -/
def rollingLockouts (window : Nat) :
    (String → RollingLockout) → LimiterCall → Option Bool × (String → RollingLockout) :=
  Mealy.each LimiterCall.username fun s c => s.call window c.now c.op

def lockouts (window : Nat) :
    (String → Lockout) → LimiterCall → Option Bool × (String → Lockout) :=
  Mealy.each LimiterCall.username fun s c => s.call window c.now c.op

/-- The call is no failure that comes when earlier ones have lapsed. -/
def InTime (s : String → RollingLockout) (c : LimiterCall) : Prop :=
  c.op = .registerFailure → 0 < (s c.username).failures → c.now < (s c.username).lapse

instance (s : String → RollingLockout) (c : LimiterCall) : Decidable (InTime s c) :=
  inferInstanceAs (Decidable (_ → _ → _))

/-! ## Redis is the rolling automaton -/

/-- Redis knows of the username what the automaton knows. -/
structure RollingAgrees (username : String) (now : Nat) (redis : Redis) (s : RollingLockout) :
    Prop where
  fails : redis.find now (lockoutFailsKey username) =
    if 0 < s.counted now then some ⟨.number s.failures, some s.lapse⟩ else none
  locked : redis.find now (lockoutKey username) =
    (s.lockedUntil.filter (now < ·)).map fun lockedUntil => ⟨.text "1", some lockedUntil⟩
  below : s.failures < lockoutThreshold

namespace RollingAgrees

variable {username other : String} {now now' secs : Nat} {redis : Redis} {s : RollingLockout}

theorem later (h : RollingAgrees username now redis s) (hle : now ≤ now') :
    RollingAgrees username now' redis s where
  fails := by
    rw [KeySpace.find_later hle, h.fails]
    unfold RollingLockout.counted
    by_cases hlater : now' < s.lapse
    · have hnow : now < s.lapse := by omega
      by_cases hpos : 0 < s.failures <;> simp [Option.filter_some, hlater, hnow, hpos]
    · by_cases hnow : now < s.lapse
      · by_cases hpos : 0 < s.failures <;> simp [Option.filter_some, hlater, hnow, hpos]
      · simp [hlater, hnow]
  locked := by
    rw [KeySpace.find_later hle, h.locked]
    cases s.lockedUntil with
    | none => rfl
    | some lockedUntil =>
      by_cases hlater : now' < lockedUntil
      · have hnow : now < lockedUntil := by omega
        simp [Option.filter_some, hlater, hnow]
      · by_cases hnow : now < lockedUntil <;> simp [Option.filter_some, hlater, hnow]
  below := h.below

/-- The keys of the username alone decide. -/
theorem congr {redis' : Redis} (h : RollingAgrees username now redis s)
    (hfails : redis'.find now (lockoutFailsKey username) =
      redis.find now (lockoutFailsKey username))
    (hlocked : redis'.find now (lockoutKey username) = redis.find now (lockoutKey username)) :
    RollingAgrees username now redis' s :=
  ⟨hfails.trans h.fails, hlocked.trans h.locked, h.below⟩

theorem isLocked (h : RollingAgrees username now redis s) (lockout : Nat) :
    RedisSessionStore.isLocked ⟨redis, lockout⟩ username now = s.lockedUntil.any (now < ·) := by
  rw [RedisSessionStore.isLocked, KeySpace.has, h.locked]
  cases s.lockedUntil with
  | none => rfl
  | some lockedUntil => by_cases hnow : now < lockedUntil <;> simp [Option.filter_some, hnow]

theorem counted_le : s.counted now ≤ s.failures := by
  unfold RollingLockout.counted
  split
  · exact le_refl _
  · exact Nat.zero_le _

/-- `INCR` gives the count with the new failure, and writes no other key. -/
theorem incr (h : RollingAgrees username now redis s) :
    ∃ entry, redis.incr now (lockoutFailsKey username) =
        (some ((s.counted now + 1 : Nat) : Int),
          redis.update now (lockoutFailsKey username) fun _ => some entry) ∧
      entry.value = .number ((s.counted now + 1 : Nat) : Int) ∧ entry.live now = true := by
  by_cases hpos : 0 < s.counted now
  · have hfails := h.fails
    rw [if_pos hpos] at hfails
    have hcounted : s.counted now = s.failures := by
      unfold RollingLockout.counted at hpos ⊢
      split at hpos
      · rename_i hlapse
        rw [if_pos hlapse]
      · exact absurd hpos (lt_irrefl 0)
    refine ⟨⟨.number (s.failures + 1 : Int), some s.lapse⟩, ?_, ?_,
      (KeySpace.live_of_find hfails : decide (now < s.lapse) = true)⟩
    · rw [KeySpace.incr_of_number hfails, hcounted]
      rfl
    · rw [hcounted]
      rfl
  · have hfails := h.fails
    rw [if_neg hpos] at hfails
    have hcounted : s.counted now = 0 := by omega
    refine ⟨⟨.number 1, none⟩, ?_, ?_, rfl⟩
    · rw [KeySpace.incr_of_none hfails, hcounted]
      rfl
    · rw [hcounted]
      rfl

theorem window_mul (hsecs : 0 < secs) :
    RedisSessionStore.window ⟨redis, 1000 * secs⟩ = secs := by
  rw [RedisSessionStore.window, asSecs, Nat.mul_div_cancel_left secs (by decide)]
  exact max_eq_left hsecs

theorem registerFailure (h : RollingAgrees username now redis s) (hsecs : 0 < secs) :
    RollingAgrees username now
      (RedisSessionStore.registerFailure ⟨redis, 1000 * secs⟩ username now).redis
      (s.call (1000 * secs) now .registerFailure).2 := by
  obtain ⟨entry, hincr, hvalue, hentry⟩ := h.incr
  have hle := @counted_le now s
  have hbelow := h.below
  have hkey := lockoutKey_ne username username
  have hlater : now < now + 1000 * secs := by omega
  simp only [RedisSessionStore.registerFailure, hincr, window_mul hsecs, RollingLockout.call]
  by_cases hfive : s.counted now + 1 = lockoutThreshold
  · -- the failure locks, and the count starts again
    rw [if_pos (by omega), if_pos hfive]
    refine ⟨?_, ?_, Nat.zero_lt_succ 4⟩
    · rw [KeySpace.del, KeySpace.find_update_self]
      simp [RollingLockout.counted]
    · rw [KeySpace.del, KeySpace.find_update_ne hkey, KeySpace.setEx, KeySpace.find_update_self,
        if_neg (Nat.pos_iff_ne_zero.1 hsecs)]
      simp [Option.filter_some, hlater]
  · rw [if_neg (by omega), if_neg hfive]
    refine ⟨?_, ?_, ?_⟩
    · rw [KeySpace.expire, KeySpace.find_update_self, KeySpace.find_update_self]
      simp [Option.filter_some, hentry, hlater, RollingLockout.counted, hvalue]
    · rw [KeySpace.expire, KeySpace.find_update_ne hkey, KeySpace.find_update_ne hkey]
      exact h.locked
    · show s.counted now + 1 < lockoutThreshold
      omega

theorem clearFailures (lockout : Nat) :
    RollingAgrees username now
      (RedisSessionStore.clearFailures ⟨redis, lockout⟩ username now).redis {} where
  fails := by
    rw [RedisSessionStore.clearFailures, KeySpace.del,
      KeySpace.find_update_ne (lockoutKey_ne _ _).symm, KeySpace.del, KeySpace.find_update_self]
    rfl
  locked := by
    rw [RedisSessionStore.clearFailures, KeySpace.del, KeySpace.find_update_self]
    rfl
  below := by decide

end RollingAgrees

/-- A call writes the two keys of its username alone. -/
theorem RedisSessionStore.find_callLimiter {store : RedisSessionStore} {c : LimiterCall}
    {now : Nat} {key : String} (hfails : key ≠ lockoutFailsKey c.username)
    (hlocked : key ≠ lockoutKey c.username) :
    (store.callLimiter c).2.redis.find now key = store.redis.find now key := by
  obtain ⟨t, username, op⟩ := c
  cases op with
  | isLocked => rfl
  | registerFailure =>
    have hcount : ((store.redis.incr t (lockoutFailsKey username)).2.expire t
        (lockoutFailsKey username) store.window).find now key = store.redis.find now key := by
      rw [KeySpace.expire, KeySpace.find_update_ne hfails, KeySpace.find_incr_ne hfails]
    simp only [callLimiter, RedisSessionStore.registerFailure]
    split
    · split
      · rw [KeySpace.del, KeySpace.find_update_ne hfails, KeySpace.setEx,
          KeySpace.find_update_ne hlocked]
        exact hcount
      · exact hcount
    · exact hcount
  | reset =>
    simp only [callLimiter, RedisSessionStore.clearFailures]
    rw [KeySpace.del, KeySpace.find_update_ne hlocked, KeySpace.del,
      KeySpace.find_update_ne hfails]

theorem RedisSessionStore.callLimiter_lockout {store : RedisSessionStore} {c : LimiterCall} :
    (store.callLimiter c).2.lockout = store.lockout := by
  obtain ⟨t, username, op⟩ := c
  cases op with
  | isLocked => rfl
  | registerFailure =>
    simp only [callLimiter, RedisSessionStore.registerFailure]
    split
    · split <;> rfl
    · rfl
  | reset => rfl

/-! ## The backends -/

section
variable {secs : Nat} {calls : List LimiterCall}

/-- **Redis answers as the rolling automata.** -/
theorem redis_rolling (hsecs : 0 < secs) (hsorted : calls.Pairwise (·.now ≤ ·.now)) :
    Mealy.answers RedisSessionStore.callLimiter (.new (1000 * secs)) calls =
      Mealy.answers (rollingLockouts (1000 * secs)) (fun _ => {}) calls := by
  refine (Mealy.simulate (R := fun calls store s => store.lockout = 1000 * secs ∧
      ∀ now, (∀ c ∈ calls, c.now ≤ now) → ∀ username, RollingAgrees username now store.redis
        (s username)) (C := fun calls => calls.Pairwise (·.now ≤ ·.now))
    (fun calls c h => (List.pairwise_append.1 h).1)
    ⟨rfl, fun now _ username => ⟨rfl, rfl, Nat.zero_lt_succ 4⟩⟩
    (fun calls c store s hr h => ?_) hsorted).1
  obtain ⟨hlockout, hagrees⟩ := hr
  have hat : ∀ username, RollingAgrees username c.now store.redis (s username) :=
    hagrees c.now fun c' hc' =>
      (List.pairwise_append.1 h).2.2 c' hc' c (List.mem_singleton_self c)
  -- the call's own username moves with its automaton, the others stay
  obtain ⟨hanswer, hself⟩ : (store.callLimiter c).1 =
      ((s c.username).call (1000 * secs) c.now c.op).1 ∧
      RollingAgrees c.username c.now (store.callLimiter c).2.redis
        ((s c.username).call (1000 * secs) c.now c.op).2 := by
    obtain ⟨redis, lockout⟩ := store
    cases hlockout
    obtain ⟨t, username, op⟩ := c
    cases op with
    | isLocked => exact ⟨congrArg some ((hat username).isLocked (1000 * secs)), hat username⟩
    | registerFailure =>
      refine ⟨?_, (hat username).registerFailure hsecs⟩
      simp only [RedisSessionStore.callLimiter, RollingLockout.call]
      split <;> rfl
    | reset => exact ⟨rfl, RollingAgrees.clearFailures (1000 * secs)⟩
  refine ⟨hanswer, RedisSessionStore.callLimiter_lockout.trans hlockout,
    fun now hnow username => ?_⟩
  refine RollingAgrees.later ?_ (hnow c List.mem_concat_self)
  simp only [rollingLockouts, Mealy.each]
  by_cases hname : username = c.username
  · subst hname
    rw [Function.update_self]
    exact hself
  · rw [Function.update_of_ne hname]
    exact (hat username).congr
      (RedisSessionStore.find_callLimiter (fun heq => hname (lockoutFailsKey_inj.1 heq))
        (lockoutKey_ne _ _).symm)
      (RedisSessionStore.find_callLimiter (lockoutKey_ne _ _)
        fun heq => hname (lockoutKey_inj.1 heq))

theorem MemorySessionStore.callLimiter_eq (store : MemorySessionStore) (c : LimiterCall) :
    store.callLimiter c =
      ((store.limiter.call c).1, { store with limiter := (store.limiter.call c).2 }) := by
  obtain ⟨t, username, op⟩ := c
  cases op <;> rfl

/-- A memory store answers as the automata that keep their counts. -/
theorem memory_lockouts {lockout : Nat} (hsorted : calls.Pairwise (·.now ≤ ·.now))
    (hfew : (calls.map LimiterCall.username).toFinset.card < lockoutMaxEntries) :
    Mealy.answers MemorySessionStore.callLimiter (.new lockout) calls =
      Mealy.answers (lockouts lockout) (fun _ => {}) calls := by
  refine (Mealy.simulate (R := fun calls store s =>
      (∀ name ∈ store.limiter.entries, name ∈ (calls.map LimiterCall.username).toFinset) ∧
      ∀ t, (∀ c ∈ calls, c.now ≤ t) → ∀ username,
        LoginLimiter.Agrees username lockout t store.limiter (s username))
    (C := fun calls => calls.Pairwise (·.now ≤ ·.now) ∧
      (calls.map LimiterCall.username).toFinset.card < lockoutMaxEntries)
    (fun calls c h => ⟨(List.pairwise_append.1 h.1).1, ?_⟩)
    ⟨fun name hname => absurd hname Finmap.notMem_empty,
      fun t _ username => ⟨rfl, fun _ _ => rfl, Nat.zero_lt_succ 4, rfl⟩⟩
    (fun calls c store s hr h => ?_) ⟨hsorted, hfew⟩).1
  · refine lt_of_le_of_lt (Finset.card_le_card fun name hname => ?_) h.2
    rw [List.map_append, List.toFinset_append]
    exact Finset.mem_union_left _ hname
  obtain ⟨htracked, hagrees⟩ := hr
  obtain ⟨hsorted, hfew⟩ := h
  have hat : ∀ username, LoginLimiter.Agrees username lockout c.now store.limiter (s username) :=
    hagrees c.now fun c' hc' =>
      (List.pairwise_append.1 hsorted).2.2 c' hc' c (List.mem_singleton_self c)
  have hsub : ∀ name ∈ (calls.map LimiterCall.username).toFinset,
      name ∈ ((calls ++ [c]).map LimiterCall.username).toFinset := fun name hname => by
    rw [List.map_append, List.toFinset_append]
    exact Finset.mem_union_left _ hname
  obtain ⟨hanswer, hself⟩ : (store.limiter.call c).1 =
      ((s c.username).call lockout c.now c.op).1 ∧
      LoginLimiter.Agrees c.username lockout c.now (store.limiter.call c).2
        ((s c.username).call lockout c.now c.op).2 := by
    have hrefuses : store.limiter.refuses c.username c.now = false :=
      LoginLimiter.refuses_eq_false hfew fun name hname => .inr (hsub name (htracked name hname))
    obtain ⟨t, username, op⟩ := c
    cases op with
    | isLocked =>
      obtain ⟨hanswer, hself⟩ := (hat username).isLocked (le_refl t)
      exact ⟨congrArg some hanswer, hself⟩
    | registerFailure =>
      exact ⟨(Lockout.registerFailure_answer ..).symm,
        (hat username).registerFailure (le_refl t) hrefuses⟩
    | reset => exact ⟨rfl, (hat username).reset⟩
  rw [MemorySessionStore.callLimiter_eq]
  refine ⟨hanswer, fun name hname => ?_, fun t ht username => ?_⟩
  · rcases LoginLimiter.mem_call hname with rfl | hname
    · rw [List.mem_toFinset]
      exact List.mem_map_of_mem List.mem_concat_self
    · exact hsub name (htracked name hname)
  · refine LoginLimiter.Agrees.later ?_ (ht c List.mem_concat_self)
    simp only [lockouts, Mealy.each]
    by_cases hname : username = c.username
    · subst hname
      rw [Function.update_self]
      exact hself
    · rw [Function.update_of_ne hname]
      exact (hat username).call_other (le_refl c.now) fun heq => hname heq.symm

/-- The automata answer alike when no count lapses. -/
theorem rolling_lockouts {window : Nat}
    (h : Mealy.Throughout (rollingLockouts window) InTime (fun _ => {}) calls) :
    Mealy.answers (rollingLockouts window) (fun _ => {}) calls =
      Mealy.answers (lockouts window) (fun _ => {}) calls := by
  refine (Mealy.simulate (R := fun calls s t => s = Mealy.after (rollingLockouts window)
      (fun _ => {}) calls ∧ ∀ username, (s username).failures = (t username).failures ∧
        (s username).lockedUntil = (t username).lockedUntil)
    (C := Mealy.Throughout (rollingLockouts window) InTime fun _ => {})
    (fun calls c h => ((Mealy.throughout_snoc calls c).1 h).1) ⟨rfl, fun _ => ⟨rfl, rfl⟩⟩
    (fun calls c s t hr h => ?_) h).1
  obtain ⟨rfl, hsame⟩ := hr
  have hintime := ((Mealy.throughout_snoc calls c).1 h).2
  generalize hs : Mealy.after (rollingLockouts window) (fun _ => {}) calls = s at hsame hintime ⊢
  obtain ⟨hfailures, hlocked⟩ := hsame c.username
  obtain ⟨hanswer, hnext⟩ : ((s c.username).call window c.now c.op).1 =
      ((t c.username).call window c.now c.op).1 ∧
      ((s c.username).call window c.now c.op).2.failures =
        ((t c.username).call window c.now c.op).2.failures ∧
      ((s c.username).call window c.now c.op).2.lockedUntil =
        ((t c.username).call window c.now c.op).2.lockedUntil := by
    obtain ⟨now, username, op⟩ := c
    cases op with
    | isLocked =>
      exact ⟨by simp only [RollingLockout.call, Lockout.call, hlocked], hfailures, hlocked⟩
    | registerFailure =>
      -- nothing has lapsed, so what counts is the whole count
      have hcounted : (s username).counted now = (t username).failures := by
        rw [← hfailures, RollingLockout.counted]
        split
        · rfl
        · rename_i hlapsed
          by_contra hne
          exact hlapsed (hintime rfl (Nat.pos_of_ne_zero fun h => hne h.symm))
      simp only [RollingLockout.call, Lockout.call, hcounted]
      split
      · exact ⟨rfl, rfl, rfl⟩
      · exact ⟨rfl, rfl, hlocked⟩
    | reset => exact ⟨rfl, rfl, rfl⟩
  refine ⟨hanswer, ?_, fun username => ?_⟩
  · rw [Mealy.after_snoc, hs]
  · simp only [rollingLockouts, lockouts, Mealy.each]
    by_cases hname : username = c.username
    · subst hname
      rw [Function.update_self, Function.update_self]
      exact hnext
    · rw [Function.update_of_ne hname, Function.update_of_ne hname]
      exact hsame username

/-- **The lockout backends.** Redis answers every question as the automata do whose counts lapse
when the window has passed since the last failure; so the backends answer alike, over fewer than
`lockoutMaxEntries` usernames, when no failure comes after earlier ones have lapsed. -/
theorem lockout_backends (hsecs : 0 < secs) (hsorted : calls.Pairwise (·.now ≤ ·.now)) :
    Mealy.answers RedisSessionStore.callLimiter (.new (1000 * secs)) calls =
        Mealy.answers (rollingLockouts (1000 * secs)) (fun _ => {}) calls ∧
      ((calls.map LimiterCall.username).toFinset.card < lockoutMaxEntries →
        Mealy.Throughout (rollingLockouts (1000 * secs)) InTime (fun _ => {}) calls →
          Mealy.answers RedisSessionStore.callLimiter (.new (1000 * secs)) calls =
            Mealy.answers MemorySessionStore.callLimiter (.new (1000 * secs)) calls) := by
  have hrolling := redis_rolling hsecs hsorted
  refine ⟨hrolling, fun hfew hintime => ?_⟩
  rw [hrolling, memory_lockouts hsorted hfew, rolling_lockouts hintime]

end

/-- Four failures, a fifth after `gap`, and a question. -/
def spacedFailures (gap : Nat) : List LimiterCall :=
  List.replicate 4 ⟨0, "bob", .registerFailure⟩ ++
    [⟨gap, "bob", .registerFailure⟩, ⟨gap, "bob", .isLocked⟩]

/-- Failures that come in time lock the username in both stores. -/
theorem lockout_backends_sample :
    Mealy.answers RedisSessionStore.callLimiter (.new 60000) (spacedFailures 59000) =
        [none, none, none, none, none, some true] ∧
      Mealy.answers RedisSessionStore.callLimiter (.new 60000) (spacedFailures 59000) =
        Mealy.answers MemorySessionStore.callLimiter (.new 60000) (spacedFailures 59000) := by
  obtain ⟨-, hsame⟩ := @lockout_backends 60 (spacedFailures 59000) (by decide) (by decide)
  exact ⟨by decide +kernel, hsame (by decide) (by decide)⟩

/-- **A slow attacker.** When the fifth failure comes as the window of the four has passed, the
memory store locks the username and Redis does not. -/
theorem slow_failures_lapse :
    Mealy.answers RedisSessionStore.callLimiter (.new 60000) (spacedFailures 60000) =
        [none, none, none, none, none, some false] ∧
      Mealy.answers MemorySessionStore.callLimiter (.new 60000) (spacedFailures 60000) =
        [none, none, none, none, none, some true] := by
  decide +kernel

end LiteAgentify
