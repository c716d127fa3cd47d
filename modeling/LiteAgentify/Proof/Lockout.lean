import LiteAgentify.Admin.Session

/-!
# Lockout of one username

The limiter against the automaton of one username, which counts the failures since the last reset
or lock and locks for the window at the fifth (`Lockout`). Along a run the limiter's entry agrees
with the automaton that has seen the calls of the username (`Agrees`), except for the failures that
a map full of other usernames refuses to record (`LoginLimiter.seen`). So the answers of `is_locked`
are the automaton's (`lockout_of_seen`), on all calls of the username as long as there are fewer
than `lockoutMaxEntries` others.
-/

set_option autoImplicit false

namespace LiteAgentify

/-! ## The automaton -/

/-- An operation on one username. -/
inductive LimiterOp
  | isLocked
  | registerFailure
  | reset
  deriving DecidableEq

structure LimiterCall where
  now : Nat
  username : String
  op : LimiterOp
  deriving DecidableEq

/-- What the limiter should know of a username. -/
structure Lockout where
  failures : Nat := 0
  lockedUntil : Option Nat := none
  deriving DecidableEq

namespace Lockout

/-- The answer, for a question, and the next state. -/
def call (lockout : Nat) (s : Lockout) (now : Nat) : LimiterOp → Option Bool × Lockout
  | .isLocked => (some (s.lockedUntil.any (now < ·)), s)
  | .registerFailure =>
    if s.failures + 1 = lockoutThreshold then (none, ⟨0, some (now + lockout)⟩)
    else (none, { s with failures := s.failures + 1 })
  | .reset => (none, {})

@[simp] theorem registerFailure_answer (lockout now : Nat) (s : Lockout) :
    (s.call lockout now .registerFailure).1 = none := by
  simp only [call]
  split <;> rfl

def answers (lockout : Nat) : Lockout → List (Nat × LimiterOp) → List Bool
  | _, [] => []
  | s, (now, op) :: calls =>
    (s.call lockout now op).1.toList ++ answers lockout (s.call lockout now op).2 calls

end Lockout

/-- The calls on a username. -/
def callsOf (username : String) (calls : List LimiterCall) : List (Nat × LimiterOp) :=
  (calls.filter (·.username = username)).map fun call => (call.now, call.op)

namespace LoginLimiter

def call (limiter : LoginLimiter) (c : LimiterCall) : Option Bool × LoginLimiter :=
  match c.op with
  | .isLocked =>
    let (locked, limiter) := limiter.isLocked c.username c.now
    (some locked, limiter)
  | .registerFailure => (none, limiter.registerFailure c.username c.now)
  | .reset => (none, limiter.reset c.username)

/-- The answers to the questions about a username. -/
def answers (username : String) : LoginLimiter → List LimiterCall → List Bool
  | _, [] => []
  | limiter, c :: calls =>
    (if c.username = username then (limiter.call c).1.toList else []) ++
      answers username (limiter.call c).2 calls

/-- The call is a failure that a full map refuses to record. -/
def drops (limiter : LoginLimiter) (c : LimiterCall) : Bool :=
  c.op = .registerFailure ∧ limiter.refuses c.username c.now

/-- The calls on a username without the refused failures. -/
def seen (username : String) : LoginLimiter → List LimiterCall → List (Nat × LimiterOp)
  | _, [] => []
  | limiter, c :: calls =>
    (if c.username = username ∧ ¬ limiter.drops c then [(c.now, c.op)] else []) ++
      seen username (limiter.call c).2 calls

/-! ## Agreement -/

/-- The entry of a username; an absent one is fresh. -/
def entry (limiter : LoginLimiter) (username : String) : LimiterEntry :=
  (limiter.entries.lookup username).getD {}

variable {limiter : LoginLimiter} {username other : String} {now t lockout : Nat} {s : Lockout}

/-- The entry of the username is what the automaton knows, as far as can be told from `t` on. -/
structure Agrees (username : String) (lockout t : Nat) (limiter : LoginLimiter) (s : Lockout) :
    Prop where
  failures : (limiter.entry username).consecutiveFailures = s.failures
  locked : ∀ t', t ≤ t' →
    (limiter.entry username).lockedUntil.any (t' < ·) = s.lockedUntil.any (t' < ·)
  below : s.failures < lockoutThreshold
  window : limiter.lockout = lockout

theorem Agrees.later (h : Agrees username lockout t limiter s) (hnow : t ≤ now) :
    Agrees username lockout now limiter s :=
  ⟨h.failures, fun t' ht' => h.locked t' (hnow.trans ht'), h.below, h.window⟩

/-- Agreement depends on the entry of the username alone. -/
theorem Agrees.congr {limiter' : LoginLimiter} (h : Agrees username lockout t limiter s)
    (hentry : limiter'.entry username = limiter.entry username)
    (hlockout : limiter'.lockout = limiter.lockout) : Agrees username lockout t limiter' s := by
  refine ⟨?_, ?_, h.below, hlockout.trans h.window⟩
  · rw [hentry]
    exact h.failures
  · rw [hentry]
    exact h.locked

theorem makeRoom_lockout : (limiter.makeRoom username now).lockout = limiter.lockout := by
  unfold makeRoom
  split <;> rfl

/-- An entry that is not live says the same as a fresh one from now on. -/
theorem not_live {e : LimiterEntry} (h : e.live now = false) :
    e.consecutiveFailures = 0 ∧ ∀ t', now ≤ t' → e.lockedUntil.any (t' < ·) = false := by
  simp only [LimiterEntry.live, Bool.or_eq_false_iff, decide_eq_false_iff_not] at h
  obtain ⟨hlock, hzero⟩ := h
  refine ⟨by omega, fun t' ht' => ?_⟩
  cases hl : e.lockedUntil with
  | none => rfl
  | some lockedUntil =>
    simp only [hl, Option.any_some, decide_eq_false_iff_not] at hlock ⊢
    omega

theorem entry_retain {e : LimiterEntry} (h : limiter.entries.lookup username = some e) :
    ({ limiter with
        entries := Maps.retain (fun _ entry => entry.live now) limiter.entries } :
          LoginLimiter).entry username = if e.live now then e else {} := by
  simp only [entry, Maps.lookup_retain, h, Option.filter_some]
  split <;> rfl

/-- Dropping the expired entries keeps the agreement. -/
theorem Agrees.makeRoom (h : Agrees username lockout t limiter s) (hnow : t ≤ now) :
    Agrees username lockout now (limiter.makeRoom other now) s := by
  have hlater := h.later hnow
  unfold LoginLimiter.makeRoom
  split
  · cases hu : limiter.entries.lookup username with
    | none => exact hlater.congr (by simp [entry, hu]) rfl
    | some e =>
      have he : limiter.entry username = e := by simp [entry, hu]
      cases hlive : e.live now with
      | true => exact hlater.congr (by rw [entry_retain hu, hlive, if_pos rfl, he]) rfl
      | false =>
        obtain ⟨hzero, hexpired⟩ := not_live hlive
        have hfailures := hlater.failures
        rw [he, hzero] at hfailures
        refine ⟨?_, fun t' ht' => ?_, h.below, h.window⟩
        · rw [entry_retain hu, hlive]
          exact hfailures
        · have hlocked := hlater.locked t' ht'
          rw [he, hexpired t' ht'] at hlocked
          rw [entry_retain hu, hlive, ← hlocked]
          rfl
  · exact hlater

theorem entry_insert_ne {e : LimiterEntry} (h : username ≠ other) :
    ({ limiter with entries := limiter.entries.insert other e } : LoginLimiter).entry username =
      limiter.entry username := by
  simp only [entry]
  rw [Finmap.lookup_insert_of_ne _ h]

theorem entry_insert_self {e : LimiterEntry} :
    ({ limiter with entries := limiter.entries.insert username e } : LoginLimiter).entry username =
      e := by
  simp only [entry]
  rw [Finmap.lookup_insert]
  rfl

/-- A call on another username keeps the agreement. -/
theorem Agrees.call_other {c : LimiterCall} (h : Agrees username lockout t limiter s)
    (hnow : t ≤ c.now) (hne : c.username ≠ username) :
    Agrees username lockout c.now (limiter.call c).2 s := by
  have hlater := h.later hnow
  have hne' : username ≠ c.username := fun heq => hne heq.symm
  unfold LoginLimiter.call
  cases c.op with
  | isLocked =>
    simp only [LoginLimiter.isLocked]
    split
    · exact hlater
    · split
      · split
        · exact hlater
        · exact hlater.congr (entry_insert_ne hne') rfl
      · exact hlater
  | registerFailure =>
    simp only [LoginLimiter.registerFailure]
    split
    · exact h.makeRoom hnow
    · exact (h.makeRoom hnow).congr (entry_insert_ne hne') rfl
  | reset =>
    refine hlater.congr ?_ rfl
    simp only [LoginLimiter.reset, entry]
    rw [Finmap.lookup_erase_ne hne']

/-- A question about the username is answered by the automaton. -/
theorem Agrees.isLocked (h : Agrees username lockout t limiter s) (hnow : t ≤ now) :
    (limiter.isLocked username now).1 = s.lockedUntil.any (now < ·) ∧
      Agrees username lockout now (limiter.isLocked username now).2 s := by
  have hlater := h.later hnow
  have hlocked := h.locked now hnow
  unfold LoginLimiter.isLocked
  cases hu : limiter.entries.lookup username with
  | none =>
    simp only [entry, hu, Option.getD_none, Option.any_none] at hlocked
    exact ⟨hlocked, hlater⟩
  | some e =>
    have he : limiter.entry username = e := by simp [entry, hu]
    rw [he] at hlocked
    simp only
    cases hl : e.lockedUntil with
    | none =>
      rw [hl] at hlocked
      exact ⟨hlocked, hlater⟩
    | some lockedUntil =>
      rw [hl, Option.any_some] at hlocked
      simp only
      split
      · rename_i hlt
        rw [decide_eq_true hlt] at hlocked
        exact ⟨hlocked, hlater⟩
      · -- the lock has expired, and is cleared
        rename_i hge
        rw [decide_eq_false hge] at hlocked
        refine ⟨hlocked, ?_, fun t' ht' => ?_, h.below, h.window⟩
        · rw [entry_insert_self, ← h.failures, he]
        · rw [entry_insert_self, ← h.locked t' (hnow.trans ht'), he, hl, Option.any_some,
            Option.any_none]
          symm
          rw [decide_eq_false_iff_not]
          omega

/-- A failure that is recorded is counted by the automaton. -/
theorem Agrees.registerFailure (h : Agrees username lockout t limiter s) (hnow : t ≤ now)
    (hrecord : limiter.refuses username now = false) :
    Agrees username lockout now (limiter.registerFailure username now)
      (s.call lockout now .registerFailure).2 := by
  have hroom := @Agrees.makeRoom _ _ username _ _ _ _ h hnow
  have hbelow := h.below
  have hfailures := hroom.failures
  have hlocked := hroom.locked
  rw [entry] at hfailures hlocked
  simp only [LoginLimiter.registerFailure, hrecord, Bool.false_eq_true, if_false, Lockout.call,
    hfailures]
  by_cases hfull : s.failures + 1 = lockoutThreshold
  · have hge : s.failures + 1 ≥ lockoutThreshold := hfull.ge
    rw [if_pos hfull, if_pos hge]
    refine ⟨?_, fun t' _ => ?_, Nat.zero_lt_succ 4, makeRoom_lockout.trans h.window⟩
    · rw [entry_insert_self]
    · rw [entry_insert_self, h.window]
  · have hlt : ¬ s.failures + 1 ≥ lockoutThreshold := by omega
    rw [if_neg hfull, if_neg hlt]
    refine ⟨?_, fun t' ht' => ?_, ?_, makeRoom_lockout.trans h.window⟩
    · rw [entry_insert_self]
    · rw [entry_insert_self]
      exact hlocked t' ht'
    · show s.failures + 1 < lockoutThreshold
      omega

/-- A failure that is refused leaves the entry of the username fresh. -/
theorem Agrees.refused (h : Agrees username lockout t limiter s) (hnow : t ≤ now)
    (hrefuse : limiter.refuses username now = true) :
    Agrees username lockout now (limiter.registerFailure username now) s := by
  simp only [LoginLimiter.registerFailure, hrefuse, if_true]
  exact h.makeRoom hnow

theorem Agrees.reset (h : Agrees username lockout t limiter s) :
    Agrees username lockout now (limiter.reset username) {} := by
  have hfresh : (limiter.reset username).entry username = {} := by
    simp [entry, LoginLimiter.reset]
  refine ⟨?_, fun t' _ => ?_, by decide, h.window⟩
  · rw [hfresh]
  · rw [hfresh]

/-! ## Runs -/

/-- The answers are the automaton's on the calls that were seen. -/
theorem answers_seen {calls : List LimiterCall} (h : Agrees username lockout t limiter s)
    (hsorted : calls.Pairwise (·.now ≤ ·.now)) (hfrom : ∀ c ∈ calls, t ≤ c.now) :
    limiter.answers username calls = Lockout.answers lockout s (limiter.seen username calls) := by
  induction calls generalizing limiter s t with
  | nil => rfl
  | cons c calls ih =>
    rw [List.pairwise_cons] at hsorted
    obtain ⟨hfirst, hrest⟩ := hsorted
    have hnow := hfrom c (List.mem_cons_self ..)
    rw [answers, seen]
    by_cases hname : c.username = username
    · obtain ⟨now, name, op⟩ := c
      subst hname
      cases op with
      | isLocked =>
        obtain ⟨hanswer, hagrees⟩ := h.isLocked hnow
        have hnext := ih hagrees hrest hfirst
        simp only [drops, reduceCtorEq, false_and, decide_false, Bool.false_eq_true,
          not_false_eq_true, and_self, if_true, List.singleton_append, Lockout.answers,
          Lockout.call, ← hanswer]
        exact congrArg _ hnext
      | registerFailure =>
        cases hrefuse : limiter.refuses name now with
        | true =>
          have hnext := ih (h.refused hnow hrefuse) hrest hfirst
          simpa [drops, hrefuse, call] using hnext
        | false =>
          have hnext := ih (h.registerFailure hnow hrefuse) hrest hfirst
          simpa [drops, hrefuse, call, Lockout.answers] using hnext
      | reset =>
        have hnext := ih h.reset hrest hfirst
        simpa [drops, call, Lockout.answers, Lockout.call] using hnext
    · have hnext := ih (h.call_other hnow hname) hrest hfirst
      simpa [hname] using hnext

/-- A call tracks no other username than its own. -/
theorem mem_call {c : LimiterCall} {name : String} (h : name ∈ (limiter.call c).2.entries) :
    name = c.username ∨ name ∈ limiter.entries := by
  unfold call at h
  cases hop : c.op with
  | isLocked =>
    simp only [hop, LoginLimiter.isLocked] at h
    split at h
    · exact .inr h
    · split at h
      · split at h
        · exact .inr h
        · exact Finmap.mem_insert.1 h
      · exact .inr h
  | registerFailure =>
    have hroom : ∀ name, name ∈ (limiter.makeRoom c.username c.now).entries →
        name ∈ limiter.entries := by
      intro name hname
      unfold makeRoom at hname
      split at hname
      · obtain ⟨v, hv, -⟩ := Maps.mem_retain.1 hname
        exact Finmap.mem_of_lookup_eq_some hv
      · exact hname
    simp only [hop, LoginLimiter.registerFailure] at h
    split at h
    · exact .inr (hroom name h)
    · rcases Finmap.mem_insert.1 h with h | h
      · exact .inl h
      · exact .inr (hroom name h)
  | reset =>
    simp only [hop, LoginLimiter.reset] at h
    exact .inr (Finmap.mem_erase.1 h).2

/-- With fewer than `lockoutMaxEntries` other usernames no failure of the username is refused. -/
theorem refuses_eq_false {names : Finset String} (hfew : names.card < lockoutMaxEntries)
    (htracked : ∀ name ∈ limiter.entries, name = username ∨ name ∈ names) :
    limiter.refuses username now = false := by
  rw [refuses, decide_eq_false_iff_not]
  intro hrefuse
  obtain ⟨hsize, habsent, -⟩ := hrefuse
  rw [HashMap.containsKey_iff] at habsent
  have hsub : limiter.entries.keys ⊆ names := by
    intro name hmem
    rw [Finmap.mem_keys] at hmem
    rcases htracked name hmem with rfl | hmem'
    · exact absurd hmem habsent
    · exact hmem'
  have hcard := Finset.card_le_card hsub
  rw [Maps.size] at hsize
  omega

/-- Then all calls of the username are seen. -/
theorem seen_eq_callsOf {calls : List LimiterCall} {names : Finset String}
    (hfew : names.card < lockoutMaxEntries)
    (htracked : ∀ name ∈ limiter.entries, name = username ∨ name ∈ names)
    (hcalls : ∀ c ∈ calls, c.username = username ∨ c.username ∈ names) :
    limiter.seen username calls = callsOf username calls := by
  induction calls generalizing limiter with
  | nil => rfl
  | cons c calls ih =>
    have hnext := @ih (limiter.call c).2 (fun name hname => by
      rcases mem_call hname with rfl | hname
      · exact hcalls c (List.mem_cons_self ..)
      · exact htracked name hname) fun c' hc' => hcalls c' (List.mem_cons_of_mem _ hc')
    rw [seen, hnext]
    by_cases hname : c.username = username
    · have hdrops : limiter.drops c = false := by
        rw [drops, decide_eq_false_iff_not]
        intro hdrop
        rw [hname, refuses_eq_false hfew htracked] at hdrop
        exact absurd hdrop.2 (by decide)
      simp [callsOf, hname, hdrops]
    · simp [callsOf, hname]

end LoginLimiter

open LoginLimiter

/-- **Lockout of one username.** Whatever is asked and registered for other usernames, the answers
to `is_locked` are those of the username's automaton on its own calls, without the failures that a
full map refuses to record; none is refused while there are fewer than `lockoutMaxEntries` other
usernames. -/
theorem lockout_of_seen (lockout : Nat) (username : String) {calls : List LimiterCall}
    (hsorted : calls.Pairwise (·.now ≤ ·.now)) :
    (LoginLimiter.new lockout).answers username calls =
        Lockout.answers lockout {} ((LoginLimiter.new lockout).seen username calls) ∧
      (((calls.map LimiterCall.username).toFinset.erase username).card < lockoutMaxEntries →
        (LoginLimiter.new lockout).seen username calls = callsOf username calls) := by
  constructor
  · have hfresh : Agrees username lockout 0 (.new lockout) {} :=
      ⟨rfl, fun _ _ => rfl, Nat.zero_lt_succ 4, rfl⟩
    exact answers_seen hfresh hsorted fun c _ => Nat.zero_le _
  · intro hfew
    refine seen_eq_callsOf hfew (fun name hname => absurd hname Finmap.notMem_empty) ?_
    intro c hc
    by_cases hname : c.username = username
    · exact .inl hname
    · refine .inr (Finset.mem_erase.2 ⟨hname, ?_⟩)
      rw [List.mem_toFinset]
      exact List.mem_map_of_mem hc

/-- Failures of two usernames in turn, with a login of `b` after its first one. -/
def guessesInTurn : List LimiterCall :=
  [⟨0, "b", .registerFailure⟩, ⟨1, "a", .registerFailure⟩, ⟨2, "b", .reset⟩,
    ⟨3, "b", .registerFailure⟩, ⟨4, "a", .registerFailure⟩, ⟨5, "b", .registerFailure⟩,
    ⟨5, "c", .reset⟩, ⟨6, "b", .registerFailure⟩, ⟨7, "a", .registerFailure⟩,
    ⟨8, "b", .registerFailure⟩, ⟨9, "b", .isLocked⟩, ⟨10, "b", .registerFailure⟩,
    ⟨11, "a", .isLocked⟩, ⟨12, "b", .isLocked⟩, ⟨13, "a", .registerFailure⟩,
    ⟨60009, "b", .isLocked⟩, ⟨60010, "b", .isLocked⟩]

/-- The fifth failure after the login locks `b` for the window. -/
theorem lockout_of_seen_sample :
    (LoginLimiter.new lockoutWindow).answers "b" guessesInTurn =
      Lockout.answers lockoutWindow {} (callsOf "b" guessesInTurn) ∧
    Lockout.answers lockoutWindow {} (callsOf "b" guessesInTurn) = [false, true, true, false] := by
  have hsorted : guessesInTurn.Pairwise (·.now ≤ ·.now) := by decide
  obtain ⟨hanswers, hseen⟩ := lockout_of_seen lockoutWindow "b" hsorted
  rw [hseen (by decide)] at hanswers
  exact ⟨hanswers, by decide⟩

/-! ## A full map -/

/-- Five failures and a question. -/
def guesses (username : String) : List LimiterCall :=
  List.replicate 5 ⟨0, username, .registerFailure⟩ ++ [⟨0, username, .isLocked⟩]

/-- The usernames of a crowd, one for each length. -/
def crowdName (i : Nat) : String := String.ofList (List.replicate i 'a')

/-- One failure for each username of the crowd. -/
def crowd (n : Nat) : List LimiterCall :=
  (List.range n).map fun i => ⟨0, crowdName i, .registerFailure⟩

namespace LoginLimiter

/-- The map holds one failure for each of `n` usernames of the crowd. -/
structure Crowded (n : Nat) (limiter : LoginLimiter) : Prop where
  size : Maps.size limiter.entries = n
  entries : ∀ name e, limiter.entries.lookup name = some e → e = { consecutiveFailures := 1 }
  names : ∀ name ∈ limiter.entries, ∃ i < n, name = crowdName i

theorem crowdName_injective {i j : Nat} (h : crowdName i = crowdName j) : i = j := by
  have hlist := congrArg String.toList h
  simp only [crowdName, String.toList_ofList] at hlist
  simpa using congrArg List.length hlist

theorem crowdName_ne (i : Nat) : crowdName i ≠ "b" := by
  intro h
  have hlist := congrArg String.toList h
  simp only [crowdName, String.toList_ofList] at hlist
  have hmem : 'b' ∈ List.replicate i 'a' := by
    rw [hlist]
    decide
  exact absurd (List.eq_of_mem_replicate hmem) (by decide)

/-- While there is room, the next username of the crowd comes in. -/
theorem Crowded.next {n : Nat} {limiter : LoginLimiter} (h : Crowded n limiter)
    (hroom : n < lockoutMaxEntries) :
    Crowded (n + 1) (limiter.registerFailure (crowdName n) 0) := by
  have hsize := h.size
  have hfull : ¬ Maps.size limiter.entries ≥ lockoutMaxEntries := by omega
  have hnew : crowdName n ∉ limiter.entries := by
    intro hmem
    obtain ⟨i, hi, heq⟩ := h.names _ hmem
    have := crowdName_injective heq
    omega
  have hnone := Finmap.lookup_eq_none.2 hnew
  have hafter : limiter.registerFailure (crowdName n) 0 = { limiter with
      entries := limiter.entries.insert (crowdName n) { consecutiveFailures := 1 } } := by
    simp [registerFailure, makeRoom, refuses, hfull, hnone, lockoutThreshold]
  rw [hafter]
  refine ⟨?_, fun name e he => ?_, fun name hname => ?_⟩
  · rw [Maps.size_insert _ hnew, hsize]
  · simp only at he
    by_cases heq : name = crowdName n
    · rw [heq, Finmap.lookup_insert, Option.some.injEq] at he
      exact he.symm
    · rw [Finmap.lookup_insert_of_ne _ heq] at he
      exact h.entries name e he
  · rcases Finmap.mem_insert.1 hname with heq | hmem
    · exact ⟨n, Nat.lt_succ_self n, heq⟩
    · obtain ⟨i, hi, heq⟩ := h.names name hmem
      exact ⟨i, Nat.lt_succ_of_lt hi, heq⟩

/-- A crowd that fits fills the map, with no answer for anyone else. -/
theorem crowd_spec {n : Nat} (h : n ≤ lockoutMaxEntries) (lockout : Nat) :
    ∃ limiter, Crowded n limiter ∧ ∀ calls,
      (LoginLimiter.new lockout).answers "b" (crowd n ++ calls) = limiter.answers "b" calls := by
  induction n with
  | zero =>
    refine ⟨.new lockout, ⟨rfl, fun name e he => ?_, fun name hname => ?_⟩, fun calls => rfl⟩
    · cases he
    · exact absurd hname Finmap.notMem_empty
  | succ n ih =>
    obtain ⟨limiter, hcrowded, hanswers⟩ := ih (by omega)
    refine ⟨_, hcrowded.next (by omega), fun calls => ?_⟩
    have hsplit : crowd (n + 1) ++ calls =
        crowd n ++ (⟨0, crowdName n, .registerFailure⟩ :: calls) := by
      simp [crowd, List.range_succ]
    rw [hsplit, hanswers, answers, if_neg (crowdName_ne n), List.nil_append]
    rfl

/-- A full crowd leaves no room for a failure of anyone else. -/
theorem Crowded.refuses {limiter : LoginLimiter} (h : Crowded lockoutMaxEntries limiter) :
    limiter.registerFailure "b" 0 = limiter := by
  have hsize := h.size
  have hnew : "b" ∉ limiter.entries := by
    intro hmem
    obtain ⟨i, -, heq⟩ := h.names _ hmem
    exact crowdName_ne i heq.symm
  have hkeep : Maps.retain (fun _ entry => LimiterEntry.live 0 entry) limiter.entries =
      limiter.entries := by
    refine Maps.retain_eq_self fun name e he => ?_
    rw [h.entries name e he]
    rfl
  have hnone := Finmap.lookup_eq_none.2 hnew
  simp [registerFailure, makeRoom, LoginLimiter.refuses, hsize, hkeep, HashMap.containsKey, hnone]

theorem Crowded.guesses {limiter : LoginLimiter} (h : Crowded lockoutMaxEntries limiter) :
    limiter.answers "b" (guesses "b") = [false] := by
  have hnew : limiter.entries.lookup "b" = none := by
    rw [Finmap.lookup_eq_none]
    intro hmem
    obtain ⟨i, -, heq⟩ := h.names _ hmem
    exact crowdName_ne i heq.symm
  simp [LiteAgentify.guesses, List.replicate, answers, call, h.refuses, isLocked, hnew]

end LoginLimiter

/-- With a full crowd, five failures of another username do not lock it, though they lock it on
their own. -/
theorem crowd_hides_failures :
    (LoginLimiter.new lockoutWindow).answers "b" (crowd lockoutMaxEntries ++ guesses "b") =
      [false] ∧
    Lockout.answers lockoutWindow {} (callsOf "b" (crowd lockoutMaxEntries ++ guesses "b")) =
      [true] := by
  constructor
  · obtain ⟨limiter, hcrowded, hanswers⟩ := LoginLimiter.crowd_spec (le_refl _) lockoutWindow
    rw [hanswers]
    exact hcrowded.guesses
  · have hothers : callsOf "b" (crowd lockoutMaxEntries) = [] := by
      simp [callsOf, crowd, LoginLimiter.crowdName_ne]
    have hsplit : callsOf "b" (crowd lockoutMaxEntries ++ guesses "b") =
        callsOf "b" (crowd lockoutMaxEntries) ++ callsOf "b" (guesses "b") := by
      rw [callsOf, List.filter_append, List.map_append]
      rfl
    rw [hsplit, hothers]
    decide

end LiteAgentify
