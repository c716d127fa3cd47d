import LiteAgentify.Lib.Sums
import LiteAgentify.Admin.Login
import LiteAgentify.Proof.Lockout

/-!
# Guessing a password with concurrent logins

Logins for one username with wrong passwords. A request that has passed `is_locked` counts as a
failure only after its verification, so the limiter does not see the requests underway. As long as
a check runs only when these and the counted failures are together below the threshold, no more
than the threshold of passwords is verified within a window (`guesses_within_threshold`); without
that, any number is (`six_guesses`).
-/

set_option autoImplicit false

namespace LiteAgentify

/-! ## Counting requests -/

/-- A login past the check whose outcome is not counted yet. -/
def AdminPlace.underway : AdminPlace → Bool
  | .checked | .lookedUp _ | .failed => true
  | _ => false

/-- The password of a login was verified. -/
def AdminPlace.guessed : AdminPlace → Bool
  | .failed | .verified _ | .cleared _ => true
  | .returned status => status = 401 ∨ status = 200
  | _ => false

/-- The failure of a login was registered. -/
def AdminPlace.recorded (place : AdminPlace) : Bool := place = .returned 401

/-- A place of a login that cannot succeed. -/
def AdminPlace.Wrong (users : UserTable) (username : String) : AdminPlace → Prop
  | .start | .checked | .lookedUp none | .failed => True
  | .lookedUp (some user) => user ∈ users.users ∧ user.username = username
  | .returned status => status ≠ 200
  | _ => False

/-- Where a login that cannot succeed can be. -/
theorem AdminPlace.Wrong.cases {users : UserTable} {username : String} {place : AdminPlace}
    (h : place.Wrong users username) :
    place = .start ∨ place = .checked ∨
      (∃ found, place = .lookedUp found ∧
        ∀ user ∈ found, user ∈ users.users ∧ user.username = username) ∨
      place = .failed ∨ ∃ status, place = .returned status ∧ status ≠ 200 := by
  cases place with
  | start => exact .inl rfl
  | checked => exact .inr (.inl rfl)
  | lookedUp found =>
    refine .inr (.inr (.inl ⟨found, rfl, fun user huser => ?_⟩))
    cases huser
    exact h
  | failed => exact .inr (.inr (.inr (.inl rfl)))
  | returned status => exact .inr (.inr (.inr (.inr ⟨status, rfl, h⟩)))
  | verified user => exact h.elim
  | cleared user => exact h.elim
  | authorized identity => exact h.elim
  | confirmed identity => exact h.elim
  | located identity => exact h.elim
  | written => exact h.elim
  | swept => exact h.elim

namespace AdminServer

variable {ι : Type} [Fintype ι]

/-- How many requests have come to such a place. -/
def count (s : AdminServer ι) (p : AdminPlace → Bool) : Nat :=
  (Finset.univ.filter fun i => p (s.place i)).card

/-- The failures that the limiter counts for a username. -/
def failures (s : AdminServer ι) (username : String) : Nat :=
  (s.stores.sessions.limiter.entry username).consecutiveFailures

/-- Requests run within the window, and a check only when the logins underway and the counted
failures are fewer than the threshold. -/
def Guarded (username : String) (windowEnd : Nat) (s : AdminServer ι) : AdminLabel ι → Prop
  | .request i _ => s.now < windowEnd ∧
      (s.place i = .start →
        s.count AdminPlace.underway + s.failures username < lockoutThreshold)
  | .tick _ => True

variable {argon2 : String → String → Bool} {sessionTtl lockout start now : Nat}
  {requests : ι → AdminRequest} {users : UserTable} {username : String} {s s' : AdminServer ι}
  {i : ι} {place : AdminPlace} {stores : AdminStores}

theorem count_update [DecidableEq ι] (s : AdminServer ι) (i : ι) (stores : AdminStores)
    (place : AdminPlace) (p : AdminPlace → Bool) :
    (⟨stores, s.now, Function.update s.place i place⟩ : AdminServer ι).count p +
      (p (s.place i)).toNat = s.count p + (p place).toNat :=
  Sums.card_update s.place i place p

/-! ## The invariant -/

/-- The automaton of the username has counted the recorded failures, or has locked for the rest of
the window. -/
def Counted (windowEnd recorded : Nat) (state : Lockout) : Prop :=
  recorded < lockoutThreshold ∧ state = ⟨recorded, none⟩ ∨
    recorded = lockoutThreshold ∧ ∃ lockedUntil, windowEnd ≤ lockedUntil ∧
      state = ⟨0, some lockedUntil⟩

/-- One more failure is counted, or locks. -/
theorem Counted.registerFailure {recorded : Nat} {state : Lockout}
    (h : Counted (start + lockout) recorded state) (hr : recorded < lockoutThreshold)
    (hnow : start ≤ now) :
    Counted (start + lockout) (recorded + 1) (state.call lockout now .registerFailure).2 := by
  rcases h with ⟨-, rfl⟩ | ⟨hfull, -⟩
  · unfold Lockout.call
    by_cases hlast : recorded + 1 = lockoutThreshold
    · simp only [hlast, if_true]
      exact .inr ⟨rfl, now + lockout, by omega, rfl⟩
    · simp only [hlast, if_false]
      exact .inl ⟨by omega, rfl⟩
  · omega

structure Guessing (users : UserTable) (username : String) (lockout start : Nat)
    (s : AdminServer ι) : Prop where
  same : s.stores.users = users
  started : start ≤ s.now
  tracked : ∀ name ∈ s.stores.sessions.limiter.entries, name = username
  wrong : ∀ i, (s.place i).Wrong users username
  bounded : s.count AdminPlace.recorded + s.count AdminPlace.underway ≤ lockoutThreshold
  counted : ∃ state, s.stores.sessions.limiter.Agrees username lockout s.now state ∧
    Counted (start + lockout) (s.count AdminPlace.recorded) state

theorem guessing_init : Guessing users username lockout start
    (init users lockout start : AdminServer ι) where
  same := rfl
  started := le_refl _
  tracked := fun name h => absurd h Finmap.notMem_empty
  wrong := fun _ => trivial
  bounded := by simp [count, init, AdminPlace.recorded, AdminPlace.underway]
  counted := by
    refine ⟨{}, ⟨rfl, fun _ _ => rfl, Nat.zero_lt_succ 4, rfl⟩, .inl ⟨?_, ?_⟩⟩
    · simp [count, init, AdminPlace.recorded, lockoutThreshold]
    · simp [count, init, AdminPlace.recorded]

/-- A question about a username changes nothing that the invariant looks at. -/
theorem Guessing.isLocked (h : Guessing users username lockout start s) :
    Guessing users username lockout start
        ⟨⟨s.stores.users, (s.stores.sessions.isLocked username s.now).2⟩, s.now, s.place⟩ ∧
      (s.now < start + lockout → ((s.stores.sessions.isLocked username s.now).1 ↔
        s.count AdminPlace.recorded = lockoutThreshold)) := by
  obtain ⟨state, hagrees, hcounted⟩ := h.counted
  obtain ⟨hanswer, hagrees'⟩ := hagrees.isLocked (le_refl s.now)
  refine ⟨⟨h.same, h.started, fun name hname => ?_, h.wrong, h.bounded, state, hagrees', hcounted⟩,
    fun hnow => ?_⟩
  · rcases @LoginLimiter.mem_call _ ⟨s.now, username, .isLocked⟩ name hname with rfl | hname
    · rfl
    · exact h.tracked name hname
  · show (s.stores.sessions.limiter.isLocked username s.now).1 = true ↔ _
    rw [hanswer]
    rcases hcounted with ⟨hlt, rfl⟩ | ⟨hfull, lockedUntil, hle, rfl⟩
    · simp [hlt.ne]
    · simp only [Option.any_some, decide_eq_true_eq, hfull, iff_true]
      omega

section
variable [DecidableEq ι]

theorem Guessing.wrong_update (h : Guessing users username lockout start s)
    (hplace : place.Wrong users username) (j : ι) :
    (Function.update s.place i place j).Wrong users username := by
  by_cases hj : j = i
  · subst hj
    rwa [Function.update_self]
  · rw [Function.update_of_ne hj]
    exact h.wrong j

/-- A step of request `i` that leaves the limiter alone and puts no new request underway. -/
theorem Guessing.move (h : Guessing users username lockout start s)
    (hplace : place.Wrong users username)
    (hrecorded : place.recorded = (s.place i).recorded)
    (hunderway : place.underway = true →
      s.count AdminPlace.recorded + s.count AdminPlace.underway +
        1 ≤ lockoutThreshold + (s.place i).underway.toNat) :
    Guessing users username lockout start
      ⟨s.stores, s.now, Function.update s.place i place⟩ := by
  have hr := count_update s i s.stores place AdminPlace.recorded
  have hu := count_update s i s.stores place AdminPlace.underway
  rw [hrecorded] at hr
  have hsame := Nat.add_right_cancel hr
  have hbounded := h.bounded
  refine ⟨h.same, h.started, h.tracked, h.wrong_update hplace, ?_, ?_⟩
  · cases hp : place.underway
    · rw [hp, Bool.toNat_false] at hu
      omega
    · have := hunderway hp
      rw [hp, Bool.toNat_true] at hu
      omega
  · rw [hsame]
    exact h.counted

/-- A failure of a request underway is registered. -/
theorem Guessing.registerFailure (h : Guessing users username lockout start s)
    (hp : s.place i = .failed) :
    Guessing users username lockout start
      ⟨⟨s.stores.users, s.stores.sessions.registerFailure username s.now⟩, s.now,
        Function.update s.place i (.returned 401)⟩ := by
  have hcount := count_update s i
    ⟨s.stores.users, s.stores.sessions.registerFailure username s.now⟩ (.returned 401)
  have hr := hcount AdminPlace.recorded
  have hu := hcount AdminPlace.underway
  simp only [hp, AdminPlace.recorded, AdminPlace.underway, decide_true, decide_false,
    Bool.toNat_true, Bool.toNat_false, reduceCtorEq, Nat.add_zero] at hr hu
  have hbounded := h.bounded
  obtain ⟨state, hagrees, hcounted⟩ := h.counted
  have hrecord := @LoginLimiter.refuses_eq_false _ _ s.now ∅ (by decide)
    fun name hname => .inl (h.tracked name hname)
  have hplace : (AdminPlace.returned 401).Wrong users username := by
    show 401 ≠ 200
    decide
  refine ⟨h.same, h.started, fun name hname => ?_, h.wrong_update hplace, by omega, _,
    hagrees.registerFailure (le_refl s.now) hrecord, ?_⟩
  · rcases @LoginLimiter.mem_call _ ⟨s.now, username, .registerFailure⟩ name hname with rfl | hname
    · rfl
    · exact h.tracked name hname
  · have hnext := hcounted.registerFailure (by omega) h.started
    rwa [← hr] at hnext

/-! ## Steps and runs -/

/-- Logins for the username, each with a password that no row of the username accepts. -/
def WrongPasswords (argon2 : String → String → Bool) (users : UserTable) (username : String)
    (requests : ι → AdminRequest) : Prop :=
  ∀ i, ∃ password token, requests i = .login username password token ∧
    ∀ user ∈ users.users, user.username = username →
      verifyPassword argon2 user.passwordHash password = false

/-- The check of a login: locked out when all failures are counted, else one more underway. -/
theorem Guessing.check (h : Guessing users username lockout start s) (hp : s.place i = .start)
    (hnow : s.now < start + lockout)
    (hfew : s.count AdminPlace.underway + s.failures username < lockoutThreshold) :
    Guessing users username lockout start
      ⟨⟨s.stores.users, (s.stores.sessions.isLocked username s.now).2⟩, s.now,
        Function.update s.place i
          (if (s.stores.sessions.isLocked username s.now).1 then .returned 429 else .checked)⟩ := by
  obtain ⟨hnext, hlocked⟩ := h.isLocked
  have hlocked := hlocked hnow
  by_cases hl : (s.stores.sessions.isLocked username s.now).1
  · simp only [hl, if_true]
    refine hnext.move ?_ ?_ ?_
    · show 429 ≠ 200
      decide
    · show _ = (s.place i).recorded
      rw [hp]
      rfl
    · intro hu
      cases hu
  · simp only [hl, if_false, Bool.false_eq_true]
    refine hnext.move trivial ?_ fun _ => ?_
    · show _ = (s.place i).recorded
      rw [hp]
      rfl
    · -- the limiter still counts the recorded failures, so there is room for one more
      show s.count AdminPlace.recorded + s.count AdminPlace.underway + 1 ≤
        lockoutThreshold + (s.place i).underway.toNat
      obtain ⟨state, hagrees, ⟨hlt, rfl⟩ | ⟨hfull, -⟩⟩ := h.counted
      · have hfailures : s.failures username = s.count AdminPlace.recorded := hagrees.failures
        omega
      · exact absurd (hlocked.2 hfull) hl

theorem Guessing.step (hwrong : WrongPasswords argon2 users username requests)
    (h : Guessing users username lockout start s) {label : AdminLabel ι}
    (hok : s.Guarded username (start + lockout) label)
    (hs : s.step argon2 sessionTtl requests label = some s') :
    Guessing users username lockout start s' := by
  cases label with
  | tick ms =>
    cases hs
    obtain ⟨state, hagrees, hcounted⟩ := h.counted
    have hlater : s.now ≤ s.now + ms := Nat.le_add_right ..
    exact ⟨h.same, h.started.trans hlater, h.tracked, h.wrong, h.bounded, state,
      hagrees.later hlater, hcounted⟩
  | request i fault =>
    obtain ⟨password, token, hr, hreject⟩ := hwrong i
    simp only [AdminServer.step, requestStep, hr, Option.map_eq_some_iff] at hs
    obtain ⟨⟨stores, place⟩, hstep, rfl⟩ := hs
    rcases (h.wrong i).cases with hp | hp | ⟨found, hp, hfound⟩ | hp | ⟨status, hp, -⟩
    · -- the check
      rw [hp] at hstep
      simp only [loginStep, Option.some.injEq, Prod.mk.injEq] at hstep
      obtain ⟨rfl, rfl⟩ := hstep
      exact h.check hp hok.1 (hok.2 hp)
    · -- the lookup
      rw [hp] at hstep
      cases hstep
      cases fault with
      | true =>
        refine h.move ?_ (by rw [hp]; rfl) fun hu => by cases hu
        show 500 ≠ 200
        decide
      | false =>
        refine h.move ?_ (by rw [hp]; rfl) fun _ => ?_
        · cases hfind : s.stores.users.findUserByUsername username with
          | none => exact trivial
          | some user =>
            rw [h.same] at hfind
            exact ⟨List.mem_of_find?_eq_some hfind, by simpa using List.find?_some hfind⟩
        · rw [hp]
          exact Nat.add_le_add_right h.bounded 1
    · -- the verification, of a password that no row accepts
      rw [hp] at hstep
      have hfailed : (stores, place) = (s.stores, .failed) := by
        cases found with
        | none =>
          cases hstep
          rfl
        | some user =>
          obtain ⟨hmem, hname⟩ := hfound user rfl
          have hv := hreject user hmem hname
          simpa [loginStep, hv] using hstep.symm
      cases hfailed
      refine h.move trivial (by rw [hp]; rfl) fun _ => ?_
      rw [hp]
      exact Nat.add_le_add_right h.bounded 1
    · -- the failure is registered
      rw [hp] at hstep
      cases hstep
      exact h.registerFailure hp
    · rw [hp] at hstep
      cases hstep

/-- A verified password is recorded or underway. -/
theorem Guessing.guessed_le (h : Guessing users username lockout start s) :
    s.count AdminPlace.guessed ≤
      s.count AdminPlace.recorded + s.count AdminPlace.underway := by
  unfold count
  refine (Finset.card_le_card ?_).trans (Finset.card_union_le _ _)
  intro i hi
  simp only [Finset.mem_filter, Finset.mem_univ, true_and, Finset.mem_union] at hi ⊢
  rcases (h.wrong i).cases with hp | hp | ⟨found, hp, -⟩ | hp | ⟨status, hp, hne⟩
  · rw [hp] at hi
    cases hi
  · rw [hp] at hi
    cases hi
  · rw [hp] at hi
    cases hi
  · rw [hp]
    exact .inr rfl
  · rw [hp] at hi ⊢
    simp only [AdminPlace.guessed, decide_eq_true_eq] at hi
    refine .inl ?_
    rcases hi with rfl | rfl
    · rfl
    · exact absurd rfl hne

end

end AdminServer

/-- **Bounded guessing.** Logins with wrong passwords, each checked only when the logins underway
and the counted failures are fewer than the threshold: within a window no more than the threshold of
passwords is verified, and a login that comes after these is answered 429. -/
theorem guesses_within_threshold {ι : Type} [Fintype ι] [DecidableEq ι]
    {argon2 : String → String → Bool} {sessionTtl lockout start : Nat} {requests : ι → AdminRequest}
    {users : UserTable} {username : String} {tr : List (AdminLabel ι)} {s : AdminServer ι}
    (hwrong : AdminServer.WrongPasswords argon2 users username requests)
    (hrun : Lts.Run (AdminServer.step argon2 sessionTtl requests)
      (AdminServer.Guarded username (start + lockout)) (.init users lockout start) tr s) :
    s.count AdminPlace.guessed ≤ lockoutThreshold ∧
      (s.count AdminPlace.guessed = lockoutThreshold → ∀ i fault s', s.place i = .start →
        s.Guarded username (start + lockout) (.request i fault) →
        s.step argon2 sessionTtl requests (.request i fault) = some s' →
        s'.place i = .returned 429) := by
  have h : AdminServer.Guessing users username lockout start s :=
    hrun.inv AdminServer.guessing_init fun _ _ _ hu hok hs => hu.step hwrong hok hs
  refine ⟨h.guessed_le.trans h.bounded, fun hfull i fault s' hp hok hs => ?_⟩
  have hle := h.guessed_le
  have hfew := hok.2 hp
  -- all five are counted: those still underway would have stopped the check
  have hrecorded : s.count AdminPlace.recorded = lockoutThreshold := by
    obtain ⟨state, hagrees, ⟨hlt, rfl⟩ | ⟨hall, -⟩⟩ := h.counted
    · have hfailures : s.failures username = s.count AdminPlace.recorded := hagrees.failures
      omega
    · exact hall
  have hlocked := (h.isLocked.2 hok.1).2 hrecorded
  obtain ⟨password, token, hr, -⟩ := hwrong i
  simp only [AdminServer.step, AdminServer.requestStep, hr, hp, loginStep, hlocked, if_true,
    Option.map_some, Option.some.injEq] at hs
  subst hs
  exact Function.update_self ..

instance {ι : Type} [Fintype ι] (username : String) (windowEnd : Nat) (s : AdminServer ι) :
    ∀ label, Decidable (s.Guarded username windowEnd label)
  | .request _ _ => inferInstanceAs (Decidable (_ ∧ _))
  | .tick _ => isTrue trivial

/-! ## Six logins -/

def oneAdmin : UserTable := ⟨[⟨1, "admin", "secret", .admin, .active⟩], by decide, by decide⟩

def sixLogins : Fin 6 → AdminRequest := fun _ => .login "admin" "guess" "token"

/-- Five logins, one after another. -/
def fiveInTurn : List (AdminLabel (Fin 6)) :=
  ([0, 1, 2, 3, 4] : List (Fin 6)).flatMap fun i => List.replicate 4 (.request i false)

/-- All six are checked before the first of them is verified. -/
def sixAtOnce : List (AdminLabel (Fin 6)) :=
  (List.finRange 6).map (AdminLabel.request · false) ++
    ([0, 1, 2, 3, 4] : List (Fin 6)).flatMap (fun i => List.replicate 3 (.request i false)) ++
    List.replicate 2 (.request 5 false)

theorem sixLogins_wrong :
    AdminServer.WrongPasswords (fun _ _ => false) oneAdmin "admin" sixLogins := by
  refine fun i => ⟨"guess", "token", rfl, fun user huser _ => ?_⟩
  rw [oneAdmin, List.mem_singleton] at huser
  subst huser
  decide +kernel

/-- The sixth login is answered 429. -/
theorem guesses_within_threshold_sample : ∃ s : AdminServer (Fin 6),
    Lts.exec (AdminServer.step (fun _ _ => false) 1000 sixLogins)
      (.init oneAdmin lockoutWindow 0) fiveInTurn = some s ∧
    s.count AdminPlace.guessed = lockoutThreshold ∧
    ∀ s', s.step (fun _ _ => false) 1000 sixLogins (.request 5 false) = some s' →
      s'.place 5 = .returned 429 := by
  have hex : (Lts.exec (Lts.guarded (AdminServer.step (fun _ _ => false) 1000 sixLogins)
      (AdminServer.Guarded "admin" (0 + lockoutWindow))) (.init oneAdmin lockoutWindow 0)
      fiveInTurn).any (fun s => s.count AdminPlace.guessed = lockoutThreshold ∧
        s.place 5 = .start ∧ s.Guarded "admin" (0 + lockoutWindow) (.request 5 false)) = true := by
    decide +kernel
  obtain ⟨s, hs, hfive⟩ := (Option.any_eq_true _ _).1 hex
  obtain ⟨hfull, hp, hok⟩ := of_decide_eq_true hfive
  have hrun := Lts.run_of_guarded hs
  exact ⟨s, hrun.exec, hfull, fun s' =>
    (guesses_within_threshold sixLogins_wrong hrun).2 hfull 5 false s' hp hok⟩

/-- Six passwords are verified at one moment, the last one while the username is locked. -/
theorem six_guesses : ∃ s : AdminServer (Fin 6),
    AdminServer.WrongPasswords (fun _ _ => false) oneAdmin "admin" sixLogins ∧
    Lts.exec (AdminServer.step (fun _ _ => false) 1000 sixLogins)
      (.init oneAdmin lockoutWindow 0) sixAtOnce = some s ∧
    s.now < 0 + lockoutWindow ∧ lockoutThreshold < s.count AdminPlace.guessed := by
  have hex : (Lts.exec (AdminServer.step (fun _ _ => false) 1000 sixLogins)
      (.init oneAdmin lockoutWindow 0) sixAtOnce).any (fun s => s.now < 0 + lockoutWindow ∧
        lockoutThreshold < s.count AdminPlace.guessed) = true := by
    decide +kernel
  obtain ⟨s, hs, hsix⟩ := (Option.any_eq_true _ _).1 hex
  exact ⟨s, sixLogins_wrong, hs, of_decide_eq_true hsix⟩

end LiteAgentify
