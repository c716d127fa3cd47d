import LiteAgentify.Admin.LoginApi

/-!
# Failed logins hide who exists

A login that does not verify does the same whether there is no such user, the user is disabled or
the password is wrong: it counts a failure for the name that was sent. So two tables of users that
differ in one name only, which no login of the sequence gets into (`ShutOut`), give the same
responses and the same sessions throughout (`login_hides_username`), whatever the store of the
sessions counts and however full it is.
-/

set_option autoImplicit false

namespace LiteAgentify

variable {σ : Type} {argon2 : String → String → Bool} {backend : SessionBackend σ}
  {sessionTtl : Nat} {users users' : UserTable} {x : String}

/-- The user `x` is absent or disabled, or none of the logins as `x` has the password. -/
def ShutOut (argon2 : String → String → Bool) (users : UserTable) (x : String)
    (calls : List LoginCall) : Prop :=
  ∀ user, users.findUserByUsername x = some user → user.status = .active →
    ∀ c ∈ calls, c.username = x → verifyPassword argon2 user.passwordHash c.password = false

/-- A login as a user who is shut out does not verify. -/
theorem ShutOut.unverified {calls : List LoginCall} (h : ShutOut argon2 users x calls)
    {c : LoginCall} (hc : c ∈ calls) (hx : c.username = x) :
    verifiedUser argon2 users c.username c.password = none := by
  unfold verifiedUser
  cases hfind : users.findUserByUsername c.username with
  | none => rfl
  | some user =>
    simp only [ite_eq_right_iff, reduceCtorEq, imp_false, not_and]
    intro hverify hactive
    have := h user (hx ▸ hfind) hactive c hc hx
    rw [hverify] at this
    cases this

/-- Tables that agree on the other names verify the same logins. -/
theorem verifiedUser_eq {calls : List LoginCall}
    (hsame : ∀ name, name ≠ x → users.findUserByUsername name = users'.findUserByUsername name)
    (h : ShutOut argon2 users x calls) (h' : ShutOut argon2 users' x calls) {c : LoginCall}
    (hc : c ∈ calls) :
    verifiedUser argon2 users c.username c.password =
      verifiedUser argon2 users' c.username c.password := by
  by_cases hx : c.username = x
  · rw [h.unverified hc hx, h'.unverified hc hx]
  · unfold verifiedUser
    rw [hsame c.username hx]

/-- A handler reads the table only to verify the login. -/
theorem login_congr {c : LoginCall}
    (h : verifiedUser argon2 users c.username c.password =
      verifiedUser argon2 users' c.username c.password) (sessions : σ) :
    login argon2 backend sessionTtl users sessions c =
      login argon2 backend sessionTtl users' sessions c := by
  unfold login
  rw [h]

/-- **Failed logins hide who exists.** For two tables that agree on every other name than `x`, and a
sequence of logins none of which gets into `x` in either, the responses are the same, and so are the
sessions and the lockouts they leave behind. -/
theorem login_hides_username (argon2 : String → String → Bool) (backend : SessionBackend σ)
    (sessionTtl : Nat)
    (hsame : ∀ name, name ≠ x → users.findUserByUsername name = users'.findUserByUsername name)
    {calls : List LoginCall} (h : ShutOut argon2 users x calls)
    (h' : ShutOut argon2 users' x calls) (sessions : σ) :
    Mealy.answers (login argon2 backend sessionTtl users) sessions calls =
        Mealy.answers (login argon2 backend sessionTtl users') sessions calls ∧
      Mealy.after (login argon2 backend sessionTtl users) sessions calls =
        Mealy.after (login argon2 backend sessionTtl users') sessions calls := by
  refine Mealy.simulate (R := fun _ u v => u = v) (C := fun made => ∀ c ∈ made, c ∈ calls)
    ?_ rfl ?_ fun c hc => hc
  · exact fun made c hmade c' hc' => hmade c' (List.mem_append_left _ hc')
  · rintro made c u _ rfl hmade
    have hc : c ∈ calls := hmade c (List.mem_append_right _ (List.mem_singleton_self c))
    rw [login_congr (verifiedUser_eq hsame h h' hc)]
    exact ⟨rfl, rfl⟩

/-- Someone who logs in, and perhaps `x`, who is active. -/
def aliceOnly : UserTable :=
  ⟨[⟨1, "alice", "correct", .admin, .active⟩], by decide, by decide⟩

def aliceAndX : UserTable :=
  ⟨[⟨1, "alice", "correct", .admin, .active⟩, ⟨2, "x", "secret", .user, .active⟩], by decide,
    by decide⟩

/-- Six wrong logins as `x` with one of alice's in between. -/
def guessesAsX : List LoginCall :=
  [⟨0, "x", "a", "t1"⟩, ⟨1, "x", "b", "t2"⟩, ⟨2, "alice", "correct", "t3"⟩, ⟨3, "x", "c", "t4"⟩,
    ⟨4, "x", "d", "t5"⟩, ⟨5, "x", "e", "t6"⟩, ⟨6, "x", "f", "t7"⟩]

/-- A payload that nothing reads back. -/
def usernameJson : SessionJson := ⟨SessionIdentity.username, fun _ => none⟩

/-- The guesses are answered as if there were no `x`, in memory and in Redis: the sixth one finds
the name locked. -/
theorem guesses_as_x_locked :
    (Mealy.answers (login (fun _ _ => false) memoryBackend 86400000 aliceAndX)
        (.new lockoutWindow) guessesAsX).map LoginResponse.status =
      [401, 401, 200, 401, 401, 401, 429] ∧
    (Mealy.answers (login (fun _ _ => false) (redisBackend usernameJson) 86400000 aliceAndX)
        (.new lockoutWindow) guessesAsX).map LoginResponse.status =
      [401, 401, 200, 401, 401, 401, 429] := by
  have hsame : ∀ name, name ≠ "x" →
      aliceOnly.findUserByUsername name = aliceAndX.findUserByUsername name := by
    intro name hname
    simp only [UserTable.findUserByUsername, aliceOnly, aliceAndX, List.find?_cons,
      decide_eq_false (Ne.symm hname), List.find?_nil]
  have habsent : ShutOut (fun _ _ => false) aliceOnly "x" guessesAsX := by
    intro user huser
    cases huser
  have hwrong : ShutOut (fun _ _ => false) aliceAndX "x" guessesAsX := by
    rintro user huser -
    cases huser
    decide
  constructor
  · rw [← (login_hides_username (fun _ _ => false) memoryBackend 86400000 hsame habsent hwrong
      (.new lockoutWindow)).1]
    decide +kernel
  · rw [← (login_hides_username (fun _ _ => false) (redisBackend usernameJson) 86400000 hsame
      habsent hwrong (.new lockoutWindow)).1]
    decide +kernel

end LiteAgentify
