import LiteAgentify.Admin.RedisSession
import LiteAgentify.Lib.Run
import Mathlib.Data.Fintype.Basic

/-!
# Concurrent calls on Redis sessions

The calls of `RedisSessionStore` as the commands that they issue. Each command is one step; the
commands of calls that run at the same time interleave, also those of one pipeline, and time passes
between them.
-/

set_option autoImplicit false

namespace LiteAgentify

/-- How far a call has come. -/
inductive SessionPlace
  | start
  /-- `open` has stored the session. -/
  | stored
  /-- `open` has put the token into the index of the user. -/
  | indexed
  /-- `remove` has fetched the identity. -/
  | fetched (identity : Option SessionIdentity)
  /-- `remove` has deleted the session, and the token is left in the index. -/
  | deleted (identity : SessionIdentity)
  /-- `remove_user` has listed the index; these tokens are left to delete, and then the index. -/
  | listed (left : List String)
  | returned
  deriving DecidableEq

/-- The next command of a call; `none` when it has returned. -/
def sessionCommand (json : SessionJson) (ttl now : Nat) (redis : Redis) :
    SessionOp → SessionPlace → Option (Redis × SessionPlace)
  | .openSession token identity, .start =>
    some (redis.setEx now (sessionKey token) (json.toString identity) (asSecs ttl), .stored)
  | .openSession token identity, .stored =>
    some (redis.sadd now (userSessionsKey identity.userId) token, .indexed)
  | .openSession _ identity, .indexed =>
    some (redis.expire now (userSessionsKey identity.userId) (asSecs ttl), .returned)
  | .get _, .start => some (redis, .returned)
  | .remove token, .start =>
    some (redis, .fetched ((redis.get now (sessionKey token)).bind json.fromStr))
  | .remove token, .fetched identity =>
    some (redis.del now (sessionKey token),
      match identity with
      | some identity => .deleted identity
      | none => .returned)
  | .remove token, .deleted identity =>
    some (redis.srem now (userSessionsKey identity.userId) token, .returned)
  | .removeUser _, .listed (token :: left) =>
    some (redis.del now (sessionKey token), .listed left)
  | .removeUser userId, .listed [] =>
    some (redis.del now (userSessionsKey userId), .returned)
  | _, _ => none

/-- Redis, its clock and the calls. -/
structure SessionRace (ι : Type) where
  redis : Redis
  now : Nat
  place : ι → SessionPlace

inductive RaceStep (ι : Type)
  /-- Time passes. -/
  | tick (elapsed : Nat)
  /-- The next command of a call. -/
  | command (i : ι)
  /-- `SMEMBERS` of a `remove_user`, with the order in which Redis lists the members. -/
  | list (i : ι) (tokens : List String)
  deriving DecidableEq

namespace SessionRace

variable {ι : Type} [DecidableEq ι]

def init : SessionRace ι := ⟨∅, 0, fun _ => .start⟩

def step (json : SessionJson) (ttl : Nat) (requests : ι → SessionOp) (s : SessionRace ι) :
    RaceStep ι → Option (SessionRace ι)
  | .tick elapsed => some { s with now := s.now + elapsed }
  | .command i =>
    match sessionCommand json ttl s.now s.redis (requests i) (s.place i) with
    | some (redis, place) =>
      some { s with redis := redis, place := Function.update s.place i place }
    | none => none
  | .list i tokens =>
    match requests i, s.place i with
    | .removeUser userId, .start =>
      if tokens.Perm (s.redis.smembers s.now (userSessionsKey userId)) then
        some { s with place := Function.update s.place i (.listed tokens) }
      else none
    | _, _ => none

/-- What Redis finds under a token. -/
def session (s : SessionRace ι) (token : String) : Option (KeySpace.Entry String String) :=
  s.redis.find s.now (sessionKey token)

/-- The index of a user. -/
def index (s : SessionRace ι) (userId : Uuid) : Option (KeySpace.Entry String String) :=
  s.redis.find s.now (userSessionsKey userId)

/-- No call is in progress. -/
def Quiet (s : SessionRace ι) : Prop := ∀ i, s.place i = .start ∨ s.place i = .returned

instance [Fintype ι] (s : SessionRace ι) : Decidable s.Quiet :=
  inferInstanceAs (Decidable (∀ i, s.place i = .start ∨ s.place i = .returned))

/-- The session is in the index of the user, which does not expire before it. -/
def Indexed (s : SessionRace ι) (token : String) (userId : Uuid) : Prop :=
  ∃ e index tokens, s.session token = some e ∧ s.index userId = some index ∧
    index.value = .members tokens ∧ token ∈ tokens ∧ ∀ t, e.live t = true → index.live t = true

/-- A step that keeps apart what must not cross: no `SADD` of a live session's token comes between
the `SMEMBERS` of a `remove_user` of the same user and its `DEL` of the index, and no index expires
between an `open`'s `SADD` and its `EXPIRE` while the session lives on. -/
def Apart (requests : ι → SessionOp) (s : SessionRace ι) : RaceStep ι → Prop
  | .tick elapsed => ∀ i token identity, requests i = .openSession token identity →
      s.place i = .indexed → (s.session token).any (·.live (s.now + elapsed)) →
        (s.index identity.userId).all (·.live (s.now + elapsed))
  | .command i => ∀ token identity, requests i = .openSession token identity →
      s.place i = .stored → (s.session token).isSome →
        ∀ j left, requests j = .removeUser identity.userId → s.place j ≠ .listed left
  | .list _ _ => True

/-! ## The condition on steps can be evaluated -/

instance (op : SessionOp) (p : String → SessionIdentity → Prop)
    [∀ token identity, Decidable (p token identity)] :
    Decidable (∀ token identity, op = .openSession token identity → p token identity) :=
  match op with
  | .openSession token identity => decidable_of_iff (p token identity)
      ⟨fun h _ _ heq => by cases heq; exact h, fun h => h token identity rfl⟩
  | .get _ | .remove _ | .removeUser _ => .isTrue fun _ _ h => by cases h

instance (place : SessionPlace) (p : Prop) [Decidable p] :
    Decidable (∀ left, p → place ≠ .listed left) :=
  match place with
  | .listed left => decidable_of_iff (¬ p) ⟨fun h _ hp => absurd hp h, fun h hp => h left hp rfl⟩
  | .start | .stored | .indexed | .fetched _ | .deleted _ | .returned =>
    .isTrue fun _ _ h => by cases h

instance [Fintype ι] (requests : ι → SessionOp) (s : SessionRace ι) (l : RaceStep ι) :
    Decidable (s.Apart requests l) :=
  match l with
  | .tick elapsed => inferInstanceAs (Decidable (∀ i token identity,
      requests i = .openSession token identity → s.place i = .indexed →
        (s.session token).any (·.live (s.now + elapsed)) →
          (s.index identity.userId).all (·.live (s.now + elapsed))))
  | .command i => inferInstanceAs (Decidable (∀ token identity,
      requests i = .openSession token identity → s.place i = .stored →
        (s.session token).isSome → ∀ j left, requests j = .removeUser identity.userId →
          s.place j ≠ .listed left))
  | .list _ _ => .isTrue trivial

end SessionRace

end LiteAgentify
