import LiteAgentify.Admin.SessionRace
import LiteAgentify.Proof.RedisSessions
import Mathlib.Tactic.FinCases

/-!
# Sessions that drop out of the index

While no login adds its token to an index that a `remove_user` has listed and is about to delete,
and no index expires under a login that is about to extend it, every live session stays in the index
of its user, which outlives it (`SessionRace.Good`), and so a later `remove_user` deletes it
(`sessions_stay_indexed`). `login_crosses_sweep` and `index_expires_under_login` are where a session
drops out.
-/

set_option autoImplicit false

namespace LiteAgentify

namespace SessionRace

variable {ι : Type} [DecidableEq ι] {json : SessionJson} {secs : Nat} {requests : ι → SessionOp}
  {s s' : SessionRace ι}

/-! ## The invariant -/

/-- The call has put its token into the index. -/
def Joined (requests : ι → SessionOp) (s : SessionRace ι) (i : ι) (token : String)
    (identity : SessionIdentity) : Prop :=
  requests i = .openSession token identity ∧ (s.place i = .indexed ∨ s.place i = .returned)

/-- The login that draws this token has stored its session. -/
def Drawn (requests : ι → SessionOp) (s : SessionRace ι) (token : String) : Prop :=
  ∃ i identity, requests i = .openSession token identity ∧ s.place i ≠ .start

/-- What holds of Redis in a run whose steps keep apart: a live session is in the index of its user,
which outlives it once the login has returned, and a `remove_user` that has listed the index has
every live session of it left to delete. -/
structure Good (json : SessionJson) (secs : Nat) (requests : ι → SessionOp) (s : SessionRace ι) :
    Prop where
  sessions : ∀ token e, s.session token = some e → ∃ i identity deadline,
    requests i = .openSession token identity ∧ s.place i ≠ .start ∧
      e = ⟨.text (json.toString identity), some deadline⟩ ∧ deadline ≤ s.now + 1000 * secs
  indexes : ∀ userId e, s.index userId = some e → ∃ tokens deadline,
    e = ⟨.members tokens, deadline⟩ ∧ ∀ token ∈ tokens, ∃ i identity,
      s.Joined requests i token identity ∧ identity.userId = userId
  member : ∀ i token identity, s.Joined requests i token identity → (s.session token).isSome →
    ∃ tokens deadline, s.index identity.userId = some ⟨.members tokens, deadline⟩ ∧ token ∈ tokens
  outlives : ∀ i token identity, requests i = .openSession token identity →
    s.place i = .returned → ∀ e, s.session token = some e → ∀ index, s.index identity.userId =
      some index → ∀ t, index.live t = false → e.live t = false
  listed : ∀ j userId left, requests j = .removeUser userId → s.place j = .listed left →
    ∀ i token identity, s.Joined requests i token identity → identity.userId = userId →
      (s.session token).isSome → token ∈ left
  fetched : ∀ j token identity, requests j = .remove token →
    s.place j = .fetched (some identity) → s.Drawn requests token
  deleted : ∀ j token identity, requests j = .remove token → s.place j = .deleted identity →
    s.Drawn requests token ∧ s.session token = none

/-- No two logins draw the same token. -/
def Fresh (requests : ι → SessionOp) : Prop :=
  ∀ i j token identity identity', requests i = .openSession token identity →
    requests j = .openSession token identity' → i = j

omit [DecidableEq ι] in
theorem good_init : Good json secs requests init where
  sessions := fun _ _ h => nomatch h
  indexes := fun _ _ h => nomatch h
  member := fun _ _ _ _ h => nomatch h
  outlives := fun _ _ _ _ h => nomatch h
  listed := fun _ _ _ _ h => nomatch h
  fetched := fun _ _ _ _ h => nomatch h
  deleted := fun _ _ _ _ h => nomatch h

/-! ## Time -/

omit [DecidableEq ι] in
theorem Good.tick (h : Good json secs requests s) {elapsed : Nat}
    (hapart : s.Apart requests (.tick elapsed)) :
    Good json secs requests { s with now := s.now + elapsed } := by
  have hle : s.now ≤ s.now + elapsed := Nat.le_add_right _ _
  have hsession : ∀ {token e},
      ({ s with now := s.now + elapsed } : SessionRace ι).session token = some e →
        s.session token = some e ∧ e.live (s.now + elapsed) = true := by
    intro token e he
    rw [session, KeySpace.find_later hle, Option.filter_eq_some_iff] at he
    exact he
  have hindex : ∀ {userId e},
      ({ s with now := s.now + elapsed } : SessionRace ι).index userId = some e ↔
        s.index userId = some e ∧ e.live (s.now + elapsed) = true := by
    intro userId e
    rw [index, KeySpace.find_later hle, Option.filter_eq_some_iff]
    rfl
  constructor
  case sessions =>
    intro token e he
    obtain ⟨i, identity, deadline, hi, hplace, hentry, hdeadline⟩ :=
      h.sessions token e (hsession he).1
    exact ⟨i, identity, deadline, hi, hplace, hentry, hdeadline.trans (by dsimp only; omega)⟩
  case indexes => exact fun userId e he => h.indexes userId e (hindex.1 he).1
  case member =>
    intro i token identity hjoined hlive
    obtain ⟨e, he⟩ := Option.isSome_iff_exists.1 hlive
    obtain ⟨he, hlive⟩ := hsession he
    obtain ⟨tokens, deadline, hfind, hmem⟩ := h.member i token identity hjoined (he ▸ rfl)
    refine ⟨tokens, deadline, hindex.2 ⟨hfind, ?_⟩, hmem⟩
    obtain ⟨hi, hplace | hplace⟩ := hjoined
    · have hheld := hapart i token identity hi hplace
      rw [he, hfind] at hheld
      exact hheld hlive
    · by_contra hexpired
      rw [h.outlives i token identity hi hplace e he _ hfind _ (Bool.eq_false_iff.2 hexpired)]
        at hlive
      cases hlive
  case outlives =>
    intro i token identity hi hplace e he index hfound
    exact h.outlives i token identity hi hplace e (hsession he).1 index (hindex.1 hfound).1
  case listed =>
    intro j userId left hreq hplace i token identity hjoined huser hlive
    obtain ⟨e, he⟩ := Option.isSome_iff_exists.1 hlive
    exact h.listed j userId left hreq hplace i token identity hjoined huser ((hsession he).1 ▸ rfl)
  case fetched => exact h.fetched
  case deleted =>
    intro j token identity hreq hplace
    obtain ⟨hdrawn, hnone⟩ := h.deleted j token identity hreq hplace
    refine ⟨hdrawn, ?_⟩
    by_contra hne
    obtain ⟨e, he⟩ := Option.ne_none_iff_exists'.1 hne
    have hold := (hsession he).1
    rw [hnone] at hold
    cases hold

/-! ## Calls that do not log in -/

/-- A command of the call `i` moves it to the place, and no other call. -/
structure Moves (s s' : SessionRace ι) (i : ι) (place : SessionPlace) : Prop where
  now : s'.now = s.now
  self : s'.place i = place
  other : ∀ k, k ≠ i → s'.place k = s.place k

theorem Moves.update (s : SessionRace ι) (i : ι) (redis : Redis) (place : SessionPlace) :
    s.Moves { s with redis := redis, place := Function.update s.place i place } i place :=
  ⟨rfl, Function.update_self .., fun _ hk => Function.update_of_ne hk ..⟩

theorem Moves.cases {i : ι} {place : SessionPlace} (h : s.Moves s' i place) (k : ι) :
    (k = i ∧ s'.place k = place) ∨ (k ≠ i ∧ s'.place k = s.place k) := by
  by_cases hk : k = i
  · subst hk
    exact .inl ⟨rfl, h.self⟩
  · exact .inr ⟨hk, h.other k hk⟩

theorem Moves.ne_start {i : ι} {place : SessionPlace} (h : s.Moves s' i place)
    (hplace : place ≠ .start) {k : ι} (hk : s.place k ≠ .start) : s'.place k ≠ .start := by
  rcases h.cases k with ⟨-, hp⟩ | ⟨-, hp⟩
  · rwa [hp]
  · rwa [hp]

theorem Drawn.moves {i : ι} {place : SessionPlace} {token : String} (hd : s.Drawn requests token)
    (h : s.Moves s' i place) (hplace : place ≠ .start) : s'.Drawn requests token := by
  obtain ⟨k, identity, hk, hstart⟩ := hd
  exact ⟨k, identity, hk, h.ne_start hplace hstart⟩

theorem Joined.moves {i k : ι} {place : SessionPlace} {token : String} {identity : SessionIdentity}
    (h : s.Joined requests k token identity) (hm : s.Moves s' i place)
    (hindexed : s.place i ≠ .indexed) (hreturned : s.place i ≠ .returned) :
    s'.Joined requests k token identity := by
  obtain ⟨hk, hplace⟩ := h
  rcases hm.cases k with ⟨rfl, -⟩ | ⟨-, hp⟩
  · exact absurd hplace (not_or.2 ⟨hindexed, hreturned⟩)
  · exact ⟨hk, hp.symm ▸ hplace⟩

/-- A command of a call that is no login. Sessions may go, and members of an index that have no
session; what the call itself knows afterwards is left to show. -/
theorem Good.keep (h : Good json secs requests s) {i : ι} {place : SessionPlace}
    (hi : ∀ token identity, requests i ≠ .openSession token identity) (hm : s.Moves s' i place)
    (hsessions : ∀ token e, s'.session token = some e → s.session token = some e)
    (hindexes : ∀ userId e, s'.index userId = some e → ∃ tokens tokens' deadline,
      s.index userId = some ⟨.members tokens, deadline⟩ ∧ e = ⟨.members tokens', deadline⟩ ∧
        tokens' ⊆ tokens)
    (hmember : ∀ k token identity, s.Joined requests k token identity →
      (s'.session token).isSome → ∀ tokens deadline,
        s.index identity.userId = some ⟨.members tokens, deadline⟩ → token ∈ tokens →
          ∃ tokens' deadline', s'.index identity.userId = some ⟨.members tokens', deadline'⟩ ∧
            token ∈ tokens')
    (hlisted : ∀ userId left, requests i = .removeUser userId → place = .listed left →
      ∀ k token identity, s.Joined requests k token identity → identity.userId = userId →
        (s'.session token).isSome → token ∈ left)
    (hfetched : ∀ token identity, requests i = .remove token → place = .fetched (some identity) →
      s.Drawn requests token)
    (hdeleted : ∀ token identity, requests i = .remove token → place = .deleted identity →
      s.Drawn requests token ∧ s'.session token = none) :
    Good json secs requests s' := by
  have hopens : ∀ k token identity, requests k = .openSession token identity →
      s'.place k = s.place k := by
    intro k token identity hk
    refine hm.other k ?_
    rintro rfl
    exact hi token identity hk
  have hjoined : ∀ {k token identity}, s'.Joined requests k token identity ↔
      s.Joined requests k token identity := by
    intro k token identity
    refine and_congr_right fun hk => ?_
    rw [hopens k token identity hk]
  have hdrawn : ∀ {token}, s.Drawn requests token → s'.Drawn requests token := by
    rintro token ⟨k, identity, hk, hplace⟩
    exact ⟨k, identity, hk, by rwa [hopens k token identity hk]⟩
  have hsome : ∀ {token}, (s'.session token).isSome → (s.session token).isSome := by
    intro token hlive
    obtain ⟨e, he⟩ := Option.isSome_iff_exists.1 hlive
    rw [hsessions token e he]
    rfl
  constructor
  case sessions =>
    intro token e he
    obtain ⟨k, identity, deadline, hk, hplace, hentry⟩ := h.sessions token e (hsessions token e he)
    rw [hm.now]
    exact ⟨k, identity, deadline, hk, by rwa [hopens k token identity hk], hentry⟩
  case indexes =>
    intro userId e he
    obtain ⟨tokens, tokens', deadline, hfind, rfl, hsub⟩ := hindexes userId e he
    obtain ⟨tokens₀, deadline₀, heq, hall⟩ := h.indexes userId _ hfind
    cases heq
    refine ⟨tokens', deadline, rfl, fun token hmem => ?_⟩
    obtain ⟨k, identity, hk, huser⟩ := hall token (hsub hmem)
    exact ⟨k, identity, hjoined.2 hk, huser⟩
  case member =>
    intro k token identity hk hlive
    obtain ⟨tokens, deadline, hfind, hmem⟩ := h.member k token identity (hjoined.1 hk) (hsome hlive)
    exact hmember k token identity (hjoined.1 hk) hlive tokens deadline hfind hmem
  case outlives =>
    intro k token identity hk hplace e he index hindex t hexpired
    obtain ⟨tokens, tokens', deadline, hfind, rfl, -⟩ := hindexes _ index hindex
    rw [hopens k token identity hk] at hplace
    exact h.outlives k token identity hk hplace e (hsessions token e he) _ hfind t hexpired
  case listed =>
    intro j userId left hj hplace k token identity hk huser hlive
    rcases hm.cases j with ⟨rfl, hp⟩ | ⟨-, hp⟩
    · exact hlisted userId left hj (hp.symm.trans hplace) k token identity (hjoined.1 hk) huser
        hlive
    · exact h.listed j userId left hj (hp.symm.trans hplace) k token identity (hjoined.1 hk) huser
        (hsome hlive)
  case fetched =>
    intro j token identity hj hplace
    rcases hm.cases j with ⟨rfl, hp⟩ | ⟨-, hp⟩
    · exact hdrawn (hfetched token identity hj (hp.symm.trans hplace))
    · exact hdrawn (h.fetched j token identity hj (hp.symm.trans hplace))
  case deleted =>
    intro j token identity hj hplace
    rcases hm.cases j with ⟨rfl, hp⟩ | ⟨-, hp⟩
    · obtain ⟨hd, hnone⟩ := hdeleted token identity hj (hp.symm.trans hplace)
      exact ⟨hdrawn hd, hnone⟩
    · obtain ⟨hd, hnone⟩ := h.deleted j token identity hj (hp.symm.trans hplace)
      refine ⟨hdrawn hd, ?_⟩
      by_contra hne
      obtain ⟨e, he⟩ := Option.ne_none_iff_exists'.1 hne
      rw [hsessions token e he] at hnone
      cases hnone

omit [DecidableEq ι] in
/-- An index that a command leaves alone is a set, with the members and the deadline it had. -/
theorem Good.index_kept (h : Good json secs requests s) {userId : Uuid}
    {e : KeySpace.Entry String String} (he : s.index userId = some e) : ∃ tokens tokens' deadline,
      s.index userId = some ⟨.members tokens, deadline⟩ ∧ e = ⟨.members tokens', deadline⟩ ∧
        tokens' ⊆ tokens := by
  obtain ⟨tokens, deadline, rfl, -⟩ := h.indexes userId e he
  exact ⟨tokens, tokens, deadline, he, rfl, fun _ hmem => hmem⟩

/-- A command that reads. -/
theorem Good.keep_place (h : Good json secs requests s) {i : ι} {place : SessionPlace}
    (hi : ∀ token identity, requests i ≠ .openSession token identity)
    (hlisted : ∀ userId left, requests i = .removeUser userId → place = .listed left →
      ∀ k token identity, s.Joined requests k token identity → identity.userId = userId →
        (s.session token).isSome → token ∈ left)
    (hfetched : ∀ token identity, requests i = .remove token → place = .fetched (some identity) →
      s.Drawn requests token)
    (hdeleted : ∀ token identity, requests i = .remove token → place ≠ .deleted identity) :
    Good json secs requests { s with place := Function.update s.place i place } := by
  exact h.keep hi (.update s i s.redis place) (fun token e he => he)
    (fun userId e he => h.index_kept he)
    (fun k token identity _ _ tokens deadline hfind hmem => ⟨tokens, deadline, hfind, hmem⟩)
    hlisted hfetched fun token identity hreq hplace => absurd hplace (hdeleted token identity hreq)

/-- The `DEL` of a session. -/
theorem Good.del_session (h : Good json secs requests s) {i : ι} {place : SessionPlace}
    {token : String} (hi : ∀ token identity, requests i ≠ .openSession token identity)
    (hlisted : ∀ userId left, requests i = .removeUser userId → place = .listed left →
      ∀ k token' identity, s.Joined requests k token' identity → identity.userId = userId →
        (s.session token').isSome → token' = token ∨ token' ∈ left)
    (hfetched : ∀ token identity, requests i = .remove token → place ≠ .fetched (some identity))
    (hdeleted : ∀ token' identity, requests i = .remove token' → place = .deleted identity →
      token' = token ∧ s.Drawn requests token) :
    Good json secs requests { s with
      redis := s.redis.del s.now (sessionKey token)
      place := Function.update s.place i place } := by
  have hself : (s.redis.del s.now (sessionKey token)).find s.now (sessionKey token) = none := by
    rw [KeySpace.del, KeySpace.find_update_self]
    rfl
  have hother : ∀ token', token' ≠ token →
      (s.redis.del s.now (sessionKey token)).find s.now (sessionKey token') = s.session token' :=
    fun token' hne => KeySpace.find_update_ne fun heq => hne (sessionKey_inj.1 heq)
  have hindex : ∀ userId,
      (s.redis.del s.now (sessionKey token)).find s.now (userSessionsKey userId) = s.index userId :=
    fun userId => KeySpace.find_update_ne (sessionKey_ne _ _).symm
  refine h.keep hi (.update ..) (fun token' e he => ?_)
    (fun userId e he => h.index_kept ((hindex userId).symm.trans he))
    (fun k token' identity _ _ tokens deadline hfind hmem =>
      ⟨tokens, deadline, (hindex _).trans hfind, hmem⟩)
    (fun userId left hreq hplace k token' identity hk huser hlive => ?_)
    (fun token' identity hreq hplace => absurd hplace (hfetched token' identity hreq))
    fun token' identity hreq hplace => ?_
  · by_cases hne : token' = token
    · subst hne
      cases hself.symm.trans he
    · exact (hother token' hne).symm.trans he
  · have hne : token' ≠ token := by
      rintro rfl
      rw [session, hself] at hlive
      cases hlive
    replace hlive : (s.session token').isSome := (hother token' hne) ▸ hlive
    exact (hlisted userId left hreq hplace k token' identity hk huser hlive).resolve_left hne
  · obtain ⟨rfl, hdrawn⟩ := hdeleted token' identity hreq hplace
    exact ⟨hdrawn, hself⟩

/-- The `SREM` of a token that has no session. -/
theorem Good.srem (h : Good json secs requests s) {i : ι} {token : String} {userId : Uuid}
    (hi : ∀ token identity, requests i ≠ .openSession token identity)
    (hnone : s.session token = none) :
    Good json secs requests { s with
      redis := s.redis.srem s.now (userSessionsKey userId) token
      place := Function.update s.place i .returned } := by
  have hsession : ∀ token', (s.redis.srem s.now (userSessionsKey userId) token).find s.now
      (sessionKey token') = s.session token' := fun token' =>
    KeySpace.find_update_ne (sessionKey_ne _ _)
  have hother : ∀ userId', userId' ≠ userId → (s.redis.srem s.now (userSessionsKey userId)
      token).find s.now (userSessionsKey userId') = s.index userId' := fun userId' hne =>
    KeySpace.find_update_ne fun heq => hne (userSessionsKey_inj.1 heq)
  refine h.keep hi (.update ..) (fun token' e he => (hsession token').symm.trans he)
    (fun userId' e he => ?_)
    (fun k token' identity hk hlive tokens deadline hfind hmem => ?_)
    (fun _ _ _ hplace => nomatch hplace) (fun _ _ _ hplace => nomatch hplace)
    fun _ _ _ hplace => nomatch hplace
  · by_cases huser : userId' = userId
    · subst huser
      rcases KeySpace.of_find_srem he with he | ⟨tokens, deadline, hfind, rfl⟩
      · exact h.index_kept he
      · exact ⟨tokens, _, deadline, hfind, rfl, List.filter_subset_self _⟩
    · exact h.index_kept ((hother userId' huser).symm.trans he)
  · by_cases huser : identity.userId = userId
    · have hne : token' ≠ token := by
        rintro rfl
        replace hlive : (s.session token').isSome := (hsession token') ▸ hlive
        rw [hnone] at hlive
        cases hlive
      subst huser
      exact ⟨_, deadline, KeySpace.find_srem hfind hmem hne,
        List.mem_filter.2 ⟨hmem, decide_eq_true hne⟩⟩
    · exact ⟨tokens, deadline, (hother _ huser).trans hfind, hmem⟩

/-- The `DEL` of an index none of whose members has a session. -/
theorem Good.del_index (h : Good json secs requests s) {i : ι} {userId : Uuid}
    (hi : ∀ token identity, requests i ≠ .openSession token identity)
    (hgone : ∀ k token identity, s.Joined requests k token identity → identity.userId = userId →
      ¬ (s.session token).isSome) :
    Good json secs requests { s with
      redis := s.redis.del s.now (userSessionsKey userId)
      place := Function.update s.place i .returned } := by
  have hsession : ∀ token', (s.redis.del s.now (userSessionsKey userId)).find s.now
      (sessionKey token') = s.session token' := fun token' =>
    KeySpace.find_update_ne (sessionKey_ne _ _)
  have hother : ∀ userId', userId' ≠ userId → (s.redis.del s.now (userSessionsKey userId)).find
      s.now (userSessionsKey userId') = s.index userId' := fun userId' hne =>
    KeySpace.find_update_ne fun heq => hne (userSessionsKey_inj.1 heq)
  refine h.keep hi (.update ..) (fun token' e he => (hsession token').symm.trans he)
    (fun userId' e he => ?_)
    (fun k token' identity hk hlive tokens deadline hfind hmem => ?_)
    (fun _ _ _ hplace => nomatch hplace) (fun _ _ _ hplace => nomatch hplace)
    fun _ _ _ hplace => nomatch hplace
  · by_cases huser : userId' = userId
    · subst huser
      rw [index, KeySpace.del, KeySpace.find_update_self] at he
      cases he
    · exact h.index_kept ((hother userId' huser).symm.trans he)
  · have huser : identity.userId ≠ userId := fun heq =>
      hgone k token' identity hk heq ((hsession token') ▸ hlive)
    exact ⟨tokens, deadline, (hother _ huser).trans hfind, hmem⟩

/-! ## Logins -/

/-- A session that a login leaves alone. -/
theorem Good.sessions_kept (h : Good json secs requests s) {i : ι} {place : SessionPlace}
    (hm : s.Moves s' i place) (hplace : place ≠ .start) {token : String}
    {e : KeySpace.Entry String String} (he : s.session token = some e) : ∃ k identity deadline,
      requests k = .openSession token identity ∧ s'.place k ≠ .start ∧
        e = ⟨.text (json.toString identity), some deadline⟩ ∧ deadline ≤ s'.now + 1000 * secs := by
  obtain ⟨k, identity, deadline, hk, hstart, hentry⟩ := h.sessions token e he
  rw [hm.now]
  exact ⟨k, identity, deadline, hk, hm.ne_start hplace hstart, hentry⟩

/-- A `remove` of another call knows what it has fetched. -/
theorem Good.fetched_kept (h : Good json secs requests s) {i : ι} {place : SessionPlace}
    (hm : s.Moves s' i place) (hstart : place ≠ .start)
    (hfetched : ∀ identity, place ≠ .fetched identity) {j : ι} {token : String}
    {identity : SessionIdentity} (hj : requests j = .remove token)
    (hplace : s'.place j = .fetched (some identity)) : s'.Drawn requests token := by
  rcases hm.cases j with ⟨-, hp⟩ | ⟨-, hp⟩
  · exact absurd (hp.symm.trans hplace) (hfetched _)
  · exact (h.fetched j token identity hj (hp.symm.trans hplace)).moves hm hstart

/-- What a `remove` of another call has deleted was gone. -/
theorem Good.deleted_kept (h : Good json secs requests s) {i : ι} {place : SessionPlace}
    (hm : s.Moves s' i place) (hdeleted : ∀ identity, place ≠ .deleted identity) {j : ι}
    {token : String} {identity : SessionIdentity} (hj : requests j = .remove token)
    (hplace : s'.place j = .deleted identity) :
    s.Drawn requests token ∧ s.session token = none := by
  rcases hm.cases j with ⟨-, hp⟩ | ⟨-, hp⟩
  · exact absurd (hp.symm.trans hplace) (hdeleted _)
  · exact h.deleted j token identity hj (hp.symm.trans hplace)

/-- The `SET` of a login. -/
theorem Good.store (h : Good json secs requests s) (hfresh : Fresh requests) {i : ι}
    {token : String} {identity : SessionIdentity} (hi : requests i = .openSession token identity)
    (hstart : s.place i = .start) (hm : s.Moves s' i .stored)
    (hself : s'.session token =
      some ⟨.text (json.toString identity), some (s.now + 1000 * secs)⟩)
    (hother : ∀ token', token' ≠ token → s'.session token' = s.session token')
    (hindex : ∀ userId, s'.index userId = s.index userId) : Good json secs requests s' := by
  -- a login that has joined its index is another one, and so is its token
  have hjoined : ∀ {k token' identity'}, s'.Joined requests k token' identity' →
      token' ≠ token ∧ s.Joined requests k token' identity' := by
    rintro k token' identity' ⟨hk, hplace⟩
    rcases hm.cases k with ⟨rfl, hp⟩ | ⟨hne, hp⟩
    · rw [hp] at hplace
      simp at hplace
    · rw [hp] at hplace
      refine ⟨?_, hk, hplace⟩
      rintro rfl
      exact hne (hfresh k i _ _ _ hk hi)
  have hback : ∀ {k token' identity'}, s.Joined requests k token' identity' →
      s'.Joined requests k token' identity' := fun hk =>
    hk.moves hm (by simp [hstart]) (by simp [hstart])
  constructor
  case sessions =>
    intro token' e he
    by_cases hne : token' = token
    · subst hne
      rw [hself] at he
      cases he
      exact ⟨i, identity, _, hi, by simp [hm.self], rfl, by rw [hm.now]⟩
    · exact h.sessions_kept hm nofun ((hother token' hne).symm.trans he)
  case indexes =>
    intro userId e he
    rw [hindex] at he
    obtain ⟨tokens, deadline, rfl, hall⟩ := h.indexes userId e he
    refine ⟨tokens, deadline, rfl, fun token' hmem => ?_⟩
    obtain ⟨k, identity', hk, huser⟩ := hall token' hmem
    exact ⟨k, identity', hback hk, huser⟩
  case member =>
    intro k token' identity' hk hlive
    obtain ⟨hne, hk⟩ := hjoined hk
    rw [hother token' hne] at hlive
    rw [hindex]
    exact h.member k token' identity' hk hlive
  case outlives =>
    intro k token' identity' hk hplace e he index hfound
    obtain ⟨hne, -, -⟩ := hjoined ⟨hk, .inr hplace⟩
    rw [hother token' hne] at he
    rw [hindex] at hfound
    rcases hm.cases k with ⟨-, hp⟩ | ⟨-, hp⟩
    · cases hp.symm.trans hplace
    · exact h.outlives k token' identity' hk (hp.symm.trans hplace) e he index hfound
  case listed =>
    intro j userId left hj hplace k token' identity' hk huser hlive
    obtain ⟨hne, hk⟩ := hjoined hk
    rw [hother token' hne] at hlive
    rcases hm.cases j with ⟨-, hp⟩ | ⟨-, hp⟩
    · cases hp.symm.trans hplace
    · exact h.listed j userId left hj (hp.symm.trans hplace) k token' identity' hk huser hlive
  case fetched => exact fun j token' identity' => h.fetched_kept hm nofun nofun
  case deleted =>
    intro j token' identity' hj hplace
    obtain ⟨hdrawn, hnone⟩ := h.deleted_kept hm nofun hj hplace
    refine ⟨hdrawn.moves hm nofun, ?_⟩
    have hne : token' ≠ token := by
      rintro rfl
      obtain ⟨k, identity'', hk, hp⟩ := hdrawn
      exact hp (hfresh k i _ _ _ hk hi ▸ hstart)
    rw [hother token' hne, hnone]

/-- The `SADD` of a login. -/
theorem Good.join (h : Good json secs requests s) {i : ι} {token : String}
    {identity : SessionIdentity} (hi : requests i = .openSession token identity)
    (hstored : s.place i = .stored) (hm : s.Moves s' i .indexed)
    (hsession : ∀ token', s'.session token' = s.session token')
    (hself : ∃ tokens, s'.index identity.userId =
        some ⟨.members tokens, (s.index identity.userId).bind KeySpace.Entry.deadline⟩ ∧
      ∀ token', token' ∈ tokens ↔ token' = token ∨ ∃ old deadline,
        s.index identity.userId = some ⟨.members old, deadline⟩ ∧ token' ∈ old)
    (hother : ∀ userId, userId ≠ identity.userId → s'.index userId = s.index userId)
    (hapart : (s.session token).isSome →
      ∀ j left, requests j = .removeUser identity.userId → s.place j ≠ .listed left) :
    Good json secs requests s' := by
  obtain ⟨tokens, hindex, hmem⟩ := hself
  have hjoined : ∀ {k token' identity'}, s'.Joined requests k token' identity' →
      (token' = token ∧ identity' = identity) ∨ s.Joined requests k token' identity' := by
    rintro k token' identity' ⟨hk, hplace⟩
    rcases hm.cases k with ⟨rfl, -⟩ | ⟨-, hp⟩
    · rw [hi] at hk
      cases hk
      exact .inl ⟨rfl, rfl⟩
    · exact .inr ⟨hk, hp ▸ hplace⟩
  have hback : ∀ {k token' identity'}, s.Joined requests k token' identity' →
      s'.Joined requests k token' identity' := fun hk =>
    hk.moves hm (by simp [hstored]) (by simp [hstored])
  constructor
  case sessions =>
    intro token' e he
    exact h.sessions_kept hm nofun ((hsession token').symm.trans he)
  case indexes =>
    intro userId e he
    by_cases huser : userId = identity.userId
    · subst huser
      rw [hindex] at he
      cases he
      refine ⟨tokens, _, rfl, fun token' hin => ?_⟩
      rcases (hmem token').1 hin with rfl | ⟨old, deadline, hfind, hin⟩
      · exact ⟨i, identity, ⟨hi, .inl hm.self⟩, rfl⟩
      · obtain ⟨old', deadline', heq, hall⟩ := h.indexes _ _ hfind
        cases heq
        obtain ⟨k, identity', hk, huser⟩ := hall token' hin
        exact ⟨k, identity', hback hk, huser⟩
    · rw [hother userId huser] at he
      obtain ⟨old, deadline, rfl, hall⟩ := h.indexes userId e he
      refine ⟨old, deadline, rfl, fun token' hin => ?_⟩
      obtain ⟨k, identity', hk, huser'⟩ := hall token' hin
      exact ⟨k, identity', hback hk, huser'⟩
  case member =>
    intro k token' identity' hk hlive
    rcases hjoined hk with ⟨rfl, rfl⟩ | hk
    · exact ⟨tokens, _, hindex, (hmem token').2 (.inl rfl)⟩
    · rw [hsession] at hlive
      obtain ⟨old, deadline, hfind, hin⟩ := h.member k token' identity' hk hlive
      by_cases huser : identity'.userId = identity.userId
      · rw [huser] at hfind ⊢
        exact ⟨tokens, _, hindex, (hmem token').2 (.inr ⟨old, deadline, hfind, hin⟩)⟩
      · exact ⟨old, deadline, (hother _ huser).trans hfind, hin⟩
  case outlives =>
    intro k token' identity' hk hplace e he index hfound t hexpired
    rw [hsession] at he
    rcases hm.cases k with ⟨-, hp⟩ | ⟨-, hp⟩
    · cases hp.symm.trans hplace
    rw [hp] at hplace
    by_cases huser : identity'.userId = identity.userId
    · rw [huser, hindex] at hfound
      cases hfound
      cases hold : s.index identity.userId with
      | none =>
        -- a new set does not expire
        rw [hold] at hexpired
        cases hexpired
      | some old =>
        rw [hold] at hexpired
        exact h.outlives k token' identity' hk hplace e he old (huser ▸ hold) t hexpired
    · rw [hother _ huser] at hfound
      exact h.outlives k token' identity' hk hplace e he index hfound t hexpired
  case listed =>
    intro j userId left hj hplace k token' identity' hk huser hlive
    rw [hsession] at hlive
    rcases hm.cases j with ⟨-, hp⟩ | ⟨-, hp⟩
    · cases hp.symm.trans hplace
    rw [hp] at hplace
    rcases hjoined hk with ⟨rfl, rfl⟩ | hk
    · subst huser
      exact absurd hplace (hapart hlive j left hj)
    · exact h.listed j userId left hj hplace k token' identity' hk huser hlive
  case fetched => exact fun j token' identity' => h.fetched_kept hm nofun nofun
  case deleted =>
    intro j token' identity' hj hplace
    obtain ⟨hdrawn, hnone⟩ := h.deleted_kept hm nofun hj hplace
    exact ⟨hdrawn.moves hm nofun, (hsession token').trans hnone⟩

/-- The `EXPIRE` of a login: the index outlives what has been stored until now. -/
theorem Good.extend (h : Good json secs requests s) {i : ι} {token : String}
    {identity : SessionIdentity} (hi : requests i = .openSession token identity)
    (hindexed : s.place i = .indexed) (hm : s.Moves s' i .returned)
    (hsession : ∀ token', s'.session token' = s.session token')
    (hself : s'.index identity.userId = (s.index identity.userId).map fun e =>
      { e with deadline := some (s.now + 1000 * secs) })
    (hother : ∀ userId, userId ≠ identity.userId → s'.index userId = s.index userId) :
    Good json secs requests s' := by
  have hjoined : ∀ {k token' identity'}, s'.Joined requests k token' identity' ↔
      s.Joined requests k token' identity' := by
    intro k token' identity'
    refine and_congr_right fun hk => ?_
    rcases hm.cases k with ⟨rfl, hp⟩ | ⟨-, hp⟩
    · simp [hp, hindexed]
    · rw [hp]
  -- an index keeps its members
  have hmembers : ∀ {userId tokens deadline}, s.index userId = some ⟨.members tokens, deadline⟩ →
      ∃ deadline', s'.index userId = some ⟨.members tokens, deadline'⟩ := by
    intro userId tokens deadline hfind
    by_cases huser : userId = identity.userId
    · subst huser
      rw [hself, hfind]
      exact ⟨_, rfl⟩
    · exact ⟨deadline, (hother userId huser).trans hfind⟩
  constructor
  case sessions =>
    intro token' e he
    exact h.sessions_kept hm nofun ((hsession token').symm.trans he)
  case indexes =>
    intro userId e he
    have hold : ∃ e', s.index userId = some e' ∧ e'.value = e.value := by
      by_cases huser : userId = identity.userId
      · subst huser
        rw [hself, Option.map_eq_some_iff] at he
        obtain ⟨e', he', rfl⟩ := he
        exact ⟨e', he', rfl⟩
      · rw [hother userId huser] at he
        exact ⟨e, he, rfl⟩
    obtain ⟨e', he', hvalue⟩ := hold
    obtain ⟨tokens, deadline, rfl, hall⟩ := h.indexes userId e' he'
    obtain ⟨value, deadline'⟩ := e
    cases hvalue
    refine ⟨tokens, deadline', rfl, fun token' hin => ?_⟩
    obtain ⟨k, identity', hk, huser⟩ := hall token' hin
    exact ⟨k, identity', hjoined.2 hk, huser⟩
  case member =>
    intro k token' identity' hk hlive
    rw [hsession] at hlive
    obtain ⟨tokens, deadline, hfind, hin⟩ := h.member k token' identity' (hjoined.1 hk) hlive
    obtain ⟨deadline', hfind'⟩ := hmembers hfind
    exact ⟨tokens, deadline', hfind', hin⟩
  case outlives =>
    intro k token' identity' hk hplace e he index hfound t hexpired
    rw [hsession] at he
    by_cases huser : identity'.userId = identity.userId
    · rw [huser, hself, Option.map_eq_some_iff] at hfound
      obtain ⟨old, -, rfl⟩ := hfound
      obtain ⟨_, _, deadline, -, -, rfl, hdeadline⟩ := h.sessions token' e he
      rw [KeySpace.Entry.live_some, decide_eq_false_iff_not] at hexpired ⊢
      omega
    · rcases hm.cases k with ⟨rfl, -⟩ | ⟨-, hp⟩
      · rw [hi] at hk
        cases hk
        exact absurd rfl huser
      · rw [hother _ huser] at hfound
        exact h.outlives k token' identity' hk (hp.symm.trans hplace) e he index hfound t hexpired
  case listed =>
    intro j userId left hj hplace k token' identity' hk huser hlive
    rw [hsession] at hlive
    rcases hm.cases j with ⟨-, hp⟩ | ⟨-, hp⟩
    · cases hp.symm.trans hplace
    · exact h.listed j userId left hj (hp.symm.trans hplace) k token' identity' (hjoined.1 hk) huser
        hlive
  case fetched => exact fun j token' identity' => h.fetched_kept hm nofun nofun
  case deleted =>
    intro j token' identity' hj hplace
    obtain ⟨hdrawn, hnone⟩ := h.deleted_kept hm nofun hj hplace
    exact ⟨hdrawn.moves hm nofun, (hsession token').trans hnone⟩

/-! ## Steps -/

theorem step_command {ttl : Nat} {i : ι} (h : s.step json ttl requests (.command i) = some s') :
    ∃ redis place, sessionCommand json ttl s.now s.redis (requests i) (s.place i) =
      some (redis, place) ∧
        s' = { s with redis := redis, place := Function.update s.place i place } := by
  simp only [step] at h
  split at h
  · rename_i redis place hcommand
    cases h
    exact ⟨redis, place, hcommand, rfl⟩
  · cases h

theorem setEx_self {redis : Redis} {now : Nat} {key text : String} (hsecs : 0 < secs) :
    (redis.setEx now key text secs).find now key =
      some ⟨.text text, some (now + 1000 * secs)⟩ := by
  rw [KeySpace.setEx, KeySpace.find_update_self, if_neg (Nat.pos_iff_ne_zero.1 hsecs)]
  refine if_pos ?_
  show decide (now < now + 1000 * secs) = true
  rw [decide_eq_true_iff]
  omega

theorem expire_self {redis : Redis} {now : Nat} {key : String} (hsecs : 0 < secs) :
    (redis.expire now key secs).find now key =
      (redis.find now key).map fun e => { e with deadline := some (now + 1000 * secs) } := by
  rw [KeySpace.expire, KeySpace.find_update_self]
  cases redis.find now key with
  | none => rfl
  | some e =>
    refine if_pos ?_
    show decide (now < now + 1000 * secs) = true
    rw [decide_eq_true_iff]
    omega

/-- One command. -/
theorem Good.command (h : Good json secs requests s) (hfresh : Fresh requests) (hsecs : 0 < secs)
    {i : ι} (hapart : s.Apart requests (.command i))
    (hs : s.step json (1000 * secs) requests (.command i) = some s') :
    Good json secs requests s' := by
  obtain ⟨redis, place, hcommand, rfl⟩ := step_command hs
  have hasSecs : asSecs (1000 * secs) = secs := Nat.mul_div_cancel_left secs (by decide)
  have hkey : ∀ {token token' : String}, token' ≠ token → sessionKey token' ≠ sessionKey token :=
    fun hne heq => hne (sessionKey_inj.1 heq)
  have hindexKey : ∀ {userId userId' : Uuid}, userId' ≠ userId →
      userSessionsKey userId' ≠ userSessionsKey userId :=
    fun hne heq => hne (userSessionsKey_inj.1 heq)
  unfold sessionCommand at hcommand
  rw [hasSecs] at hcommand
  split at hcommand
  · rename_i token identity hreq hplace
    cases hcommand
    exact h.store hfresh hreq hplace (.update ..) (setEx_self hsecs)
      (fun token' hne => KeySpace.find_update_ne (hkey hne))
      fun userId => KeySpace.find_update_ne (sessionKey_ne _ _).symm
  · rename_i token identity hreq hplace
    cases hcommand
    obtain ⟨tokens, hfind, hmem⟩ := @KeySpace.find_sadd _ _ _ _ s.redis s.now
      (userSessionsKey identity.userId) _ token fun e he => by
        obtain ⟨tokens, deadline, rfl, -⟩ := h.indexes _ e he
        exact ⟨tokens, deadline, rfl⟩
    exact h.join hreq hplace (.update ..)
      (fun token' => KeySpace.find_update_ne (sessionKey_ne _ _))
      ⟨tokens, hfind, fun token' => (hmem token').trans (or_congr_right KeySpace.mem_smembers)⟩
      (fun userId hne => KeySpace.find_update_ne (hindexKey hne))
      (hapart token identity hreq hplace)
  · rename_i token identity hreq hplace
    cases hcommand
    exact h.extend hreq hplace (.update ..)
      (fun token' => KeySpace.find_update_ne (sessionKey_ne _ _)) (expire_self hsecs)
      fun userId hne => KeySpace.find_update_ne (hindexKey hne)
  · rename_i token hreq hplace
    cases hcommand
    refine h.keep_place ?_ ?_ ?_ ?_ <;> simp [hreq]
  · rename_i token hreq hplace
    cases hcommand
    refine h.keep_place (by simp [hreq]) (by simp [hreq]) (fun token' identity hreq' hfetched => ?_)
      (by simp [hreq])
    rw [hreq] at hreq'
    cases hreq'
    -- what was fetched is stored, so its login has begun
    have hget : (s.redis.get s.now (sessionKey token)).isSome := by
      cases hget : s.redis.get s.now (sessionKey token) with
      | none => simp [hget] at hfetched
      | some text => rfl
    unfold KeySpace.get at hget
    split at hget
    · rename_i text deadline hfind
      obtain ⟨k, identity', -, hk, hstart, -⟩ := h.sessions token _ hfind
      exact ⟨k, identity', hk, hstart⟩
    · cases hget
  · rename_i token identity hreq hplace
    cases hcommand
    refine h.del_session (by simp [hreq]) (by simp [hreq]) (fun _ _ _ => ?_)
      fun token' identity' hreq' hdeleted => ?_
    · cases identity <;> simp
    · rw [hreq] at hreq'
      cases hreq'
      cases identity with
      | none => simp at hdeleted
      | some identity => exact ⟨rfl, h.fetched i token identity hreq hplace⟩
  · rename_i token identity hreq hplace
    cases hcommand
    exact h.srem (by simp [hreq]) (h.deleted i token identity hreq hplace).2
  · rename_i userId token left hreq hplace
    cases hcommand
    refine h.del_session (by simp [hreq]) (fun userId' left' hreq' hleft k token' identity hk huser
      hlive => ?_) (by simp [hreq]) (by simp [hreq])
    rw [hreq] at hreq'
    cases hreq'
    cases hleft
    exact List.mem_cons.1 (h.listed i userId _ hreq hplace k token' identity hk huser hlive)
  · rename_i userId hreq hplace
    cases hcommand
    exact h.del_index (by simp [hreq]) fun k token identity hk huser hlive =>
      absurd (h.listed i userId [] hreq hplace k token identity hk huser hlive) List.not_mem_nil
  · cases hcommand

/-- The `SMEMBERS` of a `remove_user`. -/
theorem Good.list (h : Good json secs requests s) {i : ι} {tokens : List String}
    (hs : s.step json (1000 * secs) requests (.list i tokens) = some s') :
    Good json secs requests s' := by
  simp only [step] at hs
  split at hs
  · rename_i userId hreq hplace
    split at hs
    · rename_i hperm
      cases hs
      refine h.keep_place (by simp [hreq]) (fun userId' left hreq' hleft k token identity hk huser
        hlive => ?_) (by simp [hreq]) (by simp [hreq])
      rw [hreq] at hreq'
      cases hreq'
      cases hleft
      obtain ⟨members, deadline, hfind, hmem⟩ := h.member k token identity hk hlive
      rw [hperm.mem_iff, KeySpace.mem_smembers]
      exact ⟨members, deadline, huser ▸ hfind, hmem⟩
    · cases hs
  · cases hs

/-- One step that keeps apart what must not cross. -/
theorem Good.step (h : Good json secs requests s) (hfresh : Fresh requests) (hsecs : 0 < secs)
    {l : RaceStep ι} (hapart : s.Apart requests l)
    (hs : s.step json (1000 * secs) requests l = some s') : Good json secs requests s' := by
  cases l with
  | tick elapsed =>
    cases hs
    exact h.tick hapart
  | command i => exact h.command hfresh hsecs hapart hs
  | list i tokens => exact h.list hs

/-! ## Calls by themselves -/

/-- The commands of a `remove_user` that has listed the index. -/
theorem exec_sweep {ttl : Nat} {i : ι} {userId : Uuid} {left : List String} {redis : Redis}
    {now : Nat} {place : ι → SessionPlace} (hreq : requests i = .removeUser userId)
    (hplace : place i = .listed left) :
    Lts.exec (step json ttl requests) ⟨redis, now, place⟩
        (List.replicate (left.length + 1) (.command i)) =
      some ⟨(left.foldl (fun redis token => redis.del now (sessionKey token)) redis).del now
        (userSessionsKey userId), now, Function.update place i .returned⟩ := by
  induction left generalizing redis place with
  | nil =>
    have hstep : step json ttl requests ⟨redis, now, place⟩ (.command i) =
        some ⟨redis.del now (userSessionsKey userId), now, Function.update place i .returned⟩ := by
      simp only [step, hreq, hplace, sessionCommand]
    rw [List.length_nil, List.replicate_succ, Lts.exec, List.foldlM_cons, hstep]
    rfl
  | cons token left ih =>
    have hstep : step json ttl requests ⟨redis, now, place⟩ (.command i) =
        some ⟨redis.del now (sessionKey token), now, Function.update place i (.listed left)⟩ := by
      simp only [step, hreq, hplace, sessionCommand]
    rw [List.length_cons, List.replicate_succ, Lts.exec, List.foldlM_cons, hstep]
    have hrest := @ih (redis.del now (sessionKey token)) (Function.update place i (.listed left))
      (Function.update_self ..)
    rw [Function.update_idem] at hrest
    exact hrest

/-- **A call that runs by itself** does what the store function does. -/
theorem call_alone {ttl : Nat} (i : ι) (redis : Redis) (now lockout : Nat)
    {place : ι → SessionPlace} (hstart : place i = .start) :
    ∃ tr, Lts.exec (step json ttl requests) ⟨redis, now, place⟩ tr =
      some ⟨(RedisSessionStore.callSession json ttl ⟨redis, lockout⟩ ⟨now, requests i⟩).2.redis,
        now, Function.update place i .returned⟩ := by
  cases hreq : requests i with
  | openSession token identity =>
    refine ⟨[.command i, .command i, .command i], ?_⟩
    simp [Lts.exec, step, hreq, hstart, sessionCommand, RedisSessionStore.callSession,
      RedisSessionStore.openSession]
  | get token =>
    refine ⟨[.command i], ?_⟩
    simp [Lts.exec, step, hreq, hstart, sessionCommand, RedisSessionStore.callSession]
  | remove token =>
    cases hget : RedisSessionStore.get json ⟨redis, lockout⟩ token now with
    | none =>
      have hget' := hget
      rw [RedisSessionStore.get] at hget'
      refine ⟨[.command i, .command i], ?_⟩
      simp [Lts.exec, step, hreq, hstart, sessionCommand, RedisSessionStore.callSession,
        RedisSessionStore.remove, hget, hget']
    | some identity =>
      have hget' := hget
      rw [RedisSessionStore.get] at hget'
      refine ⟨[.command i, .command i, .command i], ?_⟩
      simp [Lts.exec, step, hreq, hstart, sessionCommand, RedisSessionStore.callSession,
        RedisSessionStore.remove, hget, hget']
  | removeUser userId =>
    refine ⟨.list i (redis.smembers now (userSessionsKey userId)) :: List.replicate
      ((redis.smembers now (userSessionsKey userId)).length + 1) (.command i), ?_⟩
    have hstep : step json ttl requests ⟨redis, now, place⟩
        (.list i (redis.smembers now (userSessionsKey userId))) =
          some ⟨redis, now, Function.update place i
            (.listed (redis.smembers now (userSessionsKey userId)))⟩ := by
      simp only [step, hreq, hstart]
      exact if_pos (List.Perm.refl _)
    rw [Lts.exec, List.foldlM_cons, hstep]
    have hsweep := @exec_sweep ι _ json requests ttl i userId
      (redis.smembers now (userSessionsKey userId)) redis now _ hreq
      (Function.update_self i (.listed (redis.smembers now (userSessionsKey userId))) place)
    rw [Function.update_idem] at hsweep
    exact hsweep

end SessionRace

open SessionRace

section
variable {ι : Type} [DecidableEq ι] {json : SessionJson} {secs : Nat} {requests : ι → SessionOp}
  {s : SessionRace ι} {tr : List (RaceStep ι)}

/-- The sessions that a `remove_user` by itself leaves. -/
theorem RedisSessionStore.get_removeUser {redis : Redis} {lockout now later : Nat} {userId : Uuid}
    {token : String}
    (h : redis.find now (sessionKey token) = none ∨
      token ∈ redis.smembers now (userSessionsKey userId)) (hle : now ≤ later) :
    (RedisSessionStore.removeUser ⟨redis, lockout⟩ userId now).get json token later = none := by
  have hgone : (RedisSessionStore.removeUser ⟨redis, lockout⟩ userId now).redis.find later
      (sessionKey token) = none := by
    rw [RedisSessionStore.removeUser, KeySpace.del, KeySpace.find_update_ne (sessionKey_ne _ _),
      KeySpace.find_del_all]
    rcases h with hnone | hmem
    · rw [KeySpace.find_later hle, hnone, Option.filter_none, ite_self]
    · exact if_pos (List.mem_map_of_mem hmem)
  rw [RedisSessionStore.get, KeySpace.get, hgone]
  rfl

/-- **No session drops out of the index.** In every run of concurrent calls whose steps keep apart
what must not cross, when no call is in progress every live session of a user is in the user's
index, which does not expire before it; and a later `remove_user` deletes it. -/
theorem sessions_stay_indexed
    (hjson : ∀ i token identity, requests i = .openSession token identity →
      json.fromStr (json.toString identity) = some identity)
    (hfresh : Fresh requests) (hsecs : 0 < secs)
    (h : Lts.Run (SessionRace.step json (1000 * secs) requests) (Apart requests) .init tr s)
    (hquiet : s.Quiet) (lockout : Nat) (token : String) (identity : SessionIdentity)
    (hlive : RedisSessionStore.get json ⟨s.redis, lockout⟩ token s.now = some identity) :
    s.Indexed token identity.userId ∧
      ∀ now later, s.now ≤ now → now ≤ later →
        (RedisSessionStore.removeUser ⟨s.redis, lockout⟩ identity.userId now).get json token later =
          none := by
  have hgood : Good json secs requests s :=
    h.inv good_init fun _ _ _ hu hapart hs => hu.step hfresh hsecs hapart hs
  rw [RedisSessionStore.get, Option.bind_eq_some_iff] at hlive
  obtain ⟨text, hget, hdecode⟩ := hlive
  unfold KeySpace.get at hget
  split at hget
  · rename_i text' deadline' hfind
    cases hget
    have hsession : s.session token = some ⟨.text text, deadline'⟩ := hfind
    obtain ⟨i, identity', expiry, hi, hstart, hentry, -⟩ := hgood.sessions token _ hsession
    cases hentry
    rw [hjson i token identity' hi] at hdecode
    cases hdecode
    have hreturned := (hquiet i).resolve_left hstart
    obtain ⟨tokens, deadline, hindex, hmem⟩ :=
      hgood.member i token identity ⟨hi, .inr hreturned⟩ (hsession ▸ rfl)
    have houtlives := hgood.outlives i token identity hi hreturned _ hsession _ hindex
    refine ⟨⟨_, _, tokens, hsession, hindex, rfl, hmem, fun t ht => ?_⟩,
      fun now later hnow hlater => ?_⟩
    · by_contra hexpired
      rw [houtlives t (Bool.eq_false_iff.2 hexpired)] at ht
      cases ht
    refine RedisSessionStore.get_removeUser ?_ hlater
    -- the session has expired by then, or is still in the index
    rw [KeySpace.find_later hnow, KeySpace.mem_smembers, KeySpace.find_later hnow]
    change (s.session token).filter _ = none ∨
      ∃ l deadline, (s.index identity.userId).filter _ = some ⟨.members l, deadline⟩ ∧ token ∈ l
    rw [hsession, hindex, Option.filter_some, Option.filter_some]
    cases halive : (⟨.members tokens, deadline⟩ : KeySpace.Entry String String).live now with
    | false =>
      rw [houtlives now halive]
      exact .inl rfl
    | true => exact .inr ⟨tokens, deadline, if_pos rfl, hmem⟩
  · cases hget

end

/-! ## Runs -/

/-- Two logins of one user, and a `remove_user` of the user. -/
def bobRequests : Fin 3 → SessionOp
  | 0 => .openSession "a" bob
  | 1 => .openSession "b" bob
  | 2 => .removeUser 2

theorem bobRequests_fresh : Fresh bobRequests := by
  intro i j token identity identity' hi hj
  fin_cases i <;> cases hi <;> fin_cases j <;> simp [bobRequests] at hj ⊢

theorem bobRequests_json (i : Fin 3) (token : String) (identity : SessionIdentity)
    (hi : bobRequests i = .openSession token identity) :
    bobJson.fromStr (bobJson.toString identity) = some identity := by
  have hbob : identity = bob := by fin_cases i <;> cases hi <;> rfl
  subst hbob
  decide

/-- The commands of the two logins and of the `remove_user`, which cross: it lists the index before
the first login has come to its `EXPIRE`, and the second login, whose session is stored by then,
adds its token after the `DEL` of the index. -/
def crossed : List (RaceStep (Fin 3)) :=
  [.command 0, .command 1, .tick 1000, .command 0, .list 2 ["a"], .command 0, .command 2,
    .tick 1000, .command 2, .command 1, .tick 1000, .command 1]

/-- The first session is gone and the second one is in the index. -/
theorem sessions_stay_indexed_sample : ∃ s : SessionRace (Fin 3),
    Lts.Run (SessionRace.step bobJson 60000 bobRequests) (Apart bobRequests) .init crossed s ∧
      s.Quiet ∧ RedisSessionStore.get bobJson ⟨s.redis, 0⟩ "a" s.now = none ∧
      RedisSessionStore.get bobJson ⟨s.redis, 0⟩ "b" s.now = some bob ∧ s.Indexed "b" 2 := by
  have hex : (Lts.exec (Lts.guarded (SessionRace.step bobJson 60000 bobRequests)
      (Apart bobRequests)) .init crossed).any (fun s => s.Quiet ∧
        RedisSessionStore.get bobJson ⟨s.redis, 0⟩ "a" s.now = none ∧
        RedisSessionStore.get bobJson ⟨s.redis, 0⟩ "b" s.now = some bob) = true := by
    decide +kernel
  obtain ⟨s, hs, hend⟩ := (Option.any_eq_true _ _).1 hex
  obtain ⟨hquiet, hgone, hget⟩ := of_decide_eq_true hend
  have hrun := Lts.run_of_guarded hs
  exact ⟨s, hrun, hquiet, hgone, hget, (sessions_stay_indexed bobRequests_json bobRequests_fresh
    (by decide : 0 < 60) hrun hquiet 0 "b" bob hget).1⟩

/-- **A login crosses a `remove_user`.** The login's commands come between the `SMEMBERS` and the
`DEL` of the index: the session lives on outside the index, and a later `remove_user` misses it. -/
theorem login_crosses_sweep : ∃ s : SessionRace (Fin 3),
    Lts.Steps (SessionRace.step bobJson 60000 bobRequests) .init
        [.list 2 [], .command 0, .command 0, .command 0, .command 2] s ∧
      s.Quiet ∧ RedisSessionStore.get bobJson ⟨s.redis, 0⟩ "a" s.now = some bob ∧
      ¬ s.Indexed "a" 2 ∧
      RedisSessionStore.get bobJson (RedisSessionStore.removeUser ⟨s.redis, 0⟩ 2 s.now) "a" s.now =
        some bob := by
  have hex : (Lts.exec (SessionRace.step bobJson 60000 bobRequests) .init
      [.list 2 [], .command 0, .command 0, .command 0, .command 2]).any (fun s => s.Quiet ∧
        RedisSessionStore.get bobJson ⟨s.redis, 0⟩ "a" s.now = some bob ∧ s.index 2 = none ∧
        RedisSessionStore.get bobJson (RedisSessionStore.removeUser ⟨s.redis, 0⟩ 2 s.now) "a"
          s.now = some bob) = true := by decide +kernel
  obtain ⟨s, hs, hend⟩ := (Option.any_eq_true _ _).1 hex
  obtain ⟨hquiet, hget, hindex, hmissed⟩ := of_decide_eq_true hend
  refine ⟨s, Lts.steps_of_exec hs, hquiet, hget, ?_, hmissed⟩
  rintro ⟨e, index, tokens, -, hfound, -⟩
  cases hindex.symm.trans hfound

/-- **An index expires under a login.** The index of the first login expires between the second
login's `SADD` and its `EXPIRE`. -/
theorem index_expires_under_login : ∃ s : SessionRace (Fin 3),
    Lts.Steps (SessionRace.step bobJson 60000 bobRequests) .init
        [.command 0, .command 0, .command 0, .tick 59000, .command 1, .command 1, .tick 1000,
          .command 1] s ∧
      s.Quiet ∧ RedisSessionStore.get bobJson ⟨s.redis, 0⟩ "b" s.now = some bob ∧
      ¬ s.Indexed "b" 2 := by
  have hex : (Lts.exec (SessionRace.step bobJson 60000 bobRequests) .init
      [.command 0, .command 0, .command 0, .tick 59000, .command 1, .command 1, .tick 1000,
        .command 1]).any (fun s => s.Quiet ∧
          RedisSessionStore.get bobJson ⟨s.redis, 0⟩ "b" s.now = some bob ∧ s.index 2 = none) =
            true := by decide +kernel
  obtain ⟨s, hs, hend⟩ := (Option.any_eq_true _ _).1 hex
  obtain ⟨hquiet, hget, hindex⟩ := of_decide_eq_true hend
  refine ⟨s, Lts.steps_of_exec hs, hquiet, hget, ?_⟩
  rintro ⟨e, index, tokens, -, hfound, -⟩
  cases hindex.symm.trans hfound

end LiteAgentify
