import LiteAgentify.Lib.Mealy
import LiteAgentify.Proof.Isolation

/-!
# User sessions do not interfere

Any number of user-role sessions side by side: isolation of one request (`handle_alike`) and the
general `Mealy.alone` give that each user is answered as if no one else had a session
(`user_served_alone`). What is kept is that the backend with everyone's requests and the one with
the user's own agree on what the user may see, and that both hold no keys but the old ones and those
drawn so far (`Grown`), so that later draws are new.
-/

set_option autoImplicit false

namespace LiteAgentify

namespace AdminApi

/-- Calls of user-role sessions; no id and no key is drawn twice, or drawn when it is there. -/
structure UserCalls (P : Packages) (w : Backend) (calls : List ApiCall) : Prop where
  role : ∀ call ∈ calls, call.context.identity.role = .user
  ids : (calls.map fun call => call.context.draws.id).Nodup
  hashes : (calls.map fun call => hashApiKeyHex P call.context.draws.apiKey).Nodup
  fresh : ∀ call ∈ calls, Fresh P w call.context.draws

/-- The keys are those from before the calls and what the calls drew. -/
structure Grown (P : Packages) (w : Backend) (calls : List ApiCall) (v : Backend) : Prop where
  counters : v.counters = w.counters
  keys : ∀ key ∈ v.keys.rows,
    (∃ key' ∈ w.keys.rows, key'.id = key.id ∧ key'.keyHash = key.keyHash) ∨
      ∃ call ∈ calls, key.id = call.context.draws.id ∧
        key.keyHash = hashApiKeyHex P call.context.draws.apiKey

section
variable {X : Externals} {P : Packages} {u : Uuid} {w v v' : Backend} {calls : List ApiCall}
  {call : ApiCall}

theorem UserCalls.left (h : UserCalls P w (calls ++ [call])) : UserCalls P w calls where
  role := fun c hc => h.role c (List.mem_append_left _ hc)
  ids := by
    have hids := h.ids
    rw [List.map_append] at hids
    exact hids.of_append_left
  hashes := by
    have hhashes := h.hashes
    rw [List.map_append] at hhashes
    exact hhashes.of_append_left
  fresh := fun c hc => h.fresh c (List.mem_append_left _ hc)

theorem notMem_of_nodup_snoc {α β : Type} {f : α → β} {l : List α} {a b : α}
    (h : ((l ++ [a]).map f).Nodup) (hb : b ∈ l) : f b ≠ f a := by
  rw [List.map_append, List.nodup_append] at h
  exact h.2.2 _ (List.mem_map_of_mem hb) _ (List.mem_singleton_self _)

theorem Grown.refl : Grown P w [] w := ⟨rfl, fun key hkey => .inl ⟨key, hkey, rfl, rfl⟩⟩

theorem Grown.fresh (h : Grown P w calls v) (hcalls : UserCalls P w (calls ++ [call])) :
    Fresh P v call.context.draws where
  id := by
    intro hid
    obtain ⟨key, hkey, hid⟩ := List.mem_map.1 hid
    rcases h.keys key hkey with ⟨key', hkey', hid', -⟩ | ⟨c, hc, hid', -⟩
    · exact (hcalls.fresh call List.mem_concat_self).id
        (List.mem_map.2 ⟨key', hkey', hid'.trans hid⟩)
    · exact notMem_of_nodup_snoc hcalls.ids hc (hid'.symm.trans hid)
  hash := by
    intro hhash
    obtain ⟨key, hkey, hhash⟩ := List.mem_map.1 hhash
    rcases h.keys key hkey with ⟨key', hkey', -, hhash'⟩ | ⟨c, hc, -, hhash'⟩
    · exact (hcalls.fresh call List.mem_concat_self).hash
        (List.mem_map.2 ⟨key', hkey', hhash'.trans hhash⟩)
    · exact notMem_of_nodup_snoc hcalls.hashes hc (hhash'.symm.trans hhash)

variable (call) in
theorem Grown.mono (h : Grown P w calls v) : Grown P w (calls ++ [call]) v where
  counters := h.counters
  keys := by
    intro key hkey
    rcases h.keys key hkey with hold | ⟨c, hc, hdrawn⟩
    · exact .inl hold
    · exact .inr ⟨c, List.mem_append_left _ hc, hdrawn⟩

theorem Grown.step (h : Grown P w calls v)
    (hstep : Confined P call.context.identity.userId call.context.draws v v') :
    Grown P w (calls ++ [call]) v' where
  counters := hstep.counters.trans h.counters
  keys := by
    intro key hkey
    rcases hstep.drawn key hkey with ⟨key', hkey', hid, hhash⟩ | hdrawn
    · have hgrown := (h.mono call).keys key' hkey'
      rwa [hid, hhash] at hgrown
    · exact .inr ⟨call, List.mem_append_right _ (List.mem_singleton_self _), hdrawn⟩

/-- **Noninterference.** Whatever user-role sessions of other users request in between, a user is
answered as if no one else had a session. -/
theorem user_served_alone (h : UserCalls X.toPackages w calls) :
    Mealy.ownAnswers (serve X) (fun call => call.context.identity.userId = u) w calls =
      Mealy.answers (serve X) w
        (calls.filter fun call => call.context.identity.userId = u) := by
  refine (Mealy.alone (R := fun calls v v' => SameFor u v v' ∧ Grown X.toPackages w calls v ∧
    Grown X.toPackages w calls v') (C := UserCalls X.toPackages w)
    (fun calls call hcalls => hcalls.left) ⟨.refl, .refl, .refl⟩ ?_ ?_ h).1
  · rintro calls call v v' ⟨hsame, hgrown, hgrown'⟩ hcalls hown
    obtain rfl : call.context.identity.userId = u := of_decide_eq_true hown
    have halike := handle_alike (X := X) (hcalls.role call List.mem_concat_self) hsame
      (hgrown.fresh hcalls)
      (hgrown'.fresh hcalls) call.request
    obtain ⟨hreply, hsame'⟩ := halike.again rfl (by rw [hgrown.counters, hgrown'.counters])
    exact ⟨hreply, hsame', hgrown.step halike.left, hgrown'.step halike.right⟩
  · rintro calls call v v' ⟨hsame, hgrown, hgrown'⟩ hcalls hother
    have hne : u ≠ call.context.identity.userId := fun heq => of_decide_eq_false hother heq.symm
    have halike := handle_alike (X := X) (hcalls.role call List.mem_concat_self) (.refl (w := v))
      (hgrown.fresh hcalls) (hgrown.fresh hcalls) call.request
    exact ⟨(halike.left.sameFor hne).trans hsame, hgrown.step halike.left, hgrown'.mono call⟩

end

end AdminApi

end LiteAgentify
