import Mathlib.Data.Finmap

/-!
# A timed key space

The commands of a key-value server on texts, integers and sets of members, where a key may have a
deadline (in milliseconds; a command gives it in seconds from now). A key whose deadline has come is
gone. Every command rewrites one key from what it finds there (`update`), so `find_update_self` and
`find_update_ne` say what any command finds later.
-/

set_option autoImplicit false

namespace KeySpace

inductive Value (T M : Type)
  | text (t : T)
  | number (n : Int)
  /-- A set, in the order in which it is listed. -/
  | members (l : List M)
  deriving DecidableEq

structure Entry (T M : Type) where
  value : Value T M
  deadline : Option Nat := none
  deriving DecidableEq

/-- The deadline has not come. -/
def Entry.live {T M : Type} (now : Nat) (e : Entry T M) : Bool := e.deadline.all (now < ·)

end KeySpace

/-- What the server holds; an entry that is not live counts as absent. -/
abbrev KeySpace (K T M : Type) := Finmap fun _ : K => KeySpace.Entry T M

namespace KeySpace

variable {K T M : Type} [DecidableEq K]

def find (ks : KeySpace K T M) (now : Nat) (k : K) : Option (Entry T M) :=
  (ks.lookup k).filter (·.live now)

/-- Rewrites a key from what is found there. -/
def update (ks : KeySpace K T M) (now : Nat) (k : K)
    (f : Option (Entry T M) → Option (Entry T M)) : KeySpace K T M :=
  match f (ks.find now k) with
  | some e => ks.insert k e
  | none => ks.erase k

/-! ## Commands -/

/-- `SET k t EX secs`; an expiry of no seconds is an error. -/
def setEx (ks : KeySpace K T M) (now : Nat) (k : K) (t : T) (secs : Nat) : KeySpace K T M :=
  ks.update now k fun found => if secs = 0 then found else some ⟨.text t, some (now + 1000 * secs)⟩

/-- `GET`. -/
def get (ks : KeySpace K T M) (now : Nat) (k : K) : Option T :=
  match ks.find now k with
  | some ⟨.text t, _⟩ => some t
  | _ => none

/-- `EXISTS`. -/
def has (ks : KeySpace K T M) (now : Nat) (k : K) : Bool := (ks.find now k).isSome

/-- `DEL`. -/
def del (ks : KeySpace K T M) (now : Nat) (k : K) : KeySpace K T M := ks.update now k fun _ => none

/-- `EXPIRE`. -/
def expire (ks : KeySpace K T M) (now : Nat) (k : K) (secs : Nat) : KeySpace K T M :=
  ks.update now k (Option.map fun e => { e with deadline := some (now + 1000 * secs) })

/-- `SADD`; a new set has no deadline. -/
def sadd [DecidableEq M] (ks : KeySpace K T M) (now : Nat) (k : K) (m : M) : KeySpace K T M :=
  ks.update now k fun
    | none => some ⟨.members [m], none⟩
    | some ⟨.members l, deadline⟩ => some ⟨.members (if m ∈ l then l else l ++ [m]), deadline⟩
    | some e => some e

/-- `SREM`; an empty set is no key. -/
def srem [DecidableEq M] (ks : KeySpace K T M) (now : Nat) (k : K) (m : M) : KeySpace K T M :=
  ks.update now k fun
    | some ⟨.members l, deadline⟩ =>
      if l.filter (· ≠ m) = [] then none else some ⟨.members (l.filter (· ≠ m)), deadline⟩
    | found => found

/-- `SMEMBERS`. -/
def smembers (ks : KeySpace K T M) (now : Nat) (k : K) : List M :=
  match ks.find now k with
  | some ⟨.members l, _⟩ => l
  | _ => []

/-- `INCR`: the new number; a value of another type is an error. -/
def incr (ks : KeySpace K T M) (now : Nat) (k : K) : Option Int × KeySpace K T M :=
  match ks.find now k with
  | none => (some 1, ks.update now k fun _ => some ⟨.number 1, none⟩)
  | some ⟨.number n, deadline⟩ =>
    (some (n + 1), ks.update now k fun _ => some ⟨.number (n + 1), deadline⟩)
  | some _ => (none, ks)

/-! ## What is found -/

variable {ks : KeySpace K T M} {now later : Nat} {k k' : K}
  {f : Option (Entry T M) → Option (Entry T M)}

omit [DecidableEq K] in
@[simp] theorem Entry.live_some {value : Value T M} {deadline : Nat} :
    Entry.live now ⟨value, some deadline⟩ = decide (now < deadline) := rfl

@[simp] theorem find_empty : find (∅ : KeySpace K T M) now k = none := rfl

omit [DecidableEq K] in
theorem Entry.live_of_le {e : Entry T M} (h : e.live later = true) (hle : now ≤ later) :
    e.live now = true := by
  unfold Entry.live at h ⊢
  cases hd : e.deadline with
  | none => rfl
  | some deadline =>
    rw [hd, Option.all_some, decide_eq_true_iff] at h
    rw [Option.all_some, decide_eq_true_iff]
    exact Nat.lt_of_le_of_lt hle h

/-- What is found later was there before. -/
theorem find_later (hle : now ≤ later) :
    ks.find later k = (ks.find now k).filter (·.live later) := by
  unfold find
  rw [Option.filter_filter]
  congr 1
  funext e
  cases hlater : e.live later with
  | false => simp
  | true => simp [Entry.live_of_le hlater hle]

theorem live_of_find {e : Entry T M} (h : ks.find now k = some e) : e.live now = true :=
  (Option.filter_eq_some_iff.1 h).2

theorem find_update_self :
    (ks.update now k f).find later k = (f (ks.find now k)).filter (·.live later) := by
  unfold update
  cases hf : f (ks.find now k) with
  | none => simp [find]
  | some e => simp [find]

theorem find_update_ne (h : k' ≠ k) : (ks.update now k f).find later k' = ks.find later k' := by
  unfold update
  cases f (ks.find now k) with
  | none => rw [find, find, Finmap.lookup_erase_ne h]
  | some e => rw [find, find, Finmap.lookup_insert_of_ne _ h]

theorem mem_smembers {m : M} :
    m ∈ ks.smembers now k ↔ ∃ l deadline, ks.find now k = some ⟨.members l, deadline⟩ ∧ m ∈ l := by
  unfold smembers
  split
  · rename_i l deadline hfind
    rw [hfind]
    constructor
    · intro hmem
      exact ⟨l, deadline, rfl, hmem⟩
    · rintro ⟨l', deadline', heq, hmem⟩
      cases heq
      exact hmem
  · rename_i hnot
    constructor
    · exact fun hmem => nomatch hmem
    · rintro ⟨l, deadline, heq, -⟩
      exact absurd heq (hnot l deadline)

theorem incr_of_none (h : ks.find now k = none) :
    ks.incr now k = (some 1, ks.update now k fun _ => some ⟨.number 1, none⟩) := by
  simp only [incr, h]

theorem incr_of_number {n : Int} {deadline : Option Nat}
    (h : ks.find now k = some ⟨.number n, deadline⟩) :
    ks.incr now k =
      (some (n + 1), ks.update now k fun _ => some ⟨.number (n + 1), deadline⟩) := by
  simp only [incr, h]

theorem find_incr_ne (h : k' ≠ k) : (ks.incr now k).2.find later k' = ks.find later k' := by
  unfold incr
  split
  · exact find_update_ne h
  · exact find_update_ne h
  · rfl

/-- What a new member of a set (or of none) leaves. -/
theorem find_sadd [DecidableEq M] {m : M}
    (hset : ∀ e, ks.find now k = some e → ∃ l deadline, e = ⟨.members l, deadline⟩) :
    ∃ l, (ks.sadd now k m).find now k = some ⟨.members l, (ks.find now k).bind Entry.deadline⟩ ∧
      ∀ m', m' ∈ l ↔ m' = m ∨ m' ∈ ks.smembers now k := by
  unfold sadd
  cases hfind : ks.find now k with
  | none =>
    refine ⟨[m], ?_, fun m' => ?_⟩
    · rw [find_update_self, hfind]
      rfl
    · simp [smembers, hfind]
  | some e =>
    obtain ⟨l, deadline, rfl⟩ := hset e hfind
    have hlive := live_of_find hfind
    refine ⟨if m ∈ l then l else l ++ [m], ?_, fun m' => ?_⟩
    · rw [find_update_self, hfind]
      exact if_pos hlive
    · simp only [smembers, hfind]
      by_cases hm : m ∈ l
      · rw [if_pos hm]
        exact ⟨.inr, fun h => h.elim (fun heq => heq ▸ hm) id⟩
      · rw [if_neg hm, List.mem_append, List.mem_singleton]
        exact or_comm

/-- What is left of a set that has more than the removed member. -/
theorem find_srem [DecidableEq M] {m m' : M} {l : List M} {deadline : Option Nat}
    (hfind : ks.find now k = some ⟨.members l, deadline⟩) (hm' : m' ∈ l) (hne : m' ≠ m) :
    (ks.srem now k m).find now k = some ⟨.members (l.filter (· ≠ m)), deadline⟩ := by
  have hfilter : l.filter (· ≠ m) ≠ [] :=
    List.ne_nil_of_mem (List.mem_filter.2 ⟨hm', decide_eq_true hne⟩)
  unfold srem
  rw [find_update_self, hfind]
  dsimp only
  rw [if_neg hfilter]
  exact if_pos (live_of_find hfind)

/-- What is found after a removal was there, perhaps with one member more. -/
theorem of_find_srem [DecidableEq M] {m : M} {e : Entry T M}
    (h : (ks.srem now k m).find now k = some e) :
    ks.find now k = some e ∨
      ∃ l deadline, ks.find now k = some ⟨.members l, deadline⟩ ∧
        e = ⟨.members (l.filter (· ≠ m)), deadline⟩ := by
  unfold srem at h
  rw [find_update_self, Option.filter_eq_some_iff] at h
  obtain ⟨hf, -⟩ := h
  split at hf
  · rename_i l deadline hfind
    split at hf
    · cases hf
    · cases hf
      exact .inr ⟨l, deadline, hfind, rfl⟩
  · exact .inl hf

/-- What a deletion of several keys leaves. -/
theorem find_del_all {ι : Type*} {key : ι → K} {l : List ι} :
    (l.foldl (fun ks i => ks.del now (key i)) ks).find later k =
      if k ∈ l.map key then none else ks.find later k := by
  induction l generalizing ks with
  | nil => rfl
  | cons i l ih =>
    rw [List.foldl_cons, ih, List.map_cons]
    by_cases hk : k = key i
    · subst hk
      simp [del, find_update_self]
    · simp [del, find_update_ne hk, hk]

end KeySpace
