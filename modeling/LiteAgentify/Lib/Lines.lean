import Mathlib.Data.List.Induction
import Mathlib.Data.List.TakeWhile

/-!
# Lines that arrive in chunks

`drain sep consume buffer s` hands every complete line of `buffer`, its separator included, to
`consume` and returns what is left. `finish_feed`: a consumer that does not look at a line's
separator, and to which an empty line means nothing, gives the same result for every way of cutting
the input into chunks, that of consuming the pieces between the separators one after another.
-/

set_option autoImplicit false

namespace Lines

variable {α σ : Type*} [DecidableEq α]

/-- Consumes the complete lines of the buffer and returns the rest of it. -/
def drain (sep : α) (consume : σ → List α → σ) (buffer : List α) (s : σ) : List α × σ :=
  match _h : buffer.dropWhile (· ≠ sep) with
  | [] => (buffer, s)
  | a :: rest => drain sep consume rest (consume s (buffer.takeWhile (· ≠ sep) ++ [a]))
termination_by buffer.length
decreasing_by
  have := (List.dropWhile_sublist (p := (· ≠ sep)) (l := buffer)).length_le
  rw [_h, List.length_cons] at this
  omega

/-- One chunk: it is appended to the buffer, which is then drained. -/
def feed (sep : α) (consume : σ → List α → σ) (b : List α × σ) (chunk : List α) : List α × σ :=
  drain sep consume (b.1 ++ chunk) b.2

/-- At the end of the input what is left is a line, unless there is nothing. -/
def finish (consume : σ → List α → σ) (b : List α × σ) : σ :=
  if b.1 = [] then b.2 else consume b.2 b.1

theorem drain_of_notMem {sep : α} {consume : σ → List α → σ} {buffer : List α} (s : σ)
    (h : sep ∉ buffer) : drain sep consume buffer s = (buffer, s) := by
  have hd : buffer.dropWhile (· ≠ sep) = [] := by
    rw [List.dropWhile_eq_nil_iff]
    intro a ha
    have : a ≠ sep := ne_of_mem_of_not_mem ha h
    simpa using this
  rw [drain]
  split
  · rfl
  · rename_i hr
    rw [hd] at hr
    cases hr

theorem drain_line {sep : α} {consume : σ → List α → σ} {line : List α} (rest : List α) (s : σ)
    (h : sep ∉ line) : drain sep consume (line ++ sep :: rest) s =
      drain sep consume rest (consume s (line ++ [sep])) := by
  have hp : ∀ a ∈ line, decide (a ≠ sep) = true := fun a ha => by
    have : a ≠ sep := ne_of_mem_of_not_mem ha h
    simpa using this
  have hd : (line ++ sep :: rest).dropWhile (· ≠ sep) = sep :: rest := by
    rw [List.dropWhile_append_of_pos hp, List.dropWhile_cons_of_neg (by simp)]
  have ht : (line ++ sep :: rest).takeWhile (· ≠ sep) = line := by
    rw [List.takeWhile_append_of_pos hp, List.takeWhile_cons_of_neg (by simp), List.append_nil]
  rw [drain]
  split
  · rename_i hr
    rw [hd] at hr
    cases hr
  · rename_i hr
    rw [hd] at hr
    cases hr
    rw [ht]

/-- A change of the state that the consumer does not see goes through draining. -/
theorem drain_map {sep : α} {consume : σ → List α → σ} (g : σ → σ)
    (hg : ∀ s line, consume (g s) line = g (consume s line)) (buffer : List α) (s : σ) :
    drain sep consume buffer (g s) =
      ((drain sep consume buffer s).1, g (drain sep consume buffer s).2) := by
  induction hn : buffer.length using Nat.strongRecOn generalizing buffer s with
  | ind n ih =>
    by_cases h : sep ∈ buffer
    · obtain ⟨line, rest, rfl, hline⟩ := List.eq_append_cons_of_mem h
      rw [drain_line rest _ hline, drain_line rest _ hline, hg]
      exact ih rest.length (by simp [← hn]; omega) rest _ rfl
    · rw [drain_of_notMem _ h, drain_of_notMem _ h]

section
variable {sep : α} {consume : σ → List α → σ}
  (hsep : ∀ s line, consume s (line ++ [sep]) = consume s line)
include hsep

/-- Draining leaves no separator, and consumes the pieces of the buffer up to the last one, which
more input may continue. -/
theorem drain_spec (buffer more : List α) (s : σ) :
    sep ∉ (drain sep consume buffer s).1 ∧
      ((buffer ++ more).splitOn sep).foldl consume s =
        (((drain sep consume buffer s).1 ++ more).splitOn sep).foldl consume
          (drain sep consume buffer s).2 := by
  induction hn : buffer.length using Nat.strongRecOn generalizing buffer s with
  | ind n ih =>
    by_cases h : sep ∈ buffer
    · obtain ⟨line, rest, rfl, hline⟩ := List.eq_append_cons_of_mem h
      obtain ⟨hrest, hfold⟩ := ih rest.length (by simp [← hn]; omega) rest
        (consume s (line ++ [sep])) rfl
      rw [drain_line rest s hline]
      refine ⟨hrest, ?_⟩
      rw [← hfold, hsep, List.append_assoc, List.cons_append,
        List.splitOn_append_cons_self_of_not_mem hline, List.foldl_cons]
    · rw [drain_of_notMem s h]
      exact ⟨h, rfl⟩

/-- **Chunks do not matter.** -/
theorem finish_feed (hnil : ∀ s, consume s [] = s) (chunks : List (List α)) (s : σ) :
    finish consume (chunks.foldl (feed sep consume) ([], s)) =
      (chunks.flatten.splitOn sep).foldl consume s := by
  have key : ∀ more, sep ∉ (chunks.foldl (feed sep consume) ([], s)).1 ∧
      ((chunks.flatten ++ more).splitOn sep).foldl consume s =
        (((chunks.foldl (feed sep consume) ([], s)).1 ++ more).splitOn sep).foldl consume
          (chunks.foldl (feed sep consume) ([], s)).2 := by
    induction chunks using List.reverseRecOn with
    | nil => simp
    | append_singleton chunks chunk ih =>
      intro more
      obtain ⟨hrest, hfold⟩ := drain_spec hsep
        ((chunks.foldl (feed sep consume) ([], s)).1 ++ chunk) more
        (chunks.foldl (feed sep consume) ([], s)).2
      rw [List.foldl_append, List.foldl_cons, List.foldl_nil, feed]
      refine ⟨hrest, ?_⟩
      rw [← hfold, List.flatten_append, List.flatten_singleton, List.append_assoc,
        List.append_assoc]
      exact (ih (chunk ++ more)).2
  obtain ⟨hrest, hfold⟩ := key []
  rw [List.append_nil, List.append_nil, List.splitOn_eq_singleton hrest] at hfold
  rw [hfold, finish, List.foldl_cons, List.foldl_nil]
  split
  · rename_i h
    rw [h, hnil]
  · rfl

end

end Lines
