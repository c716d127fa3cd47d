import Mathlib.Algebra.Group.Nat.Defs
import Mathlib.Data.List.DropRight

/-!
# Text as the Rust standard library sees it

Trimming by Unicode `White_Space`, prefixes, `u64` parsing and UTF-8 decoding of byte lists. The
lemmas say that trimming is idempotent (`trim_trim`), and that a final newline byte decodes to a
final newline character (`fromUtf8_newline`), which trimming the end removes (`trimEnd_newline`).
-/

set_option autoImplicit false

namespace Text

/-- `char::is_whitespace`: the Unicode property `White_Space`. -/
def isWhitespace (c : Char) : Bool :=
  let n := c.toNat
  (9 ≤ n && n ≤ 13) || n == 0x20 || n == 0x85 || n == 0xA0 || n == 0x1680 ||
    (0x2000 ≤ n && n ≤ 0x200A) || n == 0x2028 || n == 0x2029 || n == 0x202F || n == 0x205F ||
    n == 0x3000

/-- `str::trim_end`. -/
def trimEnd (s : String) : String := String.ofList (s.toList.rdropWhile isWhitespace)

/-- `str::trim`. -/
def trim (s : String) : String :=
  String.ofList ((s.toList.dropWhile isWhitespace).rdropWhile isWhitespace)

/-- `str::trim_end_matches` for a character. -/
def trimEndMatches (c : Char) (s : String) : String := String.ofList (s.toList.rdropWhile (· == c))

/-- `str::strip_prefix`. -/
def stripPrefix (pre s : String) : Option String :=
  if pre.toList <+: s.toList then some (String.ofList (s.toList.drop pre.toList.length)) else none

/-- `str::starts_with`. -/
def startsWith (s pre : String) : Bool := pre.toList.isPrefixOf s.toList

/-- `str::contains` for a string pattern. -/
def contains (s pat : String) : Bool := s.toList.tails.any pat.toList.isPrefixOf

/-- `str::to_ascii_lowercase`. -/
def toAsciiLowercase (s : String) : String :=
  String.ofList (s.toList.map fun c => if 'A' ≤ c ∧ c ≤ 'Z' then Char.ofNat (c.toNat + 32) else c)

/-- `char::is_ascii_uppercase`. -/
def isAsciiUppercase (c : Char) : Bool := 'A' ≤ c ∧ c ≤ 'Z'

/-- `u64::from_str`: an optional plus sign and decimal digits, rejected from `2 ^ 64` on. -/
def parseU64 (s : String) : Option Nat :=
  let digits := if s.toList.head? = some '+' then s.toList.tail else s.toList
  if digits ≠ [] ∧ digits.all Char.isDigit then
    let n := digits.foldl (fun n c => 10 * n + (c.toNat - '0'.toNat)) 0
    if n < 2 ^ 64 then some n else none
  else none

/-- `str::as_bytes`. -/
def asBytes (s : String) : List UInt8 := s.toUTF8.data.toList

/-- `str::from_utf8` on a byte list. -/
def fromUtf8 (bytes : List UInt8) : Option String := String.fromUTF8? bytes.toByteArray

/-! ## Trimming -/

theorem dropWhile_rdropWhile {α : Type*} (p : α → Bool) (l : List α) :
    ((l.dropWhile p).rdropWhile p).dropWhile p = (l.dropWhile p).rdropWhile p := by
  cases hd : l.dropWhile p with
  | nil => simp
  | cons a t =>
    have ha : p a = false := by
      have := List.head_dropWhile_not p (l := l) (w := by simp [hd])
      simpa [hd] using this
    have hpre : (a :: t).rdropWhile p <+: a :: t := List.rdropWhile_prefix _ _
    cases hr : (a :: t).rdropWhile p with
    | nil => rfl
    | cons b u =>
      rw [hr, List.cons_prefix_cons] at hpre
      rw [hpre.1, List.dropWhile_cons_of_neg (by simp [ha])]

theorem trim_trim (s : String) : trim (trim s) = trim s := by
  simp only [trim, String.toList_ofList]
  rw [dropWhile_rdropWhile, List.rdropWhile_idempotent]

/-- Trimming the end removes a final newline. -/
theorem trimEnd_newline (s : String) : trimEnd (s ++ "\n") = trimEnd s := by
  have : (s ++ "\n").toList = s.toList ++ ['\n'] := by simp
  rw [trimEnd, this, List.rdropWhile_concat_pos _ _ _ (by decide)]
  rfl

/-! ## A final newline byte -/

theorem last_utf8EncodeChar {c : Char} (h : (String.utf8EncodeChar c).getLast? = some 10) :
    String.utf8EncodeChar c = [10] := by
  revert h
  fun_cases String.utf8EncodeChar c with
  | case1 => simp
  | case2 | case3 | case4 =>
    intro h
    simp only [List.getLast?_cons_cons, List.getLast?_singleton, Option.some.injEq] at h
    have := congrArg UInt8.toNat h
    simp at this
    omega

theorem append_newline_valid {l : List UInt8}
    (h : (l ++ [10]).toByteArray.IsValidUTF8) : l.toByteArray.IsValidUTF8 := by
  obtain ⟨m, hm⟩ := h
  have hb : l ++ [10] = m.flatMap String.utf8EncodeChar := by
    have := congrArg (fun b : ByteArray => b.data.toList) hm
    simpa [List.utf8Encode] using this
  rcases List.eq_nil_or_concat m with rfl | ⟨m, c, rfl⟩
  · simp at hb
  · rw [List.concat_eq_append, List.flatMap_append, List.flatMap_singleton] at hb
    have hlast : (String.utf8EncodeChar c).getLast? = some 10 := by
      have := congrArg List.getLast? hb
      rw [List.getLast?_concat,
        List.getLast?_append_of_ne_nil _ String.utf8EncodeChar_ne_nil] at this
      exact this.symm
    rw [last_utf8EncodeChar hlast] at hb
    have hl := (List.append_inj' hb rfl).1
    exact ⟨m, by rw [hl]; rfl⟩

/-- **A final newline byte** decodes to a final newline character. -/
theorem fromUtf8_newline (l : List UInt8) :
    fromUtf8 (l ++ [10]) = (fromUtf8 l).map (· ++ "\n") := by
  unfold fromUtf8 String.fromUTF8?
  by_cases h : l.toByteArray.IsValidUTF8
  · have hn : ([10] : List UInt8).toByteArray.IsValidUTF8 := ⟨['\n'], by rfl⟩
    have h' : (l ++ [10]).toByteArray.IsValidUTF8 := by
      have := h.append hn
      rwa [← List.toByteArray_append] at this
    rw [dif_pos h, dif_pos h']
    simp only [Option.map_some, Option.some.injEq, ← String.toByteArray_inj]
    rw [String.toByteArray_append]
    exact List.toByteArray_append
  · rw [dif_neg h, dif_neg fun h' => h (append_newline_valid h')]
    rfl

/-- The bytes of a string decode to it. -/
theorem fromUtf8_asBytes (s : String) : fromUtf8 (asBytes s) = some s := by
  have hbytes : (asBytes s).toByteArray = s.toByteArray := by
    unfold asBytes
    apply ByteArray.ext
    simp
  unfold fromUtf8 String.fromUTF8?
  rw [hbytes, dif_pos s.isValidUTF8]
  rfl

end Text
