import Mathlib.Data.Char
import Mathlib.Data.List.Lex
import Mathlib.Data.List.Infix
import Mathlib.Order.Lattice
import ObjectListing.Text.Path
import ObjectListing.Text.Utf8

/-!
The order of keys. Texts are ordered character by character, which is the order of the bytes that
encode them (`lt_iff_bytes_lt`). A text comes at or before everything that begins with it, and texts
of which neither begins with the other stay apart however they are continued
(`lt_of_lt_of_not_isPrefix`): the keys under one beginning are a stretch of all keys.
-/

namespace ObjectListing

namespace Text

/-! ### Beginnings -/

theorem not_append_lt : ∀ start rest : Text, ¬ start ++ rest < start
  | [], _ => by simp
  | a :: as, rest => by
    rw [List.cons_append, List.cons_lt_cons_iff, not_or, not_and]
    exact ⟨lt_irrefl a, fun _ => not_append_lt as rest⟩

/-- A text comes at or before everything that begins with it. -/
theorem le_of_isPrefix {start t : Text} (h : start <+: t) : start ≤ t := by
  obtain ⟨rest, rfl⟩ := h
  exact not_lt.mp (not_append_lt start rest)

/-- Texts that part at some character stay apart: what begins with the first comes before the
second. -/
theorem lt_of_lt_of_not_isPrefix : ∀ {a b t : Text}, a < b → ¬ a <+: b → a <+: t → t < b
  | [], b, _, _, hnot, _ => absurd List.nil_prefix hnot
  | x :: xs, [], _, hlt, _, _ => absurd hlt (by simp)
  | x :: xs, y :: ys, t, hlt, hnot, ht => by
    obtain ⟨rest, rfl⟩ := ht
    rw [List.cons_append, List.cons_lt_cons_iff]
    rcases List.cons_lt_cons_iff.mp hlt with hxy | ⟨rfl, htail⟩
    · exact Or.inl hxy
    · refine Or.inr ⟨rfl, lt_of_lt_of_not_isPrefix htail (fun h => hnot ?_) (List.prefix_append ..)⟩
      exact List.cons_prefix_cons.mpr ⟨rfl, h⟩

/-! ### Delimiters -/

theorem endsInSlash_iff {t : Text} : endsInSlash t = true ↔ ∃ start, t = start ++ ['/'] := by
  rw [endsInSlash, beq_iff_eq, List.getLast?_eq_some_iff]

/-- The end of a text is the end of what is put behind another text. -/
theorem endsInSlash_append {start t : Text} (h : t ≠ []) :
    endsInSlash (start ++ t) = endsInSlash t := by
  rw [endsInSlash, endsInSlash, List.getLast?_append_of_ne_nil _ h]

theorem not_endsInSlash_of_notMem {t : Text} (h : '/' ∉ t) : endsInSlash t = false := by
  rw [Bool.eq_false_iff, ne_eq, endsInSlash_iff]
  rintro ⟨start, rfl⟩
  simp at h

theorem head?_withoutLeadingSlashes_ne (t : Text) : t.withoutLeadingSlashes.head? ≠ some '/' := by
  intro hhead
  have hnot := List.head?_dropWhile_not (· == '/') t
  rw [withoutLeadingSlashes] at hhead
  rw [hhead] at hnot
  exact absurd hnot (by decide)

theorem cut_of_notMem {c : Char} : ∀ {t : Text}, c ∉ t → cut c t = (t, none)
  | [], _ => rfl
  | a :: as, h => by
    rw [List.mem_cons, not_or] at h
    rw [cut, if_neg (Ne.symm h.1), cut_of_notMem h.2]

theorem cut_append_cons {c : Char} : ∀ {segment rest : Text}, c ∉ segment →
    cut c (segment ++ c :: rest) = (segment, some rest)
  | [], rest, _ => by simp [cut]
  | a :: as, rest, h => by
    rw [List.mem_cons, not_or] at h
    rw [List.cons_append, cut, if_neg (Ne.symm h.1), cut_append_cons h.2]

/-- A text has no `c`, or is cut at the first one. -/
theorem notMem_or_eq_append_cons (c : Char) : ∀ t : Text,
    c ∉ t ∨ ∃ segment rest, c ∉ segment ∧ t = segment ++ c :: rest
  | [] => Or.inl (by simp)
  | a :: as => by
    by_cases ha : a = c
    · subst ha
      exact Or.inr ⟨[], as, by simp, rfl⟩
    · rcases notMem_or_eq_append_cons c as with h | ⟨segment, rest, h, rfl⟩
      · exact Or.inl (by simp [Ne.symm ha, h])
      · exact Or.inr ⟨a :: segment, rest, by simp [Ne.symm ha, h], rfl⟩

/-! ### The order of bytes -/

theorem toList_loop_eq (bs : ByteArray) (i : Nat) (r : List UInt8) :
    ByteArray.toList.loop bs i r = r.reverse ++ bs.data.toList.drop i := by
  fun_induction ByteArray.toList.loop bs i r with
  | case1 i r h ih =>
    have hi : i < bs.data.toList.length := by simpa using h
    rw [ih, List.drop_eq_getElem_cons hi]
    simp [ByteArray.get!, h]
  | case2 i r h =>
    rw [List.drop_eq_nil_of_le (by simpa using h)]
    simp

theorem bytes_eq_flatMap (t : Text) : bytes t = t.flatMap String.utf8EncodeChar := by
  rw [bytes, ByteArray.toList, toList_loop_eq]
  simp [str, List.utf8Encode]

/-- The last three digits of a number to the base 64, and what is in front of them. -/
theorem eq_digits64 (n : Nat) :
    n = 262144 * (n / 262144) + 4096 * (n / 4096 % 64) + 64 * (n / 64 % 64) + n % 64 := by
  omega

/-- The bytes of a character tell which of two characters comes first, whatever follows. -/
theorem utf8EncodeChar_append_lt {c d : Char} (h : c < d) (s t : List UInt8) :
    String.utf8EncodeChar c ++ s < String.utf8EncodeChar d ++ t := by
  have below (a : Char) : a.val.toNat < 0x110000 := by
    rcases a.valid with h | h
    · exact lt_trans h (by decide)
    · exact h.2
  have hcd : c.val.toNat < d.val.toNat := h
  have hc := eq_digits64 c.val.toNat
  have hd := eq_digits64 d.val.toNat
  -- neither a first byte nor a following one loses a bit
  have hlead (k : Nat) (hk : k < 0x110000) : (k / 262144 % 8 + 240) % 2 ^ 8 = k / 262144 + 240 := by
    omega
  have hnext (k : Nat) : (k % 64 + 128) % 2 ^ 8 = k % 64 + 128 := by omega
  simp only [String.utf8EncodeChar]
  split_ifs <;> simp only [List.cons_append, List.nil_append, List.cons_lt_cons_iff,
    UInt8.lt_iff_toNat_lt, ← UInt8.toNat_inj, UInt8.toNat_ofNat', hnext, hlead _ (below c),
    hlead _ (below d)] <;> omega

theorem bytes_lt_of_lt : ∀ {t u : Text}, t < u → bytes t < bytes u
  | t, [], h => absurd h (by simp)
  | [], d :: u, _ => by
    have hne : String.utf8EncodeChar d ≠ [] := by simp
    obtain ⟨b, bs, hb⟩ := List.exists_cons_of_ne_nil hne
    simp [bytes_eq_flatMap, hb]
  | c :: t, d :: u, h => by
    rw [bytes_eq_flatMap, bytes_eq_flatMap, List.flatMap_cons, List.flatMap_cons]
    rcases List.cons_lt_cons_iff.mp h with hcd | ⟨rfl, htu⟩
    · exact utf8EncodeChar_append_lt hcd _ _
    · rw [← bytes_eq_flatMap, ← bytes_eq_flatMap]
      exact List.append_left_lt (bytes_lt_of_lt htu)

/-- The order of texts is the order of the bytes that encode them. -/
theorem lt_iff_bytes_lt {t u : Text} : t < u ↔ bytes t < bytes u := by
  refine ⟨bytes_lt_of_lt, ?_⟩
  intro h
  rcases lt_trichotomy t u with hlt | rfl | hgt
  · exact hlt
  · exact absurd h (List.lt_irrefl _)
  · exact absurd (bytes_lt_of_lt hgt) (List.lt_asymm h)

end Text

end ObjectListing
