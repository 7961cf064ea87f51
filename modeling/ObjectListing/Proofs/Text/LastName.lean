import Mathlib.Data.List.DropRight
import ObjectListing.Proofs.Text.Components

/-!
The last name of a path. Behind it are delimiters only, and in front of it is nothing or a directory
(`namedLast_baseName`). It is empty only when there is nothing but delimiters (`baseName_eq_nil_iff`), and otherwise
there is no other way to take a path apart like that (`NamedLast.unique`).
-/

namespace ObjectListing

namespace Text

/-- A path taken apart: a directory or nothing, a text without delimiters, and delimiters behind it. -/
structure NamedLast (t before name after : Text) : Prop where
  whole : t = before ++ name ++ after
  undelimited : '/' ∉ name
  directory : before = [] ∨ endsInSlash before = true
  delimiters : ∀ c ∈ after, c = '/'

/-- A path without the delimiters at its end. -/
def stem (t : Text) : Text := t.rdropWhile (· == '/')

variable {t before name after : Text}

theorem baseName_eq (t : Text) : baseName t = afterLastSlash (stem t) := by
  rw [baseName, afterLastSlash, stem, List.rdropWhile, List.reverse_reverse]

theorem not_endsInSlash_stem (t : Text) : endsInSlash (stem t) = false := by
  have hhead := head?_withoutLeadingSlashes_ne t.reverse
  rw [endsInSlash, stem, List.rdropWhile, List.getLast?_reverse]
  simpa [withoutLeadingSlashes] using hhead

theorem stem_eq_self (h : endsInSlash t = false) : stem t = t := by
  rw [stem, List.rdropWhile_eq_self_iff]
  cases t using List.reverseRecOn with
  | nil => simp
  | append_singleton t c => simpa [endsInSlash] using h

theorem stem_append (h : ∀ c ∈ after, c = '/') (t : Text) : stem (t ++ after) = stem t := by
  rw [stem, stem, List.rdropWhile, List.rdropWhile, List.reverse_append,
    List.dropWhile_append_of_pos fun c hc => by simpa using h c (List.mem_reverse.mp hc)]

/-- A path is taken apart at its last name. -/
theorem namedLast_baseName (t : Text) :
    NamedLast t (uptoLastSlash (stem t)) (baseName t) (t.rtakeWhile (· == '/')) := by
  refine ⟨?_, ?_, uptoLastSlash_eq_nil_or _, fun c hc => by simpa using List.mem_rtakeWhile_imp hc⟩
  · rw [baseName_eq, uptoLastSlash_append_afterLastSlash]
    exact (List.rdropWhile_append_rtakeWhile ..).symm
  · rw [baseName_eq]
    exact notMem_afterLastSlash _

theorem afterLastSlash_append (hdir : before = [] ∨ endsInSlash before = true) (hname : '/' ∉ name) :
    afterLastSlash (before ++ name) = name := by
  have hall : ∀ c ∈ name.reverse, (c != '/') = true := by
    intro c hc
    rw [bne_iff_ne]
    rintro rfl
    exact hname (List.mem_reverse.mp hc)
  rcases hdir with rfl | hend
  · rw [List.nil_append, afterLastSlash, List.takeWhile_eq_self_iff.mpr hall, List.reverse_reverse]
  · obtain ⟨start, rfl⟩ := endsInSlash_iff.mp hend
    rw [afterLastSlash, List.reverse_append, List.takeWhile_append_of_pos hall]
    simp

namespace NamedLast

variable (h : NamedLast t before name after) (hne : name ≠ [])

include h hne

theorem stem_eq : stem t = before ++ name := by
  have hend : endsInSlash (before ++ name) = false := by
    rw [endsInSlash_append hne]
    exact not_endsInSlash_of_notMem h.undelimited
  rw [h.whole, stem_append h.delimiters, stem_eq_self hend]

/-- The text in the middle, if there is one, is the last name. -/
theorem baseName_eq : baseName t = name := by
  rw [Text.baseName_eq, h.stem_eq hne, afterLastSlash_append h.directory h.undelimited]

/-- There is one way only to take a path apart with something in the middle. -/
theorem unique {before' name' after' : Text} (h' : NamedLast t before' name' after') (hne' : name' ≠ []) :
    before' = before ∧ name' = name ∧ after' = after := by
  obtain rfl : name' = name := (h'.baseName_eq hne').symm.trans (h.baseName_eq hne)
  obtain rfl : before' = before := List.append_cancel_right ((h'.stem_eq hne').symm.trans (h.stem_eq hne))
  exact ⟨rfl, rfl, List.append_cancel_left (h'.whole.symm.trans h.whole)⟩

end NamedLast

/-- Only a path of delimiters has no last name. -/
theorem baseName_eq_nil_iff : baseName t = [] ↔ ∀ c ∈ t, c = '/' := by
  have hstem : stem t = [] ↔ ∀ c ∈ t, c = '/' := by
    rw [stem, List.rdropWhile_eq_nil_iff]
    simp
  rw [← hstem, baseName_eq]
  constructor
  · intro hname
    have hwhole := uptoLastSlash_append_afterLastSlash (stem t)
    rw [hname, List.append_nil] at hwhole
    rcases uptoLastSlash_eq_nil_or (stem t) with hnil | hend
    · exact hwhole.symm.trans hnil
    · rw [hwhole, not_endsInSlash_stem] at hend
      cases hend
  · intro hnil
    rw [hnil]
    rfl

end Text

end ObjectListing
