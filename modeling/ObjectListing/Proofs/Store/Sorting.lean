import Mathlib.Data.List.Sort
import ObjectListing.Proofs.Store.MemoryPages

/-!
Sorted entries. Entries of different keys are in strict order once they are sorted
(`ObjectEntry.increasing_sorted`), and they are sorted in one way only (`ObjectEntry.sorted_eq_of_perm`).
-/

namespace ObjectListing

open Text

/-- Entries in the order of their keys are told by which there are. -/
theorem Increasing.ext {es fs : List ObjectEntry} (hes : Increasing es) (hfs : Increasing fs)
    (h : ∀ e, e ∈ es ↔ e ∈ fs) : es = fs := by
  have : Std.Irrefl fun e f : ObjectEntry => e.key < f.key := ⟨fun e => lt_irrefl e.key⟩
  have : Std.Antisymm fun e f : ObjectEntry => e.key < f.key :=
    ⟨fun e f hef hfe => absurd hfe (lt_asymm hef)⟩
  exact List.Pairwise.eq_of_mem_iff hes hfs h

theorem Text.atMost_iff {t u : Text} : t.atMost u = true ↔ t ≤ u := by
  rw [atMost, Bool.not_eq_true', decide_eq_false_iff_not, not_lt]

theorem ObjectEntry.mem_sorted {es : List ObjectEntry} {e : ObjectEntry} : e ∈ sorted es ↔ e ∈ es :=
  List.mem_mergeSort

/-- Entries of different keys are in the order of their keys once they are sorted. -/
theorem ObjectEntry.increasing_sorted {es : List ObjectEntry}
    (h : es.Pairwise fun e f => e.key ≠ f.key) : Increasing (sorted es) := by
  have hne : (sorted es).Pairwise fun e f => e.key ≠ f.key :=
    (List.mergeSort_perm es _).symm.pairwise h fun hef => hef.symm
  have hle : (sorted es).Pairwise fun e f => e.key.atMost f.key = true := by
    refine List.pairwise_mergeSort (fun e f g hef hfg => ?_) (fun e f => ?_) es
    · exact atMost_iff.mpr ((atMost_iff.mp hef).trans (atMost_iff.mp hfg))
    · rw [Bool.or_eq_true, atMost_iff, atMost_iff]
      exact le_total e.key f.key
  exact hle.imp₂ (fun e f hle hne => lt_of_le_of_ne (atMost_iff.mp hle) hne) hne

/-- However entries in the order of their keys are shuffled, sorting brings them back into order. -/
theorem ObjectEntry.sorted_eq_of_perm {es fs : List ObjectEntry} (h : es.Perm fs)
    (hfs : Increasing fs) : sorted es = fs := by
  have hne : es.Pairwise fun e f => e.key ≠ f.key :=
    h.symm.pairwise (hfs.imp fun hlt => hlt.ne) fun hef => hef.symm
  refine Increasing.ext (increasing_sorted hne) hfs fun e => ?_
  rw [mem_sorted, h.mem_iff]

end ObjectListing
