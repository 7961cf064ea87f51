import ObjectListing.Proofs.Text.Order

/-!
Keys by levels. Under a beginning of keys, a key stands one level down when the delimiter is nowhere in
what follows but at its end: it is an object there, or a directory. Every other key under the beginning
is led to by exactly one key one level down, and what two of them lead to does not mix
(`OneLevel.lt_of_leadsTo`).
-/

namespace ObjectListing

namespace Text

/-- Whether a key stands one level under `under`. -/
def OneLevel (under c : Text) : Prop :=
  ∃ rest, c = under ++ rest ∧ rest ≠ [] ∧ '/' ∉ rest.dropLast

/-- Whether a key leads to another: to itself, and, where directories are entered, to what is in the
directory that it is the key of. -/
def LeadsTo (deep : Bool) (c k : Text) : Prop :=
  c = k ∨ deep = true ∧ endsInSlash c = true ∧ c <+: k

namespace LeadsTo

variable {deep : Bool} {c k t : Text}

theorem refl (deep : Bool) (c : Text) : LeadsTo deep c c := Or.inl rfl

/-- A key begins with every key that leads to it. -/
theorem isPrefix (h : LeadsTo deep c k) : c <+: k := by
  rcases h with rfl | ⟨-, -, h⟩
  · exact List.prefix_rfl
  · exact h

theorem trans (h : LeadsTo deep c k) (h' : LeadsTo true k t) : LeadsTo true c t := by
  rcases h with rfl | ⟨-, hend, hpre⟩
  · exact h'
  · exact Or.inr ⟨rfl, hend, hpre.trans h'.isPrefix⟩

end LeadsTo

namespace OneLevel

variable {under c d : Text}

theorem name {name : Text} (hne : name ≠ []) (h : '/' ∉ name) : OneLevel under (under ++ name) :=
  ⟨name, rfl, hne, fun hmem => h (List.mem_of_mem_dropLast hmem)⟩

theorem directory {segment : Text} (h : '/' ∉ segment) :
    OneLevel under (under ++ segment ++ ['/']) :=
  ⟨segment ++ ['/'], List.append_assoc .., by simp, by simpa using h⟩

theorem isPrefix (h : OneLevel under c) : under <+: c := by
  obtain ⟨rest, rfl, -, -⟩ := h
  exact List.prefix_append under rest

theorem length_lt (h : OneLevel under c) : under.length < c.length := by
  obtain ⟨rest, rfl, hne, -⟩ := h
  rw [List.length_append]
  exact Nat.lt_add_of_pos_right (List.length_pos_of_ne_nil hne)

theorem lt (h : OneLevel under c) : under < c := by
  refine lt_of_le_of_ne (le_of_isPrefix h.isPrefix) ?_
  rintro rfl
  exact lt_irrefl _ h.length_lt

/-- Nothing else one level down begins with the key of a directory. -/
theorem eq_of_isPrefix (hc : OneLevel under c) (hd : OneLevel under d)
    (hend : endsInSlash c = true) (hpre : c <+: d) : c = d := by
  obtain ⟨rest, rfl, hne, -⟩ := hc
  obtain ⟨rest', rfl, hne', hmem⟩ := hd
  rw [List.prefix_append_right_inj] at hpre
  rw [endsInSlash_append hne, endsInSlash_iff] at hend
  obtain ⟨segment, rfl⟩ := hend
  by_contra hdiff
  -- a longer key would have the delimiter before its end
  have hlen : (segment ++ ['/']).length < rest'.length :=
    lt_of_le_of_ne hpre.length_le fun he => hdiff (by rw [hpre.eq_of_length he])
  have hinit : segment ++ ['/'] <+: rest'.dropLast := by
    rw [List.dropLast_eq_take]
    exact List.prefix_take_iff.mpr ⟨hpre, by omega⟩
  exact hmem (hinit.subset (by simp))

/-- What keys one level down lead to is in the order of these keys. -/
theorem lt_of_leadsTo (hc : OneLevel under c) (hd : OneLevel under d) (hlt : c < d)
    {deep deep' : Bool} {x y : Text} (hx : LeadsTo deep c x) (hy : LeadsTo deep' d y) : x < y := by
  have hdy : d ≤ y := le_of_isPrefix hy.isPrefix
  rcases hx with rfl | ⟨-, hend, hpre⟩
  · exact lt_of_lt_of_le hlt hdy
  · have hnot : ¬ c <+: d := fun h => hlt.ne (hc.eq_of_isPrefix hd hend h)
    exact lt_of_lt_of_le (lt_of_lt_of_not_isPrefix hlt hnot hpre) hdy

/-- A key is led to by one key one level down only. -/
theorem eq_of_leadsTo (hc : OneLevel under c) (hd : OneLevel under d) {deep deep' : Bool} {k : Text}
    (hck : LeadsTo deep c k) (hdk : LeadsTo deep' d k) : c = d := by
  rcases lt_trichotomy c d with h | h | h
  · exact absurd (hc.lt_of_leadsTo hd h hck hdk) (lt_irrefl k)
  · exact h
  · exact absurd (hd.lt_of_leadsTo hc h hdk hck) (lt_irrefl k)

/-- Every other key under a beginning is led to by a key one level down. -/
theorem exists_leadsTo {k : Text} (hpre : under <+: k) (hne : k ≠ under) :
    ∃ c, OneLevel under c ∧ LeadsTo true c k := by
  obtain ⟨rest, rfl⟩ := hpre
  rcases notMem_or_eq_append_cons '/' rest with h | ⟨segment, tail, h, rfl⟩
  · refine ⟨under ++ rest, name (fun he => hne ?_) h, .refl true _⟩
    rw [he, List.append_nil]
  · exact ⟨_, directory h, Or.inr ⟨rfl, endsInSlash_iff.mpr ⟨_, rfl⟩, tail, by simp⟩⟩

end OneLevel

end Text

end ObjectListing
