import Mathlib.Data.List.TakeWhile
import ObjectListing.Proofs.Text.Names

/-!
The components of a path: where it begins, and the names along it. A path lies below a directory when
its components are those of the directory and more behind them that do not go up (`Text.Below`), and a
relative path that does not go up lies below every directory that it is joined to (`Text.below_joined`).
-/

namespace ObjectListing

namespace Text

/-- A component of a path. -/
inductive Component
  | root
  | here
  | up
  | name (t : Text)
  deriving DecidableEq, Repr

/-- The component that a name along a path stands for. -/
def Component.ofName (t : Text) : Component := if t = ['.', '.'] then up else name t

/-- Where a path begins, if it says so: at the root, or here. -/
def origin (t : Text) : List Component :=
  if t.head? = some '/' then [.root] else if (parts t).head? = some ['.'] then [.here] else []

/-- The components of a path. Delimiters that follow others and names that mean "here" do not count, but
for the one that a path begins with. -/
def components (t : Text) : List Component := origin t ++ (names t).map .ofName

/-- Whether a path lies below a directory, or is it: its components are those of the directory, and more
that do not go up. -/
def Below (dir path : Text) : Prop :=
  ∃ added, components path = components dir ++ added ∧ .up ∉ added

variable {dir path t u : Text}

/-! ### Names along a path -/

theorem names_append_cons (t u : Text) : names (t ++ '/' :: u) = names t ++ names u := by
  rw [names, parts_append_cons, List.filter_append]
  rfl

theorem names_nil : names [] = [] := rfl

/-- The delimiter at the end of a path does not count. -/
theorem names_concat (t : Text) : names (t ++ ['/']) = names t := by
  rw [names_append_cons, names_nil, List.append_nil]

/-- Behind a directory come its names before those of a path in it. -/
theorem names_append (hdir : dir = [] ∨ endsInSlash dir = true) (path : Text) :
    names (dir ++ path) = names dir ++ names path := by
  rcases hdir with rfl | hend
  · rfl
  · obtain ⟨start, rfl⟩ := endsInSlash_iff.mp hend
    rw [List.append_assoc, List.singleton_append, names_append_cons, names_concat]

theorem names_cons_slash (u : Text) : names ('/' :: u) = names u := names_append_cons [] u

theorem names_withoutLeadingSlashes (t : Text) : names t.withoutLeadingSlashes = names t := by
  rw [withoutLeadingSlashes]
  induction t with
  | nil => rfl
  | cons c t ih =>
    by_cases hc : c = '/'
    · subst hc
      rw [List.dropWhile_cons_of_pos rfl, ih, names_cons_slash]
    · rw [List.dropWhile_cons_of_neg (by simpa using hc)]

theorem uptoLastSlash_append_afterLastSlash (t : Text) : uptoLastSlash t ++ afterLastSlash t = t := by
  rw [uptoLastSlash, afterLastSlash, ← List.reverse_append, List.takeWhile_append_dropWhile,
    List.reverse_reverse]

theorem uptoLastSlash_eq_nil_or (t : Text) :
    uptoLastSlash t = [] ∨ endsInSlash (uptoLastSlash t) = true := by
  have hhead := List.head?_dropWhile_not (· != '/') t.reverse
  rw [uptoLastSlash, endsInSlash, List.getLast?_reverse, List.reverse_eq_nil_iff]
  cases hdrop : t.reverse.dropWhile (· != '/') with
  | nil => exact Or.inl rfl
  | cons c rest =>
    rw [hdrop] at hhead
    exact Or.inr (by simpa using hhead)

theorem notMem_afterLastSlash (t : Text) : '/' ∉ afterLastSlash t := by
  rw [afterLastSlash, List.mem_reverse]
  exact fun hmem => by simpa using List.mem_takeWhile_imp hmem

/-- The directory of a path has its first names. -/
theorem names_uptoLastSlash_isPrefix (t : Text) : names t.uptoLastSlash <+: names t := by
  refine ⟨names t.afterLastSlash, ?_⟩
  rw [← names_append (uptoLastSlash_eq_nil_or t), uptoLastSlash_append_afterLastSlash]

/-- A path is absolute when its directory is. -/
theorem head?_uptoLastSlash (t : Text) : t.uptoLastSlash.head? = some '/' ↔ t.head? = some '/' := by
  have ht := uptoLastSlash_append_afterLastSlash t
  rcases eq_or_ne t.uptoLastSlash [] with hnil | hne
  · -- nothing in the path is a delimiter, so it does not begin with one
    have hafter := notMem_afterLastSlash t
    rw [hnil, List.nil_append] at ht
    rw [ht] at hafter
    rw [hnil]
    refine ⟨fun hhead => ?_, fun hhead => absurd (List.mem_of_head? hhead) hafter⟩
    cases hhead
  · have hhead : (t.uptoLastSlash ++ t.afterLastSlash).head? = t.uptoLastSlash.head? :=
      List.head?_append_of_ne_nil _ hne
    rw [← hhead, ht]

/-! ### Going up -/

theorem climbs_iff : climbs t = true ↔ ['.', '.'] ∈ names t := by
  rw [climbs, List.contains_iff_mem]

theorem up_mem_map_ofName {names : List Text} :
    .up ∈ names.map Component.ofName ↔ ['.', '.'] ∈ names := by
  rw [List.mem_map]
  constructor
  · rintro ⟨t, ht, hup⟩
    rw [Component.ofName] at hup
    split at hup
    · rename_i heq
      rwa [← heq]
    · cases hup
  · intro h
    exact ⟨_, h, if_pos rfl⟩

theorem climbs_withoutLeadingSlashes (t : Text) : climbs t.withoutLeadingSlashes = climbs t := by
  rw [climbs, climbs, names_withoutLeadingSlashes]

/-- A path that does not go up has a directory that does not. -/
theorem climbs_uptoLastSlash (h : climbs t = false) : climbs t.uptoLastSlash = false := by
  rw [Bool.eq_false_iff, ne_eq, climbs_iff] at h ⊢
  exact fun hmem => h ((names_uptoLastSlash_isPrefix t).subset hmem)

theorem IsName.climbs_eq_false {name : Text} (h : IsName name) : climbs name = false := by
  refine Text.climbs_eq_false ?_
  rw [parts_of_notMem h.undelimited, List.mem_singleton]
  exact h.ne_up.symm

/-! ### Components of joined paths -/

theorem origin_append_cons (hdir : dir ≠ []) (u : Text) : origin (dir ++ '/' :: u) = origin dir := by
  have hparts : (parts (dir ++ '/' :: u)).head? = (parts dir).head? := by
    rw [parts_append_cons, List.head?_append_of_ne_nil _ (parts_ne_nil dir)]
  rw [origin, origin, hparts, List.head?_append_of_ne_nil _ hdir]

/-- The delimiter at the end of a directory does not count. -/
theorem components_concat (hdir : dir ≠ []) : components (dir ++ ['/']) = components dir := by
  rw [components, components, origin_append_cons hdir, names_concat]

theorem components_append_cons (dir path : Text) :
    components (dir ++ '/' :: path) = components (dir ++ ['/']) ++ (names path).map .ofName := by
  have horigin : origin (dir ++ '/' :: path) = origin (dir ++ ['/']) := by
    rcases eq_or_ne dir [] with rfl | hdir
    · rfl
    · rw [origin_append_cons hdir, origin_append_cons hdir]
  rw [components, components, horigin, names_append_cons, names_concat, List.map_append,
    List.append_assoc]

/-- A relative path adds its names to the components of the directory that it is joined to. -/
theorem components_joined (hdir : dir ≠ []) (hpath : path.head? ≠ some '/') :
    components (joined dir path) = components dir ++ (names path).map .ofName := by
  rw [joined, if_neg (by simpa using hpath)]
  cases hend : endsInSlash dir with
  | false => rw [if_neg (by simp [hdir]), components_append_cons, components_concat hdir]
  | true =>
    obtain ⟨start, rfl⟩ := endsInSlash_iff.mp hend
    rw [if_pos (by simp), List.append_assoc, List.singleton_append, components_append_cons]

/-! ### Paths below directories -/

namespace Below

variable {a b c : Text}

theorem refl (dir : Text) : Below dir dir := ⟨[], (List.append_nil _).symm, List.not_mem_nil⟩

theorem trans (hab : Below a b) (hbc : Below b c) : Below a c := by
  obtain ⟨added, hadded, hup⟩ := hab
  obtain ⟨added', hadded', hup'⟩ := hbc
  refine ⟨added ++ added', by rw [hadded', hadded, List.append_assoc], ?_⟩
  rw [List.mem_append, not_or]
  exact ⟨hup, hup'⟩

end Below

/-- Below no directory in particular lies every path that does not go up. -/
theorem below_nil (hup : ['.', '.'] ∉ names path) : Below [] path := by
  refine ⟨components path, rfl, ?_⟩
  rw [components, List.mem_append, not_or]
  refine ⟨?_, mt up_mem_map_ofName.mp hup⟩
  rw [origin]
  split
  · simp
  · split <;> simp

/-- A relative path that does not go up lies below the directory that it is joined to. -/
theorem below_joined (dir : Text) (hpath : path.head? ≠ some '/') (hclimbs : climbs path = false) :
    Below dir (joined dir path) := by
  have hup : ['.', '.'] ∉ names path := by
    rwa [Bool.eq_false_iff, ne_eq, climbs_iff] at hclimbs
  rcases eq_or_ne dir [] with rfl | hdir
  · have hjoined : joined [] path = path := by
      rw [joined, if_neg (by simpa using hpath), if_pos (by simp), List.nil_append]
    rw [hjoined]
    exact below_nil hup
  · exact ⟨_, components_joined hdir hpath, mt up_mem_map_ofName.mp hup⟩

end Text

end ObjectListing
