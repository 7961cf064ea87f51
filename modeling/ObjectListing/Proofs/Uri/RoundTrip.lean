import ObjectListing.Proofs.Uri.Grammar

/-!
URIs that are written and read again. What reading gives is written as a text of the grammar that stands
for the same place (`Uri.Spells.text`). Reading takes the blanks at the end of that text away before it
looks at the grammar, and a bucket of files without a path may end in such blanks: these are the places
that do not come back (`Uri.parse_text_eq_ok_iff`).
-/

namespace ObjectListing

open Text

namespace Uri

variable {s t rest bucket path name : Text} {u : Uri}

/-- What stands behind the mark in a URI as text. -/
def written (bucket path : Text) : Text :=
  bucket ++ if path.isEmpty then [] else if endsInSlash bucket then path else '/' :: path

theorem text_eq (u : Uri) : u.text = u.scheme.name ++ mark ++ written u.bucket u.path := by
  rw [text, written, ← List.append_assoc]

@[simp] theorem written_nil (bucket : Text) : written bucket [] = bucket := List.append_nil bucket

theorem written_of_not_endsInSlash (h : endsInSlash bucket = false) (hpath : path ≠ []) :
    written bucket path = bucket ++ '/' :: path := by
  simp [written, h, hpath]

/-! ### The grammar -/

/-- A scheme is named by its own name. -/
theorem namedBy_name : ∀ scheme : Scheme, scheme.NamedBy scheme.name
  | .s3 => Scheme.namedBy_iff.mpr (by decide)
  | .file => Scheme.namedBy_iff.mpr (by decide)

theorem ObjectRest.written (h : ObjectRest rest bucket path) :
    ObjectRest (written bucket path) bucket path := by
  cases h with
  | all => exact .all
  | slash => exact .all
  | bucket hbucket =>
    rw [written_nil]
    exact .bucket hbucket
  | path hbucket path =>
    rcases eq_or_ne path [] with rfl | hpath
    · rw [written_nil]
      exact .bucket hbucket
    · rw [written_of_not_endsInSlash (not_endsInSlash_of_notMem hbucket.undelimited) hpath]
      exact .path hbucket path

/-- A bucket of files as it is written: a name, which may be empty, with or without a delimiter. -/
theorem fileRest_rooted (n : Nat) (h : '/' ∉ name) : FileRest (rooted n name) (rooted n name) [] := by
  rcases eq_or_ne name [] with rfl | hne
  · cases n with
    | zero => exact .all
    | succ n => exact .top 0
  · cases n with
    | zero => exact .directory 0 hne h
    | succ n => exact .directory 1 hne h

theorem not_endsInSlash_rooted (n : Nat) (hne : name ≠ []) (h : '/' ∉ name) :
    endsInSlash (rooted n name) = false := by
  rw [rooted]
  split
  · exact not_endsInSlash_of_notMem h
  · rw [← List.singleton_append, endsInSlash_append hne, not_endsInSlash_of_notMem h]

theorem FileRest.written (h : FileRest rest bucket path) :
    FileRest (written bucket path) bucket path := by
  cases h with
  | all => exact .all
  | top n => exact .top 0
  | directory n hne hname =>
    rw [written_nil]
    exact fileRest_rooted n hname
  | path n hne hname path =>
    rcases eq_or_ne path [] with rfl | hpath
    · rw [written_nil]
      exact fileRest_rooted n hname
    · rw [written_of_not_endsInSlash (not_endsInSlash_rooted n hne hname) hpath]
      cases n with
      | zero => exact .path 0 hne hname path
      | succ n => exact .path 1 hne hname path

/-- What stands for a place is written as a text that stands for it. -/
theorem Spells.text (h : Spells t u) : Spells u.text u := by
  rw [text_eq]
  cases h with
  | object _ hrest => exact .object (namedBy_name .s3) hrest.written
  | file _ hrest => exact .file (namedBy_name .file) hrest.written

/-! ### Blanks -/

theorem not_endsInBlank_of_isBucketName (h : IsBucketName bucket) : endsInBlank bucket = false := by
  refine not_endsInBlank_of_forall fun c hc => ?_
  have hle (a b : Char) : a ≤ b ↔ a.toNat ≤ b.toNat := Iff.rfl
  have hchar := h.chars c hc
  simp only [hle, ← Char.toNat_inj, Char.reduceToNat] at hchar
  simp only [isBlank, Bool.or_eq_false_iff, Bool.and_eq_false_iff, decide_eq_false_iff_not,
    beq_eq_false_iff_ne]
  omega

theorem beginsWithBlank_text (u : Uri) : beginsWithBlank u.text = false := by
  obtain ⟨scheme, bucket, path⟩ := u
  cases scheme <;> rfl

/-- A path stands at the end of the texts that spell it. -/
theorem Spells.isSuffix (h : Spells t u) : u.path <:+ t := by
  cases h with
  | object _ hrest =>
    refine List.IsSuffix.trans ?_ (List.suffix_append _ _)
    cases hrest with
    | all | slash | bucket => exact List.nil_suffix
    | path => exact (List.suffix_cons '/' _).trans (List.suffix_append _ _)
  | file _ hrest =>
    refine List.IsSuffix.trans ?_ (List.suffix_append _ _)
    cases hrest with
    | all | top | directory => exact List.nil_suffix
    | path => exact (List.suffix_cons '/' _).trans (List.suffix_append _ _)

/-- A text that ends in a path ends in a blank when the path does. -/
theorem endsInBlank_of_isSuffix (h : path <:+ t) (hpath : path ≠ []) :
    endsInBlank t = endsInBlank path := by
  obtain ⟨start, rfl⟩ := h
  exact endsInBlank_append hpath

theorem ObjectRest.endsInBlank (h : ObjectRest rest bucket path) : endsInBlank bucket = false := by
  cases h with
  | all | slash => rfl
  | bucket hbucket | path hbucket => exact not_endsInBlank_of_isBucketName hbucket

theorem ObjectRest.trimmedEnd (h : ObjectRest rest bucket path) :
    ObjectRest (trimmedEnd bucket) (trimmedEnd bucket) [] := by
  rw [trimmedEnd_eq_self_iff.mpr h.endsInBlank]
  cases h with
  | all | slash => exact .all
  | bucket hbucket | path hbucket => exact .bucket hbucket

/-- A bucket of files without the blanks at its end is a bucket again. -/
theorem FileRest.trimmedEnd (h : FileRest rest bucket path) :
    FileRest (trimmedEnd bucket) (trimmedEnd bucket) [] := by
  have hrooted (n : Nat) {name : Text} (hname : '/' ∉ name) :
      FileRest (Text.trimmedEnd (rooted n name)) (Text.trimmedEnd (rooted n name)) [] := by
    have hkeeps : Text.trimmedEnd (rooted n name) = rooted n (Text.trimmedEnd name) := by
      have hslash : Text.endsInBlank ['/'] = false := rfl
      cases n with
      | zero => rfl
      | succ n => exact trimmedEnd_append hslash name
    have hfirst : Text.trimmedEnd name <+: name := List.rdropWhile_prefix _ _
    rw [hkeeps]
    exact fileRest_rooted n fun hmem => hname (hfirst.subset hmem)
  cases h with
  | all => exact .all
  | top => exact .top 0
  | directory n _ hname | path n _ hname => exact hrooted n hname

/-- A place that can be read is one without the blanks at the end of its bucket, too. -/
theorem Spells.trimmedEnd (h : Spells t u) :
    ∃ t', Spells t' ⟨u.scheme, trimmedEnd u.bucket, []⟩ := by
  cases h with
  | object hname hrest => exact ⟨_, .object hname hrest.trimmedEnd⟩
  | file hname hrest => exact ⟨_, .file hname hrest.trimmedEnd⟩

theorem Spells.endsInBlank_of_object (h : Spells t u) (hscheme : u.scheme = .s3) :
    endsInBlank u.bucket = false := by
  cases h with
  | object _ hrest => exact hrest.endsInBlank
  | file => cases hscheme

theorem Spells.isBucketName (h : Spells t u) (hscheme : u.scheme = .s3) (hbucket : u.bucket ≠ []) :
    IsBucketName u.bucket := by
  cases h with
  | object _ hrest =>
    cases hrest with
    | all | slash => exact absurd rfl hbucket
    | bucket hname | path hname => exact hname
  | file => cases hscheme

/-! ### Reading what was written -/

theorem trimmed_text_of_path (hlast : endsInBlank u.text = false) : trimmed u.text = u.text :=
  Trimmed.trimmed_eq ⟨beginsWithBlank_text u, hlast⟩

theorem trimmed_text_of_nil (hpath : u.path = []) :
    trimmed u.text = text ⟨u.scheme, trimmedEnd u.bucket, []⟩ := by
  have hmark : endsInBlank (u.scheme.name ++ mark) = false := by cases u.scheme <;> rfl
  rw [trimmed, dropWhile_isBlank_eq_self (beginsWithBlank_text u), text_eq, text_eq, hpath,
    written_nil, written_nil, trimmedEnd_append hmark]

/-- Reading what was written gives the same place, but for the blanks at the end of a bucket without a
path. -/
theorem parse_text (h : parse s = .ok u) : parse u.text =
    .ok { u with bucket := if u.path = [] then trimmedEnd u.bucket else u.bucket } := by
  have hspells : Spells s.trimmed u := parse_eq_ok_iff.mp h
  rw [parse_eq_ok_iff]
  by_cases hpath : u.path = []
  · obtain ⟨t', ht'⟩ := hspells.trimmedEnd
    rw [trimmed_text_of_nil hpath, if_pos hpath, hpath]
    exact ht'.text
  · have hlast : endsInBlank u.text = false := by
      rw [endsInBlank_of_isSuffix hspells.text.isSuffix hpath,
        ← endsInBlank_of_isSuffix hspells.isSuffix hpath]
      exact not_endsInBlank_trimmedEnd _
    rw [trimmed_text_of_path hlast, if_neg hpath]
    exact hspells.text

/-- A key is written in a URI behind its bucket, and read again without the blanks at its end. -/
theorem parse_text_key (h : IsBucketName bucket) (key : Text) :
    parse (text ⟨.s3, bucket, key⟩) = .ok ⟨.s3, bucket, trimmedEnd key⟩ := by
  rw [parse_eq_ok_iff, trimmed, dropWhile_isBlank_eq_self (beginsWithBlank_text _), text_eq]
  dsimp only
  rcases eq_or_ne key [] with rfl | hkey
  · have hlast : endsInBlank (Scheme.s3.name ++ mark ++ bucket) = false := by
      rw [endsInBlank_append h.ne_nil, not_endsInBlank_of_isBucketName h]
    rw [written_nil, trimmedEnd_eq_self_iff.mpr hlast]
    exact .object (namedBy_name .s3) (.bucket h)
  · have hslash : endsInBlank (Scheme.s3.name ++ mark ++ (bucket ++ ['/'])) = false := by
      rw [endsInBlank_append (by simp), endsInBlank_append (by simp)]
      rfl
    rw [written_of_not_endsInSlash (not_endsInSlash_of_notMem h.undelimited) hkey,
      List.append_cons bucket, ← List.append_assoc, trimmedEnd_append hslash, List.append_assoc,
      ← List.append_cons]
    exact .object (namedBy_name .s3) (.path h _)

/-- A place that was read comes back when it is written and read again, unless it is a bucket of files
without a path that ends in a blank. -/
theorem parse_text_eq_ok_iff (h : parse s = .ok u) :
    parse u.text = .ok u ↔ ¬ (u.scheme = .file ∧ u.path = [] ∧ endsInBlank u.bucket = true) := by
  have hspells : Spells s.trimmed u := parse_eq_ok_iff.mp h
  have hsame : parse u.text = .ok u ↔
      (if u.path = [] then trimmedEnd u.bucket else u.bucket) = u.bucket := by
    rw [parse_text h, Except.ok.injEq, Uri.mk.injEq]
    simp
  rw [hsame]
  by_cases hpath : u.path = []
  · rw [if_pos hpath, trimmedEnd_eq_self_iff]
    cases hscheme : u.scheme with
    | s3 => simp [hspells.endsInBlank_of_object hscheme]
    | file => simp [hpath]
  · simp [hpath]

/-- With blanks around it, a capital in the name of its scheme and three delimiters in front of its
bucket, a URI comes back. -/
theorem parse_text_spelt_otherwise :
    parse (Text.of " LocalFS:///tmp/a ") = .ok ⟨.file, Text.of "/tmp", Text.of "a"⟩ ∧
      parse (text ⟨.file, Text.of "/tmp", Text.of "a"⟩) =
        .ok ⟨.file, Text.of "/tmp", Text.of "a"⟩ := by
  have h : parse (Text.of " LocalFS:///tmp/a ") = .ok ⟨.file, Text.of "/tmp", Text.of "a"⟩ := by rfl
  exact ⟨h, (parse_text_eq_ok_iff h).mpr (by decide)⟩

/-- A bucket of files that ends in a blank comes back without it. -/
theorem not_parse_text_of_blank : ¬ ∀ s u, parse s = .ok u → parse u.text = .ok u := by
  intro hall
  have hread : parse (Text.of "file://tmp /") = .ok ⟨.file, Text.of "tmp ", []⟩ := by rfl
  have hagain : parse (text ⟨.file, Text.of "tmp ", []⟩) = .ok ⟨.file, Text.of "tmp", []⟩ := by rfl
  rw [hall _ _ hread, Except.ok.injEq] at hagain
  exact absurd hagain (by decide)

end Uri

end ObjectListing
