import Mathlib.Data.List.Forall2
import ObjectListing.Proofs.Text.Blank
import ObjectListing.Proofs.Text.Letters
import ObjectListing.Proofs.Text.Order
import ObjectListing.Uri

/-!
The grammar of storage URIs. A URI is the name of a scheme, in small letters or capitals, then `://`,
then a bucket and a path as the scheme writes them (`Uri.Spells`). Reading accepts the texts of the
grammar, with any blanks around them, and no others (`Uri.parse_eq_ok_iff_spells`).
-/

namespace ObjectListing

open Text

/-! ### Names of schemes -/

/-- Whether a text is a word in which some letters may be capital. -/
def Text.Spelt (word t : Text) : Prop := List.Forall₂ (fun d c => c = d ∨ c = asciiCapital d) word t

namespace Text

theorem map_asciiSmall_eq_iff {word : Text} (h : ∀ d ∈ word, ¬ ('A' ≤ d ∧ d ≤ 'Z')) {name : Text} :
    name.map asciiSmall = word ↔ Spelt word name := by
  induction word generalizing name with
  | nil => rw [Spelt, List.forall₂_nil_left_iff, List.map_eq_nil_iff]
  | cons d word ih =>
    obtain ⟨hd, hword⟩ := List.forall_mem_cons.mp h
    cases name with
    | nil => exact ⟨nofun, nofun⟩
    | cons c name =>
      rw [List.map_cons, List.cons_eq_cons, asciiSmall_eq_iff hd, ih hword]
      exact (List.forall₂_cons (R := fun d c => c = d ∨ c = asciiCapital d)).symm

/-- What is true of the letters of a word and of their capitals is true of the word as it is spelt. -/
theorem Spelt.forall_mem {p : Char → Bool} {word t : Text} (h : Spelt word t)
    (hp : word.all (fun d => p d && p (asciiCapital d)) = true) : ∀ c ∈ t, p c = true := by
  induction h with
  | nil => exact nofun
  | cons hc _ ih =>
    rw [List.all_cons, Bool.and_eq_true, Bool.and_eq_true] at hp
    refine List.forall_mem_cons.mpr ⟨?_, ih hp.2⟩
    rcases hc with rfl | rfl
    · exact hp.1.1
    · exact hp.1.2

end Text

namespace Scheme

/-- The words for a scheme. -/
def words : Scheme → List Text
  | s3 => [['s', '3']]
  | file => [['f', 'i', 'l', 'e'], ['l', 'o', 'c', 'a', 'l', 'f', 's']]

/-- Whether a text names a scheme. -/
def NamedBy (scheme : Scheme) (name : Text) : Prop := ∃ word ∈ scheme.words, Spelt word name

variable {scheme : Scheme} {name : Text}

/-- The words have no capitals. -/
theorem not_capital_of_mem_words : ∀ {scheme : Scheme}, ∀ word ∈ scheme.words, ∀ d ∈ word,
    ¬ ('A' ≤ d ∧ d ≤ 'Z')
  | s3 => by simp [words]
  | file => by simp [words]

theorem namedBy_iff : scheme.NamedBy name ↔ name.map asciiSmall ∈ scheme.words := by
  rw [NamedBy]
  refine ⟨fun ⟨word, hword, hname⟩ => ?_, fun h => ⟨_, h, ?_⟩⟩
  · rwa [(map_asciiSmall_eq_iff (not_capital_of_mem_words word hword)).mpr hname]
  · exact (map_asciiSmall_eq_iff (not_capital_of_mem_words _ h)).mp rfl

theorem ofName?_eq_some_iff : ofName? name = some scheme ↔ scheme.NamedBy name := by
  rw [namedBy_iff, ofName?]
  generalize name.map asciiSmall = small
  have hs3 : Text.of "s3" = ['s', '3'] := of_str _
  have hfile : Text.of "file" = ['f', 'i', 'l', 'e'] := of_str _
  have hlocal : Text.of "localfs" = ['l', 'o', 'c', 'a', 'l', 'f', 's'] := of_str _
  cases scheme <;> simp only [words, hs3, hfile, hlocal, List.mem_cons] <;> grind

end Scheme

namespace Uri

/-! ### Scheme and rest -/

/-- Whether a text has the form of a scheme name: a letter, then letters, digits, `+`, `.` and `-`. -/
structure IsSchemeName (name : Text) : Prop where
  head : ∃ c ∈ name.head?, c.isAlpha = true
  chars : ∀ c ∈ name, isSchemeChar c = true

/-- A scheme name ends where `://` begins. -/
theorem splitScheme?_eq_some_iff {t name rest : Text} :
    splitScheme? t = some (name, rest) ↔ t = name ++ mark ++ rest ∧ IsSchemeName name := by
  constructor
  · intro h
    cases t with
    | nil => cases h
    | cons c cs =>
      rw [splitScheme?] at h
      split at h
      · rename_i hc
        simp only [Option.map_eq_some_iff, after?_eq_some_iff, Prod.mk.injEq] at h
        obtain ⟨rest, hrest, rfl, rfl⟩ := h
        have hchar : isSchemeChar c = true := by simp [isSchemeChar, Char.isAlphanum, hc]
        rw [List.append_assoc, ← hrest, List.takeWhile_append_dropWhile]
        refine ⟨rfl, ⟨c, ?_, hc⟩, fun d hd => List.mem_takeWhile_imp hd⟩
        rw [List.takeWhile_cons_of_pos hchar]
        rfl
      · cases h
  · rintro ⟨rfl, ⟨c, hhead, hc⟩, hchars⟩
    obtain ⟨cs, rfl⟩ := List.head?_eq_some_iff.mp hhead
    have hstop : ¬ isSchemeChar ':' = true := by decide
    have htake : (c :: cs ++ mark ++ rest).takeWhile isSchemeChar = c :: cs := by
      rw [List.append_assoc, List.takeWhile_append_of_pos hchars]
      exact (congrArg _ (List.takeWhile_cons_of_neg hstop)).trans (List.append_nil _)
    have hdrop : (c :: cs ++ mark ++ rest).dropWhile isSchemeChar = mark ++ rest := by
      rw [List.append_assoc, List.dropWhile_append_of_pos hchars]
      exact List.dropWhile_cons_of_neg hstop
    rw [splitScheme?.eq_def, htake, hdrop, after?_append]
    exact if_pos hc

end Uri

/-- The words for a scheme have the form of scheme names, in small letters or capitals. -/
theorem Scheme.NamedBy.isSchemeName {scheme : Scheme} {name : Text} (h : scheme.NamedBy name) :
    Uri.IsSchemeName name := by
  obtain ⟨word, hword, hname⟩ := h
  have hform : ∃ d ds, word = d :: ds ∧ (d.isAlpha ∧ (asciiCapital d).isAlpha) ∧
      word.all (fun e => Uri.isSchemeChar e && Uri.isSchemeChar (asciiCapital e)) = true := by
    cases scheme with
    | s3 =>
      obtain rfl : word = ['s', '3'] := by simpa [Scheme.words] using hword
      exact ⟨_, _, rfl, by decide, by decide⟩
    | file =>
      have hwords : word = ['f', 'i', 'l', 'e'] ∨ word = ['l', 'o', 'c', 'a', 'l', 'f', 's'] := by
        simpa [Scheme.words] using hword
      rcases hwords with rfl | rfl
      · exact ⟨_, _, rfl, by decide, by decide⟩
      · exact ⟨_, _, rfl, by decide, by decide⟩
  obtain ⟨d, ds, rfl, hd, hword⟩ := hform
  refine ⟨?_, hname.forall_mem hword⟩
  obtain ⟨c, cs, hc, hcs, rfl⟩ := List.forall₂_cons_left_iff.mp hname
  refine ⟨c, rfl, ?_⟩
  rcases hc with rfl | rfl
  · exact hd.1
  · exact hd.2

namespace Uri

variable {rest bucket path : Text} {u : Uri}

/-! ### Bucket and path of an object store -/

/-- Whether a text is one or more of the characters of bucket names. -/
structure IsBucketName (bucket : Text) : Prop where
  ne_nil : bucket ≠ []
  chars : ∀ c ∈ bucket, ('a' ≤ c ∧ c ≤ 'z') ∨ ('0' ≤ c ∧ c ≤ '9') ∨ c = '.' ∨ c = '_' ∨ c = '-'

theorem isBucketChar_iff {c : Char} : isBucketChar c = true ↔
    ('a' ≤ c ∧ c ≤ 'z') ∨ ('0' ≤ c ∧ c ≤ '9') ∨ c = '.' ∨ c = '_' ∨ c = '-' := by
  have hlower : c.isLower = true ↔ 'a' ≤ c ∧ c ≤ 'z' :=
    Bool.and_eq_true_iff.trans (and_congr decide_eq_true_iff decide_eq_true_iff)
  have hdigit : c.isDigit = true ↔ '0' ≤ c ∧ c ≤ '9' :=
    Bool.and_eq_true_iff.trans (and_congr decide_eq_true_iff decide_eq_true_iff)
  simp only [isBucketChar, hlower, hdigit, Bool.or_eq_true, beq_iff_eq, or_assoc]

theorem isBucketName_iff : IsBucketName bucket ↔ bucket ≠ [] ∧ bucket.all isBucketChar = true := by
  rw [List.all_eq_true]
  exact ⟨fun h => ⟨h.ne_nil, fun c hc => isBucketChar_iff.mpr (h.chars c hc)⟩,
    fun h => ⟨h.1, fun c hc => isBucketChar_iff.mp (h.2 c hc)⟩⟩

theorem IsBucketName.undelimited (h : IsBucketName bucket) : '/' ∉ bucket := by
  intro hmem
  have hslash : isBucketChar '/' = true := isBucketChar_iff.mpr (h.chars '/' hmem)
  exact absurd hslash (by decide)

/-- How an object store writes a bucket and a path: neither, or a bucket, behind which the path comes
after a delimiter. -/
inductive ObjectRest : Text → Text → Text → Prop
  | all : ObjectRest [] [] []
  | slash : ObjectRest ['/'] [] []
  | bucket {bucket : Text} (h : IsBucketName bucket) : ObjectRest bucket bucket []
  | path {bucket : Text} (h : IsBucketName bucket) (path : Text) :
    ObjectRest (bucket ++ '/' :: path) bucket path

/-- A bucket in front of a path passes when it is a bucket name. -/
theorem checked_eq_ok_iff {name tail : Text} (hne : name ≠ []) :
    (if name.all isBucketChar then .ok (name, tail) else .error (UriFault.badBucketName name)) =
      Except.ok (bucket, path) ↔ IsBucketName name ∧ name = bucket ∧ tail = path := by
  rw [isBucketName_iff]
  split
  · rename_i hall
    simp [hne, hall]
  · rename_i hall
    simp [hall]

theorem splitObject_eq_ok_iff :
    splitObject rest = .ok (bucket, path) ↔ ObjectRest rest bucket path := by
  constructor
  · intro h
    rcases notMem_or_eq_append_cons '/' rest with hrest | ⟨name, tail, hname, rfl⟩
    · simp only [splitObject, cut_of_notMem hrest, List.isEmpty_iff, Option.getD_none, if_true] at h
      split at h
      · rename_i hnil
        subst hnil
        cases h
        exact .all
      · rename_i hne
        obtain ⟨hbucket, rfl, rfl⟩ := (checked_eq_ok_iff hne).mp h
        exact .bucket hbucket
    · simp only [splitObject, cut_append_cons hname, List.isEmpty_iff, Option.getD_some] at h
      split at h
      · rename_i hnil
        subst hnil
        split at h
        · rename_i htail
          subst htail
          cases h
          exact .slash
        · cases h
      · rename_i hne
        obtain ⟨hbucket, rfl, rfl⟩ := (checked_eq_ok_iff hne).mp h
        exact .path hbucket tail
  · rintro (_ | _ | h | ⟨h, path⟩)
    · rfl
    · rfl
    · simp only [splitObject, cut_of_notMem h.undelimited, List.isEmpty_iff, Option.getD_none,
        if_neg h.ne_nil]
      exact (checked_eq_ok_iff h.ne_nil).mpr ⟨h, rfl, rfl⟩
    · simp only [splitObject, cut_append_cons h.undelimited, List.isEmpty_iff, Option.getD_some,
        if_neg h.ne_nil]
      exact (checked_eq_ok_iff h.ne_nil).mpr ⟨h, rfl, rfl⟩

/-! ### Bucket and path of a store of files -/

/-- A name with a delimiter in front of it when there were any. -/
def rooted (slashes : Nat) (name : Text) : Text := if slashes = 0 then name else '/' :: name

/-- How a store of files writes a bucket and a path: neither, or delimiters only, which stand for the
top, or a name, which may have delimiters in front, and behind it the path after one more. -/
inductive FileRest : Text → Text → Text → Prop
  | all : FileRest [] [] []
  | top (n : Nat) : FileRest (List.replicate (n + 1) '/') ['/'] []
  | directory (n : Nat) {name : Text} (hne : name ≠ []) (h : '/' ∉ name) :
    FileRest (List.replicate n '/' ++ name) (rooted n name) []
  | path (n : Nat) {name : Text} (hne : name ≠ []) (h : '/' ∉ name) (path : Text) :
    FileRest (List.replicate n '/' ++ name ++ '/' :: path) (rooted n name) path

theorem exists_replicate_append (rest : Text) :
    ∃ n, ∃ q : Text, q.head? ≠ some '/' ∧ rest = List.replicate n '/' ++ q := by
  refine ⟨(rest.takeWhile (· == '/')).length, rest.withoutLeadingSlashes,
    head?_withoutLeadingSlashes_ne rest, ?_⟩
  have hall : rest.takeWhile (· == '/') = List.replicate (rest.takeWhile (· == '/')).length '/' :=
    List.eq_replicate_of_mem fun c hc => by simpa using List.mem_takeWhile_imp hc
  rw [← hall, withoutLeadingSlashes, List.takeWhile_append_dropWhile]

/-- Only whether there are leading delimiters counts, not how many. -/
theorem splitFile_replicate_append (n : Nat) {q : Text} (hq : q.head? ≠ some '/') :
    splitFile (List.replicate n '/' ++ q) = (rooted n (cut '/' q).1, (cut '/' q).2.getD []) := by
  have hdrop : withoutLeadingSlashes (List.replicate n '/' ++ q) = q := by
    rw [withoutLeadingSlashes, List.dropWhile_append_of_pos (by simp)]
    cases q with
    | nil => rfl
    | cons c cs => exact List.dropWhile_cons_of_neg (by simpa using hq)
  rw [splitFile, hdrop]
  cases n with
  | zero => simp [rooted, hq]
  | succ n => simp [rooted, List.replicate_succ]

theorem splitFile_eq_iff : splitFile rest = (bucket, path) ↔ FileRest rest bucket path := by
  constructor
  · intro h
    obtain ⟨n, q, hq, rfl⟩ := exists_replicate_append rest
    rw [splitFile_replicate_append n hq, Prod.mk.injEq] at h
    obtain ⟨rfl, rfl⟩ := h
    rcases notMem_or_eq_append_cons '/' q with hmem | ⟨name, tail, hname, rfl⟩
    · rw [cut_of_notMem hmem]
      by_cases hne : q = []
      · subst hne
        rw [List.append_nil]
        cases n with
        | zero => exact .all
        | succ n => exact .top n
      · exact .directory n hne hmem
    · have hne : name ≠ [] := by
        rintro rfl
        exact hq rfl
      rw [cut_append_cons hname, ← List.append_assoc]
      exact .path n hne hname tail
  · rintro (_ | n | ⟨n, hne, h⟩ | ⟨n, hne, h, path⟩)
    · rfl
    · have hsplit := splitFile_replicate_append (n + 1) (q := []) nofun
      rwa [List.append_nil] at hsplit
    · rw [splitFile_replicate_append n fun hhead => h (List.mem_of_head? hhead), cut_of_notMem h]
      rfl
    · rw [List.append_assoc, splitFile_replicate_append n, cut_append_cons h]
      · rfl
      · rw [List.head?_append_of_ne_nil _ hne]
        exact fun hhead => h (List.mem_of_head? hhead)

/-! ### The grammar -/

/-- The texts of the grammar and the places they stand for. -/
inductive Spells : Text → Uri → Prop
  | object {name rest bucket path : Text} (hname : Scheme.s3.NamedBy name)
    (hrest : ObjectRest rest bucket path) : Spells (name ++ mark ++ rest) ⟨.s3, bucket, path⟩
  | file {name rest bucket path : Text} (hname : Scheme.file.NamedBy name)
    (hrest : FileRest rest bucket path) : Spells (name ++ mark ++ rest) ⟨.file, bucket, path⟩

theorem splitScheme?_of_namedBy {scheme : Scheme} {name : Text} (h : scheme.NamedBy name)
    (rest : Text) : splitScheme? (name ++ mark ++ rest) = some (name, rest) :=
  splitScheme?_eq_some_iff.mpr ⟨rfl, h.isSchemeName⟩

theorem parseTrimmed_eq_ok_iff {t : Text} : parseTrimmed t = .ok u ↔ Spells t u := by
  constructor
  · intro h
    rw [parseTrimmed] at h
    split at h
    · cases h
    · split at h
      · cases h
      · rename_i name rest hsplit
        obtain ⟨rfl, -⟩ := splitScheme?_eq_some_iff.mp hsplit
        split at h
        · cases h
        · rename_i hname
          cases hobject : splitObject rest with
          | error fault =>
            rw [hobject] at h
            cases h
          | ok place =>
            rw [hobject] at h
            cases h
            exact .object (Scheme.ofName?_eq_some_iff.mp hname) (splitObject_eq_ok_iff.mp hobject)
        · rename_i hname
          cases h
          exact .file (Scheme.ofName?_eq_some_iff.mp hname) (splitFile_eq_iff.mp rfl)
  · intro h
    have hne (name rest : Text) : (name ++ mark ++ rest).isEmpty = false := by simp [mark]
    cases h with
    | object hname hrest =>
      rw [parseTrimmed, hne, splitScheme?_of_namedBy hname]
      simp [Scheme.ofName?_eq_some_iff.mpr hname, splitObject_eq_ok_iff.mpr hrest, Except.map]
    | file hname hrest =>
      rw [parseTrimmed, hne, splitScheme?_of_namedBy hname]
      simp [Scheme.ofName?_eq_some_iff.mpr hname, splitFile_eq_iff.mpr hrest]

theorem parse_eq_ok_iff {s : Text} : parse s = .ok u ↔ Spells s.trimmed u := by
  rw [← parseTrimmed_eq_ok_iff, parse]
  cases parseTrimmed s.trimmed with
  | ok v => simp
  | error fault => exact ⟨nofun, nofun⟩

/-- A text is read exactly when it is one of the grammar with blanks around it, and what is read is the
place that the grammar gives it. Any other text is not a URI, and the failure says of which text. -/
theorem parse_eq_ok_iff_spells (s : Text) :
    ∃ t, (∀ t', TrimmedFrom s t' ↔ t' = t) ∧ (∀ u, parse s = .ok u ↔ Spells t u) ∧
      ((∀ u, ¬ Spells t u) → ∃ reason, parse s = .error (.invalidUri s.str reason)) := by
  refine ⟨s.trimmed, fun t' => trimmed_eq_iff.symm.trans eq_comm, fun u => parse_eq_ok_iff, ?_⟩
  intro h
  rw [parse]
  cases hparse : parseTrimmed s.trimmed with
  | ok u => exact absurd (parseTrimmed_eq_ok_iff.mp hparse) (h u)
  | error fault => exact ⟨fault.reason, rfl⟩

end Uri

end ObjectListing
