import ObjectListing.Proofs.Store.Sorting
import ObjectListing.Store.Remote

/-!
Pages of a remote service. A response is a page when all that it names has a name and it tells how to go on
(`RemotePage.toPage_malformed_iff`), and what is then on the page is known (`Proper.toPage_eq`). So entries in
the order of their keys come back in this order, in whatever pieces a service sends them
(`RemotePage.reassembled`), and nothing in a response gets lost but the object of the listed beginning
itself (`RemotePage.count_entries`).
-/

namespace ObjectListing

open Text

/-- What an object in a response is as an entry. A size that is missing or negative counts as nothing. -/
def RemoteObject.entry? (o : RemoteObject) : Option ObjectEntry :=
  o.key.map fun key => ⟨key, (o.size.getD 0).toNat, datedTime o.modified, .object⟩

namespace RemotePage

/-! ### What is accepted -/

/-- What a response must have to be a page: every object its key, every common prefix its value, and, if
the response is cut off, a token. -/
structure Proper (p : RemotePage) : Prop where
  keyed : ∀ o ∈ p.contents, o.key ≠ none
  named : none ∉ p.prefixes
  continued : p.truncated = some true → p.token ≠ none ∧ p.token ≠ some []

/-- The entries of the objects of a response, the listed beginning itself left out. -/
def keptObjects (under : Text) (os : List RemoteObject) : List ObjectEntry :=
  (os.filter fun o => o.key ≠ some under).filterMap RemoteObject.entry?

/-- The entries of the common prefixes of a response. -/
def foldedPrefixes (prefixes : List (Option Text)) : List ObjectEntry :=
  prefixes.filterMap fun key => key.map .commonPrefix

variable {under : Text} {p : RemotePage} {page : Page} {os : List RemoteObject}
  {prefixes : List (Option Text)}

theorem keptObjects_cons (key : Text) (size : Option Int) (modified : Option Instant) :
    keptObjects under (⟨some key, size, modified⟩ :: os) =
      if key = under then keptObjects under os
      else ⟨key, (size.getD 0).toNat, datedTime modified, .object⟩ :: keptObjects under os := by
  by_cases heq : key = under
  · simp [keptObjects, heq]
  · simp [keptObjects, heq, RemoteObject.entry?]

theorem objects_of_keyed (h : ∀ o ∈ os, o.key ≠ none) :
    objects under os = .ok (keptObjects under os) := by
  induction os with
  | nil => rfl
  | cons o os ih =>
    obtain ⟨ho, hos⟩ := List.forall_mem_cons.mp h
    obtain ⟨key, size, modified⟩ := o
    cases key with
    | none => exact absurd rfl ho
    | some key =>
      rw [objects, keptObjects_cons, ih hos]
      dsimp only
      split
      · rfl
      · rfl

theorem objects_of_keyless (h : ∃ o ∈ os, o.key = none) (under : Text) :
    ∃ detail, objects under os = .error (.malformed detail) := by
  induction os with
  | nil => simp at h
  | cons o os ih =>
    rw [objects.eq_def]
    cases hkey : o.key with
    | none => exact ⟨_, by simp only [hkey]; rfl⟩
    | some key =>
      obtain ⟨detail, hdetail⟩ := ih (by simpa [hkey] using h)
      exact ⟨detail, by simp only [hkey, hdetail]⟩

theorem commonPrefixes_of_named (h : none ∉ prefixes) :
    commonPrefixes under prefixes = .ok (foldedPrefixes prefixes) := by
  induction prefixes with
  | nil => rfl
  | cons key prefixes ih =>
    rw [List.mem_cons, not_or] at h
    obtain ⟨hkey, hprefixes⟩ := h
    obtain ⟨key, rfl⟩ := Option.ne_none_iff_exists'.mp (Ne.symm hkey)
    rw [commonPrefixes, ih hprefixes]
    rfl

theorem commonPrefixes_of_nameless (h : none ∈ prefixes) (under : Text) :
    ∃ detail, commonPrefixes under prefixes = .error (.malformed detail) := by
  induction prefixes with
  | nil => simp at h
  | cons key prefixes ih =>
    cases key with
    | none => exact ⟨_, rfl⟩
    | some key =>
      obtain ⟨detail, hdetail⟩ := ih (by simpa using h)
      exact ⟨detail, by rw [commonPrefixes, hdetail]; rfl⟩

theorem getD_truncated : p.truncated.getD false = true ↔ p.truncated = some true := by
  cases p.truncated <;> simp

theorem usable_eq_some_iff {token : Option Text} {t : Text} :
    usable token = some t ↔ token = some t ∧ t ≠ [] := by
  simp [usable, Option.filter_eq_some_iff]

theorem nextToken_of_continued (h : p.truncated = some true → p.token ≠ none ∧ p.token ≠ some []) :
    p.nextToken under = .ok (if p.truncated = some true then p.token else none) := by
  rw [nextToken]
  by_cases htruncated : p.truncated = some true
  · obtain ⟨t, htoken⟩ := Option.ne_none_iff_exists'.mp (h htruncated).1
    have husable : usable p.token = some t :=
      usable_eq_some_iff.mpr ⟨htoken, fun hempty => (h htruncated).2 (by rw [htoken, hempty])⟩
    rw [if_pos (getD_truncated.mpr htruncated), if_pos htruncated, husable, htoken]
  · rw [if_neg (fun hget => htruncated (getD_truncated.mp hget)), if_neg htruncated]

theorem nextToken_of_broken (htruncated : p.truncated = some true)
    (htoken : p.token = none ∨ p.token = some []) (under : Text) :
    ∃ detail, p.nextToken under = .error (.malformed detail) := by
  have husable : usable p.token = none := by
    rcases htoken with htoken | htoken
    · rw [htoken]; rfl
    · rw [htoken]; rfl
  exact ⟨_, by rw [nextToken, if_pos (getD_truncated.mpr htruncated), husable]⟩

/-- What is on the page of a proper response. -/
theorem Proper.toPage_eq (h : p.Proper) (under : Text) :
    p.toPage under = .ok ⟨ObjectEntry.sorted (keptObjects under p.contents ++ foldedPrefixes p.prefixes),
      if p.truncated = some true then p.token else none⟩ := by
  rw [toPage, objects_of_keyed h.keyed, commonPrefixes_of_named h.named,
    nextToken_of_continued h.continued]

theorem not_proper_iff :
    ¬ p.Proper ↔ (∃ o ∈ p.contents, o.key = none) ∨ none ∈ p.prefixes ∨
      (p.truncated = some true ∧ (p.token = none ∨ p.token = some [])) := by
  constructor
  · intro hnot
    by_contra hgood
    push Not at hgood
    exact hnot ⟨hgood.1, hgood.2.1, hgood.2.2⟩
  · rintro (⟨o, ho, hnone⟩ | hnone | ⟨htruncated, htoken⟩) h
    · exact h.keyed o ho hnone
    · exact h.named hnone
    · exact htoken.elim (h.continued htruncated).1 (h.continued htruncated).2

/-- A response that is not proper is refused, whichever of its faults is met first. -/
theorem toPage_of_not_proper (h : ¬ p.Proper) (under : Text) :
    ∃ detail, p.toPage under = .error (.malformed detail) := by
  by_cases hkeyed : ∀ o ∈ p.contents, o.key ≠ none
  · by_cases hnamed : none ∈ p.prefixes
    · obtain ⟨detail, hdetail⟩ := commonPrefixes_of_nameless hnamed under
      exact ⟨detail, by rw [toPage, objects_of_keyed hkeyed, hdetail]⟩
    · have hcontinued : ¬ (p.truncated = some true → p.token ≠ none ∧ p.token ≠ some []) :=
        fun hcontinued => h ⟨hkeyed, hnamed, hcontinued⟩
      push Not at hcontinued
      obtain ⟨htruncated, htoken⟩ := hcontinued
      obtain ⟨detail, hdetail⟩ :=
        nextToken_of_broken htruncated (or_iff_not_imp_left.mpr htoken) under
      exact ⟨detail, by rw [toPage, objects_of_keyed hkeyed, commonPrefixes_of_named hnamed, hdetail]⟩
  · push Not at hkeyed
    obtain ⟨detail, hdetail⟩ := objects_of_keyless hkeyed under
    exact ⟨detail, by rw [toPage, hdetail]⟩

/-- A response is refused as malformed exactly if it is not proper. -/
theorem toPage_malformed_iff :
    (∃ detail, p.toPage under = .error (.malformed detail)) ↔ ¬ p.Proper := by
  refine ⟨?_, fun h => toPage_of_not_proper h under⟩
  rintro ⟨detail, hdetail⟩ hproper
  rw [hproper.toPage_eq] at hdetail
  cases hdetail

/-- Every page is the page of a proper response. -/
theorem proper_of_toPage (h : p.toPage under = .ok page) : p.Proper := by
  by_contra hnot
  obtain ⟨detail, hdetail⟩ := toPage_of_not_proper hnot under
  rw [hdetail] at h
  cases h

end RemotePage

/-! ### Entries in pieces -/

/-- What a service has one level under a beginning of keys: an object as it describes it, or a common
prefix. -/
inductive RemoteEntry
  | object (key : Text) (size : Option Int) (modified : Option Instant)
  | commonPrefix (key : Text)
  deriving DecidableEq, Repr

namespace RemoteEntry

def key : RemoteEntry → Text
  | object key _ _ => key
  | commonPrefix key => key

/-- An object as responses have it. -/
def object? : RemoteEntry → Option RemoteObject
  | object key size modified => some ⟨some key, size, modified⟩
  | commonPrefix _ => none

/-- A common prefix as responses have it. -/
def prefix? : RemoteEntry → Option (Option Text)
  | object _ _ _ => none
  | commonPrefix key => some (some key)

/-- What pages have instead: no negative or missing sizes, and no times without a date. -/
def entry : RemoteEntry → ObjectEntry
  | object key size modified => ⟨key, (size.getD 0).toNat, datedTime modified, .object⟩
  | commonPrefix key => .commonPrefix key

/-- Whether this is the object of the listed beginning itself. -/
def isMarker (under : Text) : RemoteEntry → Bool
  | object key _ _ => key = under
  | commonPrefix _ => false

@[simp] theorem entry_key (e : RemoteEntry) : e.entry.key = e.key := by
  cases e <;> rfl

end RemoteEntry

namespace RemotePage

variable {under : Text} {p : RemotePage} {listed : List RemoteEntry} {pages : List RemotePage}

/-- Whether a page is made of these entries: the objects in their order, and the common prefixes in
theirs. -/
structure Delivers (p : RemotePage) (listed : List RemoteEntry) : Prop where
  contents_eq : p.contents = listed.filterMap RemoteEntry.object?
  prefixes_eq : p.prefixes = listed.filterMap RemoteEntry.prefix?

/-- Whether the pages are made of these entries, cut into pieces anywhere. All pages but the last are cut
off and have a token that is not empty. -/
inductive Cut : List RemoteEntry → List RemotePage → Prop
  | last {listed : List RemoteEntry} {p : RemotePage} :
      p.Delivers listed → p.truncated ≠ some true → Cut listed [p]
  | more {listed rest : List RemoteEntry} {p : RemotePage} {t : Text} {pages : List RemotePage} :
      p.Delivers listed → p.truncated = some true → p.token = some t → t ≠ [] → Cut rest pages →
      Cut (listed ++ rest) (p :: pages)

/-- What is on a page of these entries, before it is sorted. -/
theorem perm_entries (under : Text) (listed : List RemoteEntry) :
    (keptObjects under (listed.filterMap RemoteEntry.object?) ++
      foldedPrefixes (listed.filterMap RemoteEntry.prefix?)).Perm
        ((listed.filter fun e => !e.isMarker under).map RemoteEntry.entry) := by
  induction listed with
  | nil => exact .nil
  | cons e listed ih =>
    cases e with
    | object key size modified =>
      have hobjects : (RemoteEntry.object key size modified :: listed).filterMap RemoteEntry.object? =
          ⟨some key, size, modified⟩ :: listed.filterMap RemoteEntry.object? := rfl
      have hprefixes : (RemoteEntry.object key size modified :: listed).filterMap RemoteEntry.prefix? =
          listed.filterMap RemoteEntry.prefix? := rfl
      rw [hobjects, hprefixes, keptObjects_cons]
      by_cases heq : key = under
      · simpa [RemoteEntry.isMarker, heq] using ih
      · simpa [RemoteEntry.isMarker, RemoteEntry.entry, heq] using ih
    | commonPrefix key =>
      simp only [List.filterMap_cons, RemoteEntry.object?, RemoteEntry.prefix?, foldedPrefixes,
        RemoteEntry.isMarker, Option.map_some, Bool.not_false, List.filter_cons_of_pos, List.map_cons,
        RemoteEntry.entry]
      exact List.perm_middle.trans (ih.cons _)

/-- A page of entries in the order of their keys has them in this order. -/
theorem Delivers.toPage_eq (h : p.Delivers listed)
    (hcontinued : p.truncated = some true → p.token ≠ none ∧ p.token ≠ some [])
    (hlisted : listed.Pairwise fun e f => e.key < f.key) (under : Text) :
    p.toPage under = .ok ⟨(listed.filter fun e => !e.isMarker under).map RemoteEntry.entry,
      if p.truncated = some true then p.token else none⟩ := by
  have hkeyed : ∀ o ∈ p.contents, o.key ≠ none := by
    rw [h.contents_eq]
    rintro o ho
    obtain ⟨e, -, he⟩ := List.mem_filterMap.mp ho
    cases e with
    | object key size modified => cases he; exact Option.some_ne_none key
    | commonPrefix key => cases he
  have hnamed : none ∉ p.prefixes := by
    rw [h.prefixes_eq]
    intro hnone
    obtain ⟨e, -, he⟩ := List.mem_filterMap.mp hnone
    cases e <;> cases he
  have hincreasing : Increasing ((listed.filter fun e => !e.isMarker under).map RemoteEntry.entry) := by
    refine List.pairwise_map.mpr ((hlisted.sublist List.filter_sublist).imp fun hlt => ?_)
    rwa [RemoteEntry.entry_key, RemoteEntry.entry_key]
  have hproper : p.Proper := ⟨hkeyed, hnamed, hcontinued⟩
  have hsorted := ObjectEntry.sorted_eq_of_perm (perm_entries under listed) hincreasing
  rw [hproper.toPage_eq, h.contents_eq, h.prefixes_eq, hsorted]

/-- However entries in the order of their keys are cut into pages, every page is accepted, has the token to
go on with if there is more, and together the pages have the entries in their order. -/
theorem Cut.exists_pages (h : Cut listed pages) (hlisted : listed.Pairwise fun e f => e.key < f.key) :
    ∃ read : List Page,
      List.Forall₂ (fun p page => p.toPage under = .ok page ∧
        page.next = if p.truncated = some true then p.token else none) pages read ∧
      read.flatMap (·.entries) = (listed.filter fun e => !e.isMarker under).map RemoteEntry.entry := by
  induction h with
  | last hdelivers htruncated =>
    have hpage := hdelivers.toPage_eq (fun h => absurd h htruncated) hlisted under
    exact ⟨[_], .cons ⟨hpage, rfl⟩ .nil, List.flatMap_singleton ..⟩
  | @more listed rest p t pages hdelivers htruncated htoken hne hrest ih =>
    obtain ⟨hhere, hlater, -⟩ := List.pairwise_append.mp hlisted
    have hcontinued : p.token ≠ none ∧ p.token ≠ some [] := by simp [htoken, hne]
    have hpage := hdelivers.toPage_eq (fun _ => hcontinued) hhere under
    obtain ⟨read, hread, hentries⟩ := ih hlater
    refine ⟨_ :: read, .cons ⟨hpage, rfl⟩ hread, ?_⟩
    rw [List.flatMap_cons, hentries, List.filter_append, List.map_append]

/-- Pages come back in the order of all keys. Entries in this order, objects and common prefixes that a
service cuts into pages in any way, are read page by page: every page is accepted, all but the last have
their token, and what is on them is what was listed, in its order, but for the object of the listed
beginning itself. And a response is refused, as malformed, exactly if an object has no key, a common prefix
no value, or the response is cut off without a token. The token of a response that is not cut off makes no
difference. -/
theorem reassembled (under : Text) :
    (∀ (listed : List RemoteEntry) (pages : List RemotePage),
      listed.Pairwise (fun e f => bytes e.key < bytes f.key) → Cut listed pages →
      ∃ read : List Page,
        List.Forall₂ (fun p page => p.toPage under = .ok page ∧
          page.next = if p.truncated = some true then p.token else none) pages read ∧
        read.flatMap (·.entries) = (listed.filter fun e => !e.isMarker under).map RemoteEntry.entry) ∧
    ∀ p : RemotePage,
      ((∃ detail, p.toPage under = .error (.malformed detail)) ↔
        (∃ o ∈ p.contents, o.key = none) ∨ none ∈ p.prefixes ∨
          (p.truncated = some true ∧ (p.token = none ∨ p.token = some []))) ∧
      (p.truncated ≠ some true →
        ∀ token, RemotePage.toPage under { p with token := token } = p.toPage under) := by
  refine ⟨fun listed pages hlisted hcut => ?_, fun p => ⟨?_, fun htruncated token => ?_⟩⟩
  · exact hcut.exists_pages (hlisted.imp fun hlt => lt_iff_bytes_lt.mpr hlt)
  · exact toPage_malformed_iff.trans not_proper_iff
  · have hfinal : ¬ p.truncated.getD false = true := fun h => htruncated (getD_truncated.mp h)
    simp only [toPage, nextToken, if_neg hfinal]

/-- Seven keys in order, the third of them the listed beginning, cut into four pages. The second page is
empty, and the third has its object behind its common prefix. -/
theorem reassembled_fourPages :
    ∃ read : List Page, (read.flatMap (·.entries)).map (·.key) =
        [Text.of "a/%", Text.of "a/b", Text.of "a/c/", Text.of "a/d"] ∧
      read.map (·.next) = [some (Text.of "1"), some (Text.of "2"), some (Text.of "3"), none] := by
  let listed : List RemoteEntry :=
    [.object (Text.of "a/") (some 0) none, .object (Text.of "a/%") (some 3) (some ⟨1700000000, 5⟩),
      .object (Text.of "a/b") (some (-1)) none, .commonPrefix (Text.of "a/c/"),
      .object (Text.of "a/d") none (some ⟨1700000000, 3000000000⟩)]
  let first : RemotePage :=
    { contents := [⟨some (Text.of "a/"), some 0, none⟩, ⟨some (Text.of "a/%"), some 3, some ⟨1700000000, 5⟩⟩]
      truncated := some true, token := some (Text.of "1") }
  let second : RemotePage := { truncated := some true, token := some (Text.of "2") }
  let third : RemotePage :=
    { contents := [⟨some (Text.of "a/b"), some (-1), none⟩], prefixes := [some (Text.of "a/c/")]
      truncated := some true, token := some (Text.of "3") }
  let fourth : RemotePage :=
    { contents := [⟨some (Text.of "a/d"), none, some ⟨1700000000, 3000000000⟩⟩], token := some (Text.of "4") }
  have hcut : Cut (listed.take 2 ++ ([] ++ ((listed.drop 2).take 2 ++ listed.drop 4)))
      [first, second, third, fourth] :=
    .more ⟨rfl, rfl⟩ rfl rfl (by decide) <| .more ⟨rfl, rfl⟩ rfl rfl (by decide) <|
      .more ⟨rfl, rfl⟩ rfl rfl (by decide) <| .last ⟨rfl, rfl⟩ (by decide)
  obtain ⟨read, hread, hentries⟩ :=
    (reassembled (Text.of "a/")).1 listed [first, second, third, fourth] (by decide +kernel) hcut
  refine ⟨read, ?_, ?_⟩
  · rw [hentries]
    rfl
  · cases hread with
    | cons h₁ h => cases h with
      | cons h₂ h => cases h with
        | cons h₃ h => cases h with
          | cons h₄ h =>
            cases h
            simp only [List.map_cons, List.map_nil, h₁.2, h₂.2, h₃.2, h₄.2]
            rfl

/-! ### Nothing lost -/

variable {os : List RemoteObject} {prefixes : List (Option Text)} {e : ObjectEntry}

theorem count_keptObjects (hkey : e.key ≠ under) (os : List RemoteObject) :
    (keptObjects under os).count e = os.countP fun o => o.entry? = some e := by
  rw [keptObjects, List.count_filterMap, List.countP_filter]
  refine List.countP_congr fun o _ => ?_
  cases ho : o.key with
  | none => simp [RemoteObject.entry?, ho]
  | some key =>
    simp only [RemoteObject.entry?, ho, Option.map_some, Option.some.injEq, decide_eq_true_eq,
      Bool.and_eq_true, beq_iff_eq, ne_eq]
    exact ⟨fun h => h.1, fun h => ⟨h, fun hunder => hkey (by rw [← h, hunder])⟩⟩

theorem mem_keptObjects (he : e ∈ keptObjects under os) : e.kind = .object ∧ e.key ≠ under := by
  obtain ⟨o, ho, hentry⟩ := List.mem_filterMap.mp he
  have hkey : o.key ≠ some under := by simpa using (List.mem_filter.mp ho).2
  obtain ⟨key, hsome, rfl⟩ := Option.map_eq_some_iff.mp hentry
  exact ⟨rfl, fun heq => hkey (by rw [hsome, ← heq])⟩

theorem mem_foldedPrefixes (he : e ∈ foldedPrefixes prefixes) : e.kind = .commonPrefix := by
  obtain ⟨key, -, hentry⟩ := List.mem_filterMap.mp he
  obtain ⟨key, -, rfl⟩ := Option.map_eq_some_iff.mp hentry
  rfl

theorem count_foldedPrefixes (key : Text) (prefixes : List (Option Text)) :
    (foldedPrefixes prefixes).count (.commonPrefix key) = prefixes.count (some key) := by
  rw [foldedPrefixes, List.count_filterMap]
  refine List.countP_congr fun found _ => ?_
  cases found with
  | none => simp
  | some found => simp [ObjectEntry.commonPrefix]

/-- Nothing in a response gets lost, whatever it is asked for, but objects whose key is the listed beginning:
no entry of the page has such a key and is an object, however large it is and whatever its last character.
Every other object of the response is on the page as often as it is in the response, and so is every common
prefix. -/
theorem count_entries (under : Text) (p : RemotePage) (page : Page) (h : p.toPage under = .ok page) :
    (∀ e : ObjectEntry, e.kind = .object → e.key ≠ under →
      page.entries.count e = p.contents.countP fun o => o.entry? = some e) ∧
    (∀ key : Text, page.entries.count (.commonPrefix key) = p.prefixes.count (some key)) ∧
    ∀ e ∈ page.entries, e.kind = .object → e.key ≠ under := by
  obtain rfl := Except.ok.inj (((proper_of_toPage h).toPage_eq under).symm.trans h)
  have hperm := List.mergeSort_perm (keptObjects under p.contents ++ foldedPrefixes p.prefixes)
    fun e f => e.key.atMost f.key
  refine ⟨fun e hkind hkey => ?_, fun key => ?_, fun e he hkind => ?_⟩
  · have hnone : e ∉ foldedPrefixes p.prefixes := fun he => by
      simpa [hkind] using mem_foldedPrefixes he
    rw [ObjectEntry.sorted, hperm.count_eq, List.count_append, count_keptObjects hkey,
      List.count_eq_zero_of_not_mem hnone, Nat.add_zero]
  · have hnone : ObjectEntry.commonPrefix key ∉ keptObjects under p.contents := fun he => by
      cases (mem_keptObjects he).1
    rw [ObjectEntry.sorted, hperm.count_eq, List.count_append, count_foldedPrefixes,
      List.count_eq_zero_of_not_mem hnone, Nat.zero_add]
  · rcases List.mem_append.mp (ObjectEntry.mem_sorted.mp he) with he | he
    · exact (mem_keptObjects he).2
    · rw [mem_foldedPrefixes he] at hkind
      cases hkind

/-- An object that is in a response twice is on the page twice. -/
theorem count_entries_twice :
    let o : RemoteObject := ⟨some (Text.of "a/b"), some 7, none⟩
    ∃ page : Page, RemotePage.toPage (Text.of "a/") { contents := [o, ⟨some (Text.of "a/"), some 0, none⟩, o] } =
        .ok page ∧ page.entries.count ⟨Text.of "a/b", 7, none, .object⟩ = 2 := by
  intro o
  obtain ⟨page, hpage⟩ : ∃ page,
      RemotePage.toPage (Text.of "a/") { contents := [o, ⟨some (Text.of "a/"), some 0, none⟩, o] } = .ok page :=
    ⟨_, rfl⟩
  refine ⟨page, hpage, ?_⟩
  rw [(count_entries _ _ page hpage).1 ⟨Text.of "a/b", 7, none, .object⟩ rfl (by decide)]
  decide

/-- The object of the listed beginning is left out even when it holds data: it is not so that only objects
of no size whose key ends in a slash are. -/
theorem not_count_entries_of_data :
    ¬ ∀ (under : Text) (p : RemotePage) (page : Page), p.toPage under = .ok page →
      ∀ e : ObjectEntry, e.kind = .object → ¬ (e.size = 0 ∧ e.key = under ∧ endsInSlash e.key = true) →
        page.entries.count e = p.contents.countP fun o => o.entry? = some e := by
  intro hcount
  have hlost := hcount (Text.of "data/") { contents := [⟨some (Text.of "data/"), some 5, none⟩] }
    ⟨ObjectEntry.sorted [], none⟩ rfl ⟨Text.of "data/", 5, none, .object⟩ rfl (by decide)
  rw [ObjectEntry.sorted, List.mergeSort_nil] at hlost
  revert hlost
  decide

end RemotePage

end ObjectListing
