import ObjectListing.Proofs.Store.MemoryCalls

/-!
Pages that are asked for one after the other, each with the token of the one before it (`Chained`). Where
every page is the first one of what comes after its token in some list, the lists may be others from call
to call (`Paged`). The keys on such pages are in order, and a key that is in all the lists is on one of the
pages. As long as the list stays the same, the pages make up all of it that comes after the first token.

A store in memory answers in this way, so its pages give the entries of a bucket without loss and without
repetition, whatever their sizes (`MemoryStore.chained_exact`).
-/

namespace ObjectListing

/-! ### Single pages -/

/-- What a page of a size is when it leaves the entries `rest` to later pages. -/
structure Page.Leaves (page : Page) (size : Nat) (rest : List ObjectEntry) : Prop where
  few : page.entries.length ≤ max size 1
  full : rest ≠ [] → page.entries.length = max size 1
  next_isSome_iff : page.next.isSome = true ↔ rest ≠ []
  exists_last : ∀ t, page.next = some t →
    ∃ front last, page.entries = front ++ [last] ∧ last.key = t

variable {size : Nat} {token : Option Text} {es rest list : List ObjectEntry} {page : Page} {t : Text}

theorem Page.exists_leaves_first (size : Nat) (es : List ObjectEntry) :
    ∃ rest, es = (first size es).entries ++ rest ∧ (first size es).Leaves size rest := by
  by_cases hlt : max size 1 < es.length
  · have hlen : (es.take (max size 1)).length = max size 1 := List.length_take_of_le hlt.le
    obtain ⟨front, last, hfront⟩ := (List.eq_nil_or_concat' (es.take (max size 1))).resolve_left
      (List.ne_nil_of_length_pos (by omega))
    have hfirst : first size es = ⟨front ++ [last], some last.key⟩ := by
      rw [first, if_pos hlt, hfront]
      simp
    rw [hfront] at hlen
    rw [hfirst, ← hfront]
    refine ⟨es.drop (max size 1), (List.take_append_drop ..).symm, ?_⟩
    rw [hfront]
    have hrest : es.drop (max size 1) ≠ [] := by
      rw [ne_eq, List.drop_eq_nil_iff]
      omega
    refine ⟨hlen.le, fun _ => hlen, by simp [hrest], ?_⟩
    rintro _ ⟨⟩
    exact ⟨front, last, rfl, rfl⟩
  · rw [first_of_le (not_lt.mp hlt)]
    exact ⟨[], (List.append_nil es).symm, not_lt.mp hlt, fun h => absurd rfl h, by simp, by simp⟩

namespace Page.Leaves

theorem rest_eq_nil (h : page.Leaves size rest) (hnext : page.next = none) : rest = [] := by
  by_contra hrest
  have hsome := h.next_isSome_iff.mpr hrest
  rw [hnext] at hsome
  cases hsome

theorem entries_ne_nil (h : page.Leaves size rest) (hnext : page.next = some t) :
    page.entries ≠ [] := by
  obtain ⟨front, last, hentries, -⟩ := h.exists_last t hnext
  rw [hentries]
  exact List.append_ne_nil_of_right_ne_nil front (List.cons_ne_nil last [])

/-- The token parts what is on the page from what it leaves. -/
theorem le_next_and_next_lt (h : page.Leaves size rest) (hinc : Increasing (page.entries ++ rest))
    (hnext : page.next = some t) : (∀ e ∈ page.entries, e.key ≤ t) ∧ ∀ e ∈ rest, t < e.key := by
  obtain ⟨front, last, hentries, rfl⟩ := h.exists_last t hnext
  rw [hentries] at hinc ⊢
  obtain ⟨hpage, -, hrest⟩ := List.pairwise_append.mp hinc
  refine ⟨fun e he => ?_, fun e he => hrest last (by simp) e he⟩
  rcases List.mem_append.mp he with he | he
  · exact ((List.pairwise_append.mp hpage).2.2 e he last (List.mem_singleton_self last)).le
  · rw [List.mem_singleton.mp he]

end Page.Leaves

/-- After the token of a page comes what the page leaves. -/
theorem ObjectEntry.after_next (hlist : Increasing list) (hsplit : after token list = page.entries ++ rest)
    (h : page.Leaves size rest) (hnext : page.next = some t) : after (some t) list = rest := by
  have hinc : Increasing (page.entries ++ rest) := hsplit ▸ hlist.sublist (after_sublist token list)
  obtain ⟨hle, hlt⟩ := h.le_next_and_next_lt hinc hnext
  have hpassed : after (some t) (page.entries ++ rest) = rest := by
    rw [after, List.filter_append, List.filter_eq_nil_iff.mpr, List.filter_eq_self.mpr,
      List.nil_append]
    · simpa [Text.atMost] using hlt
    · simpa [Text.atMost] using hle
  -- what comes after the token of the page comes after the token it was asked for with
  rw [← hpassed, ← hsplit]
  cases htoken : token with
  | none => rfl
  | some s =>
    obtain ⟨front, last, hentries, rfl⟩ := h.exists_last t hnext
    have hlast : last ∈ after token list := by simp [hsplit, hentries]
    have hs : s < last.key := (mem_after.mp hlast).2 s htoken
    simp only [after, List.filter_filter]
    refine List.filter_congr fun e _ => ?_
    by_cases he : last.key < e.key
    · simp [Text.atMost, he, lt_trans hs he]
    · simp [Text.atMost, he]

/-! ### Pages of lists -/

/-- The pages from number `n` on, of which the first is asked for with `token` and every other one with
the token of the page before it: page `n` is the first one of what comes after its token in `lists n`. -/
inductive Paged (sizes : Nat → Nat) (lists : Nat → List ObjectEntry) :
    Nat → Option Text → List Page → Prop
  | last {n : Nat} {token : Option Text} {page : Page} :
      page = .first (sizes n) (ObjectEntry.after token (lists n)) → page.next = none →
      Paged sizes lists n token [page]
  | more {n : Nat} {token : Option Text} {page : Page} {t : Text} {pages : List Page} :
      page = .first (sizes n) (ObjectEntry.after token (lists n)) → page.next = some t →
      Paged sizes lists (n + 1) (some t) pages → Paged sizes lists n token (page :: pages)

namespace Paged

variable {sizes : Nat → Nat} {lists : Nat → List ObjectEntry} {n : Nat} {pages before after : List Page}
  {e : ObjectEntry}

theorem exists_leaves (hpage : page = .first size (ObjectEntry.after token list)) :
    ∃ rest, ObjectEntry.after token list = page.entries ++ rest ∧ page.Leaves size rest :=
  hpage ▸ Page.exists_leaves_first size (ObjectEntry.after token list)

theorem head (h : Paged sizes lists n token (page :: pages)) :
    page = .first (sizes n) (ObjectEntry.after token (lists n)) := by
  cases h with
  | last hpage _ => exact hpage
  | more hpage _ _ => exact hpage

theorem next_eq_none_iff (h : Paged sizes lists n token (page :: pages)) :
    page.next = none ↔ pages = [] := by
  cases h with
  | last _ hnext => simp [hnext]
  | more _ hnext hpages =>
    refine ⟨fun hnone => ?_, fun hnil => ?_⟩
    · rw [hnext] at hnone
      cases hnone
    · rw [hnil] at hpages
      cases hpages

/-- From any page on, the pages are asked for with a token that is not before the first one. -/
theorem split (h : Paged sizes lists n token (before ++ page :: after)) :
    ∃ token', Paged sizes lists (n + before.length) token' (page :: after) ∧
      ∀ t, token = some t → ∃ t', token' = some t' ∧ t ≤ t' := by
  induction before generalizing n token with
  | nil => exact ⟨token, h, fun t ht => ⟨t, ht, le_rfl⟩⟩
  | cons first before ih =>
    rw [List.cons_append] at h
    generalize hpages : before ++ page :: after = pages at h
    cases h with
    | last _ _ => cases before <;> cases hpages
    | @more _ _ _ next _ hpage hnext h =>
      obtain ⟨token', h', hle⟩ := ih (hpages ▸ h)
      refine ⟨token', by rwa [List.length_cons, Nat.add_comm before.length 1, ← Nat.add_assoc], ?_⟩
      intro t ht
      obtain ⟨t', ht', hnext'⟩ := hle next rfl
      obtain ⟨rest, hsplit, hleaves⟩ := exists_leaves hpage
      obtain ⟨front, last, hentries, rfl⟩ := hleaves.exists_last next hnext
      have hlast : last ∈ ObjectEntry.after token (lists n) := by simp [hsplit, hentries]
      exact ⟨t', ht', ((ObjectEntry.mem_after.mp hlast).2 t ht).le.trans hnext'⟩

/-- The entries on a page are in its list, and after the first token. -/
theorem mem_of_mem (h : Paged sizes lists n token (before ++ page :: after)) (he : e ∈ page.entries) :
    e ∈ lists (n + before.length) ∧ ∀ t, token = some t → t < e.key := by
  obtain ⟨token', h', hle⟩ := h.split
  obtain ⟨rest, hsplit, -⟩ := exists_leaves h'.head
  obtain ⟨hmem, hlt⟩ := ObjectEntry.mem_after.mp (hsplit ▸ List.mem_append_left rest he)
  refine ⟨hmem, fun t ht => ?_⟩
  obtain ⟨t', ht', hle⟩ := hle t ht
  exact lt_of_le_of_lt hle (hlt t' ht')

theorem lt_of_mem (h : Paged sizes lists n token pages) (he : e ∈ pages.flatMap (·.entries))
    (ht : token = some t) : t < e.key := by
  obtain ⟨page, hpage, hmem⟩ := List.mem_flatMap.mp he
  obtain ⟨before, after, rfl⟩ := List.append_of_mem hpage
  exact (h.mem_of_mem hmem).2 t ht

/-- Whatever becomes of the lists, the keys on the pages are in order. -/
theorem increasing (h : Paged sizes lists n token pages) (hinc : ∀ n, Increasing (lists n)) :
    Increasing (pages.flatMap (·.entries)) := by
  induction h with
  | last hpage _ =>
    obtain ⟨rest, hsplit, -⟩ := exists_leaves hpage
    rw [List.flatMap_singleton]
    exact ((hinc _).sublist (ObjectEntry.after_sublist ..)).sublist
      (hsplit ▸ List.sublist_append_left ..)
  | @more n token page t pages hpage hnext hpages ih =>
    obtain ⟨rest, hsplit, hleaves⟩ := exists_leaves hpage
    have hafter : Increasing (page.entries ++ rest) :=
      hsplit ▸ (hinc n).sublist (ObjectEntry.after_sublist token (lists n))
    rw [List.flatMap_cons]
    refine List.pairwise_append.mpr ⟨hafter.sublist (List.sublist_append_left ..), ih, ?_⟩
    intro e he f hf
    exact lt_of_le_of_lt ((hleaves.le_next_and_next_lt hafter hnext).1 e he) (hpages.lt_of_mem hf rfl)

section Steady

variable (hlist : Increasing list)
include hlist

/-- Pages of one list make up what comes after the first token. -/
theorem flatMap_entries (h : Paged sizes (fun _ => list) n token pages) :
    pages.flatMap (·.entries) = ObjectEntry.after token list := by
  induction h with
  | last hpage hnext =>
    obtain ⟨rest, hsplit, hleaves⟩ := exists_leaves hpage
    obtain rfl := hleaves.rest_eq_nil hnext
    rw [List.flatMap_singleton, hsplit, List.append_nil]
  | more hpage hnext _ ih =>
    obtain ⟨rest, hsplit, hleaves⟩ := exists_leaves hpage
    rw [List.flatMap_cons, ih, hsplit, ObjectEntry.after_next hlist hsplit hleaves hnext]

/-- A page of one list leaves what is on the pages that follow. -/
theorem leaves (h : Paged sizes (fun _ => list) n token (before ++ page :: after)) :
    page.Leaves (sizes (n + before.length)) (after.flatMap (·.entries)) := by
  obtain ⟨token', h', -⟩ := h.split
  obtain ⟨rest, hsplit, hleaves⟩ := exists_leaves h'.head
  have hall := h'.flatMap_entries hlist
  rw [List.flatMap_cons, hsplit] at hall
  exact List.append_cancel_left hall ▸ hleaves

/-- Only a first page that is the last one as well has no entry. -/
theorem alone_of_entries_eq_nil (h : Paged sizes (fun _ => list) n token (before ++ page :: after))
    (hentries : page.entries = []) : before = [] ∧ after = [] := by
  have hafter : after = [] := by
    obtain ⟨token', h', -⟩ := h.split
    refine h'.next_eq_none_iff.mp (Option.eq_none_iff_forall_ne_some.mpr fun t ht => ?_)
    exact (h.leaves hlist).entries_ne_nil ht hentries
  refine ⟨?_, hafter⟩
  rcases List.eq_nil_or_concat' before with hnil | ⟨front, previous, rfl⟩
  · exact hnil
  · -- the page before this one tells of entries that are still to come
    rw [List.append_assoc, List.singleton_append] at h
    obtain ⟨token', h', -⟩ := h.split
    have hprevious := (h.leaves hlist).next_isSome_iff
    rw [List.flatMap_cons, hentries, hafter, List.flatMap_nil, List.append_nil] at hprevious
    have hnone : previous.next = none := by simpa using hprevious
    exact absurd (h'.next_eq_none_iff.mp hnone) (List.cons_ne_nil page after)

end Steady

end Paged

/-! ### Calls that follow the tokens -/

/-- The pages that a store gives to calls that follow the tokens, from call number `n` on: the first of
these calls has `token`, every other one the token of the page before it, and the last page has none. Call
`n` asks for a page of size `sizes n`, and `meddle n` is what others do to the store before it. -/
inductive Chained {σ : Type} (ask : PageRequest → σ → Reply σ Page) (bucket under : Text)
    (sizes : Nat → Nat) (meddle : Nat → σ → σ) : Nat → Option Text → σ → List Page → Prop
  | last {n : Nat} {token : Option Text} {s : σ} {page : Page} :
      (ask ⟨bucket, under, token, sizes n⟩ (meddle n s)).answer = .ok page → page.next = none →
      Chained ask bucket under sizes meddle n token s [page]
  | more {n : Nat} {token : Option Text} {s : σ} {page : Page} {t : Text} {pages : List Page} :
      (ask ⟨bucket, under, token, sizes n⟩ (meddle n s)).answer = .ok page → page.next = some t →
      Chained ask bucket under sizes meddle (n + 1) (some t)
        (ask ⟨bucket, under, token, sizes n⟩ (meddle n s)).store pages →
      Chained ask bucket under sizes meddle n token s (page :: pages)

/-- Where every page that a store gives is the first one of a list, so are the pages of its chains. `Kept`
is what the calls and whatever happens between them keep of the store. -/
theorem Chained.paged {σ : Type} {ask : PageRequest → σ → Reply σ Page} {bucket under : Text}
    {sizes : Nat → Nat} {meddle : Nat → σ → σ} {lists : Nat → List ObjectEntry} (Kept : σ → Prop)
    (hask : ∀ n token s page, Kept s →
      (ask ⟨bucket, under, token, sizes n⟩ (meddle n s)).answer = .ok page →
      page = .first (sizes n) (ObjectEntry.after token (lists n)))
    (hkept : ∀ n token s, Kept s → Kept (ask ⟨bucket, under, token, sizes n⟩ (meddle n s)).store)
    {n : Nat} {token : Option Text} {s : σ} {pages : List Page} (hs : Kept s)
    (h : Chained ask bucket under sizes meddle n token s pages) :
    Paged sizes lists n token pages := by
  induction h with
  | last hanswer hnext => exact .last (hask _ _ _ _ hs hanswer) hnext
  | more hanswer hnext _ ih => exact .more (hask _ _ _ _ hs hanswer) hnext (ih (hkept _ _ _ hs))

namespace MemoryStore

variable {s : MemoryStore} {b : MemoryBucket} {bucket under : Text} {sizes : Nat → Nat}

/-- Calls to a store in memory get the pages of the bucket, whichever faults are planned between them. -/
theorem paged_of_chained (hb : s.bucket? bucket = some b) {n : Nat} {token : Option Text}
    {pages : List Page}
    (h : Chained backend.listObjects bucket under sizes (fun _ => id) n token s pages) :
    Paged sizes (fun _ => b.folded under) n token pages := by
  refine Chained.paged (fun s => s.bucket? bucket = some b) ?_ ?_ hb h
  · intro n token s page hb hanswer
    obtain ⟨b', hb', rfl⟩ := exists_page_eq (page_eq_of_answerList hanswer)
    cases hb.symm.trans ((bucket?_congr rfl bucket).trans hb')
    rfl
  · exact fun n token s hb => (bucket?_congr (listObjects_buckets _ s) bucket).trans hb

/-- When no failure is planned, the tokens lead to a last page. -/
theorem exists_chained (hs : s.Faultless) (hb : s.bucket? bucket = some b) (n : Nat)
    (token : Option Text) :
    ∃ pages, Chained backend.listObjects bucket under sizes (fun _ => id) n token s pages := by
  -- on the entries that come after the token
  induction hlen : (ObjectEntry.after token (b.folded under)).length using Nat.strong_induction_on
    generalizing s n token with
  | _ len ih =>
    have hanswer : (backend.listObjects ⟨bucket, under, token, sizes n⟩ s).answer =
        .ok (b.pageFor ⟨bucket, under, token, sizes n⟩) := listObjects_answer hs hb
    cases hnext : (b.pageFor ⟨bucket, under, token, sizes n⟩).next with
    | none => exact ⟨_, .last hanswer hnext⟩
    | some t =>
      have hless := MemoryBucket.length_after_next_lt hnext
      obtain ⟨pages, hpages⟩ := ih _ (hlen ▸ hless)
        (faultless_listObjects hs ⟨bucket, under, token, sizes n⟩)
        ((bucket?_congr (listObjects_buckets _ s) bucket).trans hb) (n + 1) (some t) rfl
      exact ⟨_, .more hanswer hnext hpages⟩

/-- The pages of a store in memory that follow the tokens, from any token on and of any sizes, hold in
order and once each what the objects of the bucket fold to, after the first token. No page is larger than
it may be, a page has a token when entries remain, which is then its last key, and only a first page that
is the last one as well is empty. When no failure is planned, the tokens lead to a last page. -/
theorem chained_exact (s : MemoryStore) (b : MemoryBucket) (bucket under : Text)
    (token : Option Text) (sizes : Nat → Nat) (hb : s.bucket? bucket = some b) :
    (s.Faultless →
      ∃ pages, Chained backend.listObjects bucket under sizes (fun _ => id) 0 token s pages) ∧
    ∀ pages, Chained backend.listObjects bucket under sizes (fun _ => id) 0 token s pages →
      Increasing (pages.flatMap (·.entries)) ∧
      (∀ e, e ∈ pages.flatMap (·.entries) ↔
        (∃ o ∈ b.objects, FoldsTo under o e) ∧ ∀ t, token = some t → t < e.key) ∧
      ∀ before page after, pages = before ++ page :: after →
        page.Leaves (sizes before.length) (after.flatMap (·.entries)) ∧
        (page.entries = [] → before = [] ∧ after = []) := by
  refine ⟨fun hs => exists_chained hs hb 0 token, fun pages hchained => ?_⟩
  have hlist := b.increasing_folded under
  have h := paged_of_chained hb hchained
  refine ⟨h.increasing fun _ => hlist, fun e => ?_, ?_⟩
  · rw [h.flatMap_entries hlist, ObjectEntry.mem_after, MemoryBucket.mem_folded]
  · rintro before page after rfl
    exact ⟨by simpa using h.leaves hlist, h.alone_of_entries_eq_nil hlist⟩

/-- A bucket with two objects in one directory, and one beside it. -/
def folders : MemoryStore where
  buckets := [{
    name := ['b'], created := {}
    objects := [⟨Text.of "a/x", .zeros 1, {}⟩, ⟨Text.of "a/y", .zeros 2, {}⟩, ⟨Text.of "b", .zeros 3, {}⟩]
    ordered := by unfold StoredObject.Ordered; decide }]

/-- On pages of one entry, the directory is on one of them, and so is the object. -/
theorem chained_exact_folders : ∃ pages,
    Chained backend.listObjects ['b'] [] (fun _ => 1) (fun _ => id) 0 none folders pages ∧
      .commonPrefix (Text.of "a/") ∈ pages.flatMap (·.entries) ∧
      .object (Text.of "b") 3 {} ∈ pages.flatMap (·.entries) := by
  obtain ⟨hends, hexact⟩ := chained_exact folders _ ['b'] [] none (fun _ => 1) rfl
  obtain ⟨pages, hpages⟩ := hends ⟨rfl, rfl, rfl⟩
  obtain ⟨-, hmem, -⟩ := hexact pages hpages
  refine ⟨pages, hpages, (hmem _).mpr ⟨⟨_, List.mem_cons_self .., ?_⟩, nofun⟩,
    (hmem _).mpr ⟨⟨_, List.mem_cons_of_mem _ (List.mem_cons_of_mem _ (List.mem_cons_self ..)), ?_⟩,
      nofun⟩⟩
  · exact @FoldsTo.directory [] _ ['a'] ['x'] rfl (by decide)
  · exact @FoldsTo.object [] _ ['b'] rfl (by decide) (by decide)

end MemoryStore

end ObjectListing
