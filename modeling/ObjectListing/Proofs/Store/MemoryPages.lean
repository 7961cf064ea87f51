import Mathlib.Data.List.DropRight
import Mathlib.Data.List.Nodup
import Mathlib.Data.List.TakeWhile
import ObjectListing.Proofs.Text.Level
import ObjectListing.Store.Memory

/-!
The pages of a store in memory. The entries of a bucket one level under a beginning are in the order of
their keys, one for each key (`increasing_folded`), and they are what the objects of the bucket fold to
(`mem_folded`). A bucket goes through its objects once for a page (`scan_eq`); what it gives is the first
page of the entries after the token (`page_eq`), and the page's own token is the last key on it
(`pageFor_next`, `mem_pageFor_or_lt`).
-/

namespace ObjectListing

open Text
open scoped List

/-- Things that are told apart by keys in increasing order. -/
theorem eq_of_pairwise_key_lt {α : Type} {key : α → Text} {as : List α} {a b : α}
    (h : as.Pairwise fun a b => key a < key b) (ha : a ∈ as) (hb : b ∈ as) (hab : key a = key b) :
    a = b := by
  have hnodup : (as.map key).Nodup := List.pairwise_map.mpr (h.imp fun hlt => hlt.ne)
  exact List.inj_on_of_nodup_map hnodup ha hb hab

namespace StoredObject

theorem mem_insert_self (o : StoredObject) : ∀ objects : List StoredObject, o ∈ o.insert objects
  | [] => List.mem_singleton_self o
  | p :: rest => by
    rw [insert]
    split
    · exact List.mem_cons_self ..
    · split
      · exact List.mem_cons_self ..
      · exact List.mem_cons_of_mem _ (mem_insert_self o rest)

/-- Storing an object keeps every key. -/
theorem exists_mem_insert {o p : StoredObject} : ∀ {objects : List StoredObject}, p ∈ objects →
    ∃ q ∈ o.insert objects, q.key = p.key
  | first :: rest, h => by
    rw [insert]
    split
    · rename_i hkey
      rcases List.mem_cons.mp h with rfl | h
      · exact ⟨o, List.mem_cons_self .., hkey⟩
      · exact ⟨p, List.mem_cons_of_mem _ h, rfl⟩
    · split
      · exact ⟨p, List.mem_cons_of_mem _ h, rfl⟩
      · rcases List.mem_cons.mp h with rfl | h
        · exact ⟨p, List.mem_cons_self .., rfl⟩
        · obtain ⟨q, hq, hkey⟩ := exists_mem_insert (o := o) h
          exact ⟨q, List.mem_cons_of_mem _ hq, hkey⟩

end StoredObject

/-- Entries in the order of their keys, one for each key. -/
def Increasing (entries : List ObjectEntry) : Prop := entries.Pairwise fun e f => e.key < f.key

/-- What an object gives one level under a beginning of its key: itself, or the directory it is in. -/
inductive FoldsTo (under : Text) (o : StoredObject) : ObjectEntry → Prop
  | object {name : Text} : o.key = under ++ name → name ≠ [] → '/' ∉ name →
      FoldsTo under o (.object o.key o.data.size o.modified)
  | directory {segment rest : Text} : o.key = under ++ segment ++ '/' :: rest → '/' ∉ segment →
      FoldsTo under o (.commonPrefix (under ++ segment ++ ['/']))

namespace FoldsTo

variable {under : Text} {o p : StoredObject} {e f : ObjectEntry}

theorem oneLevel (h : FoldsTo under o e) : OneLevel under e.key := by
  cases h with
  | object hkey hne hname =>
    rw [ObjectEntry.object, hkey]
    exact .name hne hname
  | directory _ hsegment => exact .directory hsegment

theorem isCommonPrefix (h : FoldsTo under o e) : e.isCommonPrefix = endsInSlash e.key := by
  cases h with
  | object hkey hne hname =>
    simp only [ObjectEntry.object, hkey, endsInSlash_append hne, not_endsInSlash_of_notMem hname]
    rfl
  | directory _ _ => exact (endsInSlash_iff.mpr ⟨_, rfl⟩).symm

theorem leadsTo (h : FoldsTo under o e) : LeadsTo true e.key o.key := by
  cases h with
  | object _ _ _ => exact .refl true o.key
  | @directory segment rest hkey _ =>
    exact Or.inr ⟨rfl, endsInSlash_iff.mpr ⟨_, rfl⟩, rest, by simp [hkey, ObjectEntry.commonPrefix]⟩

/-- An object folds to the key one level down that leads to it. -/
theorem exists_of_leadsTo {c : Text} (hc : OneLevel under c) (h : LeadsTo true c o.key) :
    ∃ e, FoldsTo under o e ∧ e.key = c := by
  have key {e : ObjectEntry} (he : FoldsTo under o e) : e.key = c :=
    he.oneLevel.eq_of_leadsTo hc he.leadsTo h
  obtain ⟨rest, hrest⟩ := hc.isPrefix.trans h.isPrefix
  rcases notMem_or_eq_append_cons '/' rest with hmem | ⟨segment, tail, hmem, rfl⟩
  · have hne : rest ≠ [] := by
      rintro rfl
      have := hc.length_lt.trans_le h.isPrefix.length_le
      rw [← hrest, List.append_nil] at this
      exact lt_irrefl _ this
    exact ⟨_, .object hrest.symm hne hmem, key (.object hrest.symm hne hmem)⟩
  · have hkey : o.key = under ++ segment ++ '/' :: tail := by rw [← hrest, List.append_assoc]
    exact ⟨_, .directory hkey hmem, key (.directory hkey hmem)⟩

theorem key_le_of_lt (ho : FoldsTo under o e) (hp : FoldsTo under p f) (hlt : o.key < p.key) :
    e.key ≤ f.key := by
  by_contra h
  exact lt_asymm hlt
    (hp.oneLevel.lt_of_leadsTo ho.oneLevel (not_le.mp h) hp.leadsTo ho.leadsTo)

/-- Entries of one key are equal, or they are two objects of that key. -/
theorem eq_or_key_eq (ho : FoldsTo under o e) (hp : FoldsTo under p f) (h : e.key = f.key) :
    e = f ∨ o.key = p.key := by
  have hkind := ho.isCommonPrefix.trans ((congrArg endsInSlash h).trans hp.isCommonPrefix.symm)
  cases ho with
  | object _ _ _ =>
    cases hp with
    | object _ _ _ => exact Or.inr h
    | directory _ _ => cases hkind
  | directory _ _ =>
    cases hp with
    | object _ _ _ => cases hkind
    | directory _ _ => exact Or.inl (congrArg ObjectEntry.commonPrefix h)

end FoldsTo

namespace MemoryBucket

variable {b : MemoryBucket} {under : Text}

/-- The entry of an object one level under a beginning, as a bucket folds it. -/
theorem entryUnder_eq_some_iff {o : StoredObject} {e : ObjectEntry} :
    (Text.after? under o.key).bind (entryUnder under o) = some e ↔ FoldsTo under o e := by
  rw [Option.bind_eq_some_iff]
  constructor
  · rintro ⟨rest, hrest, he⟩
    have hkey := eq_append_of_after? hrest
    rcases notMem_or_eq_append_cons '/' rest with hmem | ⟨segment, tail, hmem, rfl⟩
    · cases hnil : rest with
      | nil => simp [entryUnder, hnil] at he
      | cons a as =>
        rw [entryUnder, cut_of_notMem hmem, hnil] at he
        obtain rfl := Option.some.inj he
        exact .object hkey (by simp [hnil]) hmem
    · rw [entryUnder, cut_append_cons hmem] at he
      obtain rfl : ObjectEntry.commonPrefix (under ++ segment ++ ['/']) = e := by simpa using he
      exact .directory (by rw [hkey, List.append_assoc]) hmem
  · intro h
    cases h with
    | object hkey hne hname =>
      refine ⟨_, after?_eq_some_iff.mpr hkey, ?_⟩
      rw [entryUnder, cut_of_notMem hname, if_neg (by simpa using hne)]
    | directory hkey hsegment =>
      rw [List.append_assoc] at hkey
      refine ⟨_, after?_eq_some_iff.mpr hkey, ?_⟩
      rw [entryUnder, cut_append_cons hsegment, if_neg (by simp)]

/-! ### The entries of a bucket -/

/-- Leaves out entries that follow one of the same key. -/
def withoutRepeats : List ObjectEntry → List ObjectEntry
  | [] => []
  | e :: rest => e :: (withoutRepeats rest).dropWhile fun f => f.key = e.key

/-- The entries one level under a beginning of keys. -/
def folded (b : MemoryBucket) (under : Text) : List ObjectEntry :=
  withoutRepeats (b.objects.filterMap fun o => (Text.after? under o.key).bind (entryUnder under o))

theorem withoutRepeats_sublist : ∀ es : List ObjectEntry, withoutRepeats es <+ es
  | [] => List.Sublist.refl []
  | e :: es => ((List.dropWhile_sublist _).trans (withoutRepeats_sublist es)).cons_cons e

/-- Of the entries of one key, one is kept. -/
theorem exists_mem_withoutRepeats : ∀ {es : List ObjectEntry} {e : ObjectEntry}, e ∈ es →
    ∃ f ∈ withoutRepeats es, f.key = e.key
  | d :: es, e, h => by
    rw [withoutRepeats]
    by_cases hd : e.key = d.key
    · exact ⟨d, List.mem_cons_self .., hd.symm⟩
    · rcases List.mem_cons.mp h with rfl | h
      · exact absurd rfl hd
      · obtain ⟨f, hf, hkey⟩ := exists_mem_withoutRepeats h
        rw [← List.takeWhile_append_dropWhile (p := fun f => decide (f.key = d.key))
          (l := withoutRepeats es), List.mem_append] at hf
        rcases hf with hf | hf
        · have := List.mem_takeWhile_imp hf
          exact absurd (hkey.symm.trans (of_decide_eq_true this)) hd
        · exact ⟨f, List.mem_cons_of_mem _ hf, hkey⟩

theorem increasing_withoutRepeats : ∀ {es : List ObjectEntry},
    es.Pairwise (fun e f => e.key ≤ f.key) → Increasing (withoutRepeats es)
  | [], _ => List.Pairwise.nil
  | d :: es, h => by
    obtain ⟨hd, hes⟩ := List.pairwise_cons.mp h
    have htail := increasing_withoutRepeats hes
    refine List.pairwise_cons.mpr ⟨fun f hf => ?_, htail.sublist (List.dropWhile_sublist _)⟩
    -- the first entry that is kept has another key, and the rest come after it
    cases hrest : (withoutRepeats es).dropWhile fun f => decide (f.key = d.key) with
    | nil => rw [hrest] at hf; cases hf
    | cons g gs =>
      have hsub : g :: gs <+ withoutRepeats es := hrest ▸ List.dropWhile_sublist _
      have hg : g.key ≠ d.key := by
        have h := List.head?_dropWhile_not (fun f : ObjectEntry => decide (f.key = d.key))
          (withoutRepeats es)
        rw [hrest] at h
        simpa using h
      have hdg : d.key < g.key := lt_of_le_of_ne
        (hd g ((hsub.trans (withoutRepeats_sublist es)).subset (List.mem_cons_self ..))) hg.symm
      rw [hrest] at hf
      rcases List.mem_cons.mp hf with rfl | hf
      · exact hdg
      · exact lt_trans hdg ((List.pairwise_cons.mp (htail.sublist hsub)).1 f hf)

/-- The entries one level under a beginning are in the order of their keys. -/
theorem increasing_folded (b : MemoryBucket) (under : Text) : Increasing (b.folded under) := by
  refine increasing_withoutRepeats ?_
  refine List.Pairwise.filterMap _ (fun o p hlt e he f hf => ?_) b.ordered
  exact (entryUnder_eq_some_iff.mp he).key_le_of_lt (entryUnder_eq_some_iff.mp hf) hlt

/-- The entries one level under a beginning are what the objects fold to. -/
theorem mem_folded {e : ObjectEntry} :
    e ∈ b.folded under ↔ ∃ o ∈ b.objects, FoldsTo under o e := by
  constructor
  · intro he
    obtain ⟨o, ho, hfold⟩ := List.mem_filterMap.mp ((withoutRepeats_sublist _).subset he)
    exact ⟨o, ho, entryUnder_eq_some_iff.mp hfold⟩
  · rintro ⟨o, ho, hfold⟩
    have he : e ∈ b.objects.filterMap fun o => (Text.after? under o.key).bind (entryUnder under o) :=
      List.mem_filterMap.mpr ⟨o, ho, entryUnder_eq_some_iff.mpr hfold⟩
    obtain ⟨f, hf, hkey⟩ := exists_mem_withoutRepeats he
    obtain ⟨p, hp, hpf⟩ := List.mem_filterMap.mp ((withoutRepeats_sublist _).subset hf)
    rcases (entryUnder_eq_some_iff.mp hpf).eq_or_key_eq hfold hkey with rfl | hop
    · exact hf
    · obtain rfl := eq_of_pairwise_key_lt b.ordered hp ho hop
      obtain rfl := Option.some.inj (hpf.symm.trans (entryUnder_eq_some_iff.mpr hfold))
      exact hf

end MemoryBucket

/-! ### Pages -/

/-- A first page holds all entries, or it ends with the entry whose key is its token. -/
theorem Page.first_eq (size : Nat) (es : List ObjectEntry) :
    Page.first size es = ⟨es, none⟩ ∨
      ∃ front last rest, es = front ++ [last] ++ rest ∧ rest ≠ [] ∧
        Page.first size es = ⟨front ++ [last], some last.key⟩ := by
  rw [Page.first]
  split
  · rename_i hlt
    have hne : es.take (max size 1) ≠ [] := by
      rw [ne_eq, List.take_eq_nil_iff]
      rintro (h | rfl)
      · omega
      · simp at hlt
    obtain ⟨front, last, hfront⟩ := List.eq_nil_or_concat' _ |>.resolve_left hne
    refine Or.inr ⟨front, last, es.drop (max size 1), ?_, ?_, ?_⟩
    · rw [← hfront, List.take_append_drop]
    · rw [ne_eq, List.drop_eq_nil_iff]
      omega
    · rw [hfront]
      simp
  · exact Or.inl rfl

theorem ObjectEntry.mem_after {token : Option Text} {es : List ObjectEntry} {e : ObjectEntry} :
    e ∈ ObjectEntry.after token es ↔ e ∈ es ∧ ∀ t, token = some t → t < e.key := by
  cases token with
  | none => simp [ObjectEntry.after]
  | some t => simp [ObjectEntry.after, Text.atMost]

theorem ObjectEntry.after_sublist (token : Option Text) (es : List ObjectEntry) :
    ObjectEntry.after token es <+ es := by
  cases token with
  | none => exact List.Sublist.refl es
  | some t => exact List.filter_sublist

/-! ### Scans -/

theorem Page.first_of_le {size : Nat} {es : List ObjectEntry} (h : es.length ≤ max size 1) :
    Page.first size es = ⟨es, none⟩ :=
  if_neg (by omega)

theorem Page.first_max (size : Nat) (es : List ObjectEntry) :
    Page.first (max size 1) es = Page.first size es := by
  simp only [Page.first, max_assoc, max_self]

/-- A page that is full when another entry comes. -/
theorem Page.first_append_cons {size : Nat} {es rest : List ObjectEntry} {e : ObjectEntry}
    (h : es.length = max size 1) :
    Page.first size (es ++ e :: rest) = ⟨es, es.getLast?.map (·.key)⟩ := by
  have hlt : max size 1 < (es ++ e :: rest).length := by
    rw [List.length_append, h, List.length_cons]
    omega
  rw [Page.first, if_pos hlt, ← h, List.take_left]

namespace MemoryBucket

/-- What a scan has still to put on pages when it goes on with the entries `es` and has put `found` on
its page, the latest first. -/
def unscanned (token : Option Text) (found es : List ObjectEntry) : List ObjectEntry :=
  ObjectEntry.after token
    ((withoutRepeats es).dropWhile fun f => found.head?.any fun last => last.key = f.key)

@[simp] theorem unscanned_nil (token : Option Text) (found : List ObjectEntry) :
    unscanned token found [] = [] := by
  cases token <;> rfl

/-- When a scan that has put `found` on its page may go on with the entries `es`: they do not come before
the latest one on the page, and that one comes after the token. -/
structure GoesOn (token : Option Text) (found es : List ObjectEntry) : Prop where
  sorted : es.Pairwise fun e f => e.key ≤ f.key
  ahead : ∀ last, found.head? = some last → ∀ e ∈ es, last.key ≤ e.key
  after : ∀ last, found.head? = some last → ∀ t, token = some t → t < last.key

section Unscanned

variable {token : Option Text} {found es : List ObjectEntry} {e : ObjectEntry}

theorem GoesOn.skip (h : GoesOn token found (e :: es)) : GoesOn token found es :=
  ⟨(List.pairwise_cons.mp h.sorted).2,
    fun last hlast f hf => h.ahead last hlast f (List.mem_cons_of_mem _ hf), h.after⟩

theorem GoesOn.push (h : GoesOn token found (e :: es)) (he : ∀ t, token = some t → t < e.key) :
    GoesOn token (e :: found) es := by
  obtain ⟨hfirst, hes⟩ := List.pairwise_cons.mp h.sorted
  refine ⟨hes, ?_, ?_⟩
  · rintro _ ⟨⟩ f hf
    exact hfirst f hf
  · rintro _ ⟨⟩ t ht
    exact he t ht

/-- As long as entries are not after the token, the page is empty. -/
theorem GoesOn.found_eq_nil (h : GoesOn token found (e :: es)) {t : Text} (ht : token = some t)
    (he : e.key ≤ t) : found = [] := by
  cases found with
  | nil => rfl
  | cons last found =>
    have hlast : last.key ≤ e.key := h.ahead last rfl e (List.mem_cons_self ..)
    exact absurd (h.after last rfl t ht) (not_lt.mpr (hlast.trans he))

/-- An entry of the same key as the latest one is not put on a page again. -/
theorem unscanned_same {last : ObjectEntry} (hlast : found.head? = some last)
    (he : last.key = e.key) : unscanned token found (e :: es) = unscanned token found es := by
  simp only [unscanned, withoutRepeats, hlast, Option.any_some, he, eq_comm (a := e.key),
    List.dropWhile_cons, decide_true, if_true, List.dropWhile_idempotent]

/-- An entry that is not after the token is not put on a page. -/
theorem unscanned_passed {t : Text} (ht : token = some t) (he : e.key ≤ t) :
    unscanned token [] (e :: es) = unscanned token [] es := by
  have hnone : ∀ es : List ObjectEntry, unscanned token [] es =
      (withoutRepeats es).filter fun f => !f.key.atMost t := fun es => by
    cases h : withoutRepeats es <;> simp [unscanned, h, ht, ObjectEntry.after]
  have hsame : ((withoutRepeats es).takeWhile fun f => f.key = e.key).filter
      (fun f => !f.key.atMost t) = [] := by
    rw [List.filter_eq_nil_iff]
    intro f hf
    have hkey := List.mem_takeWhile_imp hf
    simpa [Text.atMost, of_decide_eq_true hkey] using he
  have hsplit := congrArg (List.filter fun f => !f.key.atMost t)
    (List.takeWhile_append_dropWhile (p := fun f : ObjectEntry => decide (f.key = e.key))
      (l := withoutRepeats es))
  rw [List.filter_append, hsame, List.nil_append] at hsplit
  rw [hnone, hnone, withoutRepeats, List.filter_cons_of_neg (by simpa [Text.atMost] using he),
    hsplit]

/-- Any other entry is the next one. -/
theorem unscanned_next (hnew : ¬ found.head?.any fun last => last.key = e.key)
    (he : ∀ t, token = some t → t < e.key) :
    unscanned token found (e :: es) = e :: unscanned token (e :: found) es := by
  have hcons (rest : List ObjectEntry) :
      ObjectEntry.after token (e :: rest) = e :: ObjectEntry.after token rest := by
    cases token with
    | none => rfl
    | some t =>
      have hpos : (!e.key.atMost t) = true := by simpa [Text.atMost] using he t rfl
      simp [ObjectEntry.after, hpos]
  rw [unscanned, withoutRepeats, List.dropWhile_cons, if_neg hnew, hcons]
  simp only [unscanned, List.head?_cons, Option.any_some, eq_comm (a := e.key)]

end Unscanned

variable {under : Text} {token : Option Text} {size : Nat}

/-- The entries that objects give one level under a beginning, one for each object. -/
def entriesUnder (under : Text) (os : List StoredObject) : List ObjectEntry :=
  os.filterMap fun o => (Text.after? under o.key).bind (entryUnder under o)

theorem pairwise_entriesUnder (under : Text) {os : List StoredObject}
    (h : StoredObject.Ordered os) : (entriesUnder under os).Pairwise fun e f => e.key ≤ f.key :=
  List.Pairwise.filterMap _ (fun _ _ hlt _ he _ hf =>
    (entryUnder_eq_some_iff.mp he).key_le_of_lt (entryUnder_eq_some_iff.mp hf) hlt) h

/-- Keys that come after the beginning without beginning with it are followed by no key that does. -/
theorem entriesUnder_eq_nil {o : StoredObject} {os : List StoredObject}
    (h : StoredObject.Ordered (o :: os)) (hle : under ≤ o.key)
    (hnone : Text.after? under o.key = none) : entriesUnder under (o :: os) = [] := by
  have hnot : ¬ under <+: o.key := by
    rintro ⟨rest, hrest⟩
    rw [after?_eq_some_iff.mpr hrest.symm] at hnone
    cases hnone
  have hlt : under < o.key := lt_of_le_of_ne hle fun he => hnot (he ▸ List.prefix_rfl)
  rw [entriesUnder, List.filterMap_eq_nil_iff]
  intro p hp
  rcases List.mem_cons.mp hp with rfl | hp
  · rw [hnone, Option.bind_none]
  · cases hafter : Text.after? under p.key with
    | none => rfl
    | some rest =>
      have hpre : under <+: p.key := ⟨rest, (eq_append_of_after? hafter).symm⟩
      have hkey : o.key < p.key := (List.pairwise_cons.mp h).1 p hp
      exact absurd hkey (lt_asymm (lt_of_lt_of_not_isPrefix hlt hnot hpre))

/-- A scan gives the first page of what is on it and what it has still to put on pages. -/
theorem scan_eq (hsize : 0 < size) : ∀ (os : List StoredObject) (found : List ObjectEntry),
    StoredObject.Ordered os → (∀ o ∈ os, under ≤ o.key) → found.length ≤ size →
    GoesOn token found (entriesUnder under os) →
    scan under token size found os =
      Page.first size (found.reverse ++ unscanned token found (entriesUnder under os))
  | [], found, _, _, hlen, _ => by
    rw [show entriesUnder under [] = [] from rfl, unscanned_nil, List.append_nil,
      Page.first_of_le (by simp; omega), scan]
  | o :: os, found, hord, hle, hlen, hgo => by
    have hos : StoredObject.Ordered os := (List.pairwise_cons.mp hord).2
    have hle' : ∀ p ∈ os, under ≤ p.key := fun p hp => hle p (List.mem_cons_of_mem _ hp)
    cases hafter : Text.after? under o.key with
    | none =>
      rw [entriesUnder_eq_nil hord (hle o (List.mem_cons_self ..)) hafter, unscanned_nil,
        List.append_nil, Page.first_of_le (by simp; omega), scan, hafter]
    | some rest =>
      cases hentry : entryUnder under o rest with
      | none =>
        have hskip : entriesUnder under (o :: os) = entriesUnder under os :=
          List.filterMap_cons_none (by rw [hafter, Option.bind_some, hentry])
        rw [hskip] at hgo ⊢
        rw [scan, hafter]
        simp only [hentry]
        exact scan_eq hsize os found hos hle' hlen hgo
      | some e =>
        have hcons : entriesUnder under (o :: os) = e :: entriesUnder under os :=
          List.filterMap_cons_some (by rw [hafter, Option.bind_some, hentry])
        rw [hcons] at hgo ⊢
        rw [scan, hafter]
        simp only [hentry]
        split
        · rename_i hsame
          obtain ⟨last, hlast, hkey⟩ : ∃ last, found.head? = some last ∧ last.key = e.key := by
            simpa [Option.any_eq_true] using hsame
          rw [unscanned_same hlast hkey]
          exact scan_eq hsize os found hos hle' hlen hgo.skip
        · rename_i hnew
          split
          · rename_i hpassed
            obtain ⟨t, ht, het⟩ : ∃ t, token = some t ∧ e.key ≤ t := by
              simpa [Option.any_eq_true, Text.atMost] using hpassed
            obtain rfl := hgo.found_eq_nil ht het
            rw [unscanned_passed ht het]
            exact scan_eq hsize os [] hos hle' hlen hgo.skip
          · rename_i hpassed
            have he : ∀ t, token = some t → t < e.key := by
              rintro t ht
              simpa [ht, Text.atMost] using hpassed
            rw [unscanned_next hnew he]
            split
            · rename_i hfull
              rw [Page.first_append_cons (by simp; omega), List.getLast?_reverse]
            · rename_i hroom
              rw [scan_eq hsize os (e :: found) hos hle' (by simp; omega) (hgo.push he)]
              simp

end MemoryBucket

namespace MemoryBucket

variable {b : MemoryBucket} {request : PageRequest} {e : ObjectEntry}

/-- The page of a bucket that answers a request. -/
def pageFor (b : MemoryBucket) (request : PageRequest) : Page :=
  .first request.size (ObjectEntry.after request.token (b.folded request.under))

/-- The keys before the beginning of the keys do not begin with it. -/
theorem entriesUnder_dropWhile (under : Text) (os : List StoredObject) :
    entriesUnder under (os.dropWhile fun o => o.key < under) = entriesUnder under os := by
  have hbefore : entriesUnder under (os.takeWhile fun o => o.key < under) = [] := by
    rw [entriesUnder, List.filterMap_eq_nil_iff]
    intro o ho
    cases hafter : Text.after? under o.key with
    | none => rfl
    | some rest =>
      have hlt := List.mem_takeWhile_imp ho
      rw [eq_append_of_after? hafter, decide_eq_true_eq] at hlt
      exact absurd hlt (not_append_lt under rest)
  have hsplit := congrArg (entriesUnder under)
    (List.takeWhile_append_dropWhile (p := fun o : StoredObject => decide (o.key < under)) (l := os))
  rw [entriesUnder, List.filterMap_append, ← entriesUnder, hbefore, List.nil_append] at hsplit
  exact hsplit

/-- From the beginning of the keys on, no key comes before it. -/
theorem le_of_mem_dropWhile {os : List StoredObject} (h : StoredObject.Ordered os)
    {o : StoredObject} (ho : o ∈ os.dropWhile fun o => o.key < under) : under ≤ o.key := by
  have hord := h.sublist (List.dropWhile_sublist fun o : StoredObject => decide (o.key < under))
  have hhead := List.head?_dropWhile_not (fun o : StoredObject => decide (o.key < under)) os
  cases hrest : os.dropWhile fun o => decide (o.key < under) with
  | nil =>
    rw [hrest] at ho
    cases ho
  | cons first rest =>
    rw [hrest] at ho hord hhead
    have hfirst : under ≤ first.key := by simpa using hhead
    rcases List.mem_cons.mp ho with rfl | ho
    · exact hfirst
    · exact hfirst.trans ((List.pairwise_cons.mp hord).1 o ho).le

/-- What a bucket goes through to answer a request is the first page of the entries after the token. -/
theorem page_eq (b : MemoryBucket) (request : PageRequest) :
    b.page request = b.pageFor request := by
  have hord : StoredObject.Ordered (b.objects.dropWhile fun o => o.key < request.under) :=
    b.ordered.sublist (List.dropWhile_sublist _)
  have hgo : GoesOn request.token [] (entriesUnder request.under
      (b.objects.dropWhile fun o => o.key < request.under)) :=
    ⟨pairwise_entriesUnder request.under hord, nofun, nofun⟩
  rw [page, scan_eq (by omega) _ [] hord (fun _ => le_of_mem_dropWhile b.ordered) (Nat.zero_le _) hgo,
    entriesUnder_dropWhile, List.reverse_nil, List.nil_append, Page.first_max]
  have hall : unscanned request.token [] (entriesUnder request.under b.objects) =
      ObjectEntry.after request.token (b.folded request.under) :=
    congrArg (ObjectEntry.after request.token) (List.dropWhile_eq_self_iff.mpr fun _ => nofun)
  rw [hall, pageFor]

theorem increasing_after (b : MemoryBucket) (token : Option Text) (under : Text) :
    Increasing (ObjectEntry.after token (b.folded under)) :=
  (b.increasing_folded under).sublist (ObjectEntry.after_sublist token _)

theorem increasing_pageFor (b : MemoryBucket) (request : PageRequest) :
    Increasing (b.pageFor request).entries := by
  have hinc := b.increasing_after request.token request.under
  rcases Page.first_eq request.size (ObjectEntry.after request.token (b.folded request.under)) with
    h | ⟨front, last, rest, hes, -, h⟩
  · rw [pageFor, h]
    exact hinc
  · rw [pageFor, h]
    rw [hes] at hinc
    exact hinc.sublist (List.sublist_append_left ..)

theorem mem_of_mem_pageFor (h : e ∈ (b.pageFor request).entries) :
    (∃ o ∈ b.objects, FoldsTo request.under o e) ∧ ∀ t, request.token = some t → t < e.key := by
  rw [← mem_folded, ← ObjectEntry.mem_after]
  rcases Page.first_eq request.size (ObjectEntry.after request.token (b.folded request.under)) with
    hp | ⟨front, last, rest, hes, -, hp⟩
  · rwa [pageFor, hp] at h
  · rw [pageFor, hp] at h
    rw [hes]
    exact List.mem_append_left _ h

/-- The token of a page is the last key on it. -/
theorem pageFor_next {t : Text} (h : (b.pageFor request).next = some t) :
    (∃ last ∈ (b.pageFor request).entries, last.key = t) ∧
      ∀ e ∈ (b.pageFor request).entries, e.key ≤ t := by
  have hinc := b.increasing_pageFor request
  rcases Page.first_eq request.size (ObjectEntry.after request.token (b.folded request.under)) with
    hp | ⟨front, last, rest, -, -, hp⟩
  · rw [pageFor, hp] at h
    cases h
  · rw [pageFor, hp] at h hinc ⊢
    obtain rfl := Option.some.inj h
    refine ⟨⟨last, by simp, rfl⟩, ?_⟩
    intro e he
    rcases List.mem_append.mp he with he | he
    · exact ((List.pairwise_append.mp hinc).2.2 e he last (by simp)).le
    · rw [List.mem_singleton.mp he]

/-- What comes after the token of a request is on the page, or after the token of the page. -/
theorem mem_pageFor_or_lt (request : PageRequest) {o : StoredObject} (ho : o ∈ b.objects)
    (hfold : FoldsTo request.under o e) (hafter : ∀ t, request.token = some t → t < e.key) :
    e ∈ (b.pageFor request).entries ∨ ∃ t, (b.pageFor request).next = some t ∧ t < e.key := by
  have hmem := ObjectEntry.mem_after.mpr ⟨mem_folded.mpr ⟨o, ho, hfold⟩, hafter⟩
  have hinc := b.increasing_after request.token request.under
  rcases Page.first_eq request.size (ObjectEntry.after request.token (b.folded request.under)) with
    hp | ⟨front, last, rest, hes, -, hp⟩
  · rw [pageFor, hp]
    exact Or.inl hmem
  · rw [pageFor, hp]
    rw [hes] at hmem hinc
    rcases List.mem_append.mp hmem with h | h
    · exact Or.inl h
    · exact Or.inr ⟨last.key, rfl, (List.pairwise_append.mp hinc).2.2 last (by simp) e h⟩

/-- A token leaves fewer entries than the request it answers had before it. -/
theorem length_after_next_lt {t : Text} (h : (b.pageFor request).next = some t) :
    (ObjectEntry.after (some t) (b.folded request.under)).length <
      (ObjectEntry.after request.token (b.folded request.under)).length := by
  obtain ⟨⟨last, hlast, rfl⟩, -⟩ := pageFor_next h
  obtain ⟨hfolded, hafter⟩ := mem_of_mem_pageFor hlast
  have hmem := ObjectEntry.mem_after.mpr ⟨mem_folded.mpr hfolded, hafter⟩
  have hsub : ObjectEntry.after (some last.key) (b.folded request.under) =
      (ObjectEntry.after request.token (b.folded request.under)).filter
        fun e => !e.key.atMost last.key := by
    cases htoken : request.token with
    | none => rfl
    | some s =>
      simp only [ObjectEntry.after, List.filter_filter]
      refine List.filter_congr ?_
      intro e _
      have hs := hafter s htoken
      by_cases he : last.key < e.key
      · simp [Text.atMost, he, lt_trans hs he]
      · simp [Text.atMost, he]
  rw [hsub, List.length_filter_lt_length_iff_exists]
  exact ⟨last, hmem, by simp [Text.atMost]⟩

end MemoryBucket

theorem MemoryStore.page_eq {s : MemoryStore} {request : PageRequest} {b : MemoryBucket}
    (h : s.bucket? request.bucket = some b) : s.page request = .ok (b.pageFor request) := by
  rw [page, h]
  exact congrArg Except.ok (b.page_eq request)

end ObjectListing
