import ObjectListing.Proofs.Listing.Follow
import ObjectListing.Proofs.Listing.InOrder

/-!
Walks that lose nothing and make nothing up. `Walk.Sound` holds of a walk in order whose entries were all
served: what it gave out was served and selected. `Walk.Covers` holds of a walk that gave out a key, or is
still to come to it. Both are kept by every turn, whatever state of the bucket a page comes from, as long
as that state has an object that the key leads to (`Sound.covers_receive`).
-/

namespace ObjectListing

open Text

/-- Whether the entries under a beginning of keys are for a listing: it is the one that is listed, or, when
directories are entered, one in it. -/
def ListRequest.Reaches (request : ListRequest) (under : Text) : Prop :=
  request.uri.listed <+: under ∧ (request.recursive = false → under = request.uri.listed)

/-- A key of an object that a recursive listing may give out. -/
structure ListRequest.Leaf (request : ListRequest) (t : Text) : Prop where
  under : request.uri.listed <+: t
  nonempty : t ≠ []
  object : endsInSlash t = false

/-- The beginning that is listed is empty or a directory, so no object has it as its key. -/
theorem ListRequest.Leaf.ne_listed {request : ListRequest} {t : Text} (h : request.Leaf t) :
    t ≠ request.uri.listed := by
  rintro rfl
  have hobject := h.object
  rw [Uri.listed, asDirectory] at hobject
  split at hobject
  · rename_i hpath
    rcases Bool.or_eq_true_iff.mp hpath with hempty | hend
    · refine h.nonempty ?_
      rw [Uri.listed, asDirectory, if_pos hpath]
      exact List.isEmpty_iff.mp hempty
    · rw [hend] at hobject
      cases hobject
  · rw [endsInSlash_iff.mpr ⟨_, rfl⟩] at hobject
    cases hobject

namespace Walk

/-- A walk of a request, in order, which was `served` all entries that it has pending or gave out under
some beginning of keys. -/
structure Sound (request : ListRequest) (filter : Filter) (served : Text → ObjectEntry → Prop)
    (walk : Walk) (given : List ObjectEntry) : Prop where
  bucket : walk.bucket = request.uri.bucket
  selection : walk.selection = request.selection filter
  order : InOrder given walk.stack
  placed : ∀ f ∈ walk.stack, request.Reaches f.under ∧ ∀ e ∈ f.pending, served f.under e
  genuine : ∀ e ∈ given, (request.selection filter).emits e = true ∧
    ∃ under, request.Reaches under ∧ served under e
  count : walk.emitted = given.length
  cap : ∀ most, request.cap = some most → given.length ≤ most

variable {request : ListRequest} {filter : Filter} {served : Text → ObjectEntry → Prop}
  {walk : Walk} {given : List ObjectEntry} {f : Frame} {e : ObjectEntry} {rest : List ObjectEntry}
  {outer : List Frame} {t : Text}

namespace Sound

theorem start (pageSize : Nat) :
    Sound request filter served (request.walk filter pageSize) [] := by
  refine ⟨rfl, rfl, InOrder.start _, ?_, by simp, rfl, by simp⟩
  intro f hf
  rw [List.mem_singleton.mp hf]
  exact ⟨⟨List.prefix_rfl, fun _ => rfl⟩, by simp⟩

/-- What was served stays so. -/
theorem mono {served' : Text → ObjectEntry → Prop}
    (h : Sound request filter served walk given)
    (hserved : ∀ under e, served under e → served' under e) :
    Sound request filter served' walk given := by
  refine ⟨h.bucket, h.selection, h.order, fun f hf => ?_, fun e he => ?_, h.count, h.cap⟩
  · exact ⟨(h.placed f hf).1, fun e he => hserved _ e ((h.placed f hf).2 e he)⟩
  · obtain ⟨hemits, under, hreaches, hs⟩ := h.genuine e he
    exact ⟨hemits, under, hreaches, hserved under e hs⟩

variable (h : Sound request filter served walk given) (hstack : walk.stack = f :: outer)

include h hstack

theorem placed_outer : ∀ g ∈ outer, request.Reaches g.under ∧ ∀ e ∈ g.pending, served g.under e :=
  fun g hg => h.placed g (hstack ▸ List.mem_cons_of_mem f hg)

theorem reaches : request.Reaches f.under := (h.placed f (hstack ▸ List.mem_cons_self ..)).1

theorem served_pending : ∀ e ∈ f.pending, served f.under e :=
  (h.placed f (hstack ▸ List.mem_cons_self ..)).2

theorem tidy : f.Tidy := h.order.tidy f (hstack ▸ List.mem_cons_self ..)

theorem order_cons : InOrder given (f :: outer) := hstack ▸ h.order

theorem placed_rest (hpending : f.pending = e :: rest) :
    ∀ g ∈ ({ f with pending := rest } : Frame) :: outer,
      request.Reaches g.under ∧ ∀ e ∈ g.pending, served g.under e := by
  have hreaches := h.reaches hstack
  have hserved := h.served_pending hstack
  intro g hg
  rcases List.mem_cons.mp hg with rfl | hg
  · exact ⟨hreaches, fun d hd => hserved d (hpending ▸ List.mem_cons_of_mem e hd)⟩
  · exact h.placed_outer hstack g hg

/-- A directory that is entered is for the listing. -/
theorem reaches_enter (hpending : f.pending = e :: rest) (henters : walk.selection.enters e = true) :
    request.Reaches e.key := by
  have hlevel := (h.tidy hstack).oneLevel e (hpending ▸ List.mem_cons_self ..)
  refine ⟨(h.reaches hstack).1.trans hlevel.isPrefix, ?_⟩
  intro hflat
  rw [h.selection, Selection.enters, ListRequest.selection, hflat] at henters
  simp at henters

omit h hstack

/-- Turns of a walk keep it sound. -/
theorem kept : Kept (Sound request filter served) := by
  refine ⟨?_, ?_, ?_, ?_⟩
  · intro w given f e rest outer h hstack hpending henters
    have hdirectory : e.isCommonPrefix = true := (Bool.and_eq_true_iff.mp henters).1
    refine ⟨h.bucket, h.selection, (h.order_cons hstack).enter hpending hdirectory, ?_, h.genuine,
      h.count, h.cap⟩
    intro g hg
    rcases List.mem_cons.mp hg with rfl | hg
    · exact ⟨h.reaches_enter hstack hpending henters, by simp⟩
    · exact h.placed_rest hstack hpending g hg
  · intro w given f e rest outer h hreached hstack hpending _ hemits
    refine ⟨h.bucket, h.selection, (h.order_cons hstack).give hpending,
      h.placed_rest hstack hpending, ?_, ?_, ?_⟩
    · intro d hd
      rcases List.mem_append.mp hd with hd | hd
      · exact h.genuine d hd
      · rw [List.mem_singleton.mp hd]
        exact ⟨h.selection ▸ hemits, f.under, h.reaches hstack,
          h.served_pending hstack e (hpending ▸ List.mem_cons_self ..)⟩
    · rw [List.length_append, ← h.count]
      rfl
    · intro most hmost
      rw [h.selection, Selection.reached, ListRequest.selection, hmost, h.count] at hreached
      rw [List.length_append, List.length_singleton]
      have := of_decide_eq_false hreached
      omega
  · intro w given f e rest outer h hstack hpending _ _
    exact ⟨h.bucket, h.selection, (h.order_cons hstack).skip hpending,
      h.placed_rest hstack hpending, h.genuine, h.count, h.cap⟩
  · intro w given f outer h hstack _ _
    exact ⟨h.bucket, h.selection, (h.order_cons hstack).leave, h.placed_outer hstack, h.genuine,
      h.count, h.cap⟩

/-- A page of the bucket keeps a walk sound when what is on it counts as served. -/
theorem receive {b : MemoryBucket} (h : Sound request filter served walk given)
    (hstack : walk.stack = f :: outer) (hresume : f.resume ≠ .nothingLeft)
    (hserved : ∀ e ∈ (b.pageFor (walk.requestFor f)).entries, served f.under e) :
    Sound request filter served
      { walk with stack := ⟨f.under, (b.pageFor (walk.requestFor f)).entries,
          .ofNext (b.pageFor (walk.requestFor f)).next⟩ :: outer } given := by
  have hfits := b.pageFor_fits (walk.requestFor f) hresume rfl
  refine ⟨h.bucket, h.selection, (h.order_cons hstack).receive hfits, ?_, h.genuine, h.count, h.cap⟩
  have hreaches := h.reaches hstack
  intro g hg
  rcases List.mem_cons.mp hg with rfl | hg
  · exact ⟨hreaches, hserved⟩
  · exact h.placed_outer hstack g hg

end Sound

/-! ### Nothing is lost -/

/-- A walk that gave out a key, or is still to come to it. -/
def Covers (t : Text) (walk : Walk) (given : List ObjectEntry) : Prop :=
  (∃ e ∈ given, e.key = t) ∨
    ∃ f ∈ walk.stack, ∃ c, f.Ahead c ∧ LeadsTo walk.selection.recursive c t

/-- A key that a listing gives out when it comes to it. -/
structure Sought (request : ListRequest) (filter : Filter) (served : Text → ObjectEntry → Prop)
    (t : Text) : Prop where
  leaf : request.recursive = true → endsInSlash t = false
  emits : ∀ under e, request.Reaches under → served under e → e.key = t →
    (request.selection filter).enters e = false → (request.selection filter).emits e = true

namespace Sound

theorem covers_start (pageSize : Nat) (hunder : request.uri.listed <+: t) (hne : t ≠ request.uri.listed)
    (hflat : request.recursive = false → OneLevel request.uri.listed t) :
    Covers t (request.walk filter pageSize) [] := by
  right
  refine ⟨{ under := request.uri.listed }, List.mem_singleton.mpr rfl, ?_⟩
  cases hrecursive : request.recursive with
  | true =>
    obtain ⟨c, hlevel, hleads⟩ := OneLevel.exists_leadsTo hunder hne
    refine ⟨c, .unasked hlevel trivial, ?_⟩
    rw [ListRequest.walk, Walk.start, ListRequest.selection, hrecursive]
    exact hleads
  | false => exact ⟨t, .unasked (hflat hrecursive) trivial, .refl _ t⟩

/-- The next pending entry leads to a key only if it is that key, or a directory to enter. -/
theorem key_eq_or_enters (h : Sound request filter served walk given)
    (hstack : walk.stack = f :: outer) (hpending : f.pending = e :: rest)
    (hleads : LeadsTo walk.selection.recursive e.key t) :
    e.key = t ∨ walk.selection.enters e = true := by
  rcases hleads with heq | ⟨hrecursive, hend, -⟩
  · exact Or.inl heq
  · have hkind := (h.tidy hstack).kind e (hpending ▸ List.mem_cons_self ..)
    rw [Selection.enters, hkind, hend, hrecursive]
    exact Or.inr rfl

/-- Turns of a walk lose no key that is sought. -/
theorem covers_kept {wanted : Text → Prop} (hsought : ∀ t, wanted t → Sought request filter served t) :
    Kept fun walk given => Sound request filter served walk given ∧
      ∀ t, wanted t → Covers t walk given := by
  refine ⟨?_, ?_, ?_, ?_⟩
  · rintro w given f e rest outer ⟨h, hcovers⟩ hstack hpending henters
    refine ⟨kept.enter h hstack hpending henters, ?_⟩
    intro t ht
    rcases hcovers t ht with hgiven | ⟨g, hg, c, hc, hleads⟩
    · exact Or.inl hgiven
    right
    rcases List.mem_cons.mp (hstack ▸ hg) with rfl | hg
    · rcases Frame.ahead_cases hpending hc with rfl | hc
      · -- the key is in the directory that is entered
        obtain ⟨hdirectory, hrecursive⟩ := Bool.and_eq_true_iff.mp henters
        have hend : endsInSlash e.key = true :=
          (h.tidy hstack).kind e (hpending ▸ List.mem_cons_self ..) ▸ hdirectory
        have hleaf := (hsought t ht).leaf (by rwa [h.selection] at hrecursive)
        have hne : t ≠ e.key := by
          rintro rfl
          rw [hend] at hleaf
          cases hleaf
        obtain ⟨d, hlevel, hd⟩ := OneLevel.exists_leadsTo hleads.isPrefix hne
        refine ⟨_, List.mem_cons_self .., d, .unasked hlevel trivial, ?_⟩
        dsimp only
        rw [hrecursive]
        exact hd
      · exact ⟨_, List.mem_cons_of_mem _ (List.mem_cons_self ..), c, hc, hleads⟩
    · exact ⟨g, List.mem_cons_of_mem _ (List.mem_cons_of_mem _ hg), c, hc, hleads⟩
  · rintro w given f e rest outer ⟨h, hcovers⟩ hreached hstack hpending henters hemits
    refine ⟨kept.give h hreached hstack hpending henters hemits, ?_⟩
    intro t ht
    rcases hcovers t ht with ⟨d, hd, hkey⟩ | ⟨g, hg, c, hc, hleads⟩
    · exact Or.inl ⟨d, List.mem_append_left _ hd, hkey⟩
    rcases List.mem_cons.mp (hstack ▸ hg) with rfl | hg
    · rcases Frame.ahead_cases hpending hc with rfl | hc
      · rcases h.key_eq_or_enters hstack hpending hleads with hkey | hin
        · exact Or.inl ⟨e, List.mem_append_right _ (List.mem_singleton.mpr rfl), hkey⟩
        · rw [henters] at hin
          cases hin
      · exact Or.inr ⟨_, List.mem_cons_self .., c, hc, hleads⟩
    · exact Or.inr ⟨g, List.mem_cons_of_mem _ hg, c, hc, hleads⟩
  · rintro w given f e rest outer ⟨h, hcovers⟩ hstack hpending henters hemits
    refine ⟨kept.skip h hstack hpending henters hemits, ?_⟩
    intro t ht
    rcases hcovers t ht with hgiven | ⟨g, hg, c, hc, hleads⟩
    · exact Or.inl hgiven
    rcases List.mem_cons.mp (hstack ▸ hg) with rfl | hg
    · rcases Frame.ahead_cases hpending hc with rfl | hc
      · -- a key that is sought is not passed over
        rcases h.key_eq_or_enters hstack hpending hleads with hkey | hin
        · have hserved := h.served_pending hstack e (hpending ▸ List.mem_cons_self ..)
          rw [h.selection] at henters hemits
          rw [(hsought t ht).emits _ e (h.reaches hstack) hserved hkey henters] at hemits
          cases hemits
        · rw [henters] at hin
          cases hin
      · exact Or.inr ⟨_, List.mem_cons_self .., c, hc, hleads⟩
    · exact Or.inr ⟨g, List.mem_cons_of_mem _ hg, c, hc, hleads⟩
  · rintro w given f outer ⟨h, hcovers⟩ hstack hpending hresume
    refine ⟨kept.leave h hstack hpending hresume, ?_⟩
    intro t ht
    rcases hcovers t ht with hgiven | ⟨g, hg, c, hc, hleads⟩
    · exact Or.inl hgiven
    rcases List.mem_cons.mp (hstack ▸ hg) with rfl | hg
    · -- nothing is ahead of a frame that is left
      cases hc with
      | pending hd => rw [hpending] at hd; cases hd
      | unasked _ hadmits => rw [hresume] at hadmits; cases hadmits
    · exact Or.inr ⟨g, hg, c, hc, hleads⟩

/-- A page loses no key that leads to an object of the bucket. -/
theorem covers_receive {b : MemoryBucket} {o : StoredObject} (ho : o ∈ b.objects)
    (hto : LeadsTo true t o.key) (hcovers : Covers t walk given)
    (hstack : walk.stack = f :: outer) (hpending : f.pending = [])
    (hresume : f.resume ≠ .nothingLeft) :
    Covers t { walk with stack := ⟨f.under, (b.pageFor (walk.requestFor f)).entries,
          .ofNext (b.pageFor (walk.requestFor f)).next⟩ :: outer } given := by
  rcases hcovers with hgiven | ⟨g, hg, c, hc, hleads⟩
  · exact Or.inl hgiven
  right
  rcases List.mem_cons.mp (hstack ▸ hg) with rfl | hg
  · cases hc with
    | pending hd => rw [hpending] at hd; cases hd
    | unasked hlevel hadmits =>
      obtain ⟨e, hfold, rfl⟩ := FoldsTo.exists_of_leadsTo hlevel (hleads.trans hto)
      refine ⟨_, List.mem_cons_self .., e.key, ?_, hleads⟩
      rcases MemoryBucket.mem_pageFor_or_lt (walk.requestFor g) ho hfold
        ((Resume.admits_iff hresume).mp hadmits) with he | hnext
      · exact .pending he
      · exact .unasked hlevel (Resume.ofNext_admits.mpr hnext)
  · exact ⟨g, List.mem_cons_of_mem _ hg, c, hc, hleads⟩

/-- A key that a walk covers was given out, or comes after everything that was. -/
theorem covers_iff_behind (h : Sound request filter served walk given)
    (hcovers : Covers t walk given) : (∃ e ∈ given, e.key = t) ∨ ∀ e ∈ given, e.key < t := by
  rcases hcovers with hgiven | ⟨f, hf, c, hc, hleads⟩
  · exact Or.inl hgiven
  · exact Or.inr fun e he =>
      lt_of_lt_of_le (h.order.behind f hf c hc e he) (le_of_isPrefix hleads.isPrefix)

end Sound

end Walk

end ObjectListing
