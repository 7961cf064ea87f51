import ObjectListing.Proofs.Listing.Follow
import ObjectListing.Proofs.Listing.Retrieval
import ObjectListing.Proofs.Listing.SideBySide

/-!
The stack of a walk. The prefixes on it lead from the one that is listed into the directories that keys are in
(`Nest`), so there are no more of them than a key has delimiters (`Nest.length_le`), and each has one page pending
at most. Together with the order of what is ahead this is kept by every turn (`Walk.Stacked`), so it holds whenever
a listing is under way (`Course.stack_invariant`).
-/

namespace ObjectListing

open Text MemoryStore

/-- Whether a store has an object of this key in this bucket. -/
def MemoryStore.HasKey (s : MemoryStore) (bucket key : Text) : Prop :=
  ∃ b, s.bucket? bucket = some b ∧ ∃ o ∈ b.objects, o.key = key

/-! ### Prefixes inside each other -/

/-- Prefixes inside each other, the innermost first: the outermost is the one that is listed, and every other one
is longer than those around it, a directory, and the beginning of a stored key. -/
structure Nest (stored : Text → Prop) (listed : Text) (unders : List Text) : Prop where
  bottom : ∀ u, unders.getLast? = some u → u = listed
  proper : unders.Pairwise fun inner outer => outer <+: inner ∧ outer ≠ inner
  entered : ∀ u ∈ unders.dropLast, endsInSlash u = true ∧ ∃ k, stored k ∧ u <+: k

namespace Nest

variable {stored : Text → Prop} {listed u c : Text} {us : List Text}

theorem start (stored : Text → Prop) (listed : Text) : Nest stored listed [listed] :=
  ⟨fun _ h => (Option.some.inj h).symm, List.pairwise_singleton .., nofun⟩

/-- The innermost prefix is left. -/
theorem leave (h : Nest stored listed (u :: us)) : Nest stored listed us := by
  refine ⟨fun v hv => h.bottom v ?_, (List.pairwise_cons.mp h.proper).2, fun v hv => h.entered v ?_⟩
  · rw [List.getLast?_cons, hv]
    rfl
  · cases us with
    | nil => cases hv
    | cons v us => exact List.mem_cons_of_mem u hv

/-- A directory in the innermost prefix is entered. -/
theorem enter (h : Nest stored listed (u :: us)) (hc : OneLevel u c) (hend : endsInSlash c = true)
    (hstored : ∃ k, stored k ∧ c <+: k) : Nest stored listed (c :: u :: us) := by
  obtain ⟨houter, hproper⟩ := List.pairwise_cons.mp h.proper
  have hne {v : Text} (hv : v <+: u) : v ≠ c := by
    rintro rfl
    exact Nat.lt_irrefl _ (hc.length_lt.trans_le hv.length_le)
  refine ⟨fun v hv => h.bottom v (by rwa [List.getLast?_cons_cons] at hv),
    List.pairwise_cons.mpr ⟨fun v hv => ?_, h.proper⟩, fun v hv => ?_⟩
  · rcases List.mem_cons.mp hv with rfl | hv
    · exact ⟨hc.isPrefix, hne List.prefix_rfl⟩
    · exact ⟨(houter v hv).1.trans hc.isPrefix, hne (houter v hv).1⟩
  · rcases List.mem_cons.mp (List.dropLast_cons_cons ▸ hv) with rfl | hv
    · exact ⟨hend, hstored⟩
    · exact h.entered v hv

/-- A directory has more delimiters than what it is in. -/
theorem count_lt {inner outer : Text} (hpre : outer <+: inner) (hne : outer ≠ inner)
    (hend : endsInSlash inner = true) : outer.count '/' < inner.count '/' := by
  obtain ⟨rest, rfl⟩ := hpre
  have hrest : rest ≠ [] := fun h => hne (by rw [h, List.append_nil])
  rw [endsInSlash_append hrest, endsInSlash_iff] at hend
  obtain ⟨segment, rfl⟩ := hend
  simp only [List.count_append, List.count_singleton_self]
  omega

/-- Every prefix has at least as many delimiters as there are prefixes around it. -/
theorem length_le_count : ∀ {us : List Text} {u : Text}, Nest stored listed (u :: us) →
    us.length ≤ u.count '/'
  | [], _, _ => Nat.zero_le _
  | v :: us, u, h => by
    have hwithin := length_le_count h.leave
    obtain ⟨hpre, hne⟩ := (List.pairwise_cons.mp h.proper).1 v (List.mem_cons_self ..)
    have hmore := count_lt hpre hne (h.entered u (List.mem_cons_self ..)).1
    rw [List.length_cons]
    omega

/-- There is one prefix more, at most, than a stored key has delimiters. -/
theorem length_le (h : Nest stored listed us) {most : Nat} (hmost : ∀ k, stored k → k.count '/' ≤ most) :
    us.length ≤ 1 + most := by
  match us, h with
  | [], _ => exact Nat.zero_le _
  | [u], _ => exact Nat.le_add_right ..
  | u :: v :: us, h =>
    obtain ⟨-, k, hk, hpre⟩ := h.entered u (List.mem_cons_self ..)
    have hcount := length_le_count h
    have hkey : u.count '/' ≤ k.count '/' := hpre.sublist.count_le '/'
    have hbound := hmost k hk
    rw [List.length_cons]
    omega

end Nest

/-! ### Pages -/

/-- What a bucket folds to under the prefix of a frame, beyond its token, is ahead. -/
theorem Frame.ahead_of_folded {f : Frame} {b : MemoryBucket} {e : ObjectEntry}
    (he : e ∈ b.folded f.under) (hresume : f.resume.Admits e.key) : f.Ahead e.key := by
  obtain ⟨o, -, hfold⟩ := MemoryBucket.mem_folded.mp he
  exact .unasked hfold.oneLevel hresume

/-- What holds of the pending entries of every frame still does when the innermost frame has its first one taken, if
it holds of what is left of them. -/
theorem Frame.forall_rest (holds : List ObjectEntry → Prop) {f : Frame} {stack outer : List Frame}
    {e : ObjectEntry} {rest : List ObjectEntry} (hstack : stack = f :: outer) (hpending : f.pending = e :: rest)
    (htail : holds (e :: rest) → holds rest) (hall : ∀ g ∈ stack, holds g.pending) :
    ∀ g ∈ ({ f with pending := rest } : Frame) :: outer, holds g.pending := by
  rw [hstack] at hall
  obtain ⟨hinner, houter⟩ := List.forall_mem_cons.mp hall
  exact List.forall_mem_cons.mpr ⟨htail (hpending ▸ hinner), houter⟩

/-- A page has room for its size, and for one entry at least. -/
theorem Page.length_first_le (size : Nat) (es : List ObjectEntry) :
    (Page.first size es).entries.length ≤ max size 1 := by
  rw [Page.first]
  split
  · exact List.length_take_le ..
  · dsimp only
    omega

/-- No more is asked for than is configured. -/
theorem Selection.pageSize_le (s : Selection) (configured emitted : Nat) :
    s.pageSize configured emitted ≤ configured := by
  rw [pageSize]
  split
  · split
    · exact Nat.min_le_right ..
    · exact Nat.le_refl _
  · exact Nat.le_refl _

namespace Walk

/-- A walk below a prefix of a bucket with these keys: the prefixes on its stack are inside each other, what is ahead
is in order and comes after what was given out, and no frame has more than one page pending, of entries that stored
keys begin with. -/
structure Stacked (name : Text) (stored : Text → Prop) (listed : Text) (pageSize : Nat) (walk : Walk)
    (given : List ObjectEntry) : Prop where
  bucket : walk.bucket = name
  configured : walk.configured = pageSize
  nest : Nest stored listed (walk.stack.map (·.under))
  order : InOrder given walk.stack
  few : ∀ f ∈ walk.stack, f.pending.length ≤ max pageSize 1
  begun : ∀ f ∈ walk.stack, ∀ e ∈ f.pending, ∃ k, stored k ∧ e.key <+: k

namespace Stacked

variable {name : Text} {stored : Text → Prop} {listed : Text} {pageSize : Nat} {walk : Walk}
  {given : List ObjectEntry} {f : Frame} {e : ObjectEntry} {rest : List ObjectEntry} {outer : List Frame}

theorem start (name : Text) (stored : Text → Prop) (listed : Text) (pageSize : Nat)
    (selection : Selection) :
    Stacked name stored listed pageSize (.start name listed selection pageSize) [] := by
  refine ⟨rfl, rfl, Nest.start stored listed, InOrder.start listed, ?_, ?_⟩
  · intro f hf
    rw [List.mem_singleton.mp hf]
    exact Nat.zero_le _
  · intro f hf
    rw [List.mem_singleton.mp hf]
    nofun

variable (h : Stacked name stored listed pageSize walk given) (hstack : walk.stack = f :: outer)

include h hstack

theorem nest_cons : Nest stored listed (f.under :: outer.map (·.under)) := by
  have := h.nest
  rwa [hstack] at this

theorem order_cons : InOrder given (f :: outer) := hstack ▸ h.order

/-- The innermost frame may have fewer entries pending. -/
theorem few_rest (hpending : f.pending = e :: rest) :
    ∀ g ∈ ({ f with pending := rest } : Frame) :: outer, g.pending.length ≤ max pageSize 1 :=
  Frame.forall_rest (fun es => es.length ≤ max pageSize 1) hstack hpending Nat.le_of_succ_le h.few

theorem begun_rest (hpending : f.pending = e :: rest) :
    ∀ g ∈ ({ f with pending := rest } : Frame) :: outer, ∀ d ∈ g.pending, ∃ k, stored k ∧ d.key <+: k :=
  Frame.forall_rest (fun es => ∀ d ∈ es, ∃ k, stored k ∧ d.key <+: k) hstack hpending
    (fun hall d hd => hall d (List.mem_cons_of_mem e hd)) h.begun

omit h hstack

/-- Turns of a walk keep its stack in order. -/
theorem kept : Kept (Stacked name stored listed pageSize) := by
  refine ⟨?_, ?_, ?_, ?_⟩
  · intro w given f e rest outer h hstack hpending henters
    have hdirectory : e.isCommonPrefix = true := (Bool.and_eq_true_iff.mp henters).1
    have hmem : e ∈ f.pending := hpending ▸ List.mem_cons_self ..
    have hin : f ∈ w.stack := hstack ▸ List.mem_cons_self ..
    have htidy := h.order.tidy f hin
    refine ⟨h.bucket, h.configured, ?_, (h.order_cons hstack).enter hpending hdirectory, ?_, ?_⟩
    · exact (h.nest_cons hstack).enter (htidy.oneLevel e hmem) (htidy.kind e hmem ▸ hdirectory)
        (h.begun f hin e hmem)
    · exact List.forall_mem_cons.mpr ⟨Nat.zero_le _, h.few_rest hstack hpending⟩
    · exact List.forall_mem_cons.mpr ⟨nofun, h.begun_rest hstack hpending⟩
  · intro w given f e rest outer h _ hstack hpending _ _
    have hnest := h.nest_cons hstack
    exact ⟨h.bucket, h.configured, hnest, (h.order_cons hstack).give hpending,
      h.few_rest hstack hpending, h.begun_rest hstack hpending⟩
  · intro w given f e rest outer h hstack hpending _ _
    have hnest := h.nest_cons hstack
    exact ⟨h.bucket, h.configured, hnest, (h.order_cons hstack).skip hpending,
      h.few_rest hstack hpending, h.begun_rest hstack hpending⟩
  · intro w given f outer h hstack _ _
    have hmem {g : Frame} (hg : g ∈ outer) : g ∈ w.stack := hstack ▸ List.mem_cons_of_mem f hg
    exact ⟨h.bucket, h.configured, (h.nest_cons hstack).leave, (h.order_cons hstack).leave,
      fun g hg => h.few g (hmem hg), fun g hg => h.begun g (hmem hg)⟩

/-- A page of the bucket keeps the stack in order. -/
theorem receive {b : MemoryBucket} (h : Stacked name stored listed pageSize walk given)
    (hstored : ∀ o ∈ b.objects, stored o.key) (hstack : walk.stack = f :: outer)
    (hresume : f.resume ≠ .nothingLeft) :
    Stacked name stored listed pageSize
      { walk with stack := ⟨f.under, (b.pageFor (walk.requestFor f)).entries,
          .ofNext (b.pageFor (walk.requestFor f)).next⟩ :: outer } given := by
  have hmem {g : Frame} (hg : g ∈ outer) : g ∈ walk.stack := hstack ▸ List.mem_cons_of_mem f hg
  have hnest := h.nest_cons hstack
  refine ⟨h.bucket, h.configured, hnest,
    (h.order_cons hstack).receive (b.pageFor_fits (walk.requestFor f) hresume rfl),
    List.forall_mem_cons.mpr ⟨?_, fun g hg => h.few g (hmem hg)⟩,
    List.forall_mem_cons.mpr ⟨fun e he => ?_, fun g hg => h.begun g (hmem hg)⟩⟩
  · have hsize : (walk.requestFor f).size ≤ pageSize := h.configured ▸ Selection.pageSize_le ..
    calc (b.pageFor (walk.requestFor f)).entries.length ≤ max (walk.requestFor f).size 1 :=
          Page.length_first_le ..
      _ ≤ max pageSize 1 := by omega
  · obtain ⟨⟨o, ho, hfold⟩, -⟩ := MemoryBucket.mem_of_mem_pageFor he
    exact ⟨o.key, hstored o ho, hfold.leadsTo.isPrefix⟩

end Stacked

end Walk

/-- A listing that begins without a call begins its walk, if any. -/
theorem Listing.walk_of_settled {pageSize : Nat} {request : ListRequest} {now : Instant} {filter : Filter}
    {walk : Walk} (h : opens pageSize request now = .settled filter (.walking walk)) :
    walk = request.walk filter pageSize := by
  rw [opens] at h
  split at h
  · cases h
  · split at h
    · cases h
    · split at h
      · cases h
      · cases h
        rfl

namespace Course

/-! ### Walks under way -/

section Walking

variable {σ : Type} {l : Lister σ} {signal : StopSignal} {c : Course σ} {walk : Walk}

/-- A walk that is under way was so before the turn, or it begins with it. -/
theorem walking_of_step (h : (step l signal c).stage = .underway (.walking walk)) :
    (∃ request filter, c.stage = .underway (.opened request) ∧
      walk = request.walk filter l.config.pageSize ∧ (step l signal c).items = c.items) ∨
      ∃ before, c.stage = .underway (.walking before) := by
  obtain ⟨stage, w, deeds⟩ := c
  cases stage with
  | ended failure => cases h
  | underway listing =>
    cases listing with
    | walking before => exact Or.inr ⟨before, rfl⟩
    | buckets rest selection emitted =>
      rw [step] at h
      dsimp only [Listing.turn] at h
      cases rest with
      | nil => cases h
      | cons b rest =>
        cases hreached : selection.reached emitted with
        | true => rw [hreached] at h; cases h
        | false => rw [hreached] at h; cases h
    | opened request =>
      have hturn : Listing.turn l signal (.opened request) w = _ :=
        Listing.begin_eq_opens l signal request w
      rw [step] at h ⊢
      dsimp only at h ⊢
      rw [hturn] at h ⊢
      cases hopens : Listing.opens l.config.pageSize request w.moment with
      | refused e => rw [hopens] at h; cases h
      | asking filter =>
        rw [hopens] at h
        dsimp only at h
        obtain ⟨⟨answer, w'⟩, hcall⟩ :
            ∃ r, Listing.bucketCall l signal (Listing.opening l request filter w) = r := ⟨_, rfl⟩
        rw [hcall] at h
        cases answer with
        | error e => cases h
        | ok found => cases h
      | settled filter rest =>
        rw [hopens] at h
        dsimp only at h
        cases h
        refine Or.inl ⟨request, filter, rfl, Listing.walk_of_settled hopens, ?_⟩
        dsimp only
        rw [items, List.filterMap_append, filterMap_item?_asked, List.append_nil]
        rfl

end Walking

/-- While a listing of a store in memory is under way, the stack of its walk is in order. -/
theorem stacked_run (config : EngineConfig) (signal : StopSignal) (request : ListRequest)
    (w : World MemoryStore) : ∀ (n : Nat) (walk : Walk),
    (run (lister config) signal n (start request w)).stage = .underway (.walking walk) →
    ∃ given, Follows (Walk.Stacked request.uri.bucket (w.store.HasKey request.uri.bucket)
      request.uri.listed config.pageSize) (run (lister config) signal n (start request w)) walk given
  | 0, walk, hstage => by cases hstage
  | n + 1, walk, hstage => by
    rw [run_succ'] at hstage ⊢
    rcases walking_of_step hstage with ⟨request', filter, hopened, rfl, hitems⟩ | ⟨before, hbefore⟩
    · -- only the beginning is about to begin
      cases n with
      | succ n =>
        rw [run_succ'] at hopened
        exact absurd hopened (step_ne_opened _ _ _ _)
      | zero =>
        cases hopened
        exact ⟨[], hitems, Or.inl hstage, Walk.Stacked.start ..⟩
    · obtain ⟨given, hfollows⟩ := stacked_run config signal request w n before hbefore
      have hbuckets := run_buckets config signal n (start request w)
      obtain ⟨after, given', h⟩ : ∃ after given', Follows (Walk.Stacked request.uri.bucket
          (w.store.HasKey request.uri.bucket) request.uri.listed config.pageSize)
          (step (lister config) signal (run (lister config) signal n (start request w))) after given' := by
        refine hfollows.turn Walk.Stacked.kept ?_
        intro f outer page w' _ _ hstack _ hresume hpage
        obtain ⟨b, hb, rfl⟩ := Listing.pageCall_ok hpage
        rw [show (before.requestFor f).bucket = request.uri.bucket from hfollows.holds.bucket] at hb
        exact hfollows.holds.receive
          (fun o ho => ⟨b, (bucket?_congr hbuckets _).symm.trans hb, o, ho, rfl⟩) hstack hresume
      rcases h.stage with hafter | ⟨hended, -⟩ | ⟨e, hended⟩
      · cases hstage.symm.trans hafter
        exact ⟨given', h⟩
      · cases hstage.symm.trans hended
      · cases hstage.symm.trans hended

/-- Whenever a listing of a store in memory is under way, the frame at the bottom of its stack has the prefix that is
listed, and every other one a longer prefix than those below it, which ends in a delimiter and is the beginning of a
stored key; so there is one frame more, at most, than a key has delimiters. A frame has one page pending at most, in the
order of the keys, which are one level under its prefix. What is ahead of a frame, pending or still to be asked for,
which is all that the bucket folds to beyond the token, comes after everything that was given out, and after every key
that begins with the prefix of a frame above it. -/
theorem stack_invariant (config : EngineConfig) (signal : StopSignal) (request : ListRequest)
    (w : World MemoryStore) (n : Nat) {walk : Walk}
    (hstage : (run (lister config) signal n (start request w)).stage = .underway (.walking walk)) :
    ∃ given : List ObjectEntry,
      (run (lister config) signal n (start request w)).items = given.map .object ∧
      (∀ f, walk.stack.getLast? = some f → f.under = request.uri.listed) ∧
      (walk.stack.Pairwise fun inner outer => outer.under <+: inner.under ∧ outer.under ≠ inner.under) ∧
      (∀ f ∈ walk.stack.dropLast, endsInSlash f.under = true ∧
        ∃ k, w.store.HasKey request.uri.bucket k ∧ f.under <+: k) ∧
      (∀ most, (∀ k, w.store.HasKey request.uri.bucket k → k.count '/' ≤ most) →
        walk.stack.length ≤ 1 + most) ∧
      (∀ f ∈ walk.stack, f.pending.length ≤ max config.pageSize 1 ∧ Increasing f.pending ∧
        ∀ e ∈ f.pending, OneLevel f.under e.key) ∧
      (∀ f ∈ walk.stack, ∀ b, w.store.bucket? request.uri.bucket = some b →
        ∀ e ∈ b.folded f.under, f.resume.Admits e.key → f.Ahead e.key) ∧
      (∀ f ∈ walk.stack, ∀ c, f.Ahead c → ∀ e ∈ given, e.key < c) ∧
      walk.stack.Pairwise fun inner outer => ∀ c, outer.Ahead c → ∀ k, inner.under <+: k → k < c := by
  obtain ⟨given, h⟩ := stacked_run config signal request w n walk hstage
  have hstacked := h.holds
  refine ⟨given, h.items, fun f hf => ?_, List.pairwise_map.mp hstacked.nest.proper, fun f hf => ?_,
    fun most hmost => ?_, fun f hf => ?_, fun f _ b _ e he hadmits => Frame.ahead_of_folded he hadmits,
    hstacked.order.behind, hstacked.order.nested⟩
  · refine hstacked.nest.bottom f.under ?_
    rw [List.getLast?_map, hf]
    rfl
  · refine hstacked.nest.entered f.under ?_
    rw [← List.map_dropLast]
    exact List.mem_map_of_mem hf
  · have hlength := hstacked.nest.length_le hmost
    rwa [List.length_map] at hlength
  · have htidy := hstacked.order.tidy f hf
    exact ⟨hstacked.few f hf, htidy.increasing, htidy.oneLevel⟩

/-- A walk that is as deep as a key has delimiters, and one deeper, after it gave out an object that comes before. -/
theorem stack_invariant_closeKeys : ∃ (walk : Walk) (given : List ObjectEntry),
    (run (lister { pageSize := 1 }) {} 7
      (start { uri := ⟨.s3, ['b'], []⟩, recursive := true } { store := closeKeys })).items =
        given.map .object ∧
      walk.stack.map (·.under) = [['a', '/', '/'], ['a', '/'], []] ∧ walk.stack.length ≤ 1 + 2 ∧
      ∀ f ∈ walk.stack, ∀ c, f.Ahead c → ∀ e ∈ given, e.key < c := by
  let walk : Walk :=
    { bucket := ['b'], selection := { recursive := true }, configured := 1, emitted := 1,
      stack := [⟨['a', '/', '/'], [], .fromStart⟩, ⟨['a', '/'], [], .nothingLeft⟩,
        ⟨[], [], .nothingLeft⟩] }
  have hstage : (run (lister { pageSize := 1 }) {} 7
      (start { uri := ⟨.s3, ['b'], []⟩, recursive := true } { store := closeKeys })).stage =
        .underway (.walking walk) := by decide +kernel
  have hkeys : (closeKeys.bucket? ['b']).all (fun b => b.objects.all fun o => o.key.count '/' ≤ 2) = true := by
    decide +kernel
  obtain ⟨given, hitems, -, -, -, hdepth, -, -, hbehind, -⟩ := stack_invariant _ _ _ _ _ hstage
  refine ⟨walk, given, hitems, rfl, hdepth 2 ?_, hbehind⟩
  rintro k ⟨b, hb, o, ho, rfl⟩
  rw [show closeKeys.bucket? ['b'] = some b from hb] at hkeys
  exact of_decide_eq_true (List.all_eq_true.mp hkeys o ho)

end Course

end ObjectListing
