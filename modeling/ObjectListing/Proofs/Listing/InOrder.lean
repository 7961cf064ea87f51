import ObjectListing.Proofs.Listing.Walk
import ObjectListing.Proofs.Store.MemoryPages

/-!
Walks in order. While the pages that a walk gets are in the order of keys, everything that is still
ahead of it, on whatever level, comes after everything it gave out: a frame goes on behind the frames
on top of it (`InOrder.nested`), and what is given out increases (`InOrder.give`). Nothing here looks
at the store: the pages may come from different states of it.
-/

namespace ObjectListing

open Text

/-- Whether a key comes after what a listing of one prefix has brought so far. -/
def Resume.Admits : Resume → Text → Prop
  | fromStart, _ => True
  | after token, c => token < c
  | nothingLeft, _ => False

theorem Resume.Admits.of_lt {r : Resume} {t c : Text} (h : r.Admits t) (hlt : t < c) :
    r.Admits c := by
  cases r with
  | fromStart => trivial
  | after token => exact lt_trans h hlt
  | nothingLeft => exact h

theorem Resume.admits_iff {r : Resume} {c : Text} (h : r ≠ .nothingLeft) :
    r.Admits c ↔ ∀ t, r.token? = some t → t < c := by
  cases r with
  | fromStart => simp [Admits, token?]
  | after token => simp [Admits, token?]
  | nothingLeft => exact absurd rfl h

theorem Resume.ofNext_admits {next : Option Text} {c : Text} :
    (Resume.ofNext next).Admits c ↔ ∃ t, next = some t ∧ t < c := by
  cases next with
  | none => simp [ofNext, Admits]
  | some t => simp [ofNext, Admits]

/-- A page that goes on in order with the listing of a prefix. -/
structure Page.Fits (under : Text) (resume : Resume) (page : Page) : Prop where
  increasing : Increasing page.entries
  oneLevel : ∀ e ∈ page.entries, OneLevel under e.key
  kind : ∀ e ∈ page.entries, e.isCommonPrefix = endsInSlash e.key
  admitted : ∀ e ∈ page.entries, resume.Admits e.key
  next : ∀ t, page.next = some t → resume.Admits t ∧ ∀ e ∈ page.entries, e.key ≤ t

/-- The pages of a bucket fit. -/
theorem MemoryBucket.pageFor_fits (b : MemoryBucket) (request : PageRequest) {resume : Resume}
    (hresume : resume ≠ .nothingLeft) (htoken : request.token = resume.token?) :
    (b.pageFor request).Fits request.under resume := by
  have hadmitted : ∀ e ∈ (b.pageFor request).entries, resume.Admits e.key := fun e he =>
    (Resume.admits_iff hresume).mpr (htoken ▸ (mem_of_mem_pageFor he).2)
  refine ⟨b.increasing_pageFor request, fun e he => ?_, fun e he => ?_, hadmitted, fun t ht => ?_⟩
  · obtain ⟨⟨o, -, hfold⟩, -⟩ := mem_of_mem_pageFor he
    exact hfold.oneLevel
  · obtain ⟨⟨o, -, hfold⟩, -⟩ := mem_of_mem_pageFor he
    exact hfold.isCommonPrefix
  · obtain ⟨⟨last, hlast, rfl⟩, hle⟩ := pageFor_next ht
    exact ⟨hadmitted last hlast, hle⟩

namespace Frame

/-- The keys one level down that a walk still comes to in a frame: of the pending entries, and those
that were not asked for yet. -/
inductive Ahead (f : Frame) : Text → Prop
  | pending {e : ObjectEntry} : e ∈ f.pending → Ahead f e.key
  | unasked {c : Text} : OneLevel f.under c → f.resume.Admits c → Ahead f c

/-- A frame whose pending entries are in order and come before everything that was not asked for. -/
structure Tidy (f : Frame) : Prop where
  increasing : Increasing f.pending
  oneLevel : ∀ e ∈ f.pending, OneLevel f.under e.key
  kind : ∀ e ∈ f.pending, e.isCommonPrefix = endsInSlash e.key
  before : ∀ e ∈ f.pending, ∀ c, f.resume.Admits c → e.key < c

variable {f : Frame} {c : Text} {e : ObjectEntry} {rest : List ObjectEntry}

theorem Tidy.oneLevel_of_ahead (h : f.Tidy) (hc : f.Ahead c) : OneLevel f.under c := by
  cases hc with
  | pending he => exact h.oneLevel _ he
  | unasked hlevel _ => exact hlevel

theorem ahead_of_rest (hf : f.pending = e :: rest)
    (hc : ({ f with pending := rest } : Frame).Ahead c) : f.Ahead c := by
  cases hc with
  | pending he => exact .pending (hf ▸ List.mem_cons_of_mem _ he)
  | unasked hlevel hadmits => exact .unasked hlevel hadmits

/-- What is ahead is the next pending entry, or ahead after it. -/
theorem ahead_cases (hf : f.pending = e :: rest) (hc : f.Ahead c) :
    c = e.key ∨ ({ f with pending := rest } : Frame).Ahead c := by
  cases hc with
  | pending hd =>
    rw [hf] at hd
    rcases List.mem_cons.mp hd with rfl | hd
    · exact Or.inl rfl
    · exact Or.inr (.pending hd)
  | unasked hlevel hadmits => exact Or.inr (.unasked hlevel hadmits)

theorem Tidy.tail (h : f.Tidy) (hf : f.pending = e :: rest) :
    ({ f with pending := rest } : Frame).Tidy := by
  have hmem : ∀ d ∈ rest, d ∈ f.pending := fun d hd => hf ▸ List.mem_cons_of_mem _ hd
  refine ⟨?_, fun d hd => h.oneLevel d (hmem d hd), fun d hd => h.kind d (hmem d hd),
    fun d hd => h.before d (hmem d hd)⟩
  have hinc := h.increasing
  rw [hf] at hinc
  exact (List.pairwise_cons.mp hinc).2

/-- What is ahead after an entry has a greater key. -/
theorem Tidy.lt_of_ahead (h : f.Tidy) (hf : f.pending = e :: rest)
    (hc : ({ f with pending := rest } : Frame).Ahead c) : e.key < c := by
  cases hc with
  | pending hd =>
    have hinc := h.increasing
    rw [hf] at hinc
    exact (List.pairwise_cons.mp hinc).1 _ hd
  | unasked _ hadmits => exact h.before e (hf ▸ List.mem_cons_self ..) c hadmits

theorem tidy_start (under : Text) : ({ under } : Frame).Tidy :=
  ⟨List.Pairwise.nil, by simp, by simp, by simp⟩

theorem tidy_of_fits {page : Page} (hpage : page.Fits f.under f.resume) :
    (⟨f.under, page.entries, .ofNext page.next⟩ : Frame).Tidy := by
  refine ⟨hpage.increasing, hpage.oneLevel, hpage.kind, ?_⟩
  intro e he c hc
  obtain ⟨t, ht, hlt⟩ := Resume.ofNext_admits.mp hc
  exact lt_of_le_of_lt ((hpage.next t ht).2 e he) hlt

/-- A page brings nothing ahead that was not ahead. -/
theorem ahead_of_fits {page : Page} (hpage : page.Fits f.under f.resume)
    (hc : (⟨f.under, page.entries, .ofNext page.next⟩ : Frame).Ahead c) : f.Ahead c := by
  cases hc with
  | pending he => exact .unasked (hpage.oneLevel _ he) (hpage.admitted _ he)
  | unasked hlevel hadmits =>
    obtain ⟨t, ht, hlt⟩ := Resume.ofNext_admits.mp hadmits
    exact .unasked hlevel ((hpage.next t ht).1.of_lt hlt)

end Frame

/-- A walk in order: `given` is what it gave out, `stack` the prefixes it is inside of. -/
structure InOrder (given : List ObjectEntry) (stack : List Frame) : Prop where
  tidy : ∀ f ∈ stack, f.Tidy
  /-- A frame goes on behind everything under the prefixes on top of it. -/
  nested : stack.Pairwise fun f g => ∀ c, g.Ahead c → ∀ k, f.under <+: k → k < c
  increasing : Increasing given
  behind : ∀ f ∈ stack, ∀ c, f.Ahead c → ∀ e ∈ given, e.key < c

namespace InOrder

variable {given : List ObjectEntry} {f f' : Frame} {outer : List Frame} {e : ObjectEntry}
  {rest : List ObjectEntry}

theorem start (under : Text) : InOrder [] [{ under }] :=
  ⟨by simpa using Frame.tidy_start under, List.pairwise_singleton .., List.Pairwise.nil, by simp⟩

/-- Every prefix that is left behind may be forgotten. -/
theorem leave (h : InOrder given (f :: outer)) : InOrder given outer :=
  ⟨fun g hg => h.tidy g (List.mem_cons_of_mem _ hg), (List.pairwise_cons.mp h.nested).2,
    h.increasing, fun g hg => h.behind g (List.mem_cons_of_mem _ hg)⟩

/-- The innermost frame may go over into one that has no more ahead of it. -/
theorem replace (h : InOrder given (f :: outer)) (hunder : f'.under = f.under) (htidy : f'.Tidy)
    (hsub : ∀ c, f'.Ahead c → f.Ahead c) : InOrder given (f' :: outer) := by
  obtain ⟨hnested, houter⟩ := List.pairwise_cons.mp h.nested
  refine ⟨?_, List.pairwise_cons.mpr ⟨fun g hg => hunder ▸ hnested g hg, houter⟩, h.increasing, ?_⟩
  · intro g hg
    rcases List.mem_cons.mp hg with rfl | hg
    · exact htidy
    · exact h.leave.tidy g hg
  · intro g hg c hc
    rcases List.mem_cons.mp hg with rfl | hg
    · exact h.behind f (List.mem_cons_self ..) c (hsub c hc)
    · exact h.leave.behind g hg c hc

theorem skip (h : InOrder given (f :: outer)) (hf : f.pending = e :: rest) :
    InOrder given ({ f with pending := rest } :: outer) :=
  h.replace rfl ((h.tidy f (List.mem_cons_self ..)).tail hf) fun _ => Frame.ahead_of_rest hf

theorem receive {page : Page} (h : InOrder given (f :: outer))
    (hpage : page.Fits f.under f.resume) :
    InOrder given (⟨f.under, page.entries, .ofNext page.next⟩ :: outer) :=
  h.replace rfl (Frame.tidy_of_fits hpage) fun _ => Frame.ahead_of_fits hpage

/-- Entering a directory: what is in it comes after everything given out, and before the rest. -/
theorem enter (h : InOrder given (f :: outer)) (hf : f.pending = e :: rest)
    (he : e.isCommonPrefix = true) :
    InOrder given ({ under := e.key } :: { f with pending := rest } :: outer) := by
  have htidy := h.tidy f (List.mem_cons_self ..)
  have hmem : e ∈ f.pending := hf ▸ List.mem_cons_self ..
  have hlevel := htidy.oneLevel e hmem
  have hskip := h.skip hf
  obtain ⟨hnested, -⟩ := List.pairwise_cons.mp h.nested
  refine ⟨?_, List.pairwise_cons.mpr ⟨?_, hskip.nested⟩, h.increasing, ?_⟩
  · intro g hg
    rcases List.mem_cons.mp hg with rfl | hg
    · exact Frame.tidy_start e.key
    · exact hskip.tidy g hg
  · intro g hg c hc k hk
    rcases List.mem_cons.mp hg with rfl | hg
    · have hk : LeadsTo true e.key k := Or.inr ⟨rfl, htidy.kind e hmem ▸ he, hk⟩
      exact hlevel.lt_of_leadsTo ((htidy.tail hf).oneLevel_of_ahead hc) (htidy.lt_of_ahead hf hc) hk
        (.refl true c)
    · exact hnested g hg c hc k (hlevel.isPrefix.trans hk)
  · intro g hg c hc d hd
    rcases List.mem_cons.mp hg with rfl | hg
    · have hde := h.behind f (List.mem_cons_self ..) e.key (.pending hmem) d hd
      exact lt_trans hde ((Frame.tidy_start e.key).oneLevel_of_ahead hc).lt
    · exact hskip.behind g hg c hc d hd

/-- Giving out an entry: it comes after everything given out, and before the rest. -/
theorem give (h : InOrder given (f :: outer)) (hf : f.pending = e :: rest) :
    InOrder (given ++ [e]) ({ f with pending := rest } :: outer) := by
  have htidy := h.tidy f (List.mem_cons_self ..)
  have hmem : e ∈ f.pending := hf ▸ List.mem_cons_self ..
  have hskip := h.skip hf
  obtain ⟨hnested, -⟩ := List.pairwise_cons.mp h.nested
  refine ⟨hskip.tidy, hskip.nested, ?_, ?_⟩
  · refine List.pairwise_append.mpr ⟨h.increasing, List.pairwise_singleton .., ?_⟩
    intro d hd x hx
    rw [List.mem_singleton.mp hx]
    exact h.behind f (List.mem_cons_self ..) e.key (.pending hmem) d hd
  · intro g hg c hc d hd
    rcases List.mem_append.mp hd with hd | hd
    · exact hskip.behind g hg c hc d hd
    · rw [List.mem_singleton.mp hd]
      rcases List.mem_cons.mp hg with rfl | hg
      · exact htidy.lt_of_ahead hf hc
      · exact hnested g hg c hc e.key (htidy.oneLevel e hmem).isPrefix

end InOrder

end ObjectListing
