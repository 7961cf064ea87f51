import Mathlib.Algebra.BigOperators.Group.Finset.Piecewise
import Mathlib.Algebra.BigOperators.Group.Finset.Sigma
import Mathlib.Algebra.Order.Floor.Div
import ObjectListing.Proofs.Listing.Exactness
import ObjectListing.Proofs.Store.Chaining

/-!
How many calls a listing makes. Every prefix that a listing of a store in memory visits takes the pages that
its entries fill (`MemoryBucket.pageCount`), and what a stack of frames still has to ask for is known in
advance (`Tally.owed`): a turn that asks for a page lowers it by just this request, and no other turn
changes it. So what was asked for and what is still to be asked for make up the same all along, and a listing
without a cap has asked for all of it in the end (`MemoryStore.asked_count`).
-/

namespace ObjectListing

open Text MemoryStore Walk

/-! ### Prefixes below others -/

namespace MemoryBucket

/-- The directories below a beginning of keys: what goes on from it, ends in the delimiter, and is itself the
beginning of a key of the bucket. -/
def directoriesBelow (b : MemoryBucket) (under : Text) : Finset Text :=
  (b.objects.flatMap fun o => o.key.inits).toFinset.filter fun v =>
    under <+: v ∧ v ≠ under ∧ endsInSlash v = true

/-- A beginning of keys with all directories below it. -/
def subtree (b : MemoryBucket) (under : Text) : Finset Text := {under} ∪ b.directoriesBelow under

/-- The directories one level under a beginning of keys. -/
def branches (b : MemoryBucket) (under : Text) : List Text :=
  ((b.folded under).filter ObjectEntry.isCommonPrefix).map (·.key)

variable {b : MemoryBucket} {under v c : Text}

theorem mem_directoriesBelow : v ∈ b.directoriesBelow under ↔
    (∃ o ∈ b.objects, v <+: o.key) ∧ under <+: v ∧ v ≠ under ∧ endsInSlash v = true := by
  simp [directoriesBelow]

theorem mem_subtree : v ∈ b.subtree under ↔ v = under ∨ v ∈ b.directoriesBelow under := by
  rw [subtree, Finset.mem_union, Finset.mem_singleton]

theorem mem_branches : c ∈ b.branches under ↔
    ∃ e, (∃ o ∈ b.objects, FoldsTo under o e) ∧ e.isCommonPrefix = true ∧ e.key = c := by
  simp [branches, mem_folded, and_assoc]

theorem nodup_branches (b : MemoryBucket) (under : Text) : (b.branches under).Nodup := by
  have hinc := (b.increasing_folded under).sublist
    (List.filter_sublist (p := ObjectEntry.isCommonPrefix))
  exact List.pairwise_map.mpr (hinc.imp fun hlt => hlt.ne)

/-- A branch stands one level down, and leads to all of its subtree. -/
theorem leadsTo_of_mem_branches (hc : c ∈ b.branches under) (hv : v ∈ b.subtree c) :
    OneLevel under c ∧ LeadsTo true c v := by
  obtain ⟨e, ⟨o, -, hfold⟩, hprefix, rfl⟩ := mem_branches.mp hc
  refine ⟨hfold.oneLevel, ?_⟩
  rcases mem_subtree.mp hv with rfl | hv
  · exact .refl true _
  · exact Or.inr ⟨rfl, hfold.isCommonPrefix ▸ hprefix, (mem_directoriesBelow.mp hv).2.1⟩

/-- A directory below a beginning is in the subtree of a branch. -/
theorem exists_branch (hv : v ∈ b.directoriesBelow under) : ∃ c ∈ b.branches under, v ∈ b.subtree c := by
  obtain ⟨⟨o, ho, hvo⟩, hunder, hne, hend⟩ := mem_directoriesBelow.mp hv
  obtain ⟨c, hc, hcv⟩ := OneLevel.exists_leadsTo hunder hne
  obtain ⟨e, hfold, rfl⟩ := FoldsTo.exists_of_leadsTo hc (hcv.trans (Or.inr ⟨rfl, hend, hvo⟩))
  have hbranch (hslash : endsInSlash e.key = true) : e.key ∈ b.branches under :=
    mem_branches.mpr ⟨e, ⟨o, ho, hfold⟩, hfold.isCommonPrefix.trans hslash, rfl⟩
  rcases hcv with rfl | ⟨-, hslash, hpre⟩
  · exact ⟨e.key, hbranch hend, mem_subtree.mpr (Or.inl rfl)⟩
  · refine ⟨e.key, hbranch hslash, mem_subtree.mpr ?_⟩
    by_cases heq : v = e.key
    · exact Or.inl heq
    · exact Or.inr (mem_directoriesBelow.mpr ⟨⟨o, ho, hvo⟩, hpre, heq, hend⟩)

/-- The subtrees of branches are made of directories below the beginning. -/
theorem subtree_subset (hc : c ∈ b.branches under) : b.subtree c ⊆ b.directoriesBelow under := by
  intro v hv
  obtain ⟨hlevel, hleads⟩ := leadsTo_of_mem_branches hc hv
  have hlong : under.length < v.length := hlevel.length_lt.trans_le hleads.isPrefix.length_le
  obtain ⟨e, ⟨o, ho, hfold⟩, hprefix, rfl⟩ := mem_branches.mp hc
  have hkey : (∃ o ∈ b.objects, v <+: o.key) ∧ endsInSlash v = true := by
    rcases mem_subtree.mp hv with rfl | hv
    · exact ⟨⟨o, ho, hfold.leadsTo.isPrefix⟩, hfold.isCommonPrefix ▸ hprefix⟩
    · exact ⟨(mem_directoriesBelow.mp hv).1, (mem_directoriesBelow.mp hv).2.2.2⟩
  refine mem_directoriesBelow.mpr ⟨hkey.1, hlevel.isPrefix.trans hleads.isPrefix, ?_, hkey.2⟩
  rintro rfl
  exact lt_irrefl _ hlong

theorem directoriesBelow_eq (b : MemoryBucket) (under : Text) :
    b.directoriesBelow under = (b.branches under).toFinset.biUnion b.subtree := by
  ext v
  simp only [Finset.mem_biUnion, List.mem_toFinset]
  exact ⟨exists_branch, fun ⟨c, hc, hv⟩ => subtree_subset hc hv⟩

/-- A sum over a subtree, branch by branch. -/
theorem sum_subtree (b : MemoryBucket) (under : Text) (f : Text → Nat) :
    ∑ v ∈ b.subtree under, f v = f under + ((b.branches under).map fun c => ∑ v ∈ b.subtree c, f v).sum := by
  have hnot : under ∉ b.directoriesBelow under := fun h => (mem_directoriesBelow.mp h).2.2.1 rfl
  have hapart : ((b.branches under).toFinset : Set Text).PairwiseDisjoint b.subtree := by
    intro c hc d hd hne
    refine Finset.disjoint_left.mpr fun v hvc hvd => hne ?_
    obtain ⟨hlevel, hleads⟩ := leadsTo_of_mem_branches (List.mem_toFinset.mp hc) hvc
    obtain ⟨hlevel', hleads'⟩ := leadsTo_of_mem_branches (List.mem_toFinset.mp hd) hvd
    exact hlevel.eq_of_leadsTo hlevel' hleads hleads'
  calc ∑ v ∈ b.subtree under, f v
      = f under + ∑ v ∈ b.directoriesBelow under, f v := by
        rw [subtree, Finset.sum_union (Finset.disjoint_singleton_left.mpr hnot), Finset.sum_singleton]
    _ = f under + ∑ c ∈ (b.branches under).toFinset, ∑ v ∈ b.subtree c, f v := by
        rw [directoriesBelow_eq, Finset.sum_biUnion hapart]
    _ = _ := by rw [List.sum_toFinset _ (b.nodup_branches under)]

end MemoryBucket

/-! ### Pages of a prefix -/

/-- The number of pages that so many entries fill. Even no entries take a page. -/
def pagesFor (size entries : Nat) : Nat := max 1 (entries ⌈/⌉ max size 1)

/-- The number of pages that the entries one level under a beginning of keys fill. -/
def MemoryBucket.pageCount (b : MemoryBucket) (size : Nat) (under : Text) : Nat :=
  pagesFor size (b.folded under).length

theorem pagesFor_pos (size entries : Nat) : 0 < pagesFor size entries := by
  rw [pagesFor]
  omega

/-- A page is one of those that the entries fill, and leaves the others. -/
theorem Page.Leaves.pagesFor_eq {page : Page} {size : Nat} {rest : List ObjectEntry}
    (h : page.Leaves size rest) : pagesFor size (page.entries ++ rest).length =
      1 + if page.next = none then 0 else pagesFor size rest.length := by
  have hsize : 0 < max size 1 := by omega
  rw [List.length_append]
  by_cases hnext : page.next = none
  · have hone : page.entries.length ⌈/⌉ max size 1 ≤ 1 := by
      rw [ceilDiv_le_iff_le_mul hsize, Nat.mul_one]
      exact h.few
    rw [if_pos hnext, h.rest_eq_nil hnext, List.length_nil, Nat.add_zero, pagesFor]
    omega
  · have hrest : rest ≠ [] := h.next_isSome_iff.mp (Option.isSome_iff_ne_none.mpr hnext)
    have hpos : 0 < rest.length := List.length_pos_of_ne_nil hrest
    have hsome : 0 < rest.length ⌈/⌉ max size 1 := by
      rw [Nat.ceilDiv_eq_add_pred_div]
      exact Nat.div_pos (by omega) hsize
    have hmore : (max size 1 + rest.length) ⌈/⌉ max size 1 = rest.length ⌈/⌉ max size 1 + 1 := by
      rw [Nat.ceilDiv_eq_add_pred_div, Nat.ceilDiv_eq_add_pred_div,
        show max size 1 + rest.length + max size 1 - 1 = rest.length + max size 1 - 1 + max size 1 by omega,
        Nat.add_div_right _ hsize]
    rw [if_neg hnext, h.full hrest, pagesFor, hmore, pagesFor]
    omega

/-! ### What is still to be asked for -/

/-- Whether a call asks for a page that is counted: of which prefix it is, and whether it is the first one,
which is asked for without a token. -/
def StoreCall.asksFor (counts : (under : Text) → (first : Bool) → Bool) : StoreCall → Bool
  | listObjects request => counts request.under request.token.isNone
  | _ => false

/-- The bucket that a walk goes through, the size of its pages, whether it enters prefixes, and which pages are
counted. -/
structure Tally where
  bucket : MemoryBucket
  size : Nat
  deep : Bool
  counts : (under : Text) → (first : Bool) → Bool

namespace Tally

/-- The pages of one prefix that are counted. -/
def cost (t : Tally) (under : Text) : Nat :=
  (t.counts under true).toNat + (t.bucket.pageCount t.size under - 1) * (t.counts under false).toNat

/-- The pages of a prefix and of all directories below it that are counted. -/
def toll (t : Tally) (under : Text) : Nat := ∑ v ∈ t.bucket.subtree under, t.cost v

/-- Whether a prefix is entered that an entry stands for. -/
def enters (t : Tally) (e : ObjectEntry) : Bool := e.isCommonPrefix && t.deep

/-- What the prefixes cost that are entered among some entries. -/
def tolls (t : Tally) (es : List ObjectEntry) : Nat :=
  ((es.filter t.enters).map fun e => t.toll e.key).sum

/-- What a frame is yet to cost: the pages that it asks for, and what it enters on the page that it has and on
the pages to come. -/
def owed (t : Tally) (f : Frame) : Nat :=
  match f.resume with
  | .fromStart => t.cost f.under + t.tolls (f.pending ++ t.bucket.folded f.under)
  | .after token =>
    let unseen := ObjectEntry.after (some token) (t.bucket.folded f.under)
    pagesFor t.size unseen.length * (t.counts f.under false).toNat + t.tolls (f.pending ++ unseen)
  | .nothingLeft => t.tolls f.pending

/-- What all frames of a stack are yet to cost. -/
def owedAll (t : Tally) (stack : List Frame) : Nat := (stack.map t.owed).sum

variable {t : Tally} {f : Frame} {e : ObjectEntry}

theorem tolls_cons (t : Tally) (e : ObjectEntry) (es : List ObjectEntry) :
    t.tolls (e :: es) = (if t.enters e then t.toll e.key else 0) + t.tolls es := by
  cases henters : t.enters e with
  | false => rw [tolls, List.filter_cons_of_neg (by simp [henters]), if_neg (by simp), Nat.zero_add, tolls]
  | true => rw [tolls, List.filter_cons_of_pos henters, if_pos rfl, List.map_cons, List.sum_cons, tolls]

/-- An entry of a page is paid for when it is looked at. -/
theorem owed_of_pending {rest : List ObjectEntry} (h : f.pending = e :: rest) :
    t.owed f = (if t.enters e then t.toll e.key else 0) + t.owed { f with pending := rest } := by
  obtain ⟨under, pending, resume⟩ := f
  obtain rfl : pending = e :: rest := h
  cases resume with
  | fromStart => simp only [owed, List.cons_append, tolls_cons]; omega
  | after token => simp only [owed, List.cons_append, tolls_cons]; omega
  | nothingLeft => rw [owed, owed, tolls_cons]

/-- A prefix that is not begun costs its pages and, if prefixes are entered, those of all directories below
it. -/
theorem owed_fromStart (t : Tally) (under : Text) :
    t.owed { under } = ∑ v ∈ if t.deep then t.bucket.subtree under else {under}, t.cost v := by
  have howed : t.owed { under } = t.cost under + t.tolls (t.bucket.folded under) := rfl
  rw [howed]
  cases hdeep : t.deep with
  | false =>
    have henters : t.enters = fun _ => false := by
      funext e
      rw [enters, hdeep, Bool.and_false]
    have hnone : t.tolls (t.bucket.folded under) = 0 := by simp [tolls, henters]
    rw [if_neg Bool.false_ne_true, Finset.sum_singleton, hnone, Nat.add_zero]
  | true =>
    have henters : t.enters = ObjectEntry.isCommonPrefix := by
      funext e
      rw [enters, hdeep, Bool.and_true]
    have hall : t.tolls (t.bucket.folded under) = ((t.bucket.branches under).map t.toll).sum := by
      rw [tolls, henters, MemoryBucket.branches, List.map_map]
      rfl
    rw [if_pos rfl, t.bucket.sum_subtree under t.cost, hall]
    rfl

theorem owed_fromStart_of_enters (h : t.enters e = true) : t.owed { under := e.key } = t.toll e.key := by
  have hdeep : t.deep = true := (Bool.and_eq_true_iff.mp h).2
  rw [owed_fromStart, if_pos hdeep, toll]

/-- A page that is asked for is one of those that are owed, and the others still are. -/
theorem owed_eq_receive (request : PageRequest) (hpending : f.pending = []) (hresume : f.resume ≠ .nothingLeft)
    (hunder : request.under = f.under) (htoken : request.token = f.resume.token?)
    (hsize : request.size = t.size) :
    t.owed f = (t.counts request.under request.token.isNone).toNat +
      t.owed ⟨f.under, (t.bucket.pageFor request).entries, .ofNext (t.bucket.pageFor request).next⟩ := by
  obtain ⟨under, pending, resume⟩ := f
  obtain ⟨bucket, under', token, size⟩ := request
  dsimp only at hpending hresume hunder htoken hsize
  subst hpending hunder htoken hsize
  obtain ⟨rest, hsplit, hleaves⟩ :=
    Page.exists_leaves_first t.size (ObjectEntry.after resume.token? (t.bucket.folded under'))
  have hpage : t.bucket.pageFor ⟨bucket, under', resume.token?, t.size⟩ =
      .first t.size (ObjectEntry.after resume.token? (t.bucket.folded under')) := rfl
  rw [hpage]
  generalize Page.first t.size (ObjectEntry.after resume.token? (t.bucket.folded under')) = page
    at hsplit hleaves
  have hlater : t.owed ⟨under', page.entries, .ofNext page.next⟩ =
      (if page.next = none then 0 else pagesFor t.size rest.length) * (t.counts under' false).toNat +
        t.tolls (page.entries ++ rest) := by
    cases hnext : page.next with
    | none =>
      rw [hleaves.rest_eq_nil hnext, if_pos rfl, Nat.zero_mul, Nat.zero_add, List.append_nil]
      rfl
    | some u =>
      have hrest := ObjectEntry.after_next (t.bucket.increasing_folded under') hsplit hleaves hnext
      rw [if_neg (Option.some_ne_none u), ← hrest]
      rfl
  rw [hlater]
  cases resume with
  | nothingLeft => exact absurd rfl hresume
  | fromStart =>
    have hfolded : t.bucket.folded under' = page.entries ++ rest := hsplit
    rw [owed, cost, MemoryBucket.pageCount, List.nil_append, hfolded, hleaves.pagesFor_eq,
      Nat.add_sub_cancel_left, Nat.add_assoc]
    rfl
  | after token =>
    have hunseen : ObjectEntry.after (some token) (t.bucket.folded under') = page.entries ++ rest := hsplit
    rw [owed]
    dsimp only
    rw [hunseen, List.nil_append, hleaves.pagesFor_eq, Nat.add_mul, Nat.one_mul, Nat.add_assoc]
    rfl

theorem owedAll_cons (t : Tally) (f : Frame) (outer : List Frame) :
    t.owedAll (f :: outer) = t.owed f + t.owedAll outer := by
  rw [owedAll, List.map_cons, List.sum_cons, owedAll]

variable {rest : List ObjectEntry} {outer : List Frame}

theorem owedAll_enter (hpending : f.pending = e :: rest) (henters : t.enters e = true) :
    t.owedAll ({ under := e.key } :: { f with pending := rest } :: outer) = t.owedAll (f :: outer) := by
  rw [owedAll_cons, owedAll_cons, owedAll_cons, owed_of_pending hpending, if_pos henters,
    owed_fromStart_of_enters henters, Nat.add_assoc]

theorem owedAll_pass (hpending : f.pending = e :: rest) (henters : t.enters e = false) :
    t.owedAll ({ f with pending := rest } :: outer) = t.owedAll (f :: outer) := by
  rw [owedAll_cons, owedAll_cons, owed_of_pending hpending, henters, if_neg Bool.false_ne_true,
    Nat.zero_add]

theorem owedAll_leave (hpending : f.pending = []) (hresume : f.resume = .nothingLeft) :
    t.owedAll outer = t.owedAll (f :: outer) := by
  have howed : t.owed f = 0 := by
    rw [owed, hresume, hpending]
    rfl
  rw [owedAll_cons, howed, Nat.zero_add]

end Tally

/-! ### Turn by turn -/

namespace Course

variable {σ : Type} (counts : (under : Text) → (first : Bool) → Bool)

/-- The pages that were asked for so far and are counted. -/
def paid (c : Course σ) : Nat := c.calls.countP (StoreCall.asksFor counts)

variable {counts} {stage stage' : Stage} {w w' : World σ} {deeds : List Deed}

theorem paid_gave (item : ListItem) :
    paid counts ⟨stage, w, deeds ++ [.gave item]⟩ = paid counts ⟨stage', w', deeds⟩ := by
  simp [paid, calls]

theorem paid_asked (request : PageRequest) :
    paid counts ⟨stage, w, deeds ++ List.replicate 1 (.asked (.listObjects request))⟩ =
      paid counts ⟨stage', w', deeds⟩ + (counts request.under request.token.isNone).toNat := by
  rw [paid, calls, List.filterMap_append, filterMap_call?_replicate, List.countP_append]
  cases hcounts : counts request.under request.token.isNone <;> simp [paid, calls, StoreCall.asksFor, hcounts]

end Course

namespace Listing

variable {config : EngineConfig} {signal : StopSignal} {w w' : World MemoryStore}

/-- In a calm world a page is asked for once. -/
theorem callTimes_pageCall {request : PageRequest} {b : MemoryBucket} {page : Page} (hw : Calm signal w)
    (hb : w.store.bucket? request.bucket = some b)
    (h : pageCall (lister config) signal request w = (.ok page, w')) :
    w'.callTimes.length = w.callTimes.length + 1 := by
  obtain ⟨e, hcall⟩ := pageCall_of_ok (l := lister config) (World.isStopped_eq_false hw.unstopped)
    (listObjects_answer hw.faultless hb)
  rw [hcall] at h
  cases h
  rw [World.callTimes_call]
  rfl

end Listing

namespace Tally

variable {t : Tally} {name : Text} {s : Selection} {total : Nat} {config : EngineConfig} {signal : StopSignal}
  {c : Course MemoryStore}

/-- Whether what was asked for in a course and what its walk is yet to ask for make up a total. Once the course
is over, no more was asked for, and no less if it had no cap and did not fail. -/
inductive Settles (t : Tally) (name : Text) (s : Selection) (total : Nat) (c : Course MemoryStore) : Prop
  | underway {walk : Walk} : c.stage = .underway (.walking walk) → walk.bucket = name →
      walk.selection = s → walk.configured = t.size → c.paid t.counts + t.owedAll walk.stack = total →
      Settles t name s total c
  | ended {failure : Option StoreError} : c.stage = .ended failure → c.paid t.counts ≤ total →
      (s.cap = none → failure = none → c.paid t.counts = total) → Settles t name s total c

theorem Settles.paid_le (h : t.Settles name s total c) : c.paid t.counts ≤ total := by
  cases h with
  | underway _ _ _ _ htotal => exact htotal ▸ Nat.le_add_right ..
  | ended _ hle _ => exact hle

/-- A turn leaves the total as it is. -/
theorem Settles.step (hdeep : s.recursive = t.deep) (hsize : ∀ emitted, s.pageSize t.size emitted = t.size)
    (hcalm : Listing.Calm signal c.world) (hb : c.world.store.bucket? name = some t.bucket)
    (h : t.Settles name s total c) : t.Settles name s total (c.step (lister config) signal) := by
  have henters (e : ObjectEntry) : s.enters e = t.enters e := by rw [Selection.enters, hdeep, enters]
  cases h with
  | @ended failure hstage hle heq =>
    rw [Course.step_ended hstage]
    exact .ended hstage hle heq
  | @underway walk hstage hbucket hselection hconfigured htotal =>
    subst hbucket hselection
    have hwalked := Course.step_walked (lister config) signal hstage
    generalize c.step (lister config) signal = next at hwalked ⊢
    cases hwalked with
    | finished hend =>
      refine .ended rfl (htotal ▸ Nat.le_add_right ..) fun hcap _ => ?_
      have hstack : walk.stack = [] := hend.resolve_left (by simp [Selection.reached, hcap])
      rw [hstack] at htotal
      exact htotal
    | enter _ hstack hpending hdescends =>
      rw [hstack, ← owedAll_enter hpending (henters _ ▸ hdescends)] at htotal
      exact .underway rfl rfl rfl hconfigured htotal
    | give _ hstack hpending hdescends _ =>
      rw [hstack, ← owedAll_pass hpending (henters _ ▸ hdescends), ← Course.paid_gave] at htotal
      exact .underway rfl rfl rfl hconfigured htotal
    | skip _ hstack hpending hdescends _ =>
      rw [hstack, ← owedAll_pass hpending (henters _ ▸ hdescends)] at htotal
      exact .underway rfl rfl rfl hconfigured htotal
    | leave _ hstack hpending hresume =>
      rw [hstack, ← owedAll_leave hpending hresume] at htotal
      exact .underway rfl rfl rfl hconfigured htotal
    | @refused f outer e w k _ hstack hpending hresume hpage hk =>
      exact absurd hpage (Listing.pageCall_ne_error hcalm hb)
    | @received f outer page w k _ hstack hpending hresume hpage hk =>
      refine .underway rfl rfl rfl hconfigured ?_
      obtain ⟨b, hb', rfl⟩ := Listing.pageCall_ok hpage
      obtain rfl : t.bucket = b := Option.some.inj (hb.symm.trans hb')
      have honce := Listing.callTimes_pageCall hcalm hb hpage
      obtain rfl : k = 1 := by omega
      have hasked : (walk.requestFor f).size = t.size := by
        rw [Walk.requestFor, hconfigured, hsize]
      have howed := t.owed_eq_receive (walk.requestFor f) hpending hresume rfl rfl hasked
      rw [hstack, owedAll_cons, howed] at htotal
      rw [Course.paid_asked, owedAll_cons, Nat.add_assoc, ← Nat.add_assoc (Bool.toNat _)]
      exact htotal

end Tally

/-! ### The whole listing -/

/-- The prefixes that a listing of a bucket visits: the listed one and, if it is recursive, all directories
below it. -/
def ListRequest.visited (request : ListRequest) (b : MemoryBucket) : Finset Text :=
  if request.recursive then b.subtree request.uri.listed else {request.uri.listed}

namespace MemoryStore

variable {request : ListRequest} {w : World MemoryStore} {b : MemoryBucket} {filter : Filter}
  {config : EngineConfig} {signal : StopSignal}

/-- The tally of a listing. -/
def tally (b : MemoryBucket) (config : EngineConfig) (request : ListRequest)
    (counts : (under : Text) → (first : Bool) → Bool) : Tally :=
  ⟨b, config.pageSize, request.recursive, counts⟩

/-- All along, what was asked for and what is yet to be asked for make up what the visited prefixes cost. -/
theorem settles_run (counts : (under : Text) → (first : Bool) → Bool) (hbucket : request.uri.bucket ≠ [])
    (hb : w.store.bucket? request.uri.bucket = some b)
    (hfilter : request.filter.compile w.moment = .ok filter) (hcalm : Listing.Calm signal w)
    (hreached : (request.selection filter).reached 0 = false)
    (hsize : ∀ emitted, (request.selection filter).pageSize config.pageSize emitted = config.pageSize) (n : Nat) :
    (tally b config request counts).Settles request.uri.bucket (request.selection filter)
        (∑ v ∈ request.visited b, (tally b config request counts).cost v)
        (Course.run (lister config) signal (n + 1) (.start request w)) ∧
      Listing.Calm signal (Course.run (lister config) signal (n + 1) (.start request w)).world ∧
      (Course.run (lister config) signal (n + 1) (.start request w)).world.store.bucket? request.uri.bucket =
        some b := by
  induction n with
  | zero =>
    have hone : (Course.start request w).step (lister config) signal = _ := Course.step_start hbucket hfilter
    rw [hreached, if_neg Bool.false_ne_true] at hone
    have hcalm' : Listing.Calm signal ((Course.start request w).step (lister config) signal).world :=
      Course.step_calm config hcalm
    have hbuckets := Course.step_buckets config signal (.start request w)
    refine ⟨?_, hcalm', (bucket?_congr hbuckets _).trans hb⟩
    rw [Course.run_succ, hone]
    refine .underway rfl rfl rfl rfl ?_
    have hvisited := (tally b config request counts).owed_fromStart request.uri.listed
    exact (Nat.zero_add _).trans ((Nat.add_zero _).trans hvisited)
  | succ n ih =>
    obtain ⟨hsettles, hcalm', hb'⟩ := ih
    rw [Course.run_succ']
    exact ⟨hsettles.step rfl hsize hcalm' hb', Course.step_calm config hcalm',
      (bucket?_congr (Course.step_buckets ..) _).trans hb'⟩

/-- A listing that is to give out nothing asks for nothing. -/
theorem paid_run_reached (counts : (under : Text) → (first : Bool) → Bool) (hbucket : request.uri.bucket ≠ [])
    (hfilter : request.filter.compile w.moment = .ok filter)
    (hreached : (request.selection filter).reached 0 = true) : ∀ n : Nat,
    (Course.run (lister config) signal n (.start request w)).paid counts = 0
  | 0 => rfl
  | 1 => by
    rw [Course.run_succ, Course.step_start hbucket hfilter]
    rfl
  | n + 2 => by
    have hended : Course.run (lister config) signal 2 (.start request w) = _ :=
      Course.run_start_reached hbucket hfilter hreached
    have hstage : (Course.run (lister config) signal 2 (.start request w)).stage = .ended none := by rw [hended]
    rw [Course.run_of_le (Nat.le_add_left 2 n) hstage, hended]
    rfl

/-- The pages that a listing has asked for in the end and are counted. -/
theorem exists_paid (counts : (under : Text) → (first : Bool) → Bool) (hbucket : request.uri.bucket ≠ [])
    (hb : w.store.bucket? request.uri.bucket = some b)
    (hfilter : request.filter.compile w.moment = .ok filter) (hcalm : Listing.Calm signal w)
    (hcap : request.cap = none) {n : Nat}
    (hended : (Course.run (lister config) signal n (.start request w)).stage = .ended none) :
    (Course.run (lister config) signal n (.start request w)).paid counts =
      ∑ v ∈ request.visited b, (tally b config request counts).cost v := by
  have hreached : (request.selection filter).reached 0 = false := by
    simp [Selection.reached, ListRequest.selection, hcap]
  have hsize (emitted : Nat) :
      (request.selection filter).pageSize config.pageSize emitted = config.pageSize := by
    simp [Selection.pageSize, ListRequest.selection, hcap]
  cases n with
  | zero => cases hended
  | succ n =>
    cases (settles_run counts hbucket hb hfilter hcalm hreached hsize n).1 with
    | underway hstage _ _ _ _ => cases hstage.symm.trans hended
    | ended hstage _ heq =>
      cases hstage.symm.trans hended
      exact heq hcap rfl

theorem cost_all (v : Text) :
    (tally b config request fun _ _ => true).cost v = b.pageCount config.pageSize v := by
  have hpos : 0 < b.pageCount config.pageSize v := pagesFor_pos ..
  simp only [Tally.cost, tally, Bool.toNat_true]
  omega

theorem cost_first (u v : Text) :
    (tally b config request fun under first => under = u && first).cost v = if v = u then 1 else 0 := by
  by_cases huv : v = u <;> simp [Tally.cost, tally, huv]

/-- How often a store in memory is asked by a listing that nobody disturbs. If it has no cap, it asks for as
many pages as the entries of each visited prefix fill, one at least, and it visits each of these prefixes
once: with exactly one request that has no token. With a cap and a filter it never asks for more. -/
theorem asked_count (config : EngineConfig) (signal : StopSignal) (request : ListRequest)
    (w : World MemoryStore) {b : MemoryBucket} {filter : Filter} (hbucket : request.uri.bucket ≠ [])
    (hb : w.store.bucket? request.uri.bucket = some b)
    (hfilter : request.filter.compile w.moment = .ok filter) (hfaultless : w.store.Faultless)
    (hunstopped : w.stopAt signal = none) :
    (request.cap = none → ∃ n, ∀ turns ≥ n,
      (Listing.collect (lister config) signal turns (.opened request) w).ending = .complete ∧
      (Listing.asked (lister config) signal turns request w).countP (StoreCall.asksFor fun _ _ => true) =
        ∑ v ∈ request.visited b, max 1 ((b.folded v).length ⌈/⌉ max config.pageSize 1) ∧
      ∀ v, (Listing.asked (lister config) signal turns request w).countP
          (StoreCall.asksFor fun under first => under = v && first) =
        if v ∈ request.visited b then 1 else 0) ∧
    (filter.isEmpty = false → ∀ turns,
      (Listing.asked (lister config) signal turns request w).countP (StoreCall.asksFor fun _ _ => true) ≤
        ∑ v ∈ request.visited b, max 1 ((b.folded v).length ⌈/⌉ max config.pageSize 1)) := by
  have hcalm : Listing.Calm signal w := ⟨hfaultless, hunstopped⟩
  refine ⟨fun hcap => ?_, fun hactive turns => ?_⟩
  · obtain ⟨wanted, hincreasing, hwanted⟩ := request.exists_wanted filter b
    obtain ⟨n, hended, -⟩ :=
      SharedListing.exists_complete config signal hbucket hb hfilter hcalm hincreasing hwanted
    rw [SharedListing.course_alone] at hended
    refine ⟨n, fun turns hturns => ?_⟩
    rw [Listing.asked_eq, Course.collect_eq_run, Course.run_of_le hturns hended]
    refine ⟨?_, ?_, fun v => ?_⟩
    · rw [Course.gathered, hended]
      rfl
    · refine (exists_paid (fun _ _ => true) hbucket hb hfilter hcalm hcap hended).trans ?_
      exact Finset.sum_congr rfl fun v _ => cost_all v
    · refine (exists_paid (fun under first => under = v && first) hbucket hb hfilter hcalm hcap hended).trans ?_
      rw [Finset.sum_congr rfl fun u _ => cost_first v u, Finset.sum_ite_eq']
  · rw [Listing.asked_eq]
    have hsum : ∑ v ∈ request.visited b, max 1 ((b.folded v).length ⌈/⌉ max config.pageSize 1) =
        ∑ v ∈ request.visited b, (tally b config request fun _ _ => true).cost v :=
      (Finset.sum_congr rfl fun v _ => cost_all v).symm
    rw [hsum]
    cases hreached : (request.selection filter).reached 0 with
    | true =>
      exact (paid_run_reached (fun _ _ => true) hbucket hfilter hreached turns).trans_le (Nat.zero_le _)
    | false =>
      have hsize (emitted : Nat) :
          (request.selection filter).pageSize config.pageSize emitted = config.pageSize := by
        have hfilter : (request.selection filter).filter.isEmpty = false := hactive
        rw [Selection.pageSize, hfilter]
        cases (request.selection filter).cap <;> rfl
      cases turns with
      | zero => exact Nat.zero_le _
      | succ n =>
        exact (settles_run (fun _ _ => true) hbucket hb hfilter hcalm hreached hsize n).1.paid_le

/-- Three prefixes are visited in a bucket of close keys: the top, where two entries fill two pages of one
entry, and two directories with one page each. A listing of the first large object asks for no more. -/
theorem asked_count_closeKeys :
    (∃ n, ∀ turns ≥ n, (Listing.asked (lister { pageSize := 1 }) {} turns
      { uri := ⟨.s3, ['b'], []⟩, recursive := true } { store := closeKeys }).countP
        (StoreCall.asksFor fun _ _ => true) = 4) ∧
      ∀ turns, (Listing.asked (lister { pageSize := 1 }) {} turns firstLarge { store := closeKeys }).countP
        (StoreCall.asksFor fun _ _ => true) ≤ 4 := by
  let b := (closeKeys.bucket? ['b']).get (by rfl)
  have hb : closeKeys.bucket? ['b'] = some b := (Option.some_get _).symm
  have hsum (request : ListRequest) (h : request.visited b = b.subtree []) :
      ∑ v ∈ request.visited b, max 1 ((b.folded v).length ⌈/⌉ max 1 1) = 4 := by
    rw [h]
    decide +kernel
  obtain ⟨n, hn⟩ := (asked_count { pageSize := 1 } {} { uri := ⟨.s3, ['b'], []⟩, recursive := true }
    { store := closeKeys } (by decide) hb (by rfl) ⟨rfl, rfl, rfl⟩ rfl).1 rfl
  refine ⟨⟨n, fun turns hturns => (hn turns hturns).2.1.trans (hsum _ rfl)⟩, fun turns => ?_⟩
  refine ((asked_count { pageSize := 1 } {} firstLarge { store := closeKeys } (by decide) hb (by rfl)
    ⟨rfl, rfl, rfl⟩ rfl).2 ?_ turns).trans_eq (hsum _ rfl)
  rfl

end MemoryStore

end ObjectListing
