import ObjectListing.Proofs.Filter.Compiling
import ObjectListing.Proofs.Filter.Names
import ObjectListing.Proofs.Listing.Discipline
import ObjectListing.Proofs.Text.LastName

/-!
What a listing gives out was chosen by its filter, whatever its store answers and whatever happens meanwhile: turns
keep it so (`Course.Chosen.step`), so every object that is given out in some number of turns is one that the filter
lets through (`Course.exists_emits`). Names are compared with the last name of a key, and that is what stands behind
its last delimiter but those at its end (`ObjectEntry.baseName_exact`).
-/

namespace ObjectListing

open Text

variable {σ : Type}

/-- Whether a listing in this stage goes by a selection, if it still has a bucket to walk through. -/
def Stage.GoesBy (s : Selection) : Stage → Prop
  | .underway (.opened _) => False
  | .underway (.walking walk) => walk.selection = s
  | _ => True

namespace Course

variable {l : Lister σ} {signal : StopSignal} {c next : Course σ} {s : Selection} {e : ObjectEntry}

/-- Whether the objects that a listing gave out were chosen by a selection, and it goes on by that. -/
structure Chosen (s : Selection) (c : Course σ) : Prop where
  stage : c.stage.GoesBy s
  emits : ∀ e, .object e ∈ c.items → s.emits e = true

/-- Calls bring no items. -/
theorem items_asked (stage : Stage) (w : World σ) (deeds : List Deed) (calls : List StoreCall) :
    items ⟨stage, w, deeds ++ calls.map .asked⟩ = deeds.filterMap Deed.item? := by
  rw [items, List.filterMap_append, filterMap_item?_asked, List.append_nil]

namespace Chosen

theorem of_asked {stage : Stage} {w : World σ} {calls : List StoreCall} (hstage : stage.GoesBy s) :
    Chosen s ⟨stage, w, [] ++ calls.map .asked⟩ := by
  refine ⟨hstage, fun e he => ?_⟩
  rw [items_asked] at he
  cases he

theorem same (h : Chosen s c) (hstage : next.stage.GoesBy s) (hitems : next.items = c.items) : Chosen s next :=
  ⟨hstage, hitems ▸ h.emits⟩

theorem gave (h : Chosen s c) (item : ListItem) (hstage : next.stage.GoesBy s)
    (hitems : next.items = c.items ++ [item]) (hitem : ∀ e, item = .object e → s.emits e = true) :
    Chosen s next := by
  refine ⟨hstage, fun e he => ?_⟩
  rw [hitems, List.mem_append, List.mem_singleton] at he
  rcases he with he | he
  · exact h.emits e he
  · exact hitem e he.symm

theorem step_walking {walk : Walk} (h : Chosen s c) (hstage : c.stage = .underway (.walking walk)) :
    Chosen s (step l signal c) := by
  have hs : walk.selection = s := by
    have hgoes := h.stage
    rwa [hstage] at hgoes
  have hwalked := step_walked l signal hstage
  generalize step l signal c = next at hwalked ⊢
  cases hwalked with
  | finished _ => exact h.same trivial rfl
  | enter _ _ _ _ => exact h.same hs rfl
  | give _ _ _ _ hemits =>
    refine h.gave (.object _) hs (List.filterMap_append ..) ?_
    rintro e ⟨⟩
    rwa [← hs]
  | skip _ _ _ _ _ => exact h.same hs rfl
  | leave _ _ _ _ => exact h.same hs rfl
  | refused _ _ _ _ _ _ => exact h.same trivial (by simp [items])
  | received _ _ _ _ _ _ => exact h.same hs (by simp [items])

theorem step_buckets {found : List BucketEntry} {s' : Selection} {emitted : Nat} (h : Chosen s c)
    (hstage : c.stage = .underway (.buckets found s' emitted)) : Chosen s (step l signal c) := by
  obtain ⟨_, w, deeds⟩ := c
  cases hstage
  rw [Course.step]
  dsimp only
  cases found with
  | nil => exact h.same trivial (items_asked ..)
  | cons b found =>
    cases hreached : s'.reached emitted with
    | true =>
      rw [Listing.turn, hreached]
      exact h.same trivial (items_asked ..)
    | false =>
      rw [Listing.turn_bucket b found hreached]
      -- a bucket is no object, so any selection will do
      refine h.gave (.bucket b) trivial ?_ (by simp)
      simp only [items, List.filterMap_append, filterMap_item?_asked, filterMap_item?_gave, List.append_nil]

theorem step (h : Chosen s c) : Chosen s (step l signal c) := by
  cases hstage : c.stage with
  | ended failure => rwa [step_ended hstage]
  | underway listing =>
    cases listing with
    | opened request =>
      have hgoes := h.stage
      rw [hstage] at hgoes
      exact hgoes.elim
    | buckets found s' emitted => exact h.step_buckets hstage
    | walking walk => exact h.step_walking hstage

theorem within (h : Chosen s c) (change : World σ → World σ) : Chosen s (c.within change) := ⟨h.stage, h.emits⟩

end Chosen

variable {change : Nat → World σ → World σ} {request : ListRequest} {filter : Filter} {w : World σ}

/-- The first turn reads the filter, by which the listing goes then. -/
theorem chosen_start (hfilter : request.filter.compile w.moment = .ok filter) :
    Chosen (request.selection filter) (step l signal (start request w)) := by
  have hturn : Listing.turn l signal (.opened request) w = _ := Listing.begin_eq l signal request w
  rw [hfilter] at hturn
  dsimp only at hturn
  rw [step, start]
  dsimp only
  rw [hturn]
  -- nothing is wanted, or all buckets are, or a walk begins
  split_ifs
  · exact .of_asked trivial
  · rcases Listing.bucketCall l signal (Listing.opening l request filter w) with ⟨failure | found, v⟩
    · exact .of_asked trivial
    · exact .of_asked trivial
  · exact .of_asked rfl

theorem chosen_amid (hfilter : request.filter.compile (change 0 w).moment = .ok filter) (turns : Nat) :
    Chosen (request.selection filter) (amid l signal change (turns + 1) (start request w)) := by
  induction turns with
  | zero => exact chosen_start hfilter
  | succ turns ih => exact (ih.within _).step

/-- What a listing gives out is let through by its filter, which could be read. -/
theorem exists_emits {turns : Nat} (h : .object e ∈ (amid l signal change turns (start request w)).items) :
    ∃ filter, request.filter.compile (change 0 w).moment = .ok filter ∧
      (request.selection filter).emits e = true := by
  cases turns with
  | zero => cases h
  | succ turns =>
    cases hfilter : request.filter.compile (change 0 w).moment with
    | error failure =>
      rw [items, (amid_start_unread hfilter turns).2] at h
      cases h
    | ok filter => exact ⟨filter, rfl, (chosen_amid hfilter turns).emits e h⟩

end Course

/-! ### Exact names -/

namespace FilterSpec

variable {spec : FilterSpec} {now : Instant} {filter : Filter} {e : ObjectEntry} {x : Text}

/-- What a filter with a plain name in effect lets through has that name, if case counts. -/
theorem baseName_of_accepts (hfilter : spec.compile now = .ok filter)
    (hname : FilterValue.effective spec.name = some x) (hplain : ∀ c ∈ x, NameClause.isMeta c = false)
    (hcase : spec.caseInsensitive = false) (haccepts : filter.accepts e = true) : x ≠ [] ∧ e.baseName = x := by
  obtain ⟨clause, hclause, hmatches⟩ := ((accepts_of_compile hfilter e).mp haccepts).name x hname
  rw [hcase] at hclause
  have hne : x ≠ [] := by
    rintro rfl
    cases hclause
  rw [NameClause.parse_plain hne hplain] at hclause
  cases hclause
  exact ⟨hne, (NameClause.accepts_plain_iff x false).mp hmatches⟩

end FilterSpec

theorem Selection.accepts_of_emits {s : Selection} {e : ObjectEntry} (hempty : s.filter.isEmpty = false)
    (h : s.emits e = true) : e.isCommonPrefix = false ∧ s.filter.accepts e = true := by
  cases hprefix : e.isCommonPrefix with
  | true => simp [emits, hprefix, hempty] at h
  | false => exact ⟨rfl, by simpa [emits, hprefix] using h⟩

/-- An object that is given out under a plain name has that name, if case counts. -/
theorem Course.baseName_of_given {l : Lister σ} {signal : StopSignal} {change : Nat → World σ → World σ}
    {request : ListRequest} {w : World σ} {turns : Nat} {e : ObjectEntry} {x : Text}
    (hname : FilterValue.effective request.filter.name = some x)
    (hplain : ∀ c ∈ x, NameClause.isMeta c = false) (hcase : request.filter.caseInsensitive = false)
    (h : .object e ∈ (amid l signal change turns (start request w)).items) :
    e.isCommonPrefix = false ∧ x ≠ [] ∧ e.baseName = x := by
  obtain ⟨filter, hfilter, hemits⟩ := exists_emits h
  have hempty : filter.isEmpty = false := by
    rw [FilterSpec.isEmpty_of_compile hfilter, FilterSpec.isEmpty, FilterValue.any_counts, hname]
    rfl
  obtain ⟨hobject, haccepts⟩ := Selection.accepts_of_emits hempty hemits
  exact ⟨hobject, FilterSpec.baseName_of_accepts hfilter hname hplain hcase haccepts⟩

namespace ObjectEntry

/-- The last name of a key is what the key is taken apart at, and it is the same of an object and of a prefix. Every
key has delimiters only behind its last name, and nothing or a directory in front of it; the last name is empty only
if there are delimiters only; and there is no other way to take a key apart like that with something in the middle.
So a name put behind nothing or a directory is the last name, with a delimiter behind it or without one; and what a
listing gives out under a plain name, when case counts, are objects with that last name. -/
theorem baseName_exact :
    (∀ t : Text,
      (∃ before after, NamedLast t before (Text.baseName t) after) ∧
        (Text.baseName t = [] ↔ ∀ c ∈ t, c = '/') ∧
        ∀ before name after before' name' after' : Text,
          NamedLast t before name after → name ≠ [] → NamedLast t before' name' after' → name' ≠ [] →
            before' = before ∧ name' = name ∧ after' = after) ∧
    (∀ before name : Text, before = [] ∨ endsInSlash before = true → name ≠ [] → '/' ∉ name →
      (∀ size modified, (object (before ++ name) size modified).baseName = name) ∧
        (commonPrefix (before ++ name ++ ['/'])).baseName = name) ∧
    ∀ (σ : Type) (l : Lister σ) (signal : StopSignal) (change : Nat → World σ → World σ) (request : ListRequest)
      (w : World σ) (turns : Nat) (x : Text),
      FilterValue.effective request.filter.name = some x → (∀ c ∈ x, NameClause.isMeta c = false) →
        request.filter.caseInsensitive = false →
          ∀ e, .object e ∈ (Course.amid l signal change turns (.start request w)).items →
            e.isCommonPrefix = false ∧ x ≠ [] ∧ e.baseName = x ∧ ∃ before after, NamedLast e.key before x after := by
  refine ⟨fun t => ⟨⟨_, _, namedLast_baseName t⟩, baseName_eq_nil_iff, ?_⟩, ?_, ?_⟩
  · intro before name after before' name' after' h hne h' hne'
    exact h.unique hne h' hne'
  · intro before name hdirectory hne hname
    have hbare : NamedLast (before ++ name) before name [] :=
      ⟨(List.append_nil _).symm, hname, hdirectory, nofun⟩
    have hclosed : NamedLast (before ++ name ++ ['/']) before name ['/'] :=
      ⟨rfl, hname, hdirectory, fun c hc => List.mem_singleton.mp hc⟩
    exact ⟨fun _ _ => hbare.baseName_eq hne, hclosed.baseName_eq hne⟩
  · intro σ l signal change request w turns x hname hplain hcase e he
    obtain ⟨hobject, hne, rfl⟩ := Course.baseName_of_given hname hplain hcase he
    exact ⟨hobject, hne, rfl, _, _, namedLast_baseName e.key⟩

/-- A script of one page with two objects of one name, one of them with delimiters at its end, an object of another
name, and a prefix. -/
def accented : ScriptedStore :=
  { pages := [{ outcome := .ok ⟨[object ['a', '/', 'é'] 1 {}, object ['a', '/', 'é', '/', '/'] 2 {},
      object ['é', '/', 'b'] 3 {}, commonPrefix ['é', '/']], none⟩ }] }

/-- A request for the objects of that name. -/
def ofAccent : ListRequest := { uri := ⟨.s3, ['b'], []⟩, filter := { name := some (.single ['é']) } }

/-- Doubled delimiters in front of a name and behind it do not belong to it, and the object with two of them at its
end is given out under that name. -/
theorem baseName_exact_accented :
    (∀ before name after : Text, NamedLast ['/', 'a', '/', '/', 'é', '/', '/'] before name after → name ≠ [] →
      before = ['/', 'a', '/', '/'] ∧ name = ['é'] ∧ after = ['/', '/']) ∧
      (object ['a', '/', 'é'] 1 {}).baseName = ['é'] ∧
      (Course.amid ⟨ScriptedStore.backend, {}⟩ {} (fun _ w => w) 8 (.start ofAccent { store := accented })).items =
        [.object (object ['a', '/', 'é'] 1 {}), .object (object ['a', '/', 'é', '/', '/'] 2 {})] ∧
      ∃ before after, NamedLast ['a', '/', 'é', '/', '/'] before ['é'] after := by
  obtain ⟨htaken, hnamed, hgiven⟩ := baseName_exact
  have hitems : (Course.amid ⟨ScriptedStore.backend, {}⟩ {} (fun _ w => w) 8
      (.start ofAccent { store := accented })).items =
        [.object (object ['a', '/', 'é'] 1 {}), .object (object ['a', '/', 'é', '/', '/'] 2 {})] := by
    decide +kernel
  have hplain : ∀ c ∈ ['é'], NameClause.isMeta c = false := by simp [NameClause.isMeta]
  have hlast : .object (object ['a', '/', 'é', '/', '/'] 2 {}) ∈ (Course.amid ⟨ScriptedStore.backend, {}⟩ {}
      (fun _ w => w) 8 (.start ofAccent { store := accented })).items := by
    rw [hitems]
    exact List.mem_cons_of_mem _ List.mem_cons_self
  have hwhole : NamedLast ['/', 'a', '/', '/', 'é', '/', '/'] ['/', 'a', '/', '/'] ['é'] ['/', '/'] :=
    ⟨rfl, by decide, .inr (by decide), by simp⟩
  refine ⟨?_, (hnamed ['a', '/'] ['é'] (.inr (by decide)) (by decide) (by decide)).1 1 {}, hitems, ?_⟩
  · intro before name after h hne
    exact (htaken _).2.2 _ _ _ _ _ _ hwhole (by decide) h hne
  · exact (hgiven _ _ _ _ _ _ _ _ rfl hplain rfl _ hlast).2.2.2

end ObjectEntry

end ObjectListing
