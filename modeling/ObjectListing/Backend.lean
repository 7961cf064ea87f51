import ObjectListing.Entry
import ObjectListing.Event

/-!
Backends: what every store can be asked. A call is a function of the store's state; its reply holds
the answer, the state it leaves, the events it reports, whether the caller's work was stopped while it
ran, and whether the caller had to wait for it.
-/

namespace ObjectListing

/-- What comes back from a call to a store whose state is a `σ`. -/
structure Reply (σ α : Type) where
  answer : Except StoreError α
  store : σ
  events : List Event := []
  stops : Bool := false
  waits : Bool := false

/-- A store: its name in logs, and the three questions it answers. -/
structure Backend (σ : Type) where
  name : String
  listObjects : PageRequest → σ → Reply σ Page
  listBuckets : σ → Reply σ (List BucketEntry)
  getObject : (bucket key : Text) → σ → Reply σ Blob

/-- A store as a part of a larger state. -/
structure Part (τ σ : Type) where
  get : τ → σ
  set : σ → τ → τ

/-- A reply of a part, as a reply of the whole. -/
def Reply.within {τ σ α : Type} (r : Reply σ α) (part : Part τ σ) (whole : τ) : Reply τ α :=
  ⟨r.answer, part.set r.store whole, r.events, r.stops, r.waits⟩

/-- A backend for a part, as a backend for the whole. -/
def Backend.within {τ σ : Type} (b : Backend σ) (part : Part τ σ) : Backend τ where
  name := b.name
  listObjects request whole := (b.listObjects request (part.get whole)).within part whole
  listBuckets whole := (b.listBuckets (part.get whole)).within part whole
  getObject bucket key whole := (b.getObject bucket key (part.get whole)).within part whole

end ObjectListing
