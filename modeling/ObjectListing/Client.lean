import ObjectListing.Fetch
import ObjectListing.Listing.Basic

/-!
Clients: listings, buckets and objects by URI. A client sends every request to one store, or to the one
that goes with the scheme of the URI; the store of files is opened at its first use, with the root that
is set at that moment, and kept from then on.
-/

namespace ObjectListing

/-- The stores that a client can reach; the one of files is opened with a root, or without. -/
inductive Stores (σ : Type)
  | one (b : Backend σ)
  | byScheme (remote : Backend σ) (files : Option Text → Backend σ)

/-- A client: its settings, its stores, the root for files, and, once the store of files is open, the
root that it was opened with. -/
structure Client (σ : Type) where
  config : EngineConfig := {}
  stores : Stores σ
  fileRoot : Option Text := none
  opened : Option (Option Text) := none

/-- What a caller asks of a listing. -/
structure ListOptions where
  recursive : Bool := false
  cap : Option Nat := none
  filter : FilterSpec := {}
  deriving DecidableEq, Repr

namespace Client

variable {σ : Type}

/-- The client with files below this root. -/
def withFileRoot (root : Text) (c : Client σ) : Client σ := { c with fileRoot := some root }

/-- The store that goes with a scheme, and the client that has it open. -/
def storeFor (c : Client σ) (scheme : Scheme) : Backend σ × Client σ :=
  match c.stores, scheme with
  | .one b, _ => (b, c)
  | .byScheme remote _, .s3 => (remote, c)
  | .byScheme _ files, .file =>
    let root := c.opened.getD c.fileRoot
    (files root, { c with opened := some root })

/-- Opens the listing of a URI. -/
def openListing (uri : Text) (options : ListOptions) (c : Client σ) :
    Except StoreError (Lister σ × Listing) × Client σ :=
  match Uri.parse uri with
  | .error e => (.error e, c)
  | .ok uri =>
    let (backend, c) := c.storeFor uri.scheme
    (.ok (⟨backend, c.config⟩, .opened ⟨uri, options.recursive, options.cap, options.filter⟩), c)

/-- Lists a URI to the end, in at most so many turns with the store. -/
def list (uri : Text) (options : ListOptions) (signal : StopSignal) (turns : Nat) (c : Client σ)
    (w : World σ) : Listing.Gathered σ × Client σ :=
  match c.openListing uri options with
  | (.error e, c) => (⟨[], .failed e, w⟩, c)
  | (.ok (lister, listing), c) => (Listing.collect lister signal turns listing w, c)

/-- What is said behind a failure of a listing that had given so many items. -/
def failureTail (items : Nat) : String := s!" ({items} entries listed before the failure)"

/-- The buckets that a URI without a bucket stands for. -/
def listBuckets (uri : Text) (c : Client σ) (w : World σ) :
    Except StoreError (List BucketEntry) × Client σ × World σ :=
  match Uri.parse uri with
  | .error e => (.error e, c, w)
  | .ok parsed =>
    if !parsed.isEnumeration then (.error (UriFault.namesBucket.error uri), c, w)
    else
      let (backend, c) := c.storeFor parsed.scheme
      let w := w.report (.listingBuckets backend.name)
      let (answer, w) := Retry.call c.config.retry "list_buckets" {} backend.listBuckets w
      (answer, c, w)

/-- The object that a URI names. -/
def getObject (uri : Text) (c : Client σ) (w : World σ) :
    Except StoreError Blob × Client σ × World σ :=
  match Uri.parse uri with
  | .error e => (.error e, c, w)
  | .ok parsed =>
    let (backend, c) := c.storeFor parsed.scheme
    let (answer, w) := fetchObject backend c.config.retry parsed {} w
    (answer, c, w)

end Client

end ObjectListing
