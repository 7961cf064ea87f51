import ObjectListing.Listing.Walk
import ObjectListing.Retry
import ObjectListing.Uri

/-!
Listings. A `Listing` is a listing in progress, asked for one item at a time; nothing happens before
the first item is asked for. `Listing.turn` makes one turn with the store, `next` makes turns until an
item, a failure or the end, and `collect` gathers everything. A listing ends with its first failure.

Since a store can answer with pages forever, `next` and `collect` are given a number of turns to make
at most.
-/

namespace ObjectListing

/-- What to list. -/
structure ListRequest where
  uri : Uri
  recursive : Bool := false
  cap : Option Nat := none
  filter : FilterSpec := {}
  deriving DecidableEq, Repr

/-- The settings of listings: the size of pages and the policy of retries. -/
structure EngineConfig where
  pageSize : Nat := 1000
  retry : RetryPolicy := {}
  deriving DecidableEq, Repr

namespace EngineConfig

/-- A page size that stores accept. -/
def clampPageSize (n : Nat) : Nat := min (max n 1) 1000

/-- The settings with this page size, brought within bounds. -/
def withPageSize (c : EngineConfig) (n : Nat) : EngineConfig := { c with pageSize := clampPageSize n }

end EngineConfig

/-- A store and the settings to list it with. -/
structure Lister (σ : Type) where
  backend : Backend σ
  config : EngineConfig := {}

/-- A listing in progress. -/
inductive Listing
  | opened (request : ListRequest)
  | buckets (rest : List BucketEntry) (selection : Selection) (emitted : Nat)
  | walking (walk : Walk)
  deriving DecidableEq, Repr

namespace Listing

/-- What one turn of a listing comes to. -/
inductive Turn (σ : Type)
  | item (item : ListItem) (rest : Listing) (w : World σ)
  | going (rest : Listing) (w : World σ)
  | failed (e : StoreError) (w : World σ)
  | ended (w : World σ)

variable {σ : Type}

/-- The first turn: reads the filter, and asks for the buckets when there is no bucket to walk. -/
def begin (l : Lister σ) (signal : StopSignal) (request : ListRequest) (w : World σ) : Turn σ :=
  let w := w.reportAll request.filter.notices
  match request.filter.compile w.moment with
  | .error e => .failed e w
  | .ok filter =>
    let selection : Selection := ⟨request.recursive, filter, request.cap⟩
    let w := w.report (.listingStarted l.backend.name request.uri.text request.recursive request.cap
      filter.description)
    if selection.reached 0 then .going (.buckets [] selection 0) w
    else if request.uri.isEnumeration then
      match Retry.call l.config.retry "list_buckets" signal l.backend.listBuckets w with
      | (.error e, w) => .failed e w
      | (.ok found, w) => .going (.buckets found selection 0) w
    else
      .going (.walking (.start request.uri.bucket request.uri.listed selection l.config.pageSize)) w

/-- One turn of a listing. -/
def turn (l : Lister σ) (signal : StopSignal) (listing : Listing) (w : World σ) : Turn σ :=
  match listing with
  | .opened request => begin l signal request w
  | .buckets rest selection emitted =>
    match rest with
    | [] => .ended (w.report (.listingFinished emitted))
    | b :: rest =>
      if selection.reached emitted then .ended (w.report (.listingFinished emitted))
      else .item (.bucket b) (.buckets rest selection (emitted + 1)) w
  | .walking walk =>
    match walk.step with
    | .finished => .ended (w.report (.listingFinished walk.emitted))
    | .emit e rest => .item (.object e) (.walking rest) w
    | .pass events rest => .going (.walking rest) (w.reportAll events)
    | .ask request waiting =>
      let w := w.report (.requestingPage request.bucket request.under request.size
        request.token.isSome)
      match Retry.call l.config.retry "list_objects" signal (l.backend.listObjects request) w with
      | (.error e, w) => .failed e w
      | (.ok page, w) =>
        .going (.walking (waiting.receive page))
          (w.report (.pageReceived request.under page.entries.length page.next.isSome))

/-- What asking for the next item comes to. -/
inductive Next (σ : Type)
  | item (item : ListItem) (rest : Listing) (w : World σ)
  | failed (e : StoreError) (w : World σ)
  | ended (w : World σ)
  | outOfTurns (rest : Listing) (w : World σ)

/-- Makes turns, at most so many, until there is an item, a failure or the end. -/
def next (l : Lister σ) (signal : StopSignal) : (turns : Nat) → Listing → World σ → Next σ
  | 0, listing, w => .outOfTurns listing w
  | turns + 1, listing, w =>
    match turn l signal listing w with
    | .item item rest w => .item item rest w
    | .going rest w => next l signal turns rest w
    | .failed e w => .failed e w
    | .ended w => .ended w

/-- How a listing came to its end, if it did. -/
inductive Ending
  | complete
  | failed (e : StoreError)
  | unfinished
  deriving DecidableEq, Repr

/-- A listing that was gathered: its items in order, and how it ended. -/
structure Gathered (σ : Type) where
  items : List ListItem
  ending : Ending
  world : World σ

/-- Makes turns, at most so many, and gathers the items behind the ones in `found`, which come last one
first. -/
def collectFrom (l : Lister σ) (signal : StopSignal) :
    (turns : Nat) → List ListItem → Listing → World σ → Gathered σ
  | 0, found, _, w => ⟨found.reverse, .unfinished, w⟩
  | turns + 1, found, listing, w =>
    match turn l signal listing w with
    | .item item rest w => collectFrom l signal turns (item :: found) rest w
    | .going rest w => collectFrom l signal turns found rest w
    | .failed e w => ⟨found.reverse, .failed e, w⟩
    | .ended w => ⟨found.reverse, .complete, w⟩

/-- Makes turns, at most so many, to the end of the listing, and gathers its items. -/
def collect (l : Lister σ) (signal : StopSignal) (turns : Nat) (listing : Listing) (w : World σ) :
    Gathered σ :=
  collectFrom l signal turns [] listing w

/-- The turns that are made before a listing that has not ended is given up: more than any store
that is kept on a machine can fill. -/
def patience : Nat := Nat.pow 2 62

end Listing

end ObjectListing
