import ObjectListing.Client

/-!
Sessions: a client at work, with any number of listings in progress, each known by a name. Either each
listing has a signal of its own, or all have the one that the session shares. A listing that was opened
without a signal heeds none.
-/

namespace ObjectListing

variable {σ : Type}

/-- How a caller means to stop an operation: at once, after some milliseconds, or not at all; or it
passes no signal on. -/
structure StopPlan where
  atOnce : Bool := false
  after : Option Nat := none
  passedOn : Bool := true
  deriving DecidableEq, Repr

namespace StopPlan

/-- The tick at which the signal of an operation is given that begins now. -/
def givenAt (p : StopPlan) (w : World σ) : Option Tick :=
  if p.atOnce then some w.clock else p.after.map w.timerTick

/-- The signal of an operation that begins now. -/
def signal (p : StopPlan) (w : World σ) : StopSignal :=
  if p.passedOn then ⟨p.givenAt w, true⟩ else {}

end StopPlan

/-- A listing in progress. One that has failed is over, but its end is still to be told. -/
structure OpenListing (σ : Type) where
  lister : Lister σ
  signal : StopSignal
  listing : Option Listing

/-- What a listing gives when it is asked for more. -/
inductive Pulled
  | item (item : ListItem)
  | failure (e : StoreError)
  | finished
  deriving DecidableEq, Repr

/-- A client at work, its listings, and whether they have only the shared signal. -/
structure Session (σ : Type) where
  client : Client σ
  world : World σ
  listings : List (String × OpenListing σ) := []
  oneSignal : Bool := false

namespace Session

/-- The listing of a name. -/
def listing? (s : Session σ) (name : String) : Option (OpenListing σ) := s.listings.lookup name

/-- The session without the listing of a name. -/
def without (s : Session σ) (name : String) : Session σ :=
  { s with listings := s.listings.filter fun l => l.1 ≠ name }

/-- The session with a listing of this name. -/
def withListing (s : Session σ) (name : String) (l : OpenListing σ) : Session σ :=
  { s with listings := (name, l) :: (s.without name).listings }

/-- The signal of a listing that begins now, and the session in which the shared signal, if it is the
only one, is given as planned. -/
def prepare (plan : StopPlan) (s : Session σ) : StopSignal × Session σ :=
  if s.oneSignal then
    ({ heedsShared := plan.passedOn },
      { s with world := s.world.giveSharedSignalAt (plan.givenAt s.world) })
  else (plan.signal s.world, s)

/-- Opens a listing. One of the same name is replaced. -/
def openListing (name : String) (uri : Text) (options : ListOptions) (plan : StopPlan) (s : Session σ) :
    Except StoreError Unit × Session σ :=
  let (signal, s) := s.prepare plan
  match s.client.openListing uri options with
  | (.error e, client) => (.error e, { s with client })
  | (.ok (lister, listing), client) =>
    (.ok (), { s with client }.withListing name ⟨lister, signal, some listing⟩)

/-- Asks a listing for the next thing it has to give, in at most `turns` turns with the store. -/
def pull (turns : Nat) (l : OpenListing σ) (w : World σ) : Pulled × OpenListing σ × World σ :=
  match l.listing with
  | none => (.finished, l, w)
  | some listing =>
    match Listing.next l.lister l.signal turns listing w with
    | .item item rest w => (.item item, { l with listing := some rest }, w)
    | .failed e w => (.failure e, { l with listing := none }, w)
    | .ended w => (.finished, { l with listing := none }, w)
    | .outOfTurns _ w => (.finished, { l with listing := none }, w)

/-- Asks a listing for `count` things; fewer if it ends before. -/
def pullMany (turns : Nat) : (count : Nat) → OpenListing σ → World σ →
    List Pulled × Option (OpenListing σ) × World σ
  | 0, l, w => ([], some l, w)
  | count + 1, l, w =>
    match pull turns l w with
    | (.finished, _, w) => ([.finished], none, w)
    | (pulled, l, w) =>
      let (more, l, w) := pullMany turns count l w
      (pulled :: more, l, w)

/-- Asks the listing of a name for `count` things, if there is such a listing. One that has come to its
end is forgotten. -/
def next (name : String) (count turns : Nat) (s : Session σ) : Option (List Pulled) × Session σ :=
  match s.listing? name with
  | none => (none, s)
  | some l =>
    let (pulled, l, world) := pullMany turns count l s.world
    let s := { s with world }
    (some pulled, match l with
      | some l => s.withListing name l
      | none => s.without name)

/-- Gives the signal of the listing of a name. -/
def cancel (name : String) (s : Session σ) : Session σ :=
  match s.listing? name with
  | none => s
  | some l =>
    if s.oneSignal then { s with world := s.world.giveSharedSignal }
    else if l.signal.heedsShared then
      let givenAt := Tick.earlier l.signal.givenAt (some s.world.clock)
      s.withListing name { l with signal := { l.signal with givenAt } }
    else s

/-- Forgets the listing of a name. The answer tells whether there was one. -/
def drop (name : String) (s : Session σ) : Bool × Session σ :=
  ((s.listing? name).isSome, s.without name)

/-- Lists a URI to the end. -/
def list (uri : Text) (options : ListOptions) (plan : StopPlan) (turns : Nat) (s : Session σ) :
    Listing.Gathered σ × Session σ :=
  let (signal, s) := s.prepare plan
  let (gathered, client) := s.client.list uri options signal turns s.world
  (gathered, { s with client, world := gathered.world })

/-- The buckets that a URI stands for. -/
def listBuckets (uri : Text) (s : Session σ) :
    Except StoreError (List BucketEntry) × Session σ :=
  let (answer, client, world) := s.client.listBuckets uri s.world
  (answer, { s with client, world })

/-- The object that a URI names. -/
def getObject (uri : Text) (s : Session σ) : Except StoreError Blob × Session σ :=
  let (answer, client, world) := s.client.getObject uri s.world
  (answer, { s with client, world })

/-- Fetches the object that a URI names from a store, with a signal of its own. -/
def fetch (b : Backend σ) (uri : Text) (plan : StopPlan) (s : Session σ) :
    Except StoreError Blob × Session σ :=
  match Uri.parse uri with
  | .error e => (.error e, s)
  | .ok uri =>
    let signal := { plan.signal s.world with heedsShared := false }
    let (answer, world) := fetchObject b s.client.config.retry uri signal s.world
    (answer, { s with world })

/-- Asks a store directly. -/
def ask {α : Type} (call : σ → Reply σ α) (s : Session σ) : Except StoreError α × Session σ :=
  let (answer, world) := s.world.call call
  (answer, { s with world })

/-- Changes the state of the store. -/
def change (f : σ → σ) (s : Session σ) : Session σ :=
  { s with world := { s.world with store := f s.world.store } }

end Session

end ObjectListing
