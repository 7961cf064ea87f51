import ObjectListing.Filter.Spec

/-!
The walk of a listing: which page to ask for next, and which entry to give out next. It keeps a stack
of the prefixes it is inside of, the innermost on top, each with the entries of its latest page that
are still to be looked at. `Walk.step` is one turn: it gives out an entry, passes one over, leaves or
enters a prefix, asks for a page, or finds that nothing is left. A walk asks for a page only when it
has nothing left to look at, so nothing is fetched ahead.
-/

namespace ObjectListing

/-- Where the listing of one prefix is to be continued. -/
inductive Resume
  | fromStart
  | after (token : Text)
  | nothingLeft
  deriving DecidableEq, Repr

namespace Resume

/-- What follows a page with this token. -/
def ofNext : Option Text → Resume
  | some token => .after token
  | none => .nothingLeft

/-- The token to ask with. -/
def token? : Resume → Option Text
  | after token => some token
  | _ => none

end Resume

/-- A prefix that the walk is inside of. -/
structure Frame where
  under : Text
  pending : List ObjectEntry := []
  resume : Resume := .fromStart
  deriving DecidableEq, Repr

/-- What a walk is asked to give out. -/
structure Selection where
  recursive : Bool := false
  filter : Filter := {}
  cap : Option Nat := none
  deriving DecidableEq, Repr

namespace Selection

/-- Whether a walk that has given out so many entries is to end. -/
def reached (s : Selection) (emitted : Nat) : Bool :=
  match s.cap with
  | some most => most ≤ emitted
  | none => false

/-- Whether a walk enters the prefix that an entry stands for. -/
def enters (s : Selection) (e : ObjectEntry) : Bool := e.isCommonPrefix && s.recursive

/-- Whether a walk gives out an entry: objects that the filter accepts, and, when there is no filter,
prefixes that it does not enter. -/
def emits (s : Selection) (e : ObjectEntry) : Bool :=
  if e.isCommonPrefix then !s.recursive && s.filter.isEmpty else s.filter.accepts e

/-- The size of the next page: without a filter every entry counts, so no more is asked for than the
cap allows. -/
def pageSize (s : Selection) (configured emitted : Nat) : Nat :=
  match s.cap with
  | some most => if s.filter.isEmpty then min (most - emitted) configured else configured
  | none => configured

end Selection

/-- A walk in progress. -/
structure Walk where
  bucket : Text
  selection : Selection
  configured : Nat
  stack : List Frame
  emitted : Nat := 0
  deriving DecidableEq, Repr

namespace Walk

/-- The walk through everything under a beginning of keys. -/
def start (bucket under : Text) (selection : Selection) (pageSize : Nat) : Walk :=
  { bucket, selection, configured := pageSize, stack := [{ under }] }

/-- What one turn of a walk comes to. -/
inductive Step
  | finished
  | emit (entry : ObjectEntry) (rest : Walk)
  | pass (events : List Event) (rest : Walk)
  | ask (request : PageRequest) (waiting : Walk)
  deriving DecidableEq, Repr

/-- One turn of a walk. -/
def step (w : Walk) : Step :=
  if w.selection.reached w.emitted then .finished
  else match w.stack with
    | [] => .finished
    | frame :: outer =>
      match frame.pending with
      | e :: rest =>
        let stack := { frame with pending := rest } :: outer
        if w.selection.enters e then
          .pass [.descending e.key stack.length] { w with stack := { under := e.key } :: stack }
        else if w.selection.emits e then
          .emit e { w with stack, emitted := w.emitted + 1 }
        else .pass [] { w with stack }
      | [] =>
        match frame.resume with
        | .nothingLeft => .pass [] { w with stack := outer }
        | resume =>
          .ask ⟨w.bucket, frame.under, resume.token?, w.selection.pageSize w.configured w.emitted⟩ w

/-- Takes the page that was asked for. -/
def receive (page : Page) (w : Walk) : Walk :=
  match w.stack with
  | [] => w
  | frame :: outer =>
    { w with stack := { frame with pending := page.entries, resume := .ofNext page.next } :: outer }

end Walk

end ObjectListing
