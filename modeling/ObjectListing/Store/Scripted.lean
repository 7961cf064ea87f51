import ObjectListing.Backend

/-!
A store that follows a script: each call takes the next answer from the queue for its kind, whatever
it asks for, and is written down. An answer can stop the caller's work while the call runs.
-/

namespace ObjectListing

/-- The next answers to calls of one kind. -/
structure ScriptedAnswer (α : Type) where
  outcome : Except StoreError α
  stops : Bool := false

/-- The reply of a script to any call: the next answer, or `otherwise` when none is left. -/
def ScriptedAnswer.play {α : Type} (otherwise : ScriptedAnswer α)
    (answers : List (ScriptedAnswer α)) : Reply (List (ScriptedAnswer α)) α :=
  let next := answers.headD otherwise
  { answer := next.outcome, store := answers.tail, stops := next.stops }

/-- A call as it was made. -/
inductive StoreCall
  | listObjects (request : PageRequest)
  | listBuckets
  | getObject (bucket key : Text)
  deriving DecidableEq, Repr

/-- The answers to come, and the calls so far, latest first. -/
structure ScriptedStore where
  pages : List (ScriptedAnswer Page) := []
  buckets : List (ScriptedAnswer (List BucketEntry)) := []
  objects : List (ScriptedAnswer Blob) := []
  calls : List StoreCall := []

namespace ScriptedStore

/-- The answer when a queue is empty. -/
def exhausted {α : Type} : ScriptedAnswer α := { outcome := .error (.malformed "script exhausted") }

/-- The queue of pages as a part of the store. -/
def pagesPart : Part ScriptedStore (List (ScriptedAnswer Page)) :=
  ⟨(·.pages), fun pages s => { s with pages }⟩

/-- The queue of lists of buckets as a part of the store. -/
def bucketsPart : Part ScriptedStore (List (ScriptedAnswer (List BucketEntry))) :=
  ⟨(·.buckets), fun buckets s => { s with buckets }⟩

/-- The queue of data as a part of the store. -/
def objectsPart : Part ScriptedStore (List (ScriptedAnswer Blob)) :=
  ⟨(·.objects), fun objects s => { s with objects }⟩

/-- Writes a call down and takes the next answer from the queue for its kind. -/
def take {α : Type} (call : StoreCall) (queue : Part ScriptedStore (List (ScriptedAnswer α)))
    (s : ScriptedStore) : Reply ScriptedStore α :=
  let s := { s with calls := call :: s.calls }
  (ScriptedAnswer.play exhausted (queue.get s)).within queue s

/-- Reads the calls so far, oldest first, and forgets them. -/
def takeCalls (s : ScriptedStore) : List StoreCall × ScriptedStore :=
  (s.calls.reverse, { s with calls := [] })

/-- The store as a backend. -/
def backend : Backend ScriptedStore where
  name := "scripted"
  listObjects request := take (.listObjects request) pagesPart
  listBuckets := take .listBuckets bucketsPart
  getObject bucket key := take (.getObject bucket key) objectsPart

end ScriptedStore

end ObjectListing
