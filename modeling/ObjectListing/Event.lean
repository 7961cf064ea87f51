import ObjectListing.Error
import ObjectListing.Text.Basic

/-!
Events: what the library reports about its work as it goes, each with a severity, a message and named
fields.
-/

namespace ObjectListing

/-- How severe an event is. -/
inductive Severity
  | error
  | warn
  | info
  | debug
  deriving DecidableEq, Repr

namespace Severity

/-- The name of a severity. -/
def label : Severity → String
  | error => "ERROR"
  | warn => "WARN"
  | info => "INFO"
  | debug => "DEBUG"

/-- The place of a severity, the most severe first. -/
def rank : Severity → Nat
  | error => 0
  | warn => 1
  | info => 2
  | debug => 3

/-- The severity with this name in small letters. -/
def ofName? : String → Option Severity
  | "error" => some error
  | "warn" => some warn
  | "info" => some info
  | "debug" => some debug
  | _ => none

end Severity

/-- The value of a field. -/
inductive FieldValue
  | number (n : Nat)
  | flag (b : Bool)
  | text (s : String)
  deriving DecidableEq, Repr

/-- Something that happened. -/
inductive Event
  | filterListShortened (filter : String) (used : Text) (dropped : Nat)
  | listingStarted (backend : String) (uri : Text) (recursive : Bool) (cap : Option Nat)
      (filter : String)
  | descending (under : Text) (depth : Nat)
  | requestingPage (bucket under : Text) (size : Nat) (resumed : Bool)
  | pageReceived (under : Text) (entries : Nat) (more : Bool)
  | listingFinished (emitted : Nat)
  | malformedResponse (operation : String) (error : StoreError)
  | retriesExhausted (operation : String) (attempts : Nat) (error : StoreError)
  | backingOff (operation : String) (attempt : Nat) (error : StoreError) (milliseconds : Nat)
  | listingBuckets (backend : String)
  | fetchingObject (backend : String) (bucket key : Text)
  | objectFetched (uri : Text) (bytes : Nat)
  | skippingName (path : String)
  | skippingEntry (path : String) (error : String)
  | directoryPage (directory : Text) (entries : Nat) (more : Bool)
  | fileRead (path : Text) (bytes : Nat)
  | connecting (region : String) (endpoint : String) (ownKeys pathStyle : Bool)
  | remotePage (location : Text) (entries : Nat) (more : Bool)
  | remoteObject (location : Text) (bytes : Nat)
  deriving DecidableEq, Repr

namespace Event

/-- How severe an event is. -/
def severity : Event → Severity
  | malformedResponse .. => .error
  | filterListShortened .. | retriesExhausted .. | backingOff .. => .warn
  | listingStarted .. | listingFinished .. | objectFetched .. => .info
  | _ => .debug

/-- What happened, in words. -/
def message : Event → String
  | filterListShortened .. => "filter list has several values; only the first is applied"
  | listingStarted .. => "listing started"
  | descending .. => "descending"
  | requestingPage .. => "requesting page"
  | pageReceived .. => "page received"
  | listingFinished .. => "listing finished"
  | malformedResponse .. => "backend returned a malformed response"
  | retriesExhausted .. => "retries exhausted"
  | backingOff .. => "transient error, backing off"
  | listingBuckets .. => "listing buckets"
  | fetchingObject .. => "fetching object"
  | objectFetched .. => "object fetched"
  | skippingName .. => "skipping non UTF-8 file name"
  | skippingEntry .. => "skipping unreadable entry"
  | directoryPage .. => "filesystem listing page"
  | fileRead .. => "file read complete"
  | connecting .. => "building S3 client"
  | remotePage .. => "ListObjectsV2 page"
  | remoteObject .. => "GetObject complete"

/-- A limit as logs show it. -/
def capText : Option Nat → String
  | some n => s!"Some({n})"
  | none => "None"

/-- The fields of an event. -/
def fields : Event → List (String × FieldValue)
  | filterListShortened filter used dropped =>
    [("filter", .text filter), ("used", .text used.str), ("dropped", .number dropped)]
  | listingStarted backend uri recursive cap filter =>
    [("backend", .text backend), ("uri", .text uri.str), ("recursive", .flag recursive),
     ("max_files", .text (capText cap)), ("filter", .text filter)]
  | descending under depth => [("prefix", .text under.str), ("depth", .number depth)]
  | requestingPage bucket under size resumed =>
    [("bucket", .text bucket.str), ("prefix", .text under.str), ("page_size", .number size),
     ("resumed", .flag resumed)]
  | pageReceived under entries more =>
    [("prefix", .text under.str), ("entries", .number entries), ("more", .flag more)]
  | listingFinished emitted => [("emitted", .number emitted)]
  | malformedResponse operation error =>
    [("operation", .text operation), ("error", .text error.message)]
  | retriesExhausted operation attempts error =>
    [("operation", .text operation), ("attempts", .number attempts), ("error", .text error.message)]
  | backingOff operation attempt error milliseconds =>
    [("operation", .text operation), ("attempt", .number attempt), ("error", .text error.message),
     ("backoff_ms", .number milliseconds)]
  | listingBuckets backend => [("backend", .text backend)]
  | fetchingObject backend bucket key =>
    [("backend", .text backend), ("bucket", .text bucket.str), ("key", .text key.str)]
  | objectFetched uri bytes => [("uri", .text uri.str), ("bytes", .number bytes)]
  | skippingName path => [("path", .text path)]
  | skippingEntry path error => [("path", .text path), ("error", .text error)]
  | directoryPage directory entries more =>
    [("dir", .text directory.str), ("entries", .number entries), ("more", .flag more)]
  | fileRead path bytes => [("path", .text path.str), ("bytes", .number bytes)]
  | connecting region endpoint ownKeys pathStyle =>
    [("region", .text region), ("endpoint", .text endpoint), ("static_credentials", .flag ownKeys),
     ("force_path_style", .flag pathStyle)]
  | remotePage location entries more =>
    [("location", .text location.str), ("entries", .number entries), ("more", .flag more)]
  | remoteObject location bytes => [("location", .text location.str), ("bytes", .number bytes)]

/-- The events that are at least as severe as `least`. -/
def atLeast (least : Severity) (events : List Event) : List Event :=
  events.filter fun e => e.severity.rank ≤ least.rank

end Event

end ObjectListing
