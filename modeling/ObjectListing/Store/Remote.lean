import ObjectListing.Backend
import ObjectListing.Store.Delivery
import ObjectListing.Text.Alphanumeric
import ObjectListing.Text.Blank

/-!
A store at a remote service. `RemotePage.toPage` makes a page of what the service sent;
`RemoteFault.error` says what a failure was caused by: first by the code that the service gave, then by
the status.
-/

namespace ObjectListing

/-- A time that a service said, as entries have it: one that has no date is left out. -/
def datedTime (time : Option Instant) : Option Instant := time.filter Instant.isDated

namespace RemotePage

/-- The objects of a page. Each must have a key; the object of the listed beginning itself is its marker
and no entry. -/
def objects (under : Text) : List RemoteObject → Except StoreError (List ObjectEntry)
  | [] => .ok []
  | o :: rest =>
    match o.key with
    | none => .error (.malformed
        s!"ListObjectsV2 under '{under.str}' returned an object without a key")
    | some key =>
      match objects under rest with
      | .error e => .error e
      | .ok entries =>
        if key = under then .ok entries
        else .ok (⟨key, (o.size.getD 0).toNat, datedTime o.modified, .object⟩ :: entries)

/-- The common prefixes of a page; each must have a value. -/
def commonPrefixes (under : Text) : List (Option Text) → Except StoreError (List ObjectEntry)
  | [] => .ok []
  | none :: _ => .error (.malformed
      s!"ListObjectsV2 under '{under.str}' returned a common prefix without a value")
  | some key :: rest => (commonPrefixes under rest).map (.commonPrefix key :: ·)

/-- A token that is not empty. -/
def usable (token : Option Text) : Option Text := token.filter fun t => !t.isEmpty

/-- The token for the next page: there must be one if the page is cut off, and it counts only then. -/
def nextToken (under : Text) (p : RemotePage) : Except StoreError (Option Text) :=
  if p.truncated.getD false then
    match usable p.token with
    | some token => .ok (some token)
    | none => .error (.malformed
        s!"ListObjectsV2 under '{under.str}' is truncated but has no continuation token")
  else .ok none

/-- The page that a response is: objects and common prefixes in the order of their keys. -/
def toPage (under : Text) (p : RemotePage) : Except StoreError Page :=
  match objects under p.contents with
  | .error e => .error e
  | .ok found =>
    match commonPrefixes under p.prefixes with
    | .error e => .error e
    | .ok folded =>
      match p.nextToken under with
      | .error e => .error e
      | .ok next => .ok ⟨ObjectEntry.sorted (found ++ folded), next⟩

end RemotePage

namespace RemoteFault

/-- The codes for something that does not exist. -/
def missingCodes : List String := ["NoSuchKey", "NoSuchBucket", "NotFound"]

/-- The codes for refused access. -/
def deniedCodes : List String :=
  ["AccessDenied", "InvalidAccessKeyId", "SignatureDoesNotMatch", "AllAccessDisabled"]

/-- The codes of a service that may do better later. -/
def transientCodes : List String :=
  ["SlowDown", "Throttling", "ThrottlingException", "RequestTimeout", "InternalError",
   "ServiceUnavailable", "TooManyRequests"]

/-- What a status alone says. -/
def ofStatus (status : Nat) (detail : String) : StoreError :=
  if status = 404 then .notFound detail
  else if status = 401 || status = 403 then .accessDenied detail
  else if status = 408 || status = 429 || (500 ≤ status && status ≤ 599) then .transient detail
  else .malformed detail

/-- What a code and a status say. -/
def ofCode (code : Option Text) (status : Nat) (detail : String) : StoreError :=
  match code.map Text.str with
  | none => ofStatus status detail
  | some code =>
    if missingCodes.contains code then .notFound detail
    else if deniedCodes.contains code then .accessDenied detail
    else if transientCodes.contains code then .transient detail
    else ofStatus status detail

/-- The failure of an operation at a location, which is named up to the first colon with a blank after
it. -/
def error (fault : RemoteFault) (operation : String) (location : Text) : StoreError :=
  let shown := Text.upTo [':', ' '] location
  let detail := s!"{operation} {shown.str}"
  match fault with
  | refused status code => ofCode code status detail
  | brokenOff => .transient detail
  | unusable => .malformed detail

end RemoteFault

namespace RemoteStore

/-- The beginning of all locations. -/
def anywhere : Text := Text.of "s3://"

/-- The place of a key or a beginning of keys. -/
def location (bucket path : Text) : Text := anywhere ++ bucket ++ '/' :: path

/-- The largest number of entries that can be asked for. -/
def mostEntries : Nat := Nat.pow 2 31 - 1

/-- Connects a caller to the service, unless that was done before. -/
def connect (settings : RemoteSettings) (caller : Nat) (e : Endpoint) : List Event × Endpoint :=
  if e.connected.contains caller then ([], e)
  else
    let region := Text.quoted (e.regionOf settings)
    ([.connecting s!"Some(Region({region}))" (optionText (settings.endpoint.map Text.quoted))
        settings.credentials.isSome settings.pathStyle],
      { e with connected := caller :: e.connected })

/-- Whether a text can be part of a host name: letters, digits and hyphens, at most 63 bytes, none of
the hyphens in front. -/
def isHostLabel (t : Text) : Bool :=
  !t.isEmpty && t.byteLength ≤ 63 && t.head? != some '-' &&
    t.all fun c => c = '-' || isAlphanumeric c

/-- Whether a text is a host name: labels, with dots between them. -/
def isHostName (t : Text) : Bool := (t.splitOn '.').all isHostLabel

/-- Whether a text is a resource name, which says where it belongs: `arn` and five more parts after
colons, of which the first two and the last are not empty. -/
def isResourceName (t : Text) : Bool :=
  match t.splitOn ':' with
  | first :: partition :: service :: _ :: _ :: resource =>
    first = Text.of "arn" && !partition.isEmpty && !service.isEmpty && resource != [] &&
      resource != [[]]
  | _ => false

/-- Whether a text is the other name of a bucket on a private site: such names are long and end alike. -/
def isSiteAlias (t : Text) : Bool :=
  50 ≤ t.length && (Text.of "--op-s3").isSuffixOf t

/-- Whether a bucket has a name that leads to another service: a resource name, whole or broken, or the
alias of a private site. What is not wholly in ASCII is never taken for a broken name or an alias. -/
def liesElsewhere (bucket : Text) : Bool :=
  isResourceName bucket ||
    (bucket.all (·.toNat < 128) && (bucket.startsWith (Text.of "arn:") || isSiteAlias bucket))

/-- Whether a caller with these settings can sign: keys and region stand in fields. -/
def canSign (settings : RemoteSettings) (e : Endpoint) : Bool :=
  let keys := e.keysOf settings
  keys.accessKey.all isFieldChar && (keys.sessionToken.getD []).all isFieldChar &&
    (e.regionOf settings).all isFieldChar

/-- Why a request about a bucket, and about what else is named, is never made: a name is blank, the
bucket lies elsewhere, or there is no signature. -/
def refusal? (settings : RemoteSettings) (e : Endpoint) (bucket : Text) (others : List Text) :
    Option RemoteFault :=
  if (bucket :: others).any fun name => name.trimmed.isEmpty then some .unusable
  else if liesElsewhere bucket || !canSign settings e then some .brokenOff
  else none

/-- Makes a request. -/
def ask (settings : RemoteSettings) (request : RemoteRequest) (e : Endpoint) : Response × Endpoint :=
  ((e.responses.headD (.failed e.silence)).delivered,
    { e with responses := e.responses.tail, requests := e.sign settings request :: e.requests })

/-- One page of entries. A bucket must have a name. -/
def listObjects (settings : RemoteSettings) (caller : Nat) (r : PageRequest) (e : Endpoint) :
    Reply Endpoint Page :=
  let (events, e) := connect settings caller e
  let at_ := location r.bucket r.under
  match refusal? settings e r.bucket [] with
  | some fault => { answer := .error (fault.error "ListObjectsV2" at_), store := e, events }
  | none =>
    let under := if r.under.isEmpty then none else some r.under
    let (response, e) :=
      ask settings (.listObjects r.bucket under (min r.size mostEntries) r.token) e
    match response with
    | .page p =>
      match p.toPage r.under with
      | .ok page =>
        { answer := .ok page, store := e, waits := true
          events := events ++ [.remotePage at_ page.entries.length page.next.isSome] }
      | .error fault => { answer := .error fault, store := e, events, waits := true }
    | other =>
      { answer := .error (other.fault.error "ListObjectsV2" at_), store := e, events, waits := true }

/-- The buckets of a response; each must have a name. -/
def bucketEntries : List RemoteBucket → Except StoreError (List BucketEntry)
  | [] => .ok []
  | b :: rest =>
    match b.name with
    | none => .error (.malformed "ListBuckets returned a bucket without a name")
    | some name => (bucketEntries rest).map (⟨name, datedTime b.created⟩ :: ·)

/-- All buckets from the page with this token on, of a service that gives these responses and then
fails: the answer, the responses that are left, and the requests in front of the earlier ones. -/
def bucketsFrom (sign : RemoteRequest → SignedRequest) (silence : RemoteFault)
    (token : Option Text) : List Response → List SignedRequest →
      Except StoreError (List BucketEntry) × List Response × List SignedRequest
  | [], asked => (.error (silence.error "ListBuckets" anywhere), [], sign (.listBuckets token) :: asked)
  | response :: rest, asked =>
    let asked := sign (.listBuckets token) :: asked
    match response.delivered with
    | .buckets found next =>
      match bucketEntries found with
      | .error e => (.error e, rest, asked)
      | .ok entries =>
        match RemotePage.usable next with
        | none => (.ok entries, rest, asked)
        | some token =>
          let (more, rest, asked) := bucketsFrom sign silence (some token) rest asked
          (more.map (entries ++ ·), rest, asked)
    | other => (.error (other.fault.error "ListBuckets" anywhere), rest, asked)

/-- All buckets, page by page. They are asked of the host that is named for the region. -/
def listBuckets (settings : RemoteSettings) (caller : Nat) (e : Endpoint) :
    Reply Endpoint (List BucketEntry) :=
  let (events, e) := connect settings caller e
  if isHostName (e.regionOf settings) && canSign settings e then
    let (answer, responses, requests) :=
      bucketsFrom (e.sign settings) e.silence none e.responses e.requests
    { answer, store := { e with responses, requests }, events, waits := true }
  else
    { answer := .error (RemoteFault.brokenOff.error "ListBuckets" anywhere), store := e, events }

/-- The data of an object. Bucket and key must have a name. -/
def getObject (settings : RemoteSettings) (caller : Nat) (bucket key : Text) (e : Endpoint) :
    Reply Endpoint Blob :=
  let (events, e) := connect settings caller e
  let at_ := location bucket key
  match refusal? settings e bucket [key] with
  | some fault => { answer := .error (fault.error "GetObject" at_), store := e, events }
  | none =>
    let (response, e) := ask settings (.getObject bucket key) e
    match response.data? with
    | some d =>
      { answer := .ok d, store := e, waits := true
        events := events ++ [.remoteObject at_ d.size] }
    | none =>
      { answer := .error (response.fault.error "GetObject" at_), store := e, events, waits := true }

/-- The store of a caller as a backend. -/
def backend (settings : RemoteSettings) (caller : Nat) : Backend Endpoint where
  name := "s3"
  listObjects := listObjects settings caller
  listBuckets := listBuckets settings caller
  getObject := getObject settings caller

end RemoteStore

end ObjectListing
