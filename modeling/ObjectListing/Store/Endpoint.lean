import ObjectListing.Entry
import ObjectListing.Settings

/-!
The far side of a remote store. A service receives requests, each signed with the caller's key, and
gives one response to each. What a service answers in a run is a list of responses, to be given in the
order of the requests; an `Endpoint` is such a list, with the requests so far.
-/

namespace ObjectListing

/-- A request to a service. -/
inductive RemoteRequest
  | listObjects (bucket : Text) (under : Option Text) (most : Nat) (token : Option Text)
  | listBuckets (token : Option Text)
  | getObject (bucket key : Text)
  deriving DecidableEq, Repr

/-- Whether a character can stand in a field of a signature: no control character but the tab. -/
def isFieldChar (c : Char) : Bool := c = '\t' || (0x20 ≤ c.toNat && c.toNat ≠ 0x7f)

/-- A text as the whole of a field: without the blanks and tabs at both ends. -/
def Text.fieldValue (t : Text) : Text :=
  let isPadding (c : Char) : Bool := c = ' ' || c = '\t'
  ((t.dropWhile isPadding).reverse.dropWhile isPadding).reverse

/-- A request and the signature on it. -/
structure SignedRequest where
  request : RemoteRequest
  accessKey : Text
  sessionToken : Option Text
  region : Text
  deriving DecidableEq, Repr

/-- An object in a response, with what the service said about it. -/
structure RemoteObject where
  key : Option Text := none
  size : Option Int := none
  modified : Option Instant := none
  deriving DecidableEq, Repr

/-- A page of objects and common prefixes, as the service gives it. -/
structure RemotePage where
  contents : List RemoteObject := []
  prefixes : List (Option Text) := []
  truncated : Option Bool := none
  token : Option Text := none
  deriving DecidableEq, Repr

/-- A bucket in a response. -/
structure RemoteBucket where
  name : Option Text := none
  created : Option Instant := none
  deriving DecidableEq, Repr

/-- Why a request has no usable response: the service refused, the connection broke off, or what came
back makes no sense. -/
inductive RemoteFault
  | refused (status : Nat) (code : Option Text)
  | brokenOff
  | unusable
  deriving DecidableEq, Repr

/-- A response of a service, or why there is none. -/
inductive Response
  | page (p : RemotePage)
  | buckets (found : List RemoteBucket) (token : Option Text)
  | data (d : Blob)
  | failed (fault : RemoteFault)
  deriving DecidableEq

/-- Whether a status stands for success: what came with it is then the answer, and no refusal. -/
def isSuccess (status : Nat) : Bool := 200 ≤ status && status ≤ 299

/-- The fault in a response that is not what was asked for. -/
def Response.fault : Response → RemoteFault
  | failed fault => fault
  | _ => .unusable

/-- The data in a response; a success that nothing came with has data of no bytes. -/
def Response.data? : Response → Option Blob
  | data d => some d
  | failed (.refused status none) => if isSuccess status then some (.bytes .empty) else none
  | _ => none

/-- The responses to come, what a request comes to when none is left, the requests so far, latest first,
and the keys and region of callers that bring none of their own. Callers are known by number, and each
makes its connection once. -/
structure Endpoint where
  responses : List Response := []
  silence : RemoteFault := .brokenOff
  requests : List SignedRequest := []
  ambientKeys : Credentials := ⟨[], [], none⟩
  ambientRegion : Text := Text.of "us-east-1"
  connected : List Nat := []

namespace Endpoint

/-- The region that a request is signed for: the one that stands for all of them is the first of them. -/
def signingRegion (region : Text) : Text :=
  if region = Text.of "aws-global" then Text.of "us-east-1" else region

/-- The region of a caller with these settings. -/
def regionOf (e : Endpoint) (settings : RemoteSettings) : Text :=
  settings.region.getD e.ambientRegion

/-- The keys of a caller with these settings. -/
def keysOf (e : Endpoint) (settings : RemoteSettings) : Credentials :=
  settings.credentials.getD e.ambientKeys

/-- The signature of a caller with these settings on a request. -/
def sign (e : Endpoint) (settings : RemoteSettings) (request : RemoteRequest) : SignedRequest :=
  let keys := e.keysOf settings
  ⟨request, keys.accessKey, keys.sessionToken.map Text.fieldValue,
    signingRegion (e.regionOf settings)⟩

end Endpoint

end ObjectListing
