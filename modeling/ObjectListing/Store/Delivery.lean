import ObjectListing.Store.Endpoint

/-!
What of a response reaches the caller. Pages and buckets travel as documents, which cannot hold every
character and every time: `Response.delivered` is the response as it is read at the other end.
-/

namespace ObjectListing

/-- Whether a character can stand in a document: of the control characters below the blank only tab,
line feed and carriage return can, and two code points are no characters at all. -/
def isDocumentChar (c : Char) : Bool :=
  c = '\t' || c = '\n' || c = '\r' ||
    (0x20 ≤ c.toNat && c.toNat ≠ 0xfffe && c.toNat ≠ 0xffff)

/-- Whether a text that may be missing can stand in a document. -/
def isDocumentText (t : Option Text) : Bool := t.all fun t => t.all isDocumentChar

/-- Whether a day is the last of its month. -/
def isLastOfMonth (day : Int) : Bool := (Date.ofDay (day + 1)).day = 1

/-- The instant that is read for one in a document, where years have four digits. A leap second can only
be the last second of a month, and is read as the last nanosecond before it. -/
def Instant.delivered? (t : Instant) : Option Instant :=
  let day := t.seconds.fdiv 86400
  let year := (Date.ofDay day).year
  if year < 0 ∨ 9999 < year then none
  else if !t.isLeap then some t
  else if t.clock = 86399 ∧ isLastOfMonth day then some ⟨t.seconds, Instant.second - 1⟩
  else none

/-- The time that is read for one that may be missing, unless it cannot be read. -/
def deliveredTime? : Option Instant → Option (Option Instant)
  | none => some none
  | some t => t.delivered?.map some

/-- The object that is read for one in a document. -/
def RemoteObject.delivered? (o : RemoteObject) : Option RemoteObject :=
  if isDocumentText o.key then
    (deliveredTime? o.modified).map fun modified => { o with modified }
  else none

/-- The page that is read for one in a document. -/
def RemotePage.delivered? (p : RemotePage) : Option RemotePage :=
  if p.prefixes.all isDocumentText && isDocumentText p.token then
    (p.contents.mapM RemoteObject.delivered?).map fun contents => { p with contents }
  else none

/-- The bucket that is read for one in a document. -/
def RemoteBucket.delivered? (b : RemoteBucket) : Option RemoteBucket :=
  if isDocumentText b.name then
    (deliveredTime? b.created).map fun created => { b with created }
  else none

/-- Whether there is a document with a status: some stand for an answer without one. -/
def hasDocument (status : Nat) : Bool := status ≠ 101 && status ≠ 204 && status ≠ 304

/-- Whether a status ends an exchange. It has three digits, and those from 100 on only promise more to
come; the one of them that changes the protocol ends it. -/
def isFinal (status : Nat) : Bool := status = 101 || (200 ≤ status && status ≤ 999)

/-- The fault that is met for one. After a status that ends nothing the connection breaks off, and a code
is known only from a document. -/
def RemoteFault.delivered : RemoteFault → RemoteFault
  | refused status code =>
    if isFinal status then
      refused status (code.filter fun t => hasDocument status && t.all isDocumentChar)
    else brokenOff
  | other => other

/-- The response as it is read. One that cannot be read makes no sense. -/
def Response.delivered : Response → Response
  | page p => (p.delivered?.map page).getD (failed .unusable)
  | buckets found token =>
    match found.mapM RemoteBucket.delivered? with
    | some found => if isDocumentText token then buckets found token else failed .unusable
    | none => failed .unusable
  | data d => data d
  | failed fault => failed fault.delivered

end ObjectListing
