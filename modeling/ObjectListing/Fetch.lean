import ObjectListing.Retry
import ObjectListing.Uri

/-!
Fetching whole objects: the URI must name one, and the store is asked for it with retries.
-/

namespace ObjectListing

variable {σ : Type}

/-- Fetches the object that a URI names. -/
def fetchObject (b : Backend σ) (retry : RetryPolicy) (uri : Uri) (signal : StopSignal)
    (w : World σ) : Except StoreError Blob × World σ :=
  match uri.objectKey with
  | .error e => (.error e, w)
  | .ok key =>
    let w := w.report (.fetchingObject b.name uri.bucket key)
    match Retry.call retry "get_object" signal (b.getObject uri.bucket key) w with
    | (.error e, w) => (.error e, w)
    | (.ok data, w) => (.ok data, w.report (.objectFetched uri.text data.size))

end ObjectListing
