import ObjectListing.Environment.File
import ObjectListing.Listing.Basic
import ObjectListing.Settings
import ObjectListing.Text.Digit

/-!
Settings from environment variables. A variable that is missing or cannot be read leaves the default.
Variables of the environment itself go before those of a file, and of two settings in a file the first
counts.
-/

namespace ObjectListing

/-- Variables and their values; of two values of a variable the first counts. -/
structure Environment where
  assigned : List (Text × Text) := []

namespace Environment

/-- The variables that matter. -/
def names : List String :=
  ["BUCKETWALK_PAGE_SIZE", "BUCKETWALK_MAX_ATTEMPTS", "BUCKETWALK_INITIAL_BACKOFF_MS",
   "BUCKETWALK_MAX_BACKOFF_MS", "BUCKETWALK_OPERATION_TIMEOUT_SECS", "AWS_REGION",
   "AWS_DEFAULT_REGION", "AWS_ENDPOINT_URL", "AWS_ACCESS_KEY_ID", "AWS_SECRET_ACCESS_KEY",
   "AWS_SESSION_TOKEN"]

/-- The environment with the variables of a file behind its own. -/
def withFile (env : Environment) (file : Option Text) : Environment :=
  match file with
  | some text => ⟨VariableFile.parse env.assigned text⟩
  | none => env

/-- The value of a variable. -/
def value? (env : Environment) (name : String) : Option Text :=
  env.assigned.lookup (Text.of name)

/-- The number that a variable holds, when it is at most `limit`. -/
def number? (env : Environment) (name : String) (limit : Nat) : Option Nat :=
  (env.value? name).bind (Text.signedUpTo? limit)

/-- The value of a variable, when it is not empty. -/
def nonEmpty? (env : Environment) (name : String) : Option Text :=
  (env.value? name).filter fun t => !t.isEmpty

/-- The value of a variable, when it is not blank. -/
def notBlank? (env : Environment) (name : String) : Option Text :=
  (env.value? name).filter fun t => !t.trimmed.isEmpty

/-- The policy of retries. -/
def retryPolicy (env : Environment) : RetryPolicy :=
  let standard : RetryPolicy := {}
  { standard with
    initialBackoff :=
      (env.number? "BUCKETWALK_INITIAL_BACKOFF_MS" limit64).getD standard.initialBackoff
    maxBackoff := (env.number? "BUCKETWALK_MAX_BACKOFF_MS" limit64).getD standard.maxBackoff
    }.withMaxAttempts ((env.number? "BUCKETWALK_MAX_ATTEMPTS" limit32).getD standard.maxAttempts)

/-- The settings of listings. -/
def engineConfig (env : Environment) : EngineConfig :=
  let standard : EngineConfig := {}
  { pageSize := ((env.number? "BUCKETWALK_PAGE_SIZE" limit32).map
      EngineConfig.clampPageSize).getD standard.pageSize
    retry := env.retryPolicy }

/-- The region of callers that name none: it may be empty. -/
def ambientRegion? (env : Environment) : Option Text :=
  match env.value? "AWS_REGION" with
  | some region => some region
  | none => env.value? "AWS_DEFAULT_REGION"

/-- The keys of callers that bring none. -/
def ambientKeys? (env : Environment) : Option Credentials :=
  match env.notBlank? "AWS_ACCESS_KEY_ID", env.notBlank? "AWS_SECRET_ACCESS_KEY" with
  | some accessKey, some secretKey =>
    some ⟨accessKey, secretKey, (env.notBlank? "AWS_SESSION_TOKEN").map Text.trimmed⟩
  | _, _ => none

/-- How to reach a remote service. -/
def remoteSettings (env : Environment) : RemoteSettings :=
  let standard : RemoteSettings := {}
  { standard with
    region := env.nonEmpty? "AWS_REGION"
    endpoint := env.nonEmpty? "AWS_ENDPOINT_URL"
    operationTimeout := (env.number? "BUCKETWALK_OPERATION_TIMEOUT_SECS" limit64).getD
      standard.operationTimeout }

end Environment

end ObjectListing
