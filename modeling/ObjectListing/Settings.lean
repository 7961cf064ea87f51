import ObjectListing.Text.Quoted

/-!
How to reach a remote service: region, address, credentials, limits. As text, a secret is never shown.
-/

namespace ObjectListing

/-- Keys for a remote service. -/
structure Credentials where
  accessKey : Text
  secretKey : Text
  sessionToken : Option Text := none
  deriving DecidableEq, Repr

/-- How to reach a remote service; times are in seconds. -/
structure RemoteSettings where
  region : Option Text := none
  endpoint : Option Text := none
  credentials : Option Credentials := none
  pathStyle : Bool := true
  connectTimeout : Nat := 5
  operationTimeout : Nat := 120
  deriving DecidableEq, Repr

/-- A value that may be missing, as text. -/
def optionText : Option String → String
  | some s => s!"Some({s})"
  | none => "None"

/-- What is shown in place of a secret. -/
def redacted : String := Text.quoted (Text.of "** redacted **")

/-- A span of seconds, as text. -/
def secondsText (n : Nat) : String := if n = 0 then "0ns" else s!"{n}s"

/-- Credentials as text, without their secrets. -/
def Credentials.text (c : Credentials) : String :=
  s!"StoreCredentials \x7b access_key: {c.accessKey.quoted}, secret_key: {redacted}, " ++
    s!"session_token: {optionText (c.sessionToken.map fun _ => redacted)} \x7d"

/-- Settings as text, without their secrets. -/
def RemoteSettings.text (s : RemoteSettings) : String :=
  s!"S3Settings \x7b region: {optionText (s.region.map Text.quoted)}, " ++
    s!"endpoint: {optionText (s.endpoint.map Text.quoted)}, " ++
    s!"credentials: {optionText (s.credentials.map Credentials.text)}, " ++
    s!"force_path_style: {s.pathStyle}, connect_timeout: {secondsText s.connectTimeout}, " ++
    s!"operation_timeout: {secondsText s.operationTimeout} \x7d"

end ObjectListing
