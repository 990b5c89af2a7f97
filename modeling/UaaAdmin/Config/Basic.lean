import UaaAdmin.Text.Blank
import UaaAdmin.Text.Inspect

/-!
# Configuration

What a session has to know: the endpoint that issues tokens, the endpoint that is administered, the
credentials, and how to connect and log. Endpoints may be given without scheme and with slashes at
the end; `endpointUrl` gives them their one form.
-/

namespace UaaAdmin

/-- What is logged, and in which form. -/
structure LogConfig where
  debug : Bool := false
  trace : Bool := false
  format : String := ""
  deriving DecidableEq

/-- The configuration of a session. -/
structure Config where
  loginEndpoint : String
  authEndpoint : String
  clientId : String
  clientSecret : String
  /-- Certificates to trust besides the system's own. -/
  caCert : Option String := none
  skipSslValidation : Bool := false
  /-- Seconds after which connecting is given up. -/
  dialTimeout : Option Nat := none
  log : LogConfig := {}
  deriving DecidableEq

/-- An endpoint without blanks around it and slashes at its end, and with a scheme: `https` if none
is given. An endpoint of which nothing is left stays empty, so that it can be reported as
missing. -/
def endpointUrl (endpoint : String) : String :=
  let e := Text.trimEndSlashes (Text.trim endpoint)
  if e = "" then ""
  else if "http".toList.isPrefixOf e.toList then e
  else "https://" ++ e

namespace Config

/-- Where tokens come from. -/
def loginUrl (c : Config) : String := endpointUrl c.loginEndpoint

/-- What is administered. -/
def authUrl (c : Config) : String := endpointUrl c.authEndpoint

end Config

namespace LogConfig

/-- The filter that selects what is logged. Tracing wins over debugging. -/
def directive (c : LogConfig) : String :=
  if c.trace then "uaa_core=trace"
  else if c.debug then "uaa_core=debug"
  else "uaa_core=info"

end LogConfig

/-! ## Inspection -/

open Text (Inspect)

instance : Inspect LogConfig where
  inspect c := Inspect.record "LogConfig"
    [("debug", Inspect.inspect c.debug), ("trace", Inspect.inspect c.trace),
      ("format", Inspect.inspect c.format)] true

/-- A number of seconds with its unit; none at all is shown in the smallest unit. -/
def inspectSeconds (n : Nat) : String :=
  if n = 0 then "0ns" else toString n ++ "s"

/-- The secret is not shown, and of the certificates only that there are some. -/
instance : Inspect Config where
  inspect c := Inspect.record "Config"
    [("login_endpoint", Inspect.inspect c.loginEndpoint),
      ("auth_endpoint", Inspect.inspect c.authEndpoint),
      ("client_id", Inspect.inspect c.clientId),
      ("client_secret", Inspect.redacted),
      ("ca_cert", Inspect.inspect (c.caCert.map fun _ => "<pem>")),
      ("skip_ssl_validation", Inspect.inspect c.skipSslValidation),
      ("dial_timeout", match c.dialTimeout with
        | none => "None"
        | some n => "Some(" ++ inspectSeconds n ++ ")"),
      ("log", Inspect.inspect c.log)] true

end UaaAdmin
