import UaaAdmin.Config.Environment
import UaaAdmin.Url.Host

/-!
# Faults

Everything that can go wrong in a session, by its cause. `Fault.message` gives the wording, and
`Fault.status?` the answer of the server, if the server answered at all.
-/

namespace UaaAdmin

/-- What is wrong with a configuration or a request, before anything is sent. -/
inductive ConfigFault where
  | environment (why : EnvironmentFault)
  | noAuthEndpoint
  | noLoginEndpoint
  | noBaseUrl
  | badLoginEndpoint (url : String) (why : Url.Fault)
  | noLoginHost (url : String)
  | badSubdomain (subdomain : String) (why : Url.Fault)
  | badCertificates
  | badHeaderName (name : String)
  | badHeaderValue (name : String)
  /-- A fault in the caller's own words. -/
  | stated (text : String)
  deriving DecidableEq

/-- The wording of a fault. -/
def ConfigFault.text : ConfigFault → String
  | environment why => why.text
  | noAuthEndpoint => "no auth endpoint provided for the UAA session"
  | noLoginEndpoint => "no login endpoint provided for token requests"
  | noBaseUrl => "no UAA endpoint provided when instantiating the UAA API"
  | badLoginEndpoint url why => "Invalid login endpoint '" ++ url ++ "': " ++ why.text
  | noLoginHost url => "Login endpoint '" ++ url ++ "' has no host"
  | badSubdomain subdomain why => "Invalid subdomain '" ++ subdomain ++ "': " ++ why.text
  | badCertificates => "Failed to build HTTP client: builder error"
  | badHeaderName name => "Invalid header name '" ++ name ++ "': invalid HTTP header name"
  | badHeaderValue name =>
    "Invalid value for header '" ++ name ++ "': failed to parse header value"
  | stated text => text

/-- Why no token was given. -/
inductive TokenFault where
  | noAnswer
  | refused (status : Nat) (body : String)
  | unreadable
  /-- A fault in the caller's own words. -/
  | stated (text : String)
  deriving DecidableEq

/-- The standard phrase for a status. -/
def statusPhrase? : Nat → Option String
  | 100 => "Continue"
  | 101 => "Switching Protocols"
  | 102 => "Processing"
  | 200 => "OK"
  | 201 => "Created"
  | 202 => "Accepted"
  | 203 => "Non Authoritative Information"
  | 204 => "No Content"
  | 205 => "Reset Content"
  | 206 => "Partial Content"
  | 207 => "Multi-Status"
  | 208 => "Already Reported"
  | 226 => "IM Used"
  | 300 => "Multiple Choices"
  | 301 => "Moved Permanently"
  | 302 => "Found"
  | 303 => "See Other"
  | 304 => "Not Modified"
  | 305 => "Use Proxy"
  | 307 => "Temporary Redirect"
  | 308 => "Permanent Redirect"
  | 400 => "Bad Request"
  | 401 => "Unauthorized"
  | 402 => "Payment Required"
  | 403 => "Forbidden"
  | 404 => "Not Found"
  | 405 => "Method Not Allowed"
  | 406 => "Not Acceptable"
  | 407 => "Proxy Authentication Required"
  | 408 => "Request Timeout"
  | 409 => "Conflict"
  | 410 => "Gone"
  | 411 => "Length Required"
  | 412 => "Precondition Failed"
  | 413 => "Payload Too Large"
  | 414 => "URI Too Long"
  | 415 => "Unsupported Media Type"
  | 416 => "Range Not Satisfiable"
  | 417 => "Expectation Failed"
  | 418 => "I'm a teapot"
  | 421 => "Misdirected Request"
  | 422 => "Unprocessable Entity"
  | 423 => "Locked"
  | 424 => "Failed Dependency"
  | 425 => "Too Early"
  | 426 => "Upgrade Required"
  | 428 => "Precondition Required"
  | 429 => "Too Many Requests"
  | 431 => "Request Header Fields Too Large"
  | 451 => "Unavailable For Legal Reasons"
  | 500 => "Internal Server Error"
  | 501 => "Not Implemented"
  | 502 => "Bad Gateway"
  | 503 => "Service Unavailable"
  | 504 => "Gateway Timeout"
  | 505 => "HTTP Version Not Supported"
  | 506 => "Variant Also Negotiates"
  | 507 => "Insufficient Storage"
  | 508 => "Loop Detected"
  | 510 => "Not Extended"
  | 511 => "Network Authentication Required"
  | _ => none

/-- A status with its phrase. -/
def statusLine (status : Nat) : String :=
  toString status ++ " " ++ (statusPhrase? status).getD "<unknown status code>"

/-- The wording of a fault. What is wrong with an unreadable answer is not told. -/
def TokenFault.text : TokenFault → String
  | noAnswer => "Failed to get client token"
  | refused status body => "Failed to get client token: " ++ statusLine status ++ " - " ++ body
  | unreadable => "Failed to parse token response"
  | stated text => text

/-- Why a declared state is not acceptable. -/
inductive Invalid where
  | noClientId
  | noClientSecret
  /-- A fault in the caller's own words. -/
  | stated (text : String)
  deriving DecidableEq

/-- The wording of a fault. -/
def Invalid.text : Invalid → String
  | noClientId => "client_id: Client id is required"
  | noClientSecret => "__all__: Client secret is required for client_credentials"
  | stated text => text

/-- What can go wrong in a session. -/
inductive Fault where
  /-- The configuration or the request is wrong; nothing was sent. -/
  | config (why : ConfigFault)
  /-- No answer came. -/
  | transport
  /-- The server answered with a status that is no success. -/
  | http (status : Nat) (code : Option String) (description : Option String)
  /-- The answer is not what was expected. -/
  | decode
  /-- A look-up found nothing. -/
  | notFound (kind key : String)
  /-- What should be created is there already. -/
  | alreadyExists (kind key : String)
  /-- No token was given. -/
  | authentication (why : TokenFault)
  /-- The zone has no group of that name. -/
  | groupNotFound (zone name : String)
  /-- The declared state is not acceptable. -/
  | validation (why : Invalid)
  deriving DecidableEq

namespace Fault

/-- The wording of an answer that is no success. -/
def httpText (status : Nat) (code description : Option String) : String :=
  "Server error, status code: " ++ toString status
    ++ (code.map (", error code: " ++ ·)).getD ""
    ++ (description.map (", message: " ++ ·)).getD ""

/-- The wording of a fault. -/
def message : Fault → String
  | config why => "Configuration error: " ++ why.text
  | transport => "Transport error"
  | http status code description => httpText status code description
  | decode => "Failed to decode response"
  | notFound kind key => kind ++ " " ++ key ++ " not found"
  | alreadyExists kind key => kind ++ " " ++ key ++ " already exists"
  | authentication why => "Authentication failed: " ++ why.text
  | groupNotFound zone name => "Group '" ++ name ++ "' was not found in zone '" ++ zone ++ "'"
  | validation why => "Validation error: " ++ why.text

/-- The status that the server answered with. -/
def status? : Fault → Option Nat
  | http status _ _ => some status
  | _ => none

/-- The server has something of that name already. -/
def isConflict (f : Fault) : Bool := f.status? == some 409

/-- What was asked for is not there. -/
def isNotFound : Fault → Bool
  | notFound _ _ => true
  | f => f.status? == some 404

end Fault

end UaaAdmin
