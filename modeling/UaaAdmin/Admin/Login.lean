import UaaAdmin.Admin.Endpoint
import UaaAdmin.Text.Base64

/-!
# Tokens

The login server gives a token for the credentials of a client. Every token is asked for anew; none
is kept.
-/

namespace UaaAdmin

/-- The server that gives tokens. -/
structure Login where
  url : String
  deriving DecidableEq

/-- The body of an answer with a token. -/
structure TokenGrant where
  accessToken : String
  tokenType : Option String
  deriving DecidableEq

namespace TokenGrant

instance : Inhabited TokenGrant := ⟨⟨"", none⟩⟩

/-- The fields of a grant. -/
@[reducible]
def layout : Layout TokenGrant where
  fields := [
    ⟨"access_token", .required, accessToken, fun a s => { s with accessToken := a }⟩,
    ⟨"token_type", .optional, tokenType, fun a s => { s with tokenType := a }⟩]

instance : JsonForm TokenGrant := Layout.form layout.fields

/-- The value that goes with a request in the token's name. A token without type is a bearer
token. -/
def authorization (g : TokenGrant) : String :=
  (g.tokenType.filter (· ≠ "")).getD "bearer" ++ " " ++ g.accessToken

end TokenGrant

namespace Login

/-- The login server at an address, whose slashes at the end are dropped. -/
def new (url : String) : Login := ⟨Text.trimEndSlashes url⟩

/-- The host of a zone with its own subdomain. -/
def zoneHost (subdomain host : String) : String := subdomain ++ "." ++ host

/-- The address of the server for a subdomain; the empty one is the server itself. -/
def zoneUrl (l : Login) (subdomain : String) : Except ConfigFault Url := do
  if l.url = "" then throw .noLoginEndpoint
  match Url.parse l.url with
  | .error why => throw (.badLoginEndpoint l.url why)
  | .ok u =>
    if subdomain = "" then return u
    match u.hostText? with
    | none => throw (.noLoginHost l.url)
    | some host =>
      match u.withHost (zoneHost subdomain host) with
      | .ok v => return v
      | .error why => throw (.badSubdomain subdomain why)

/-- The address that tokens come from. -/
def tokenUrl (l : Login) (subdomain : String) : Except Fault String :=
  match l.zoneUrl subdomain with
  | .ok u => .ok (Text.trimEndSlashes u.print ++ "/oauth/token")
  | .error why => .error (.config why)

/-- The value that proves knowledge of a client's secret. -/
def basicCredentials (clientId clientSecret : String) : String :=
  "Basic " ++ Text.Base64.encode (Text.Utf8.encode (clientId ++ ":" ++ clientSecret))

/-- The request for a token. -/
def tokenRequest (url clientId clientSecret : String) : Net.Request where
  method := .post
  url := url
  headers := NameMap.ofList
    [("accept", "application/json"),
      (Net.Header.authorization.key, basicCredentials clientId clientSecret),
      ("content-type", "application/x-www-form-urlencoded")]
  content := .form [("grant_type", "client_credentials"), ("response_type", "token")]

/-- Reads the answer to the request for a token. -/
def readGrant (r : Net.Reply) : Except TokenFault TokenGrant :=
  if r.isSuccess then
    match (Json.ofBytes? r.content).bind JsonForm.read? with
    | some g => .ok g
    | none => .error .unreadable
  else .error (.refused r.status (Text.Utf8.decodeLossy r.content))

/-- Asks for a token, and gives the value that goes with requests in its name. -/
def clientToken (l : Login) (clientId clientSecret subdomain : String) : Op String := do
  let url ← Op.ofExcept (l.tokenUrl subdomain)
  match ← Op.exchange (tokenRequest url clientId clientSecret) with
  | .answered reply =>
    match readGrant reply with
    | .ok g => return g.authorization
    | .error why => throw (.authentication why)
  | _ => throw (.authentication .noAnswer)

end Login

end UaaAdmin
