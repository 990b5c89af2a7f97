import UaaAdmin.Config.Basic
import UaaAdmin.Text.LetterCase
import UaaAdmin.Text.Unsigned

/-!
# Configuration from environment variables

An empty variable counts as an unset one. Two variables can be wrong, the one that switches the
validation of certificates and the one for the timeout, and the first is reported before the second.
-/

namespace UaaAdmin

/-- The variables that configure a session. -/
inductive Variable where
  | authUrl
  | caCert
  | clientId
  | clientSecret
  | debug
  | dialTimeout
  | loginUrl
  | skipSslValidation
  | trace
  deriving DecidableEq

namespace Variable

/-- The name of a variable. -/
def name : Variable → String
  | authUrl => "UAA_AUTH_URL"
  | caCert => "UAA_CA_CERT"
  | clientId => "UAA_CLIENT_ID"
  | clientSecret => "UAA_CLIENT_SECRET"
  | debug => "UAA_DEBUG"
  | dialTimeout => "UAA_DIAL_TIMEOUT"
  | loginUrl => "UAA_LOGIN_URL"
  | skipSslValidation => "UAA_SKIP_SSL_VALIDATION"
  | trace => "UAA_TRACE"

/-- All variables, by name. -/
def all : List Variable :=
  [authUrl, caCert, clientId, clientSecret, debug, dialTimeout, loginUrl, skipSslValidation, trace]

end Variable

/-- The variable with the format of log lines, which is taken as it is. -/
def logFormatName : String := "LOG_FORMAT"

/-- Why an environment gives no configuration. -/
inductive EnvironmentFault where
  | notBoolean (text : String)
  | badTimeout (why : Text.Unsigned.Fault)
  deriving DecidableEq

/-- The wording of a fault. -/
def EnvironmentFault.text : EnvironmentFault → String
  | notBoolean text => "Invalid " ++ Variable.skipSslValidation.name ++ ": not a boolean: " ++ text
  | badTimeout why => "Invalid " ++ Variable.dialTimeout.name ++ ": " ++ why.text

/-! ## Truth values -/

/-- The words for true. -/
def trueWords : List String := ["1", "t", "true", "yes", "on"]

/-- The words for false. -/
def falseWords : List String := ["0", "f", "false", "no", "off"]

/-- The form in which a word is looked up. -/
def wordOf (text : String) : String := Text.toLower (Text.trim text)

/-- The truth value that a text names. -/
def truth? (text : String) : Option Bool :=
  if trueWords.contains (wordOf text) then some true
  else if falseWords.contains (wordOf text) then some false
  else none

/-! ## Certificates -/

/-- The characters with every backslash that an `n` follows replaced, together with it, by a line
end. `slash` says that a backslash has just been read. -/
def unfoldFrom (slash : Bool) : List Char → List Char
  | [] => if slash then ['\\'] else []
  | c :: cs =>
    if slash && c == 'n' then '\n' :: unfoldFrom false cs
    else
      let pending := if slash then ['\\'] else []
      if c == '\\' then pending ++ unfoldFrom true cs
      else pending ++ c :: unfoldFrom false cs

/-- A certificate that was put on one line, on its own lines again. -/
def unfoldLines (text : String) : String :=
  String.ofList (unfoldFrom false text.toList)

/-! ## The configuration -/

/-- The values of the variables that are set. -/
abbrev Environment := String → Option String

/-- The value of a variable that is set and not empty. -/
def Environment.value? (env : Environment) (v : Variable) : Option String :=
  (env v.name).filter (· ≠ "")

/-- Whether certificates are accepted unchecked, as they are if nothing is said. -/
def skipSslValidationOf (env : Environment) : Except EnvironmentFault Bool :=
  match env.value? .skipSslValidation with
  | none => .ok true
  | some text =>
    match truth? text with
    | some b => .ok b
    | none => .error (.notBoolean (wordOf text))

/-- The timeout, if there is one. -/
def dialTimeoutOf (env : Environment) : Except EnvironmentFault (Option Nat) :=
  match env.value? .dialTimeout with
  | none => .ok none
  | some text =>
    match Text.Unsigned.read (Text.trim text).toList with
    | .ok n => .ok (some n)
    | .error why => .error (.badTimeout why)

/-- What is logged. Debugging takes a word for true; tracing takes anything but a word for false. -/
def logConfigOf (env : Environment) : LogConfig where
  debug := ((env.value? .debug).bind truth?).getD false
  trace := ((env.value? .trace).map fun text => (truth? text).getD true).getD false
  format := (env logFormatName).getD "pretty"

/-- The configuration that an environment gives. -/
def Config.ofEnvironment (env : Environment) : Except EnvironmentFault Config := do
  let skip ← skipSslValidationOf env
  let timeout ← dialTimeoutOf env
  return {
    loginEndpoint := (env.value? .loginUrl).getD ""
    authEndpoint := (env.value? .authUrl).getD ""
    clientId := (env.value? .clientId).getD ""
    clientSecret := (env.value? .clientSecret).getD ""
    caCert := (env.value? .caCert).map unfoldLines
    skipSslValidation := skip
    dialTimeout := timeout
    log := logConfigOf env }

end UaaAdmin
