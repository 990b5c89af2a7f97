import UaaAdmin.NameMap
import UaaAdmin.Fault

/-!
# Request headers

Which names and values a header may have, and the headers with a meaning of their own.
-/

namespace UaaAdmin.Net

/-- The headers with a meaning to the server. -/
inductive Header where
  | authorization
  | ifMatch
  | zoneId
  deriving DecidableEq

namespace Header

/-- The name of a header as it is written. -/
def name : Header → String
  | authorization => "Authorization"
  | ifMatch => "If-Match"
  | zoneId => "X-Identity-Zone-Id"

/-- All headers with a meaning. -/
def all : List Header := [authorization, ifMatch, zoneId]

/-- The name of a header as it is looked up. -/
def key : Header → String
  | authorization => "authorization"
  | ifMatch => "if-match"
  | zoneId => "x-identity-zone-id"

/-- A character that may stand in a header name. -/
def isTokenChar (c : Char) : Bool :=
  ('a' ≤ c && c ≤ 'z') || ('A' ≤ c && c ≤ 'Z') || ('0' ≤ c && c ≤ '9')
    || "!#$%&\x27*+-.^_\x60|~".toList.contains c

/-- The longest name that a header may have. -/
def maxNameLength : Nat := 65535

/-- A header name holds at least one character, not too many, and only those that may stand in
one. -/
def isName (s : String) : Bool :=
  !s.toList.isEmpty && s.toList.length ≤ maxNameLength && s.toList.all isTokenChar

/-- A character that may stand in a header value: no control but the tab. -/
def isValueChar (c : Char) : Bool :=
  c == '\t' || (0x20 ≤ c.toNat && c.toNat ≠ 0x7f)

/-- A header value holds no control but the tab. -/
def isValue (s : String) : Bool :=
  s.toList.all isValueChar

/-- Checks the value of the header with this name. -/
def checkValue (name value : String) : Except Fault Unit :=
  if isValue value then .ok () else .error (.config (.badHeaderValue name))

/-- Checks a header, its name first. -/
def check (name value : String) : Except Fault Unit :=
  if isName name then checkValue name value else .error (.config (.badHeaderName name))

/-- Checks headers one after the other. -/
def checkAll : List (String × String) → Except Fault Unit
  | [] => .ok ()
  | h :: hs => (check h.1 h.2).bind fun _ => checkAll hs

end Header

end UaaAdmin.Net
