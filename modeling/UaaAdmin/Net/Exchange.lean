import UaaAdmin.Json.Value
import UaaAdmin.Net.Header
import UaaAdmin.Url.Parser

/-!
# Exchanges with a server

A request goes out, and an answer comes back, or the connection is closed without one, or there is
no connection. The server is known by the replies it will give, one after the other; what happened
so far is kept as a log.

`Network.exchange_log` says that an exchange adds one entry at the end of the log and changes no
other.
-/

namespace UaaAdmin.Net

/-- What is asked of a resource. -/
inductive Method where
  | get
  | post
  | put
  | patch
  | delete
  deriving DecidableEq

/-- The name of a method. -/
def Method.name : Method → String
  | get => "GET"
  | post => "POST"
  | put => "PUT"
  | patch => "PATCH"
  | delete => "DELETE"

/-- What a request carries. -/
inductive Content where
  | empty
  | json (v : Json)
  | form (fields : List (String × String))

/-- A request. -/
structure Request where
  method : Method
  url : String
  headers : NameMap String
  content : Content

/-- An answer. -/
structure Reply where
  status : Nat
  body : List UInt8

namespace Reply

/-- The status says that the request succeeded. -/
def isSuccess (r : Reply) : Bool := 200 ≤ r.status && r.status ≤ 299

/-- The body that arrives; two statuses never have one. -/
def content (r : Reply) : List UInt8 :=
  if r.status = 204 ∨ r.status = 304 then [] else r.body

end Reply

/-- What became of a request: it was not sent, or sent and not answered, or answered. -/
inductive Outcome where
  | unsent
  | dropped
  | answered (reply : Reply)

/-- A request and what became of it. -/
structure Exchange where
  request : Request
  outcome : Outcome

namespace Exchange

/-- The request reached the server. -/
def isSent (x : Exchange) : Bool :=
  match x.outcome with
  | .unsent => false
  | _ => true

end Exchange

/-- The way to the server. -/
structure Network where
  /-- The server takes connections. -/
  listening : Bool := true
  /-- The answers to come, `none` for a connection that is closed without one. When they are used
  up, every connection is. -/
  replies : List (Option Reply) := []
  /-- What happened, latest last. -/
  log : List Exchange := []

namespace Network

/-- A request for this address can be sent: it has a host, and one of the two schemes of the web. -/
def canReach (url : String) : Bool :=
  match Url.parse url with
  | .ok u => (u.scheme == "http" || u.scheme == "https") && u.hostText?.isSome
  | .error _ => false

/-- What becomes of a request, and the replies that are left. -/
def outcomeOf (n : Network) (r : Request) : Outcome × List (Option Reply) :=
  if n.listening && canReach r.url then
    match n.replies with
    | [] => (.dropped, [])
    | none :: rest => (.dropped, rest)
    | some reply :: rest => (.answered reply, rest)
  else (.unsent, n.replies)

/-- The network after a request. -/
def exchange (n : Network) (r : Request) : Outcome × Network :=
  let (outcome, rest) := n.outcomeOf r
  (outcome, { n with replies := rest, log := n.log ++ [⟨r, outcome⟩] })

theorem exchange_log (n : Network) (r : Request) :
    (n.exchange r).2.log = n.log ++ [⟨r, (n.exchange r).1⟩] := rfl

/-- The exchanges in which the request reached the server. -/
def sent (n : Network) : List Exchange := n.log.filter (·.isSent)

end Network

end UaaAdmin.Net
