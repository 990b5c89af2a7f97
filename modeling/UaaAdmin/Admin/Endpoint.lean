import UaaAdmin.Admin.Operation
import UaaAdmin.Json.Parser
import UaaAdmin.Wire.Record

/-!
# Endpoints

An endpoint is a server address with a token, a zone and further headers. From it requests are made
and answers read. Deriving an endpoint for another zone, or with more headers, leaves the one it is
derived from as it is.
-/

namespace UaaAdmin

/-! ## Paths -/

/-- The list holds two slashes in a row. -/
def hasDoubleSlash : List Char → Bool
  | '/' :: '/' :: _ => true
  | _ :: cs => hasDoubleSlash cs
  | [] => false

/-- Replaces every two slashes in a row by one, pair after pair from the left. -/
def halveSlashes : List Char → List Char
  | '/' :: '/' :: cs => '/' :: halveSlashes cs
  | c :: cs => c :: halveSlashes cs
  | [] => []

theorem length_halveSlashes_le (cs : List Char) : (halveSlashes cs).length ≤ cs.length := by
  fun_induction halveSlashes cs with
  | case1 cs ih => simp only [List.length_cons]; omega
  | case2 c cs _ ih => simp only [List.length_cons]; omega
  | case3 => simp

theorem length_halveSlashes_lt {cs : List Char} (h : hasDoubleSlash cs = true) :
    (halveSlashes cs).length < cs.length := by
  fun_induction halveSlashes cs with
  | case1 cs ih =>
    have := length_halveSlashes_le cs
    simp only [List.length_cons]
    omega
  | case2 c cs hne ih =>
    have : hasDoubleSlash cs = true := by
      cases cs with
      | nil => simp [hasDoubleSlash] at h
      | cons d ds =>
        by_cases hc : c = '/'
        · by_cases hd : d = '/'
          · subst hc hd
            exact absurd rfl (hne ds rfl)
          · simpa [hasDoubleSlash, hc, hd] using h
        · simpa [hasDoubleSlash, hc] using h
    simpa using ih this
  | case3 => simp [hasDoubleSlash] at h

/-- Replaces pairs of slashes until there is none. -/
def collapseSlashes (cs : List Char) : List Char :=
  if hasDoubleSlash cs then collapseSlashes (halveSlashes cs) else cs
termination_by cs.length
decreasing_by exact length_halveSlashes_lt ‹_›

/-! ## Endpoints -/

/-- Where and in whose name requests are made. -/
structure Endpoint where
  baseUrl : String
  token : String
  zone : String := ""
  headers : NameMap String := ∅
  deriving DecidableEq

namespace Endpoint

/-- The endpoint at an address, whose slashes at the end are dropped. -/
def new (baseUrl token : String) : Except Fault Endpoint :=
  let base := Text.trimEndSlashes baseUrl
  if base = "" then .error (.config .noBaseUrl) else .ok ⟨base, token, "", ∅⟩

/-- The endpoint in another zone. -/
def withZone (e : Endpoint) (zone : String) : Endpoint := { e with zone := zone }

/-- The endpoint with further headers. Names are compared without regard to case, and a later value
counts over an earlier one. -/
def withHeaders (e : Endpoint) (headers : List (String × String)) : Endpoint :=
  { e with headers := e.headers.insertMany (headers.map fun h => (Text.asciiLower h.1, h.2)) }

/-- The endpoint with one further header. -/
def withHeader (e : Endpoint) (header : Net.Header) (value : String) : Endpoint :=
  e.withHeaders [(header.name, value)]

/-- The address of a path, with one slash between the two and none repeated in the path. -/
def urlOf (e : Endpoint) (path : String) : String :=
  e.baseUrl ++ "/" ++ String.ofList ((collapseSlashes path.toList).dropWhile (· == '/'))

/-- The headers of a request: token, zone, and over them the further ones. -/
def requestHeaders (e : Endpoint) : Except Fault (NameMap String) := do
  -- The first bad header is the one that is reported: token, zone, then the further ones by name.
  Net.Header.checkValue Net.Header.authorization.name e.token
  Net.Header.checkValue Net.Header.zoneId.name e.zone
  Net.Header.checkAll e.headers.entries
  let own := NameMap.ofList
    [(Net.Header.authorization.key, e.token), (Net.Header.zoneId.key, e.zone)]
  return own.insertMany e.headers.entries

/-- How the endpoint is shown: without its token, and with the names of its headers only. -/
instance : Text.Inspect Endpoint where
  inspect e := Text.Inspect.record "UaaApi"
    [("base_url", Text.inspect e.baseUrl), ("zone_id", Text.inspect e.zone),
      ("additional_headers", Text.inspect e.headers.keys)] false

end Endpoint

/-! ## Reading answers -/

/-- The body of an answer that reports a fault. -/
structure FaultBody where
  code : Option String := none
  description : Option String := none
  deriving DecidableEq

namespace FaultBody

instance : Inhabited FaultBody := ⟨{}⟩

/-- A text that may be absent from an object, but not from an array. -/
def slot : Slot (Option String) := { Slot.optional with short := none }

/-- The fields of a fault report. -/
@[reducible]
def layout : Layout FaultBody where
  fields := [
    ⟨"error", slot, code, fun a s => { s with code := a }⟩,
    ⟨"error_description", slot, description, fun a s => { s with description := a }⟩]

instance : JsonForm FaultBody := Layout.form layout.fields

end FaultBody

/-- The fault that an answer without success reports: what its body says if it is a report, and else
the body itself, unless it is blank. -/
def Fault.ofReply (r : Net.Reply) : Fault :=
  let text := Text.Utf8.decodeLossy r.content
  match (Json.ofText? text).bind (JsonForm.read? (α := FaultBody)) with
  | some b => .http r.status b.code b.description
  | none =>
    if Text.allBlank text then .http r.status none none
    else .http r.status none (some (Text.trim text))

/-- The bytes that count as nothing in a body. -/
def isBlankByte (b : UInt8) : Bool :=
  b == 0x20 || b == 0x09 || b == 0x0a || b == 0x0c || b == 0x0d

/-- The value in the body of an answer, of which a blank one holds `null`. -/
def readBody? {α : Type} [JsonForm α] (body : List UInt8) : Option α :=
  if body.all isBlankByte then JsonForm.read? .null
  else (Json.ofBytes? body).bind JsonForm.read?

/-- Any JSON value, as it is kept. -/
instance : JsonForm Json where
  read? v := v.keep? Json.maxDepth
  write v := v

/-- Nothing, which is written as `null`. -/
instance : JsonForm Unit where
  read?
    | .null => some ()
    | _ => none
  write _ := .null

/-! ## Requests -/

namespace Endpoint

/-- The request for a path. What is sent as JSON is marked so, unless a header already says what is
sent. -/
def request (e : Endpoint) (method : Net.Method) (path : String) (content : Net.Content) :
    Except Fault Net.Request := do
  let headers ← e.requestHeaders
  let headers := match content with
    | .json _ =>
      if headers.contains "content-type" then headers
      else headers.insert "content-type" "application/json"
    | _ => headers
  return ⟨method, e.urlOf path, headers, content⟩

/-- Makes a request, and gives the answer if it reports success. -/
def send (e : Endpoint) (method : Net.Method) (path : String) (content : Net.Content) :
    Op Net.Reply := do
  let r ← Op.ofExcept (e.request method path content)
  match ← Op.exchange r with
  | .answered reply => if reply.isSuccess then return reply else throw (Fault.ofReply reply)
  | _ => throw .transport

/-- Makes a request, and reads its answer. -/
def ask {α : Type} [JsonForm α] (e : Endpoint) (method : Net.Method) (path : String)
    (content : Net.Content) : Op α := do
  let reply ← e.send method path content
  match readBody? reply.content with
  | some a => return a
  | none => throw .decode

variable {α β : Type} [JsonForm α] [JsonForm β]

/-- Reads what stands at a path. -/
def get (e : Endpoint) (path : String) : Op α := e.ask .get path .empty

/-- Sends a value to a path. -/
def post (e : Endpoint) (path : String) (body : β) : Op α :=
  e.ask .post path (.json (JsonForm.write body))

/-- Changes what stands at a path. -/
def patch (e : Endpoint) (path : String) (body : β) : Op α :=
  e.ask .patch path (.json (JsonForm.write body))

/-- Replaces what stands at a path. -/
def put (e : Endpoint) (path : String) (body : β) : Op α :=
  e.ask .put path (.json (JsonForm.write body))

/-- Removes what stands at a path. What the answer holds does not matter. -/
def delete (e : Endpoint) (path : String) : Op Unit := do
  let _ ← e.send .delete path .empty

end Endpoint

end UaaAdmin
