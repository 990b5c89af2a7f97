import UaaAdmin.Proofs.DerivedHeaders

/-!
# Tasks

Everything that a session asks the server for is a `Task`: it has a method and a path, and whether
it carries anything, applies to any version, or is about identity zones, is a matter of the task
alone.
`Asks` says that a request is for a task in some zone, and what headers it then has, of which there
are no others.

`Session.Bears` says of a session that it has one token and no headers of its own. The payoff is
`ManagerCall.makes`: every call of its managers asks for the one task of the call, in its zone and
with the token.
-/

namespace UaaAdmin

open Endpoint (ownHeader?)

variable {α : Type}

/-! ## Tasks -/

/-- The kinds of objects. -/
inductive Kind where
  | client
  | group
  | user
  | zone
  deriving DecidableEq

namespace Kind

/-- Where the objects of a kind stand. -/
def collection : Kind → String
  | client => "/oauth/clients"
  | group => "/Groups"
  | user => "/Users"
  | zone => "/identity-zones"

/-- The field that the objects of a kind are found by. -/
def nameField : Kind → String
  | client => "client_id"
  | group => "displayName"
  | user => "userName"
  | zone => "name"

end Kind

/-- What the server can be asked for. -/
inductive Task where
  | create (kind : Kind)
  | get (kind : Kind) (id : String)
  | find (kind : Kind) (name : String)
  | replace (kind : Kind) (id : String)
  | delete (kind : Kind) (id : String)
  | listGroups
  | changeSecret (clientId : String)
  | changePassword (userId : String)
  | addMember (groupId : String)
  | removeMember (groupId userId : String)

namespace Task

/-- The method of the request. -/
def method : Task → Net.Method
  | create _ => .post
  | get _ _ => .get
  | find _ _ => .get
  | replace _ _ => .put
  | delete _ _ => .delete
  | listGroups => .get
  | changeSecret _ => .put
  | changePassword _ => .put
  | addMember _ => .post
  | removeMember _ _ => .delete

/-- The path of the request. -/
def path : Task → String
  | create k => k.collection
  | get k id => k.collection ++ "/" ++ id
  | find k name => filteredPath k.collection k.nameField name
  | replace k id => k.collection ++ "/" ++ id
  | delete k id => k.collection ++ "/" ++ id
  | listGroups => "/Groups"
  | changeSecret id => "/oauth/clients/" ++ id ++ "/secret"
  | changePassword id => "/Users/" ++ id ++ "/password"
  | addMember g => "/Groups/" ++ g ++ "/members"
  | removeMember g u => "/Groups/" ++ g ++ "/members/" ++ u

/-- The kind of objects that the task is about. -/
def kind : Task → Kind
  | create k => k
  | get k _ => k
  | find k _ => k
  | replace k _ => k
  | delete k _ => k
  | listGroups => .group
  | changeSecret _ => .client
  | changePassword _ => .user
  | addMember _ => .group
  | removeMember _ _ => .group

/-- Where the request goes for a call in some zone. Identity zones stand outside of all zones. -/
def zoneIn (task : Task) (zone : String) : String := if task.kind = .zone then "" else zone

/-- The versions that the task applies to: a group or a user is replaced whatever its version. -/
def version? : Task → Option String
  | replace .group _ => some "*"
  | replace .user _ => some "*"
  | _ => none

/-- What the request carries, if it carries anything. -/
def mark? (task : Task) : Option String :=
  if task.method = .post ∨ task.method = .put then some "application/json" else none

/-- The headers of the request. -/
def header? (task : Task) (token zone name : String) : Option String :=
  if name = "authorization" then some token
  else if name = "x-identity-zone-id" then some (task.zoneIn zone)
  else if name = "if-match" then task.version?
  else if name = "content-type" then task.mark?
  else none

end Task

/-- The exchange asks for a task, with exactly the headers of a request for it in some zone. -/
structure Asks (e : Endpoint) (token zone : String) (task : Task) (x : Net.Exchange) : Prop where
  method : x.request.method = task.method
  url : x.request.url = e.urlOf task.path
  headers : ∀ name, x.request.headers.get? name = task.header? token zone name

/-- Everything that the session asks for is asked for with one token, and no header but those of
the single request. -/
structure Session.Bears (s : Session) (t : String) : Prop where
  token : s.endpoint.token = t
  clientToken : s.clientToken = t
  zone : s.endpoint.zone = ""
  headers : s.endpoint.headers = ∅

/-! ## Requests for a task -/

section

variable {e : Endpoint} {t zone : String} {task : Task}

/-- A request is for a task if it goes to an endpoint that has, over the token and the zone, at most
the version that the task applies to. -/
theorem asks_of_request {e' : Endpoint} {content : Net.Content} {x : Net.Exchange}
    (h : e'.request task.method task.path content = .ok x.request) (hbase : e'.baseUrl = e.baseUrl)
    (hown : ∀ name, (e'.headers.get? name).or (ownHeader? e'.token e'.zone name)
      = (ownHeader? t (task.zoneIn zone) name).or
          (if name = "if-match" then task.version? else none))
    (hmark : content.header? "content-type" = task.mark?) : Asks e t zone task x := by
  obtain ⟨hmethod, hurl, -⟩ := Endpoint.request_eq_ok h
  refine ⟨hmethod, ?_, fun name => ?_⟩
  · rw [hurl, Endpoint.urlOf_congr hbase]
  · obtain ⟨headers, he, hget⟩ := Endpoint.get?_of_request h
    rw [hget, Endpoint.requestHeaders_eq_ok he, Endpoint.get?_own, hown]
    unfold ownHeader? Task.header?
    have hother (hne : name ≠ "content-type") : content.header? name = none := by
      cases content with
      | json v => exact if_neg hne
      | empty => rfl
      | form fields => rfl
    -- Four names can have a header, and what a request carries shows in the last of them only.
    by_cases hauth : name = "authorization"
    · rw [if_pos hauth, if_pos hauth]
      rfl
    rw [if_neg hauth, if_neg hauth]
    by_cases hzone : name = "x-identity-zone-id"
    · rw [if_pos hzone, if_pos hzone]
      rfl
    rw [if_neg hzone, if_neg hzone, Option.none_or]
    by_cases hmatch : name = "if-match"
    · rw [if_pos hmatch, if_pos hmatch, hother (by rw [hmatch]; decide), Option.or_none]
    rw [if_neg hmatch, if_neg hmatch, Option.none_or]
    by_cases htype : name = "content-type"
    · rw [if_pos htype, htype, hmark]
    · rw [if_neg htype, hother htype]

variable {s : Session}

theorem Session.Bears.withZone_empty (hs : s.Bears t) : s.endpoint.withZone "" = s.endpoint :=
  Endpoint.ext_headers rfl rfl hs.zone.symm fun _ => rfl

namespace Session.Bears

/-- A request with a good token, in a zone of a good name, can be made. -/
theorem request_ok (hs : s.Bears t) (ht : Net.Header.isValue t = true)
    (hzone : Net.Header.isValue zone = true) (m : Net.Method) (path : String)
    (content : Net.Content) :
    ∃ r, (s.endpoint.withZone zone).request m path content = .ok r := by
  have hcomposed := Endpoint.composed_requestHeaders (s.endpoint.withZone zone)
  have htoken : Net.Header.isValue (s.endpoint.withZone zone).token = true := by
    show Net.Header.isValue s.endpoint.token = true
    rw [hs.token, ht]
  generalize hheaders : (s.endpoint.withZone zone).requestHeaders = headers at hcomposed
  cases hcomposed with
  | badToken h => exact absurd (htoken.symm.trans h) (by simp)
  | badZone _ h => exact absurd (hzone.symm.trans h) (by simp)
  | badHeader _ _ h =>
    have hnone : (s.endpoint.withZone zone).headers = ∅ := hs.headers
    rw [hnone] at h
    exact absurd h (by simp)
  | all =>
    obtain ⟨r, hr, -⟩ := Endpoint.request_of_good hheaders m path content
    exact ⟨r, hr⟩

/-- A request outside of all zones with a good token can be made. -/
theorem request_ok_outside (hs : s.Bears t) (ht : Net.Header.isValue t = true) (m : Net.Method)
    (path : String) (content : Net.Content) : ∃ r, s.endpoint.request m path content = .ok r := by
  have hrequest : ∃ r, (s.endpoint.withZone "").request m path content = .ok r :=
    hs.request_ok ht rfl m path content
  rwa [hs.withZone_empty] at hrequest

/-- A request without a further header. -/
theorem asks (hs : s.Bears t) (hversion : task.version? = none) {content : Net.Content}
    (hmark : content.header? "content-type" = task.mark?) {x : Net.Exchange}
    (h : (s.endpoint.withZone (task.zoneIn zone)).request task.method task.path content
      = .ok x.request) : Asks s.endpoint t zone task x := by
  refine asks_of_request h rfl (fun name => ?_) hmark
  show (s.endpoint.headers.get? name).or (ownHeader? s.endpoint.token (task.zoneIn zone) name) = _
  rw [hs.headers, hs.token, hversion, NameMap.get?_empty, Option.none_or, ite_self, Option.or_none]

/-- Over the headers of the session, of which there are none, one header is all that there is. -/
theorem get?_withHeader (hs : s.Bears t) (zone : String) (header : Net.Header)
    (value name : String) :
    ((s.endpoint.withZone zone).withHeader header value).headers.get? name
      = if header.key = name then some value else none := by
  have hkey : Text.asciiLower header.name = header.key := by cases header <;> decide
  have hnone : (s.endpoint.withZone zone).headers = ∅ := hs.headers
  rw [Endpoint.withHeader, Endpoint.get?_withHeaders, Net.Header.lastValue?_single, hkey, hnone,
    NameMap.get?_empty, Option.or_none]

/-- A request that applies to any version. -/
theorem asks_anyVersion (hs : s.Bears t) (hversion : task.version? = some "*")
    {content : Net.Content} (hmark : content.header? "content-type" = task.mark?) {x : Net.Exchange}
    (h : ((s.endpoint.withZone (task.zoneIn zone)).withHeader .ifMatch "*").request task.method
      task.path content = .ok x.request) : Asks s.endpoint t zone task x := by
  refine asks_of_request h rfl (fun name => ?_) hmark
  show Option.or _ (ownHeader? s.endpoint.token (task.zoneIn zone) name) = _
  rw [hs.get?_withHeader, hs.token, hversion]
  by_cases hname : name = "if-match"
  · subst hname
    rfl
  · have hkey : Net.Header.ifMatch.key ≠ name := Ne.symm hname
    rw [if_neg hname, if_neg hkey, Option.none_or, Option.or_none]

/-- A request in the name of the client itself, whose token is that of the session. -/
theorem asks_ownToken (hs : s.Bears t) (hversion : task.version? = none) {content : Net.Content}
    (hmark : content.header? "content-type" = task.mark?) {x : Net.Exchange}
    (h : ((s.endpoint.withZone (task.zoneIn zone)).withHeader .authorization s.clientToken).request
      task.method task.path content = .ok x.request) : Asks s.endpoint t zone task x := by
  refine asks_of_request h rfl (fun name => ?_) hmark
  show Option.or _ (ownHeader? s.endpoint.token (task.zoneIn zone) name) = _
  rw [hs.get?_withHeader, hs.token, hs.clientToken, hversion, ite_self, Option.or_none]
  -- The token that is laid over that of the endpoint is the same one.
  by_cases hname : name = "authorization"
  · subst hname
    rfl
  · have hkey : Net.Header.authorization.key ≠ name := Ne.symm hname
    rw [if_neg hkey, Option.none_or]

/-- A request outside of all zones. -/
theorem asks_outside (hs : s.Bears t) (hkind : task.kind = .zone) (hversion : task.version? = none)
    {content : Net.Content} (hmark : content.header? "content-type" = task.mark?) {x : Net.Exchange}
    (h : s.endpoint.request task.method task.path content = .ok x.request) :
    Asks s.endpoint t zone task x := by
  have hzone : s.endpoint.withZone (task.zoneIn zone) = s.endpoint := by
    unfold Task.zoneIn
    rw [if_pos hkind, hs.withZone_empty]
  rw [← hzone] at h
  exact hs.asks hversion hmark h

/-- An operation that is one request without a further header. -/
theorem makes [JsonForm α] (hs : s.Bears t) {content : Net.Content}
    (hversion : task.version? = none) (hmark : content.header? "content-type" = task.mark?) :
    ((s.endpoint.withZone (task.zoneIn zone)).ask task.method task.path content : Op α).Makes
      (Asks s.endpoint t zone task) :=
  Op.makes_ask fun _ h => hs.asks hversion hmark h

/-- An operation that is one request outside of all zones. -/
theorem makes_outside [JsonForm α] (hs : s.Bears t) {content : Net.Content}
    (hkind : task.kind = .zone) (hversion : task.version? = none)
    (hmark : content.header? "content-type" = task.mark?) :
    (s.endpoint.ask task.method task.path content : Op α).Makes (Asks s.endpoint t zone task) :=
  Op.makes_ask fun _ h => hs.asks_outside hkind hversion hmark h

end Session.Bears

end

/-! ## Calls of managers -/

/-- A call that is one request, with what it gives. -/
inductive ManagerCall : Type → Type where
  | createClient (client : Wire.Client) (zone : String) : ManagerCall Wire.Client
  | getClient (id zone : String) : ManagerCall Wire.Client
  | findClient (clientId zone : String) : ManagerCall Wire.Client
  | updateClient (client : Wire.Client) (zone : String) : ManagerCall Wire.Client
  | changeSecret (id : String) (old : Option String) (new zone : String) : ManagerCall Unit
  | deleteClient (id zone : String) : ManagerCall Unit
  | createGroup (displayName description zone : String) : ManagerCall Wire.Group
  | getGroup (id zone : String) : ManagerCall Wire.Group
  | findGroup (displayName zone : String) : ManagerCall Wire.Group
  | listGroups (zone : String) : ManagerCall (List Wire.Group)
  | updateGroup (id displayName description zone : String) : ManagerCall Wire.Group
  | deleteGroup (id zone : String) : ManagerCall Unit
  | createUser (profile : Wire.Profile) (password origin zone : String) : ManagerCall Wire.User
  | getUser (id zone : String) : ManagerCall Wire.User
  | findUser (username zone : String) : ManagerCall Wire.User
  | updateUser (id : String) (profile : Wire.Profile) (zone : String) : ManagerCall Wire.User
  | changePassword (id : String) (old : Option String) (new zone : String) : ManagerCall Unit
  | deleteUser (id zone : String) : ManagerCall Unit
  | createZone (record : Wire.Zone) : ManagerCall Wire.Zone
  | getZone (id : String) : ManagerCall Wire.Zone
  | findZone (name : String) : ManagerCall Wire.Zone
  | updateZone (id : String) (record : Wire.Zone) : ManagerCall Wire.Zone
  | deleteZone (id : String) : ManagerCall Unit

namespace ManagerCall

/-- The operation of the call. -/
def op (s : Session) : ManagerCall α → Op α
  | createClient client zone => Clients.create s.endpoint client zone
  | getClient id zone => Clients.get s.endpoint id zone
  | findClient clientId zone => Clients.find s.endpoint clientId zone
  | updateClient client zone => Clients.update s.endpoint client zone
  | changeSecret id old new zone => Clients.changeSecret s.endpoint id old new zone
  | deleteClient id zone => Clients.delete s.endpoint id zone
  | createGroup displayName description zone =>
    Groups.create s.endpoint displayName description zone
  | getGroup id zone => Groups.get s.endpoint id zone
  | findGroup displayName zone => Groups.find s.endpoint displayName zone
  | listGroups zone => Groups.list s.endpoint zone
  | updateGroup id displayName description zone =>
    Groups.update s.endpoint id displayName description zone
  | deleteGroup id zone => Groups.delete s.endpoint id zone
  | createUser profile password origin zone => Users.create s.users profile password origin zone
  | getUser id zone => Users.get s.users id zone
  | findUser username zone => Users.find s.users username zone
  | updateUser id profile zone => Users.update s.users id profile zone
  | changePassword id old new zone => Users.changePassword s.users id old new zone
  | deleteUser id zone => Users.delete s.users id zone
  | createZone record => Zones.create s.endpoint record
  | getZone id => Zones.get s.endpoint id
  | findZone name => Zones.find s.endpoint name
  | updateZone id record => Zones.update s.endpoint id record
  | deleteZone id => Zones.delete s.endpoint id

/-- What the call asks for. -/
def task : ManagerCall α → Task
  | createClient _ _ => .create .client
  | getClient id _ => .get .client id
  | findClient clientId _ => .find .client clientId
  | updateClient client _ => .replace .client client.clientId
  | changeSecret id _ _ _ => .changeSecret id
  | deleteClient id _ => .delete .client id
  | createGroup _ _ _ => .create .group
  | getGroup id _ => .get .group id
  | findGroup displayName _ => .find .group displayName
  | listGroups _ => .listGroups
  | updateGroup id _ _ _ => .replace .group id
  | deleteGroup id _ => .delete .group id
  | createUser _ _ _ _ => .create .user
  | getUser id _ => .get .user id
  | findUser username _ => .find .user username
  | updateUser id _ _ => .replace .user id
  | changePassword id _ _ _ => .changePassword id
  | deleteUser id _ => .delete .user id
  | createZone _ => .create .zone
  | getZone id => .get .zone id
  | findZone name => .find .zone name
  | updateZone id _ => .replace .zone id
  | deleteZone id => .delete .zone id

/-- The zone in which the call is made, which is none for identity zones. -/
def zone : ManagerCall α → String
  | createClient _ zone => zone
  | getClient _ zone => zone
  | findClient _ zone => zone
  | updateClient _ zone => zone
  | changeSecret _ _ _ zone => zone
  | deleteClient _ zone => zone
  | createGroup _ _ zone => zone
  | getGroup _ zone => zone
  | findGroup _ zone => zone
  | listGroups zone => zone
  | updateGroup _ _ _ zone => zone
  | deleteGroup _ zone => zone
  | createUser _ _ _ zone => zone
  | getUser _ zone => zone
  | findUser _ zone => zone
  | updateUser _ _ zone => zone
  | changePassword _ _ _ zone => zone
  | deleteUser _ zone => zone
  | createZone _ => ""
  | getZone _ => ""
  | findZone _ => ""
  | updateZone _ _ => ""
  | deleteZone _ => ""

variable {s : Session} {t : String}

/-- A call asks for its task, in its zone. -/
theorem makes (hs : s.Bears t) (call : ManagerCall α) :
    (call.op s).Makes (Asks s.endpoint t call.zone call.task) := by
  cases call with
  | createClient client zone => exact Op.makes_orExists (hs.makes rfl rfl) _ _
  | getClient id zone => exact hs.makes rfl rfl
  | findClient clientId zone => exact (hs.makes rfl rfl).bind fun list => Op.makes_firstOf list _ _
  | updateClient client zone => exact hs.makes rfl rfl
  | changeSecret id old new zone => exact (hs.makes rfl rfl).bind fun _ => Op.makes_pure _
  | deleteClient id zone => exact Op.makes_delete fun _ h => hs.asks rfl rfl h
  | createGroup displayName description zone => exact Op.makes_orExists (hs.makes rfl rfl) _ _
  | getGroup id zone => exact hs.makes rfl rfl
  | findGroup displayName zone =>
    exact (hs.makes rfl rfl).bind fun list => Op.makes_firstOf list _ _
  | listGroups zone => exact (hs.makes rfl rfl).bind fun _ => Op.makes_pure _
  | updateGroup id displayName description zone =>
    exact Op.makes_ask fun _ h => hs.asks_anyVersion rfl rfl h
  | deleteGroup id zone => exact Op.makes_delete fun _ h => hs.asks rfl rfl h
  | createUser profile password origin zone => exact Op.makes_orExists (hs.makes rfl rfl) _ _
  | getUser id zone => exact hs.makes rfl rfl
  | findUser username zone => exact (hs.makes rfl rfl).bind fun list => Op.makes_firstOf list _ _
  | updateUser id profile zone => exact Op.makes_ask fun _ h => hs.asks_anyVersion rfl rfl h
  | changePassword id old new zone =>
    refine Op.Makes.bind ?_ fun _ => Op.makes_pure _
    -- The token of the client, which one of the two goes with, is that of the session.
    split
    · exact Op.makes_ask fun _ h => hs.asks_ownToken rfl rfl h
    · exact hs.makes rfl rfl
  | deleteUser id zone => exact Op.makes_delete fun _ h => hs.asks rfl rfl h
  | createZone record => exact Op.makes_orExists (hs.makes_outside rfl rfl rfl) _ _
  | getZone id => exact hs.makes_outside rfl rfl rfl
  | findZone name =>
    refine (hs.makes_outside rfl rfl rfl).bind fun zones => ?_
    split
    · exact Op.makes_pure _
    · exact Op.makes_throw _
  | updateZone id record => exact hs.makes_outside rfl rfl rfl
  | deleteZone id => exact Op.makes_delete fun _ h => hs.asks_outside rfl rfl rfl h

end ManagerCall

end UaaAdmin
