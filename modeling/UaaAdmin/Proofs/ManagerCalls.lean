import UaaAdmin.Proofs.Tasks

/-!
# How the calls of managers end

A call of a manager is one request (`ManagerCall.runOn_op`), and what becomes of that request
decides how the call ends. `Ends` says so for any call, of which it only has to know what a conflict
means (`ManagerCall.conflict?`) and what is made of the body of an answer (`ManagerCall.reading`). A
body that is blank holds `null`, and any other one the value of its JSON text (`Holds`).

The payoff is `manager_calls_end`: a bad header keeps the request from being made, and otherwise
there is exactly one exchange and the call ends as `Ends` says.
-/

namespace UaaAdmin

open Net.Header (IsGood isValue)
open Users (Advanced)

variable {α β : Type}

/-! ## Bad headers -/

/-- The token, the zone or a further header of the endpoint is bad. -/
def Endpoint.HasBadHeader (e : Endpoint) : Prop :=
  isValue e.token = false ∨ isValue e.zone = false ∨
    ∃ name value, e.headers.get? name = some value ∧ ¬IsGood name value

/-- A request is not made, for a reason that lies in the configuration, exactly if there is a bad
header. -/
theorem Endpoint.request_of_headers (e : Endpoint) (m : Net.Method) (path : String)
    (content : Net.Content) :
    (e.HasBadHeader → ∃ why, e.request m path content = .error (.config why)) ∧
    (¬e.HasBadHeader → ∃ r, e.request m path content = .ok r) := by
  have hcomposed := composed_requestHeaders e
  generalize hheaders : e.requestHeaders = headers at hcomposed
  cases hcomposed with
  | badToken htoken =>
    exact ⟨fun _ => ⟨_, request_of_bad hheaders m path content⟩,
      fun hgood => absurd (.inl htoken) hgood⟩
  | badZone _ hzone =>
    exact ⟨fun _ => ⟨_, request_of_bad hheaders m path content⟩,
      fun hgood => absurd (.inr (.inl hzone)) hgood⟩
  | badHeader _ _ hvalue hbad _ =>
    exact ⟨fun _ => ⟨_, request_of_bad hheaders m path content⟩,
      fun hgood => absurd (.inr (.inr ⟨_, _, hvalue, hbad⟩)) hgood⟩
  | all htoken hzone hall _ =>
    obtain ⟨r, hr, -⟩ := request_of_good hheaders m path content
    refine ⟨fun hbad => ?_, fun _ => ⟨r, hr⟩⟩
    rcases hbad with hbad | hbad | ⟨name, value, hvalue, hbad⟩
    · exact absurd (htoken.symm.trans hbad) (by simp)
    · exact absurd (hzone.symm.trans hbad) (by simp)
    · exact absurd (hall name value hvalue) hbad

/-! ## Bodies -/

/-- The bytes are spaces, tabs, line feeds, form feeds and carriage returns, or there are none. -/
def IsBlank (body : List UInt8) : Prop :=
  ∀ x ∈ body, x ∈ ([0x20, 0x09, 0x0a, 0x0c, 0x0d] : List UInt8)

/-- A body holds a value. -/
inductive Holds [JsonForm β] (body : List UInt8) (b : β) : Prop
  /-- A blank body holds what `null` stands for. -/
  | blank (h : IsBlank body) (hb : JsonForm.read? .null = some b)
  /-- Any other body holds what its JSON text stands for. -/
  | text {v : Json} (h : ¬IsBlank body) (hv : Json.ofBytes? body = some v)
    (hb : JsonForm.read? v = some b)

theorem all_isBlankByte_iff {body : List UInt8} : body.all isBlankByte = true ↔ IsBlank body := by
  rw [List.all_eq_true]
  refine forall₂_congr fun x _ => ?_
  simp only [isBlankByte, Bool.or_eq_true, beq_iff_eq, List.mem_cons, List.not_mem_nil, or_false]
  tauto

theorem readBody?_eq_some_iff [JsonForm β] {body : List UInt8} {b : β} :
    readBody? body = some b ↔ Holds body b := by
  unfold readBody?
  by_cases hblank : body.all isBlankByte = true
  · rw [if_pos hblank]
    rw [all_isBlankByte_iff] at hblank
    refine ⟨.blank hblank, fun h => ?_⟩
    cases h with
    | blank _ hb => exact hb
    | text h _ _ => exact absurd hblank h
  · rw [if_neg hblank, Option.bind_eq_some_iff]
    rw [all_isBlankByte_iff] at hblank
    constructor
    · rintro ⟨v, hv, hb⟩
      exact .text hblank hv hb
    · intro h
      cases h with
      | blank h _ => exact absurd h hblank
      | text _ hv hb => exact ⟨_, hv, hb⟩

/-! ## Endings -/

/-- What is made of the body of an answer that reports success. -/
inductive Reading (α : Type) : Type 1 where
  /-- Nothing: the answer is enough. -/
  | nothing (a : α)
  /-- It is read as a value, from which the result is taken. -/
  | body (B : Type) [JsonForm B] (take : B → Except Fault α)

/-- How a call ends by what became of its request. For a call that creates something, `conflict?` is
what it has then found to be there already. -/
inductive Ends (conflict? : Option (String × String)) :
    Reading α → Net.Outcome → Except Fault α → Prop
  /-- The request could not be sent. -/
  | unsent {reading} : Ends conflict? reading .unsent (.error .transport)
  /-- It was not answered. -/
  | dropped {reading} : Ends conflict? reading .dropped (.error .transport)
  /-- What should be created is there already, whatever the body. -/
  | present {reading reply kind key} (hstatus : reply.status = 409)
    (h : conflict? = some (kind, key)) :
    Ends conflict? reading (.answered reply) (.error (.alreadyExists kind key))
  /-- The answer reports no success. -/
  | refused {reading reply code description} (hstatus : ¬(200 ≤ reply.status ∧ reply.status ≤ 299))
    (hother : reply.status = 409 → conflict? = none)
    (h : Fault.ofReply reply = .http reply.status code description) :
    Ends conflict? reading (.answered reply) (.error (.http reply.status code description))
  /-- The answer reports success, and that is enough. -/
  | done {a reply} (hstatus : 200 ≤ reply.status ∧ reply.status ≤ 299) :
    Ends conflict? (.nothing a) (.answered reply) (.ok a)
  /-- The answer reports success, but its body is not what was expected. -/
  | unreadable {B} [JsonForm B] {take reply} (hstatus : 200 ≤ reply.status ∧ reply.status ≤ 299)
    (hbody : ∀ b : B, ¬Holds reply.content b) :
    Ends conflict? (.body B take) (.answered reply) (.error .decode)
  /-- The answer reports success, and the result is taken from its body. -/
  | read {B} [JsonForm B] {take reply b} (hstatus : 200 ≤ reply.status ∧ reply.status ≤ 299)
    (hbody : Holds reply.content (b : B)) :
    Ends conflict? (.body B take) (.answered reply) (take b)

theorem Net.Reply.isSuccess_iff {reply : Reply} :
    reply.isSuccess = true ↔ 200 ≤ reply.status ∧ reply.status ≤ 299 := by
  unfold isSuccess
  rw [Bool.and_eq_true, decide_eq_true_iff, decide_eq_true_iff]

/-- A fault that is made of an answer has its status. -/
theorem Fault.ofReply_eq (reply : Net.Reply) :
    ∃ code description, Fault.ofReply reply = .http reply.status code description := by
  unfold ofReply
  dsimp only
  split
  · exact ⟨_, _, rfl⟩
  · split <;> exact ⟨_, _, rfl⟩

/-- The fault with a conflict reported as what it means. -/
def Fault.orPresent (conflict? : Option (String × String)) (f : Fault) : Fault :=
  match conflict? with
  | some (kind, key) => if f.isConflict then .alreadyExists kind key else f
  | none => f

/-- The result that comes of an outcome. -/
def Reading.verdict (conflict? : Option (String × String)) :
    Reading α → Net.Outcome → Except Fault α
  | nothing a, o => (o.reply.mapError (Fault.orPresent conflict?)).map fun _ => a
  | body _ take, o => (o.value.mapError (Fault.orPresent conflict?)).bind take

/-- An answer without success ends the call, whatever would be made of its body. -/
theorem Ends.of_refused (conflict? : Option (String × String)) (reading : Reading α)
    {reply : Net.Reply} (h : ¬(200 ≤ reply.status ∧ reply.status ≤ 299)) :
    Ends conflict? reading (.answered reply)
      (.error (Fault.orPresent conflict? (.ofReply reply))) := by
  obtain ⟨code, description, hfault⟩ := Fault.ofReply_eq reply
  have hconflict : (Fault.ofReply reply).isConflict = true ↔ reply.status = 409 := by
    rw [hfault]
    simp [Fault.isConflict, Fault.status?]
  unfold Fault.orPresent
  rcases conflict? with _ | ⟨kind, key⟩
  · dsimp only
    rw [hfault]
    exact .refused h (fun _ => rfl) hfault
  · dsimp only
    by_cases h409 : reply.status = 409
    · rw [if_pos (hconflict.mpr h409)]
      exact .present h409 rfl
    · rw [if_neg (mt hconflict.mp h409), hfault]
      exact .refused h (fun h409' => absurd h409' h409) hfault

/-- Without an answer that reports success there is nothing to be read. -/
theorem Reading.verdict_of_fault (conflict? : Option (String × String)) (reading : Reading α)
    {o : Net.Outcome} {f : Fault} (h : o.reply = .error f) :
    reading.verdict conflict? o = .error (f.orPresent conflict?) := by
  cases reading with
  | nothing a =>
    rw [verdict, h]
    rfl
  | body B take =>
    rw [verdict, Net.Outcome.value, h]
    rfl

/-- The result that comes of an outcome is how the call ends. -/
theorem ends_verdict (conflict? : Option (String × String)) (reading : Reading α)
    (o : Net.Outcome) : Ends conflict? reading o (reading.verdict conflict? o) := by
  -- A fault without a status is no conflict, whatever a conflict would mean.
  have htransport : Fault.orPresent conflict? .transport = .transport := by
    rcases conflict? with _ | ⟨kind, key⟩ <;> rfl
  have hdecode : Fault.orPresent conflict? .decode = .decode := by
    rcases conflict? with _ | ⟨kind, key⟩ <;> rfl
  rcases o with _ | _ | reply
  · rw [reading.verdict_of_fault conflict? rfl, htransport]
    exact .unsent
  · rw [reading.verdict_of_fault conflict? rfl, htransport]
    exact .dropped
  · by_cases hsuccess : reply.isSuccess = true
    · have hstatus := Net.Reply.isSuccess_iff.mp hsuccess
      have hreply : (Net.Outcome.answered reply).reply = .ok reply := if_pos hsuccess
      cases reading with
      | nothing a =>
        rw [Reading.verdict, hreply]
        exact .done hstatus
      | body B take =>
        rw [Reading.verdict, Net.Outcome.value, hreply]
        dsimp only [Except.bind]
        rcases hbody : readBody? (α := B) reply.content with _ | b
        · dsimp only [Except.mapError]
          rw [hdecode]
          refine .unreadable hstatus fun b hb => ?_
          exact absurd (hbody.symm.trans (readBody?_eq_some_iff.mpr hb)) (by simp)
        · exact .read hstatus (readBody?_eq_some_iff.mp hbody)
    · have hreply : (Net.Outcome.answered reply).reply = .error (.ofReply reply) := if_neg hsuccess
      rw [reading.verdict_of_fault conflict? hreply]
      exact .of_refused conflict? reading (mt Net.Reply.isSuccess_iff.mpr hsuccess)

/-- If the result is not taken from the body, that is because of a fault of which `p` holds. -/
def Reading.FailsOnlyAs (p : Fault → Prop) : Reading α → Prop
  | nothing _ => True
  | body _ take => ∀ b f, take b = .error f → p f

/-- What a blank body comes to. -/
def Reading.ofBlank : Reading α → Except Fault α
  | nothing a => .ok a
  | body B take =>
    match JsonForm.read? (α := B) .null with
    | some b => take b
    | none => .error .decode

section

variable {conflict? : Option (String × String)} {reading : Reading α} {o : Net.Outcome}
  {r : Except Fault α}

/-- Something is found to be there already exactly if it should be created and the server reports a
conflict. -/
theorem Ends.alreadyExists_iff (h : Ends conflict? reading o r) {p : Fault → Prop}
    (hreading : reading.FailsOnlyAs p) {kind key : String} (hp : ¬p (.alreadyExists kind key)) :
    r = .error (.alreadyExists kind key) ↔
      conflict? = some (kind, key) ∧ ∃ reply, o = .answered reply ∧ reply.status = 409 := by
  constructor
  · intro hr
    cases h with
    | @present _ reply kind' key' hstatus hconflict =>
      obtain ⟨rfl, rfl⟩ := Fault.alreadyExists.inj (Except.error.inj hr)
      exact ⟨hconflict, reply, rfl, hstatus⟩
    | read hstatus hbody => exact absurd (hreading _ _ hr) hp
    | _ => exact absurd hr (by simp)
  · rintro ⟨hconflict, reply, rfl, h409⟩
    cases h with
    | present _ h =>
      obtain ⟨rfl, rfl⟩ := Prod.mk.inj (Option.some.inj (h.symm.trans hconflict))
      rfl
    | refused _ hother _ => exact absurd ((hother h409).symm.trans hconflict) (by simp)
    -- A conflict is no success.
    | done hstatus => omega
    | unreadable hstatus _ => omega
    | read hstatus _ => omega

/-- Nothing is found only if that is what the body of an answer comes to. -/
theorem Ends.notFound (h : Ends conflict? reading o r) {kind key : String} {p : Fault → Prop}
    (hreading : reading.FailsOnlyAs p) (hr : r = .error (.notFound kind key)) :
    p (.notFound kind key) := by
  cases h with
  | read hstatus hbody => exact hreading _ _ hr
  | _ => exact absurd hr (by simp)

/-- Where nothing is read, an answer that reports success is enough. -/
theorem Ends.of_done {a : α} {reply : Net.Reply}
    (h : Ends conflict? (.nothing a) (.answered reply) r)
    (hstatus : 200 ≤ reply.status ∧ reply.status ≤ 299) : r = .ok a := by
  cases h with
  | present h409 _ => omega
  | refused hfailed _ _ => exact absurd hstatus hfailed
  | done _ => rfl

/-- A record that the call ends with is in the answer. -/
theorem Ends.gives [JsonForm α] {a : α} (h : Ends conflict? (.body α .ok) o (.ok a)) :
    o.Gives a := by
  generalize hok : (Except.ok a : Except Fault α) = r at h
  cases h with
  | read hstatus hbody =>
    obtain rfl := Except.ok.inj hok
    exact ⟨_, rfl, Net.Reply.isSuccess_iff.mpr hstatus, readBody?_eq_some_iff.mpr hbody⟩
  | _ => exact absurd hok (by simp)

/-- A blank body stands for `null`. -/
theorem Ends.of_blank {reply : Net.Reply} (h : Ends conflict? reading (.answered reply) r)
    (hstatus : 200 ≤ reply.status ∧ reply.status ≤ 299) (hblank : IsBlank reply.content) :
    r = reading.ofBlank := by
  cases h with
  | present h409 _ => omega
  | refused hfailed _ _ => exact absurd hstatus hfailed
  | done _ => rfl
  | @unreadable B _ take _ _ hbody =>
    rcases hnull : JsonForm.read? (α := B) .null with _ | b
    · simp only [Reading.ofBlank, hnull]
    · exact absurd (.blank hblank hnull) (hbody b)
  | @read B _ take _ b _ hbody =>
    cases hbody with
    | blank _ hb => simp only [Reading.ofBlank, hb]
    | text htext _ _ => exact absurd hblank htext

end

/-! ## Operations that are one request -/

section

variable {e : Endpoint} {m : Net.Method} {path : String} {content : Net.Content} {c : Connection}

/-- What keeps a request from being made is no conflict. -/
theorem Endpoint.not_isConflict_of_request {f : Fault} (h : e.request m path content = .error f) :
    f.isConflict = false := by
  obtain ⟨hbad, hgood⟩ := e.request_of_headers m path content
  by_cases hheader : e.HasBadHeader
  · obtain ⟨why, hwhy⟩ := hbad hheader
    obtain rfl := Except.error.inj (h.symm.trans hwhy)
    rfl
  · obtain ⟨r, hr⟩ := hgood hheader
    exact absurd (h.symm.trans hr) (by simp)

/-- A request for a value from which the result is taken. -/
theorem Endpoint.runOn_ask_bind [JsonForm β] {f : β → Op α} {take : β → Except Fault α}
    (hf : ∀ b c, (f b).runOn c = (take b, c)) :
    ((e.ask m path content : Op β) >>= f).runOn c
      = c.single (e.request m path content) (Reading.verdict none (.body β take)) := by
  rw [Op.runOn_bind_of_single (runOn_ask e m path content c) hf]
  congr 1
  funext o
  rw [Reading.verdict]
  cases o.value (α := β) <;> rfl

/-- A request for the result itself. -/
theorem Endpoint.runOn_ask_record [JsonForm α] :
    (e.ask m path content : Op α).runOn c
      = c.single (e.request m path content) (Reading.verdict none (.body α .ok)) := by
  have hpure (a : α) (c : Connection) : (pure a : Op α).runOn c = (.ok a, c) := rfl
  rw [← runOn_ask_bind hpure, bind_pure]

/-- A request that creates something. -/
theorem Endpoint.runOn_ask_orExists [JsonForm α] (kind key : String) :
    ((e.ask m path content : Op α).orExists kind key).runOn c
      = c.single (e.request m path content)
          (Reading.verdict (some (kind, key)) (.body α .ok)) := by
  unfold Op.orExists
  rw [Op.runOn_tryCatch, runOn_ask]
  rcases hr : e.request m path content with f | r
  · dsimp only [Connection.single]
    rw [not_isConflict_of_request hr]
    rfl
  · dsimp only [Connection.single]
    rw [Reading.verdict]
    rcases (c.network.exchange r).1.value (α := α) with f | a <;> rfl

/-- A request that removes something. -/
theorem Endpoint.runOn_delete_verdict :
    (e.delete path).runOn c
      = c.single (e.request .delete path .empty) (Reading.verdict none (.nothing ())) := by
  rw [runOn_delete]
  congr 1
  funext o
  rw [Reading.verdict]
  cases o.reply <;> rfl

end

/-! ## Calls -/

/-- What a look-up found, or the fault that it found nothing. -/
def foundOr (kind key : String) : Option α → Except Fault α
  | some a => .ok a
  | none => .error (.notFound kind key)

theorem foundOr_eq_error {kind key : String} {found : Option α} {f : Fault}
    (h : foundOr kind key found = .error f) : f = .notFound kind key := by
  cases found with
  | none => exact (Except.error.inj h).symm
  | some a => exact absurd h (by simp [foundOr])

theorem Op.runOn_firstOf (kind key : String) (list : Wire.Listing α) (c : Connection) :
    (firstOf list kind key).runOn c = (foundOr kind key list.resources.head?, c) := by
  unfold firstOf foundOr
  rcases list.resources with _ | ⟨a, as⟩ <;> rfl

/-- What the objects of a kind are called where one of them is not found. -/
def Kind.title : Kind → String
  | client => "Client"
  | group => "Group"
  | user => "User"
  | zone => "Identity Zone"

/-- The answer to the task holds records. -/
def Task.ReturnsRecords : Task → Prop
  | create _ => True
  | get _ _ => True
  | find _ _ => True
  | replace _ _ => True
  | listGroups => True
  | _ => False

namespace ManagerCall

/-- What the request of the call carries. -/
def content : ManagerCall α → Net.Content
  | createClient client _ => .json (JsonForm.write client)
  | updateClient client _ => .json (JsonForm.write client)
  | changeSecret _ old new _ => .json (Clients.secretChange old new)
  | createGroup displayName description zone =>
    let group : Wire.Group := { displayName, description, zoneId := zone }
    .json (JsonForm.write group)
  | updateGroup _ displayName description _ =>
    let group : Wire.Group := { displayName, description }
    .json (JsonForm.write group)
  | createUser profile password origin _ =>
    .json (JsonForm.write { profile.toUser with password, origin })
  | updateUser _ profile _ => .json (JsonForm.write profile.toUser)
  | changePassword _ old new _ => .json (Users.passwordChange (old.filter (· ≠ "")) new)
  | createZone record => .json (JsonForm.write record)
  | updateZone _ record => .json (JsonForm.write record)
  | _ => .empty

/-- The endpoint that the call goes to: in its zone, if it is not about zones, with the version that
it applies to, and with the token of the client for a password whose old one is not known. -/
def endpoint (s : Session) : ManagerCall α → Endpoint
  | updateGroup _ _ _ zone => (s.endpoint.withZone zone).withHeader .ifMatch "*"
  | updateUser _ _ zone => (s.endpoint.withZone zone).withHeader .ifMatch "*"
  | changePassword _ old _ zone =>
    if (old.filter (· ≠ "")).isNone then
      (s.endpoint.withZone zone).withHeader .authorization s.clientToken
    else s.endpoint.withZone zone
  | call => if call.task.kind = .zone then s.endpoint else s.endpoint.withZone call.zone

/-- The request of the call, or what keeps it from being made. -/
def request (s : Session) (call : ManagerCall α) : Except Fault Net.Request :=
  (call.endpoint s).request call.task.method call.task.path call.content

/-- What it means for the call that the server has something of that name already. -/
def conflict? : ManagerCall α → Option (String × String)
  | createClient client _ => some ("client", client.clientId)
  | createGroup displayName _ _ => some ("group", displayName)
  | createUser profile _ _ _ => some ("user", profile.username)
  | createZone record => some ("identity zone", record.name)
  | _ => none

/-- What the call makes of the body of an answer that reports success. -/
def reading : ManagerCall α → Reading α
  | createClient _ _ => .body Wire.Client .ok
  | getClient _ _ => .body Wire.Client .ok
  | findClient clientId _ => .body (Wire.Listing Wire.Client) fun list =>
      foundOr "Client" clientId list.resources.head?
  | updateClient _ _ => .body Wire.Client .ok
  | changeSecret _ _ _ _ => .body Json fun _ => .ok ()
  | deleteClient _ _ => .nothing ()
  | createGroup _ _ _ => .body Wire.Group .ok
  | getGroup _ _ => .body Wire.Group .ok
  | findGroup displayName _ => .body (Wire.Listing Wire.Group) fun list =>
      foundOr "Group" displayName list.resources.head?
  | listGroups _ => .body (Wire.Listing Wire.Group) fun list => .ok list.resources
  | updateGroup _ _ _ _ => .body Wire.Group .ok
  | deleteGroup _ _ => .nothing ()
  | createUser _ _ _ _ => .body Wire.User .ok
  | getUser _ _ => .body Wire.User .ok
  | findUser username _ => .body (Wire.Listing Wire.User) fun list =>
      foundOr "User" username list.resources.head?
  | updateUser _ _ _ => .body Wire.User .ok
  | changePassword _ _ _ _ => .body Json fun _ => .ok ()
  | deleteUser _ _ => .nothing ()
  | createZone _ => .body Wire.Zone .ok
  | getZone _ => .body Wire.Zone .ok
  | findZone name => .body (List Wire.Zone) fun zones =>
      foundOr "Identity Zone" name (zones.find? (·.name = name))
  | updateZone _ _ => .body Wire.Zone .ok
  | deleteZone _ => .nothing ()

/-- A call is one request, and the outcome of that decides its result. -/
theorem runOn_op (s : Session) (call : ManagerCall α) (c : Connection) :
    (call.op s).runOn c
      = c.single (call.request s) (call.reading.verdict call.conflict?) := by
  cases call with
  | createClient client zone => exact Endpoint.runOn_ask_orExists _ _
  | getClient id zone => exact Endpoint.runOn_ask_record
  | findClient clientId zone => exact Endpoint.runOn_ask_bind (Op.runOn_firstOf _ _)
  | updateClient client zone => exact Endpoint.runOn_ask_record
  | changeSecret id old new zone => exact Endpoint.runOn_ask_bind fun _ _ => rfl
  | deleteClient id zone => exact Endpoint.runOn_delete_verdict
  | createGroup displayName description zone => exact Endpoint.runOn_ask_orExists _ _
  | getGroup id zone => exact Endpoint.runOn_ask_record
  | findGroup displayName zone => exact Endpoint.runOn_ask_bind (Op.runOn_firstOf _ _)
  | listGroups zone => exact Endpoint.runOn_ask_bind fun _ _ => rfl
  | updateGroup id displayName description zone => exact Endpoint.runOn_ask_record
  | deleteGroup id zone => exact Endpoint.runOn_delete_verdict
  | createUser profile password origin zone => exact Endpoint.runOn_ask_orExists _ _
  | getUser id zone => exact Endpoint.runOn_ask_record
  | findUser username zone => exact Endpoint.runOn_ask_bind (Op.runOn_firstOf _ _)
  | updateUser id profile zone => exact Endpoint.runOn_ask_record
  | changePassword id old new zone => exact Endpoint.runOn_ask_bind fun _ _ => rfl
  | deleteUser id zone => exact Endpoint.runOn_delete_verdict
  | createZone record => exact Endpoint.runOn_ask_orExists _ _
  | getZone id => exact Endpoint.runOn_ask_record
  | findZone name =>
    refine Endpoint.runOn_ask_bind fun zones c => ?_
    show _ = (foundOr "Identity Zone" name (zones.find? fun z => z.name == name), c)
    generalize zones.find? (fun z => z.name == name) = found
    cases found <;> rfl
  | updateZone id record => exact Endpoint.runOn_ask_record
  | deleteZone id => exact Endpoint.runOn_delete_verdict

/-- A result is taken from every body that can be read, but for that of a look-up. -/
theorem reading_failsOnlyAs (call : ManagerCall α) :
    call.reading.FailsOnlyAs fun f =>
      ∃ kind key, call.task = .find kind key ∧ f = .notFound kind.title key := by
  cases call with
  | findClient clientId _ =>
    exact fun _ _ hf => ⟨.client, clientId, rfl, foundOr_eq_error hf⟩
  | findGroup displayName _ =>
    exact fun _ _ hf => ⟨.group, displayName, rfl, foundOr_eq_error hf⟩
  | findUser username _ => exact fun _ _ hf => ⟨.user, username, rfl, foundOr_eq_error hf⟩
  | findZone name => exact fun _ _ hf => ⟨.zone, name, rfl, foundOr_eq_error hf⟩
  | _ => simp [reading, Reading.FailsOnlyAs]

/-- A blank body is enough exactly where no record is returned. -/
theorem reading_ofBlank (call : ManagerCall α) :
    (call.task.ReturnsRecords → call.reading.ofBlank = .error .decode) ∧
    (¬call.task.ReturnsRecords → ∃ a, call.reading.ofBlank = .ok a) := by
  cases call with
  | changeSecret _ _ _ _ | changePassword _ _ _ _ | deleteClient _ _ | deleteGroup _ _
  | deleteUser _ _ | deleteZone _ => exact ⟨False.elim, fun _ => ⟨(), rfl⟩⟩
  | _ => exact ⟨fun _ => rfl, fun h => absurd trivial h⟩

/-- What removes something does not look at the body. -/
theorem reading_of_delete {call : ManagerCall α} (h : call.task.method = .delete) :
    ∃ a, call.reading = .nothing a := by
  cases call with
  | deleteClient _ _ | deleteGroup _ _ | deleteUser _ _ | deleteZone _ => exact ⟨(), rfl⟩
  | _ => exact absurd h (by simp [task, Task.method])

/-- How a call can go: its result and the connection that it leaves. -/
inductive Goes (s : Session) (call : ManagerCall α) (c : Connection) :
    Except Fault α × Connection → Prop
  /-- A header is bad, and nothing is sent. -/
  | refused {why} (hbad : (call.endpoint s).HasBadHeader)
    (h : call.request s = .error (.config why)) : Goes s call c (.error (.config why), c)
  /-- The request is made, and its outcome decides. -/
  | made {x r c'} (hgood : ¬(call.endpoint s).HasBadHeader) (h : call.request s = .ok x.request)
    (hadv : Advanced c [x] c') (hends : Ends call.conflict? call.reading x.outcome r) :
    Goes s call c (r, c')

/-- Every call goes in one of these ways. -/
theorem goes (s : Session) (call : ManagerCall α) (c : Connection) :
    call.Goes s c ((call.op s).runOn c) := by
  obtain ⟨hbad, hgood⟩ :=
    (call.endpoint s).request_of_headers call.task.method call.task.path call.content
  rw [runOn_op]
  by_cases hheader : (call.endpoint s).HasBadHeader
  · obtain ⟨why, hwhy⟩ := hbad hheader
    have hrequest : call.request s = .error (.config why) := hwhy
    rw [hrequest]
    exact .refused hheader hrequest
  · obtain ⟨r, hr⟩ := hgood hheader
    have hrequest : call.request s = .ok r := hr
    rw [hrequest]
    exact .made hheader hrequest (Users.advanced_exchange c r) (ends_verdict _ _ _)

/-- All calls use the address and the token of the session. -/
theorem endpoint_shared (s : Session) (call : ManagerCall α) :
    (call.endpoint s).baseUrl = s.endpoint.baseUrl ∧
      (call.endpoint s).token = s.endpoint.token := by
  cases call with
  | changePassword id old new zone =>
    unfold endpoint
    dsimp only
    split <;> exact ⟨rfl, rfl⟩
  | _ => exact ⟨rfl, rfl⟩

/-- What a call adds to the log is its request, which goes to the path of its task. -/
theorem url_of_log {s : Session} {call : ManagerCall α} {c : Connection} {x : Net.Exchange}
    (h : ((call.op s).runOn c).2.network.log = c.network.log ++ [x]) :
    x.request.url = s.endpoint.urlOf call.task.path := by
  have hgoes := call.goes s c
  generalize (call.op s).runOn c = run at h hgoes
  cases hgoes with
  | refused hbad hrequest => exact absurd h (by simp)
  | made hgood hrequest hadv hends =>
    rw [hadv.log] at h
    obtain rfl := List.singleton_injective (List.append_cancel_left h)
    obtain ⟨-, hurl, -⟩ := Endpoint.request_eq_ok hrequest
    rw [hurl, Endpoint.urlOf_congr (endpoint_shared s call).1]

end ManagerCall

/-- A call of a manager whose request has a bad header ends with that and sends nothing. Any other
one has exactly one exchange, the outcome of which decides how it ends. It finds something there
already exactly if it should be created and the server reports a conflict; only a look-up finds
nothing; what removes something succeeds whatever the body; and a blank body is a success for what
returns no record, and unreadable for everything else. -/
theorem manager_calls_end (s : Session) (call : ManagerCall α) (c : Connection) :
    let run := (call.op s).runOn c
    ((call.endpoint s).HasBadHeader → ∃ why, run = (.error (.config why), c)) ∧
    (¬(call.endpoint s).HasBadHeader → ∃ x, call.request s = .ok x.request ∧
      Advanced c [x] run.2 ∧ Ends call.conflict? call.reading x.outcome run.1 ∧
      (∀ kind key, run.1 = .error (.alreadyExists kind key) ↔
        call.conflict? = some (kind, key) ∧
          ∃ reply, x.outcome = .answered reply ∧ reply.status = 409) ∧
      (∀ kind key, run.1 = .error (.notFound kind key) →
        ∃ k, call.task = .find k key ∧ kind = k.title) ∧
      ∀ reply, x.outcome = .answered reply → 200 ≤ reply.status ∧ reply.status ≤ 299 →
        (call.task.method = .delete → ∃ a, run.1 = .ok a) ∧
        (IsBlank reply.content →
          (call.task.ReturnsRecords → run.1 = .error .decode) ∧
          (¬call.task.ReturnsRecords → ∃ a, run.1 = .ok a))) := by
  intro run
  have hgoes : call.Goes s c run := call.goes s c
  have hfails := call.reading_failsOnlyAs
  generalize run = result at hgoes
  -- A bad header keeps the request back; else there is exactly one exchange.
  cases hgoes with
  | refused hbad h => exact ⟨fun _ => ⟨_, rfl⟩, fun hgood => absurd hbad hgood⟩
  | made hgood h hadv hends =>
    refine ⟨fun hbad => absurd hbad hgood, fun _ => ⟨_, h, hadv, hends, ?present, ?notFound, ?read⟩⟩
    case present =>
      intro kind key
      refine hends.alreadyExists_iff hfails ?_
      rintro ⟨k, key', -, hf⟩
      exact absurd hf (by simp)
    case notFound =>
      intro kind key hnone
      obtain ⟨k, key', htask, hf⟩ := hends.notFound hfails hnone
      obtain ⟨rfl, rfl⟩ := Fault.notFound.inj hf
      exact ⟨k, htask, rfl⟩
    case read =>
      intro reply hreply hstatus
      rw [hreply] at hends
      dsimp only
      refine ⟨fun hdelete => ?_, fun hblank => ?_⟩
      · obtain ⟨a, ha⟩ := ManagerCall.reading_of_delete hdelete
        rw [ha] at hends
        exact ⟨a, hends.of_done hstatus⟩
      · rw [hends.of_blank hstatus hblank]
        exact call.reading_ofBlank

end UaaAdmin
