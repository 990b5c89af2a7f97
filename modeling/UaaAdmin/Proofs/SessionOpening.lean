import UaaAdmin.Proofs.EndpointForms
import UaaAdmin.Proofs.FieldReading
import UaaAdmin.Proofs.ManagerCalls
import UaaAdmin.Proofs.SessionRequests

/-!
# The opening of a session

What keeps a session from being opened before anything is sent is in its endpoints: one of them is
empty, or the one for tokens is no address. Otherwise there is one request, and the answer to it
decides. What that has to hold is said by `Grants`.

A configuration gives its endpoints without slashes at the end, so an endpoint that is there is
still there when its slashes are cut once more, and after a token is given nothing can fail
(`Endpoint.new_authUrl`). The payoff is `session_opening`.
-/

namespace UaaAdmin

open Users (Advanced)

/-! ## Grants -/

/-- The values of the members with some name. -/
def valuesOf (name : String) (ms : List (String × Json)) : List Json :=
  (ms.filter fun m => m.1 == name).map Prod.snd

/-- What an object gives a field is read from the values with its name. -/
theorem Field.ofMembers?_eq {σ : Type} (f : Field σ) (ms : List (String × Json)) :
    f.ofMembers? ms = match valuesOf f.name ms with
      | [] => f.slot.missing
      | [v] => f.slot.read? v
      | _ => none := by
  unfold ofMembers? valuesOf
  generalize ms.filter (fun m => m.1 == f.name) = own
  rcases own with _ | ⟨m, _ | ⟨m', rest⟩⟩ <;> rfl

/-- The values are at most one, which is a text or `null`. -/
inductive MayBeText : List Json → Option String → Prop
  | missing : MayBeText [] none
  | null : MayBeText [.null] none
  | text (s : String) : MayBeText [.text s] (some s)

/-- A text is read from a text literal only. -/
theorem read?_text_iff {v : Json} {s : String} : JsonForm.read? v = some s ↔ v = .text s := by
  cases v <;> simp [JsonForm.read?]

theorem Slot.read?_optional_text_iff {v : Json} {a : Option String} :
    (Slot.optional (α := String)).read? v = some a ↔ MayBeText [v] a := by
  constructor
  · intro h
    by_cases hnull : v = .null
    · subst hnull
      obtain rfl := Option.some.inj h
      exact .null
    · rw [Slot.read?_optional_of_ne hnull] at h
      obtain ⟨s, hs, rfl⟩ := Option.map_eq_some_iff.mp h
      obtain rfl := read?_text_iff.mp hs
      exact .text s
  · intro h
    cases h with
    | null => rfl
    | text s => rfl

/-- An object gives a text that may be missing or `null` from the values with the name of its
field. -/
theorem Field.ofMembers?_text_iff {σ : Type} {name : String} {slot : Slot (Option String)}
    {get : σ → Option String} {put : Option String → σ → σ}
    (hread : slot.read? = (Slot.optional (α := String)).read?) (hmissing : slot.missing = some none)
    {ms : List (String × Json)} {a : Option String} :
    (Field.mk name slot get put).ofMembers? ms = some a ↔ MayBeText (valuesOf name ms) a := by
  rw [Field.ofMembers?_eq]
  dsimp only
  rw [hread, hmissing]
  rcases valuesOf name ms with _ | ⟨v, _ | ⟨w, rest⟩⟩
  · refine ⟨fun h => ?_, fun h => ?_⟩
    · obtain rfl := Option.some.inj h
      exact .missing
    · cases h
      rfl
  · exact Slot.read?_optional_text_iff
  · exact iff_of_false (by simp) (by rintro ⟨⟩)

/-- A value grants a token, which is there once, and its type, if it has one. An object has them as
members among others, and an array as its first item and its last. -/
inductive Grants : Json → String → Option String → Prop
  | object {ms : List (String × Json)} {token : String} {type : Option String}
    (htoken : valuesOf "access_token" ms = [.text token])
    (htype : MayBeText (valuesOf "token_type" ms) type) : Grants (.object ms) token type
  | array {vs : List Json} {token : String} {type : Option String} (htype : MayBeText vs type) :
    Grants (.array (.text token :: vs)) token type

/-- What a token is sent as: its type, or else `bearer`, and the token itself. -/
def authorizationOf (token : String) (type : Option String) : String :=
  (if type.getD "" = "" then "bearer" else type.getD "") ++ " " ++ token

namespace TokenGrant

theorem authorization_eq (g : TokenGrant) :
    g.authorization = authorizationOf g.accessToken g.tokenType := by
  unfold authorization authorizationOf
  rcases g.tokenType with _ | type
  · rfl
  · by_cases hempty : type = ""
    · subst hempty
      rfl
    · simp [Option.filter, hempty]

/-- The field of the token. -/
def tokenField : Field TokenGrant :=
  ⟨"access_token", .required, accessToken, fun a s => { s with accessToken := a }⟩

/-- The field of the type. -/
def typeField : Field TokenGrant :=
  ⟨"token_type", .optional, tokenType, fun a s => { s with tokenType := a }⟩

theorem read?_token_iff {v : Json} {token : String} :
    tokenField.slot.read? v = some token ↔ v = .text token :=
  read?_text_iff

theorem read?_type_iff {v : Json} {type : Option String} :
    typeField.slot.read? v = some type ↔ MayBeText [v] type :=
  Slot.read?_optional_text_iff

theorem ofMembers?_token_iff {ms : List (String × Json)} {token : String} :
    tokenField.ofMembers? ms = some token ↔ valuesOf "access_token" ms = [.text token] := by
  rw [Field.ofMembers?_eq]
  show (match valuesOf "access_token" ms with | [] => _ | [v] => _ | _ => _) = _ ↔ _
  rcases valuesOf "access_token" ms with _ | ⟨v, _ | ⟨w, rest⟩⟩
  · exact iff_of_false (by simp [tokenField, Slot.required]) (by simp)
  · refine Iff.trans read?_token_iff ?_
    rw [List.cons_eq_cons, and_iff_left rfl]
  · exact iff_of_false (by simp) (by simp)

theorem ofMembers?_type_iff {ms : List (String × Json)} {type : Option String} :
    typeField.ofMembers? ms = some type ↔ MayBeText (valuesOf "token_type" ms) type :=
  Field.ofMembers?_text_iff rfl rfl

/-- A grant is read from what grants it. -/
theorem read?_eq_some_iff {v : Json} {g : TokenGrant} :
    JsonForm.read? v = some g ↔ Grants v g.accessToken g.tokenType := by
  constructor
  · intro h
    cases v with
    | object ms =>
      obtain ⟨token, htoken, h⟩ := Option.bind_eq_some_iff.mp h
      obtain ⟨type, htype, h⟩ := Option.bind_eq_some_iff.mp h
      obtain rfl := Option.some.inj h
      exact .object (ofMembers?_token_iff.mp htoken) (ofMembers?_type_iff.mp htype)
    | array vs =>
      rcases vs with _ | ⟨v, vs⟩
      · have hnone : JsonForm.read? (α := TokenGrant) (.array []) = none := rfl
        exact absurd (hnone.symm.trans h) (by simp)
      obtain ⟨token, htoken, h⟩ := Option.bind_eq_some_iff.mp h
      obtain rfl := read?_token_iff.mp htoken
      rcases vs with _ | ⟨w, _ | ⟨w', rest⟩⟩
      · obtain rfl := Option.some.inj h
        exact .array .missing
      · obtain ⟨type, htype, h⟩ := Option.bind_eq_some_iff.mp h
        obtain rfl := Option.some.inj h
        exact .array (read?_type_iff.mp htype)
      · obtain ⟨type, htype, h⟩ := Option.bind_eq_some_iff.mp h
        exact absurd h (by simp [Layout.readItems?])
    | _ => exact absurd h (by simp [JsonForm.read?, Layout.read?])
  · intro h
    obtain ⟨token, type⟩ := g
    cases h with
    | object htoken htype =>
      refine Option.bind_eq_some_iff.mpr ⟨token, ofMembers?_token_iff.mpr htoken, ?_⟩
      exact Option.bind_eq_some_iff.mpr ⟨type, ofMembers?_type_iff.mpr htype, rfl⟩
    | array htype =>
      cases htype <;> rfl

end TokenGrant

/-! ## The answer to the request for a token -/

/-- An answer gives a token, and with it what requests are sent with. -/
def Net.Outcome.GivesToken (o : Net.Outcome) (authorization : String) : Prop :=
  ∃ reply v token type, o = .answered reply ∧ 200 ≤ reply.status ∧ reply.status ≤ 299 ∧
    Json.ofBytes? reply.content = some v ∧ Grants v token type ∧
    authorization = authorizationOf token type

namespace Login

/-- A token is granted by an answer that reports success and holds one. -/
theorem readGrant_eq_ok_iff {reply : Net.Reply} {g : TokenGrant} :
    readGrant reply = .ok g ↔ (200 ≤ reply.status ∧ reply.status ≤ 299) ∧
      ∃ v, Json.ofBytes? reply.content = some v ∧ Grants v g.accessToken g.tokenType := by
  unfold readGrant
  rw [← Net.Reply.isSuccess_iff]
  by_cases hsuccess : reply.isSuccess = true
  · rw [if_pos hsuccess, and_iff_right hsuccess]
    simp_rw [← TokenGrant.read?_eq_some_iff]
    rw [← Option.bind_eq_some_iff]
    rcases (Json.ofBytes? reply.content).bind JsonForm.read? with _ | g' <;> simp
  · rw [if_neg hsuccess]
    exact iff_of_false (by simp) fun h => hsuccess h.1

/-- What the answer to the request for a token comes to. -/
def verdict : Net.Outcome → Except Fault String
  | .answered reply =>
    match readGrant reply with
    | .ok g => .ok g.authorization
    | .error why => .error (.authentication why)
  | _ => .error (.authentication .noAnswer)

/-- An exchange that gives a token ends the request for one. -/
theorem verdict_eq_ok_iff {o : Net.Outcome} {authorization : String} :
    verdict o = .ok authorization ↔ o.GivesToken authorization := by
  constructor
  · intro h
    cases o with
    | answered reply =>
      unfold verdict at h
      dsimp only at h
      rcases hgrant : readGrant reply with why | g
      · rw [hgrant] at h
        exact absurd h (by simp)
      · rw [hgrant] at h
        obtain ⟨⟨hlow, hhigh⟩, v, hv, hgrants⟩ := readGrant_eq_ok_iff.mp hgrant
        refine ⟨reply, v, _, _, rfl, hlow, hhigh, hv, hgrants, ?_⟩
        rw [← Except.ok.inj h, TokenGrant.authorization_eq]
    | _ => exact absurd h (by simp [verdict])
  · rintro ⟨reply, v, token, type, rfl, hlow, hhigh, hv, hgrants, rfl⟩
    have hgrant : readGrant reply = .ok ⟨token, type⟩ :=
      readGrant_eq_ok_iff.mpr ⟨⟨hlow, hhigh⟩, v, hv, hgrants⟩
    unfold verdict
    dsimp only
    rw [hgrant]
    dsimp only
    rw [TokenGrant.authorization_eq]

/-- Every other answer means that there is no token. -/
theorem verdict_eq_error {o : Net.Outcome} {f : Fault} (h : verdict o = .error f) :
    ∃ why, f = .authentication why := by
  unfold verdict at h
  split at h
  · split at h
    · exact absurd h (by simp)
    · exact ⟨_, (Except.error.inj h).symm⟩
  · exact ⟨_, (Except.error.inj h).symm⟩

/-- Asking for a token is one request to the address for tokens, if there is one. -/
theorem runOn_clientToken (l : Login) (clientId clientSecret subdomain : String)
    (c : Connection) :
    (l.clientToken clientId clientSecret subdomain).runOn c
      = c.single ((l.tokenUrl subdomain).map fun url => tokenRequest url clientId clientSecret)
          verdict := by
  unfold clientToken Connection.single
  rw [Op.runOn_bind, Op.runOn_ofExcept]
  rcases l.tokenUrl subdomain with f | url
  · rfl
  · dsimp only [Except.map]
    rw [Op.runOn_bind, Op.runOn_exchange]
    dsimp only
    rcases (c.network.exchange (tokenRequest url clientId clientSecret)).1 with _ | _ | reply
    · rfl
    · rfl
    · dsimp only [verdict]
      rcases readGrant reply with why | g <;> rfl

/-- Without a zone the address that tokens come from is below that of the server. -/
theorem tokenUrl_empty (l : Login) :
    l.tokenUrl "" =
      if l.url = "" then .error (.config .noLoginEndpoint)
      else match Url.parse l.url with
        | .ok u => .ok (Text.trimEndSlashes u.print ++ "/oauth/token")
        | .error why => .error (.config (.badLoginEndpoint l.url why)) := by
  unfold tokenUrl zoneUrl
  by_cases hempty : l.url = ""
  · rw [if_pos hempty, if_pos hempty]
    rfl
  · rw [if_neg hempty, if_neg hempty]
    rcases Url.parse l.url with why | u <;> rfl

end Login

/-! ## The endpoint of a session -/

/-- The address of an endpoint has no slashes at its end to drop. -/
theorem trimEndSlashes_endpointUrl (e : String) :
    Text.trimEndSlashes (endpointUrl e) = endpointUrl e := by
  have hself : Text.dropEndWhile (· == '/') (endpointUrl e).toList = (endpointUrl e).toList := by
    rw [Text.dropEndWhile_eq_self_iff]
    refine fun c hc => beq_false_of_ne ?_
    rintro rfl
    exact not_endsInSlash_endpointUrl hc
  rw [Text.trimEndSlashes, hself, String.ofList_toList]

/-- An endpoint that is not missing is not lost when it is used. -/
theorem Endpoint.new_authUrl {config : Config} (h : config.authUrl ≠ "") (token : String) :
    Endpoint.new config.authUrl token = .ok ⟨config.authUrl, token, "", ∅⟩ := by
  have htrim : Text.trimEndSlashes config.authUrl = config.authUrl :=
    trimEndSlashes_endpointUrl config.authEndpoint
  unfold Endpoint.new
  dsimp only
  rw [htrim, if_neg h]

theorem Login.new_loginUrl (config : Config) : Login.new config.loginUrl = ⟨config.loginUrl⟩ :=
  congrArg Login.mk (trimEndSlashes_endpointUrl config.loginEndpoint)

namespace Session

/-- The session of a configuration with a token. -/
def opened (config : Config) (authorization : String) : Session where
  config := config
  login := ⟨config.loginUrl⟩
  endpoint := ⟨config.authUrl, authorization, "", ∅⟩
  clientToken := authorization

/-- The request that a session is opened with. -/
def opening (config : Config) : Except Fault Net.Request :=
  ((Login.mk config.loginUrl).tokenUrl "").map fun url =>
    Login.tokenRequest url config.clientId config.clientSecret

variable {config : Config}

/-- All managers use the address and the token that the session is opened with. -/
theorem endpoint_opened {α : Type} (authorization : String) (call : ManagerCall α) :
    (call.endpoint (opened config authorization)).baseUrl = config.authUrl ∧
      (call.endpoint (opened config authorization)).token = authorization := by
  obtain ⟨hbase, htoken⟩ := call.endpoint_shared (opened config authorization)
  rw [hbase, htoken]
  simp only [opened, and_self]

/-- Once the endpoint is there, only the request for a token decides. -/
theorem runOn_openWith (hcert : config.caCert = none) (hauth : config.authUrl ≠ "")
    (c : Connection) :
    (openWith config).runOn c
      = c.single (opening config) fun o => (Login.verdict o).map (opened config) := by
  have hchecked : (Op.ofExcept (checkCertificates config)).runOn c = (.ok (), c) := by
    rw [Op.runOn_ofExcept, checkCertificates, hcert]
    rfl
  unfold openWith
  dsimp only
  rw [if_neg hauth]
  rw [Op.runOn_bind_of_ok hchecked, Login.new_loginUrl]
  refine Op.runOn_bind_of_single (Login.runOn_clientToken _ _ _ _ c) fun authorization c' => ?_
  rw [Endpoint.new_authUrl hauth]
  rfl

/-- A session comes of an answer that gives a token, and of no other. -/
theorem opened_iff {o : Net.Outcome} {s : Session} :
    (Login.verdict o).map (opened config) = .ok s ↔
      ∃ authorization, o.GivesToken authorization ∧ s = opened config authorization := by
  simp_rw [← Login.verdict_eq_ok_iff]
  rcases Login.verdict o with why | authorization
  · simp [Except.map]
  · simp [Except.map, eq_comm]

theorem runOn_openWith_of_no_authUrl (h : config.authUrl = "") (c : Connection) :
    (openWith config).runOn c = (.error (.config .noAuthEndpoint), c) := by
  unfold openWith
  dsimp only
  rw [if_pos h]
  exact Op.runOn_bind_of_error (Op.runOn_throw _ c)

end Session

/-- Without certificates of its own, a configuration with a missing endpoint or a login endpoint
that is no address opens no session, and nothing is sent. Any other one is opened with exactly one
request for a token, to the address of the login server and in the name of the client. If the answer
gives a token there is a session, all of whose managers use it at the endpoint that is administered;
else there is no token to go on with. -/
theorem session_opening {config : Config} (hcert : config.caCert = none) (c : Connection) :
    let run := (Session.openWith config).runOn c
    (config.authUrl = "" → run = (.error (.config .noAuthEndpoint), c)) ∧
    (config.authUrl ≠ "" → config.loginUrl = "" →
      run = (.error (.config .noLoginEndpoint), c)) ∧
    (∀ why, config.authUrl ≠ "" → config.loginUrl ≠ "" →
      Url.parse config.loginUrl = .error why →
        run = (.error (.config (.badLoginEndpoint config.loginUrl why)), c)) ∧
    (∀ u, config.authUrl ≠ "" → config.loginUrl ≠ "" → Url.parse config.loginUrl = .ok u →
      ∃ x, x.request.method = .post ∧
        x.request.url = Text.trimEndSlashes u.print ++ "/oauth/token" ∧
        Login.BearsCredentials config.clientId config.clientSecret x.request.headers ∧
        x.request.content
          = .form [("grant_type", "client_credentials"), ("response_type", "token")] ∧
        Advanced c [x] run.2 ∧
        (∀ s, run.1 = .ok s ↔ ∃ authorization, x.outcome.GivesToken authorization ∧
          s = Session.opened config authorization) ∧
        ∀ f, run.1 = .error f → ∃ why, f = .authentication why) ∧
    (∀ authorization, config.authUrl ≠ "" →
      Endpoint.new config.authUrl authorization = .ok (Session.opened config authorization).endpoint
      ∧ ∀ (α : Type) (call : ManagerCall α),
        (call.endpoint (Session.opened config authorization)).baseUrl = config.authUrl ∧
        (call.endpoint (Session.opened config authorization)).token = authorization) := by
  intro run
  refine ⟨fun hauth => Session.runOn_openWith_of_no_authUrl hauth c, ?noLogin, ?badLogin, ?asked,
    fun authorization hauth => ⟨Endpoint.new_authUrl hauth authorization,
      fun α call => Session.endpoint_opened authorization call⟩⟩
  case noLogin =>
    intro hauth hlogin
    show (Session.openWith config).runOn c = _
    rw [Session.runOn_openWith hcert hauth, Session.opening, Login.tokenUrl_empty, if_pos hlogin]
    rfl
  case badLogin =>
    intro why hauth hlogin hparse
    show (Session.openWith config).runOn c = _
    rw [Session.runOn_openWith hcert hauth, Session.opening, Login.tokenUrl_empty, if_neg hlogin]
    dsimp only
    rw [hparse]
    rfl
  case asked =>
    intro u hauth hlogin hparse
    let url := Text.trimEndSlashes u.print ++ "/oauth/token"
    let r := Login.tokenRequest url config.clientId config.clientSecret
    -- From here on there is an address, and all depends on the answer.
    have hopening : Session.opening config = .ok r := by
      rw [Session.opening, Login.tokenUrl_empty, if_neg hlogin]
      dsimp only
      rw [hparse]
      rfl
    have hrun : run = c.single (.ok r) fun o => (Login.verdict o).map (Session.opened config) := by
      rw [← hopening]
      exact Session.runOn_openWith hcert hauth c
    rw [hrun]
    refine ⟨⟨r, (c.network.exchange r).1⟩, rfl, rfl, Login.bearsCredentials _ _ _, rfl,
      Users.advanced_exchange c r, fun s => Session.opened_iff, fun f hf => ?_⟩
    dsimp only [Connection.single] at hf
    rcases hverdict : Login.verdict (c.network.exchange r).1 with why | authorization
    · rw [hverdict] at hf
      obtain rfl := Except.error.inj hf
      exact Login.verdict_eq_error hverdict
    · rw [hverdict] at hf
      exact absurd hf (by simp [Except.map])

/-- The session of this client takes one exchange, with its login server. -/
theorem session_opening_resetting :
    resetting.caCert = none ∧ ∃ s x authorization,
      ((Session.openWith resetting).runOn granting).1 = .ok s ∧ x.request.method = .post ∧
      x.request.url = "http://login/oauth/token" ∧
      ((Session.openWith resetting).runOn granting).2.network.log = [x] ∧
      x.outcome.GivesToken authorization ∧ s = Session.opened resetting authorization := by
  have hok : ((Session.openWith resetting).runOn granting).1.isOk = true := by decide +kernel
  have hparse : (Url.parse resetting.loginUrl).toOption.map (Text.trimEndSlashes ·.print)
      = some "http://login" := by decide +kernel
  have hcert : resetting.caCert = none := rfl
  obtain ⟨-, -, -, hasked, -⟩ := session_opening hcert granting
  rcases hu : Url.parse resetting.loginUrl with why | u
  · rw [hu] at hparse
    cases hparse
  obtain ⟨x, hpost, hurl, -, -, hadv, hsession, -⟩ :=
    hasked u (by decide +kernel) (by decide +kernel) hu
  have hprint : Text.trimEndSlashes u.print = "http://login" := by
    rw [hu] at hparse
    exact Option.some.inj hparse
  rw [hprint] at hurl
  rcases hrun : ((Session.openWith resetting).runOn granting).1 with f | s
  · rw [hrun] at hok
    exact absurd hok (by simp [Except.isOk, Except.toBool])
  · obtain ⟨authorization, hgives, rfl⟩ := (hsession s).mp hrun
    exact ⟨rfl, _, x, authorization, rfl, hpost, hurl, hadv.log, hgives, rfl⟩

end UaaAdmin
