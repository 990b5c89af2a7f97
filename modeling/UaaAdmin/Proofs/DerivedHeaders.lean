import UaaAdmin.Proofs.Exchanges
import UaaAdmin.Proofs.LastOfEach

/-!
# Headers of derived endpoints

An endpoint can be derived from another one in steps that each name a zone or lay headers over those
that there are. Of all these steps a request shows only the last zone (`Derivation.lastZone`) and,
for every name, the value of the last header of that name, in whatever case it was written
(`Net.Header.lastValue?`).

The payoff is `derived_endpoint_headers`: what `Composed` says comes of the headers, bad ones
included; nothing is sent if one of them is bad; and how the steps may be rearranged.
-/

namespace UaaAdmin

/-! ## The first bad header -/

namespace Net.Header

/-- Name and value of a header are as they may be. -/
def IsGood (name value : String) : Prop := isName name = true ∧ isValue value = true

instance (name value : String) : Decidable (IsGood name value) :=
  inferInstanceAs (Decidable (_ ∧ _))

/-- What is wrong with a bad header, its name first. -/
def fault (name : String) : ConfigFault :=
  if isName name = true then .badHeaderValue name else .badHeaderName name

theorem check_eq (name value : String) :
    check name value = if IsGood name value then .ok () else .error (.config (fault name)) := by
  unfold check checkValue IsGood fault
  by_cases hname : isName name = true
  · simp only [hname, if_true, true_and]
  · simp only [hname, Bool.false_eq_true, if_false, false_and]

/-- Of several headers the first bad one is reported. -/
theorem checkAll_eq (hs : List (String × String)) :
    checkAll hs = match hs.find? fun h => decide ¬IsGood h.1 h.2 with
      | some h => .error (.config (fault h.1))
      | none => .ok () := by
  induction hs with
  | nil => rfl
  | cons h hs ih =>
    unfold checkAll
    rw [check_eq]
    by_cases hgood : IsGood h.1 h.2
    · rw [if_pos hgood, List.find?_cons_of_neg (by simpa using hgood)]
      exact ih
    · rw [if_neg hgood, List.find?_cons_of_pos (by simpa using hgood)]
      rfl

/-- The value of the last of some headers that have a name, written in any case. -/
def lastValue? (hs : List (String × String)) (name : String) : Option String :=
  (hs.reverse.find? fun h => Text.asciiLower h.1 = name).map (·.2)

theorem lastValue?_append (hs hs' : List (String × String)) (name : String) :
    lastValue? (hs ++ hs') name = (lastValue? hs' name).or (lastValue? hs name) := by
  unfold lastValue?
  rw [List.reverse_append, List.find?_append, Option.map_or]

theorem lastValue?_single (a v name : String) :
    lastValue? [(a, v)] name = if Text.asciiLower a = name then some v else none := by
  unfold lastValue?
  rw [List.reverse_singleton, List.find?_singleton]
  by_cases h : Text.asciiLower a = name <;> simp [h]

end Net.Header

open Net.Header (IsGood isName isValue lastValue?)

/-! ## Steps -/

/-- A step by which an endpoint is derived from another one. -/
inductive Derivation where
  | zone (zone : String)
  | headers (headers : List (String × String))

namespace Derivation

/-- The endpoint that the step gives. -/
def apply (e : Endpoint) : Derivation → Endpoint
  | zone z => e.withZone z
  | headers hs => e.withHeaders hs

/-- The zone that the step names. -/
def zone? : Derivation → Option String
  | zone z => some z
  | headers _ => none

/-- The headers that the step lays over those before. -/
def added : Derivation → List (String × String)
  | zone _ => []
  | headers hs => hs

/-- The last zone that is named, which is empty if none is. -/
def lastZone (steps : List Derivation) : String :=
  (steps.reverse.findSome? zone?).getD ""

/-- All headers that are added, in their order. -/
def allAdded (steps : List Derivation) : List (String × String) :=
  steps.flatMap added

end Derivation

namespace Endpoint

open UaaAdmin.Derivation (lastZone allAdded)

/-- The endpoint that is derived in some steps. -/
def derive (e : Endpoint) (steps : List Derivation) : Endpoint :=
  steps.foldl Derivation.apply e

theorem get?_withHeaders (e : Endpoint) (hs : List (String × String)) (name : String) :
    (e.withHeaders hs).headers.get? name = (lastValue? hs name).or (e.headers.get? name) := by
  show (e.headers.insertMany _).get? name = _
  rw [NameMap.get?_insertMany, ← List.map_reverse, NameMap.lookup_map]
  rfl

/-- What one step does to what a request shows. -/
theorem apply_step (e : Endpoint) (step : Derivation) :
    (step.apply e).baseUrl = e.baseUrl ∧ (step.apply e).token = e.token ∧
    (step.apply e).zone = step.zone?.getD e.zone ∧
    ∀ name, (step.apply e).headers.get? name
      = (lastValue? step.added name).or (e.headers.get? name) := by
  cases step with
  | zone z => exact ⟨rfl, rfl, rfl, fun name => rfl⟩
  | headers hs => exact ⟨rfl, rfl, rfl, get?_withHeaders e hs⟩

/-- What any number of steps do: the last zone and the last value of every name count. -/
theorem derive_steps (e : Endpoint) (steps : List Derivation) :
    (e.derive steps).baseUrl = e.baseUrl ∧ (e.derive steps).token = e.token ∧
    (e.derive steps).zone = (steps.reverse.findSome? Derivation.zone?).getD e.zone ∧
    ∀ name, (e.derive steps).headers.get? name
      = (lastValue? (allAdded steps) name).or (e.headers.get? name) := by
  induction steps generalizing e with
  | nil => exact ⟨rfl, rfl, rfl, fun _ => rfl⟩
  | cons step steps ih =>
    obtain ⟨hbase, htoken, hzone, hvalue⟩ := apply_step e step
    obtain ⟨hbase', htoken', hzone', hvalue'⟩ := ih (step.apply e)
    refine ⟨hbase'.trans hbase, htoken'.trans htoken, hzone'.trans ?_,
      fun name => (hvalue' name).trans ?_⟩
    · -- The first step counts only if none of the later ones names a zone.
      rw [hzone, List.reverse_cons, List.findSome?_append]
      rcases steps.reverse.findSome? Derivation.zone? with _ | z
      · rcases step with z | hs <;> rfl
      · rfl
    · rw [hvalue, ← Option.or_assoc, ← Net.Header.lastValue?_append]
      rfl

/-- Endpoints are the same if they have the same parts, the headers by their names. -/
theorem ext_headers {e e' : Endpoint} (hbase : e.baseUrl = e'.baseUrl) (htoken : e.token = e'.token)
    (hzone : e.zone = e'.zone) (hheaders : ∀ name, e.headers.get? name = e'.headers.get? name) :
    e = e' := by
  have hmap : e.headers = e'.headers := NameMap.ext hheaders
  cases e
  cases e'
  simp only [mk.injEq]
  exact ⟨hbase, htoken, hzone, hmap⟩

theorem withHeaders_append (e : Endpoint) (hs hs' : List (String × String)) :
    (e.withHeaders hs).withHeaders hs' = e.withHeaders (hs ++ hs') := by
  refine ext_headers rfl rfl rfl fun name => ?_
  rw [get?_withHeaders, get?_withHeaders, get?_withHeaders, Net.Header.lastValue?_append,
    Option.or_assoc]

/-- Headers that say the same of every name, in whatever order and case, give the same endpoint. -/
theorem withHeaders_congr (e : Endpoint) {hs hs' : List (String × String)}
    (h : ∀ name, lastValue? hs name = lastValue? hs' name) :
    e.withHeaders hs = e.withHeaders hs' := by
  refine ext_headers rfl rfl rfl fun name => ?_
  rw [get?_withHeaders, get?_withHeaders, h]

/-! ## What comes of the headers -/

/-- The headers of every request: the token, and the zone that it goes to. -/
def ownHeader? (token zone name : String) : Option String :=
  if name = "authorization" then some token
  else if name = "x-identity-zone-id" then some zone
  else none

/-- What comes of the headers of a request with a token, a zone, and further values by names: the
token is checked first, then the zone, then the further headers in the order of their names, each
name before its value. The first that is bad is reported, and else the further headers lie over the
two others. -/
inductive Composed (token zone : String) (value? : String → Option String) :
    Except Fault (NameMap String) → Prop
  | badToken (htoken : isValue token = false) :
    Composed token zone value? (.error (.config (.badHeaderValue "Authorization")))
  | badZone (htoken : isValue token = true) (hzone : isValue zone = false) :
    Composed token zone value? (.error (.config (.badHeaderValue "X-Identity-Zone-Id")))
  | badHeader {name value} (htoken : isValue token = true) (hzone : isValue zone = true)
    (h : value? name = some value) (hbad : ¬IsGood name value)
    (hleast : ∀ n v, value? n = some v → n < name → IsGood n v) :
    Composed token zone value? (.error (.config (Net.Header.fault name)))
  | all {headers} (htoken : isValue token = true) (hzone : isValue zone = true)
    (hgood : ∀ n v, value? n = some v → IsGood n v)
    (h : ∀ n, headers.get? n = (value? n).or (ownHeader? token zone n)) :
    Composed token zone value? (.ok headers)

theorem get?_own (token zone name : String) :
    (NameMap.ofList
        [(Net.Header.authorization.key, token), (Net.Header.zoneId.key, zone)]).get? name
      = ownHeader? token zone name := by
  rw [NameMap.get?_ofList]
  show List.lookup name [("x-identity-zone-id", zone), ("authorization", token)] = _
  rw [NameMap.lookup_cons_eq_ite, NameMap.lookup_cons_eq_ite, List.lookup_nil]
  unfold ownHeader?
  by_cases hauth : name = "authorization"
  · subst hauth
    rfl
  · rw [if_neg hauth, if_neg hauth]

/-- What an endpoint makes of its headers. -/
theorem composed_requestHeaders (e : Endpoint) :
    Composed e.token e.zone e.headers.get? e.requestHeaders := by
  unfold requestHeaders Net.Header.checkValue
  by_cases htoken : isValue e.token = true
  · rw [if_pos htoken]
    by_cases hzone : isValue e.zone = true
    · rw [if_pos hzone, Net.Header.checkAll_eq]
      rcases hfind : e.headers.entries.find? fun h => decide ¬IsGood h.1 h.2 with _ | ⟨name, value⟩
      · rw [hfind]
        refine .all htoken hzone (fun n v hv => ?_) fun n => ?_
        · have hmem := NameMap.get?_eq_some_iff.mp hv
          simpa using List.find?_eq_none.mp hfind _ hmem
        · rw [NameMap.get?_insertMany_entries, get?_own]
      · -- Entries stand in the order of their names, so the first bad one has the least name.
        rw [hfind]
        obtain ⟨hvalue, hbad, hleast⟩ := NameMap.first_of_find? hfind
        refine .badHeader htoken hzone hvalue (by simpa using hbad) fun n v hv hlt => ?_
        simpa using hleast n v hv hlt
    · rw [if_neg hzone]
      exact .badZone htoken (eq_false_of_ne_true hzone)
  · rw [if_neg htoken]
    exact .badToken (eq_false_of_ne_true htoken)

/-- A new endpoint is in no zone and has no further headers. -/
theorem new_eq_ok {base token : String} {e : Endpoint} (h : new base token = .ok e) :
    e.token = token ∧ e.zone = "" ∧ e.headers = ∅ := by
  unfold new at h
  dsimp only at h
  split at h
  · exact absurd h (by simp)
  · obtain rfl := Except.ok.inj h
    exact ⟨rfl, rfl, rfl⟩

/-- A request with bad headers is not made. -/
theorem request_of_bad {e : Endpoint} {f : Fault} (h : e.requestHeaders = .error f)
    (m : Net.Method) (path : String) (content : Net.Content) :
    e.request m path content = .error f := by
  unfold request
  rw [h]
  rfl

/-- A request with good headers is made. -/
theorem request_of_good {e : Endpoint} {headers : NameMap String}
    (h : e.requestHeaders = .ok headers) (m : Net.Method) (path : String)
    (content : Net.Content) :
    ∃ r, e.request m path content = .ok r ∧
      ∀ name, r.headers.get? name = (headers.get? name).or (content.header? name) := by
  rcases hr : e.request m path content with f | r
  · unfold request at hr
    rw [h] at hr
    exact absurd hr (by rintro ⟨⟩)
  · obtain ⟨headers', h', hget⟩ := get?_of_request hr
    obtain rfl := Except.ok.inj (h.symm.trans h')
    exact ⟨r, rfl, hget⟩

/-- An endpoint that is derived from a new one in any steps composes its headers from the token, the
last zone, and the last value of every name, written in any case. If one of them is bad nothing is
sent; else one request is, with these headers and the mark of what it carries. The steps come to one
zone and then one list of headers: zones and headers may be named in either order, headers in one
list or in two, and their names in any case. -/
theorem derived_endpoint_headers {base token : String} {e₀ : Endpoint}
    (h : new base token = .ok e₀) (steps : List Derivation) :
    let e := e₀.derive steps
    Composed token (lastZone steps) (lastValue? (allAdded steps)) e.requestHeaders ∧
    (∀ m path content c, match e.requestHeaders with
      | .error f => (e.send m path content).runOn c = (.error f, c)
      | .ok headers => ∃ x, Users.Advanced c [x] ((e.send m path content).runOn c).2 ∧
          e.request m path content = .ok x.request ∧
          ∀ name, x.request.headers.get? name = (headers.get? name).or (content.header? name)) ∧
    e = (e₀.withZone (lastZone steps)).withHeaders (allAdded steps) ∧
    (∀ zone hs, (e.withZone zone).withHeaders hs = (e.withHeaders hs).withZone zone) ∧
    (∀ hs hs', (e.withHeaders hs).withHeaders hs' = e.withHeaders (hs ++ hs')) ∧
    ∀ a b, Text.asciiLower a = Text.asciiLower b → ∀ v w,
      e.withHeaders [(a, v)] = e.withHeaders [(b, v)] ∧
      e.withHeaders [(a, v), (b, w)] = e.withHeaders [(b, w)] := by
  intro e
  obtain ⟨htoken₀, hzone₀, hheaders₀⟩ := new_eq_ok h
  obtain ⟨hbase, htoken, hzone, hvalue⟩ := derive_steps e₀ steps
  have hlast : e.zone = lastZone steps := by
    rw [hzone, hzone₀]
    rfl
  have hadded : e.headers.get? = lastValue? (allAdded steps) := by
    funext name
    rw [hvalue, hheaders₀, NameMap.get?_empty, Option.or_none]
  refine ⟨?composed, ?sent, ?normal, fun _ _ => rfl, withHeaders_append e, ?names⟩
  case composed =>
    have hcomposed := composed_requestHeaders e
    rwa [hadded, hlast, htoken, htoken₀] at hcomposed
  case sent =>
    intro m path content c
    -- Headers are checked before anything is sent.
    rcases hreq : e.requestHeaders with f | headers
    · show (e.send m path content).runOn c = (.error f, c)
      rw [runOn_send, request_of_bad hreq]
      rfl
    · obtain ⟨r, hr, hget⟩ := request_of_good hreq m path content
      refine ⟨⟨r, (c.network.exchange r).1⟩, ?_, hr, hget⟩
      rw [runOn_send, hr]
      exact Users.advanced_exchange c r
  case normal =>
    refine ext_headers hbase htoken hlast fun name => ?_
    rw [hvalue, get?_withHeaders]
    rfl
  case names =>
    intro a b hab v w
    refine ⟨withHeaders_congr e fun name => ?_, withHeaders_congr e fun name => ?_⟩
    · rw [Net.Header.lastValue?_single, Net.Header.lastValue?_single, hab]
    · rw [show [(a, v), (b, w)] = [(a, v)] ++ [(b, w)] from rfl, Net.Header.lastValue?_append,
        Net.Header.lastValue?_single, Net.Header.lastValue?_single, hab]
      split <;> rfl

/-- Steps that name a zone and write two headers twice, one of them the token. -/
def overriding : List Derivation :=
  [.headers [("X-Trace", "1"), ("Authorization", "basic u")], .zone "z",
    .headers [("x-TRACE", "2")]]

theorem derived_endpoint_headers_overriding :
    new "http://h//" "bearer t" = .ok ⟨"http://h", "bearer t", "", ∅⟩ ∧
    ∃ headers, (derive ⟨"http://h", "bearer t", "", ∅⟩ overriding).requestHeaders = .ok headers ∧
      headers.get? "authorization" = some "basic u" ∧
      headers.get? "x-identity-zone-id" = some "z" ∧ headers.get? "x-trace" = some "2" := by
  have hnew : new "http://h//" "bearer t" = .ok ⟨"http://h", "bearer t", "", ∅⟩ := by decide +kernel
  refine ⟨hnew, ?_⟩
  obtain ⟨hcomposed, -⟩ := derived_endpoint_headers hnew overriding
  have hok : (derive ⟨"http://h", "bearer t", "", ∅⟩ overriding).requestHeaders.isOk = true := by
    decide +kernel
  rcases hr : (derive ⟨"http://h", "bearer t", "", ∅⟩ overriding).requestHeaders with f | headers
  · rw [hr] at hok
    exact absurd hok (by simp [Except.isOk, Except.toBool])
  · simp only [hr] at hcomposed
    cases hcomposed with
    | all _ _ _ hget =>
      refine ⟨headers, rfl, ?_, ?_, ?_⟩
      · rw [hget]
        decide +kernel
      · rw [hget]
        decide +kernel
      · rw [hget]
        decide +kernel

end Endpoint

end UaaAdmin
