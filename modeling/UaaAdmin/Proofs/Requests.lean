import UaaAdmin.Proofs.NameMaps
import UaaAdmin.Proofs.Running

/-!
# Requests

What one request of an endpoint does (`Connection.single`). Either it cannot be made, because a
header is bad, and nothing happens; or exactly one exchange is had, and its outcome alone decides
the result (`Net.Outcome.reply`, `Net.Outcome.value`). No request touches the group cache.

`Op.Makes P` says that all exchanges of an operation, whatever its result, satisfy `P`. It holds of
an operation in steps if it holds of every step.
-/

namespace UaaAdmin

variable {α β M : Type}

/-! ## What comes of a request -/

namespace Net

/-- The answer of an exchange, if there is one and it reports success. -/
def Outcome.reply : Outcome → Except Fault Reply
  | .answered reply => if reply.isSuccess then .ok reply else .error (.ofReply reply)
  | _ => .error .transport

/-- The value that an exchange gives. -/
def Outcome.value [JsonForm α] (o : Outcome) : Except Fault α :=
  o.reply.bind fun reply =>
    match readBody? reply.content with
    | some a => .ok a
    | none => .error .decode

/-- The exchange was answered with success, and the value is in the body of the answer. -/
def Outcome.Gives [JsonForm α] (o : Outcome) (a : α) : Prop :=
  ∃ reply, o = .answered reply ∧ reply.isSuccess = true ∧ readBody? reply.content = some a

theorem Outcome.value_eq_ok_iff [JsonForm α] {o : Outcome} {a : α} :
    o.value = .ok a ↔ o.Gives a := by
  constructor
  · intro h
    rcases o with _ | _ | reply
    · exact absurd h (by simp [value, Outcome.reply, Except.bind])
    · exact absurd h (by simp [value, Outcome.reply, Except.bind])
    · refine ⟨reply, rfl, ?_⟩
      by_cases hs : reply.isSuccess = true
      · refine ⟨hs, ?_⟩
        simp only [value, Outcome.reply, if_pos hs, Except.bind] at h
        rcases hb : readBody? reply.content with _ | b
        · rw [hb] at h
          exact absurd h (by simp)
        · rw [hb] at h
          rw [Except.ok.inj h]
      · exact absurd h (by simp [value, Outcome.reply, hs, Except.bind])
  · rintro ⟨reply, rfl, hs, hb⟩
    simp only [value, Outcome.reply, if_pos hs, Except.bind, hb]

/-- An exchange gives one value at most. -/
theorem Outcome.Gives.unique [JsonForm α] {o : Outcome} {a b : α} (ha : o.Gives a)
    (hb : o.Gives b) : a = b :=
  Except.ok.inj ((value_eq_ok_iff.mpr ha).symm.trans (value_eq_ok_iff.mpr hb))

/-- The header that says what a request carries, where no other one does. -/
def Content.header? : Content → String → Option String
  | .json _, k => if k = "content-type" then some "application/json" else none
  | _, _ => none

/-- What a request comes to apart from its headers: its method, its address and its content. -/
def Request.message (r : Request) : Method × String × Content := (r.method, r.url, r.content)

/-- The network after some requests. -/
def Network.after (n : Network) (rs : List Request) : Network :=
  rs.foldl (fun n r => (n.exchange r).2) n

end Net

/-- What one request gives on a connection: the fault that keeps it from being made, or what `read`
makes of the outcome of its one exchange. -/
def Connection.single (c : Connection) (request : Except Fault Net.Request)
    (read : Net.Outcome → Except Fault α) : Except Fault α × Connection :=
  match request with
  | .ok r => (read (c.network.exchange r).1, { c with network := (c.network.exchange r).2 })
  | .error f => (.error f, c)

/-- No request touches the group cache. -/
@[simp] theorem Connection.groups_single (c : Connection) (request : Except Fault Net.Request)
    (read : Net.Outcome → Except Fault α) : (c.single request read).2.groups = c.groups := by
  cases request <;> rfl

/-- What is made of a result without a further request is made of what the request ends with. -/
theorem Op.runOn_bind_of_single {op : Op α} {c : Connection} {request : Except Fault Net.Request}
    {read : Net.Outcome → Except Fault α} (h : op.runOn c = c.single request read)
    {f : α → Op β} {take : α → Except Fault β} (hf : ∀ a c, (f a).runOn c = (take a, c)) :
    (op >>= f).runOn c = c.single request fun o => (read o).bind take := by
  rw [runOn_bind, h]
  rcases request with f | r
  · rfl
  · dsimp only [Connection.single]
    rcases read (c.network.exchange r).1 with f | a
    · rfl
    · exact hf a _

/-- A result that is not used leaves only how the request ends. -/
theorem Op.runOn_bind_single {op : Op α} {c : Connection} {request : Except Fault Net.Request}
    {read : Net.Outcome → Except Fault α} (h : op.runOn c = c.single request read) (b : β) :
    (op >>= fun _ => pure b).runOn c = c.single request fun o => (read o).map fun _ => b := by
  have hpure (_ : α) (c : Connection) : (pure b : Op β).runOn c = (.ok b, c) := rfl
  rw [runOn_bind_of_single h hpure]
  rfl

namespace Endpoint

/-- Sending is one request, whose answer is given if it reports success. -/
theorem runOn_send (e : Endpoint) (m : Net.Method) (path : String) (content : Net.Content)
    (c : Connection) :
    (e.send m path content).runOn c = c.single (e.request m path content) Net.Outcome.reply := by
  unfold send Connection.single
  rcases e.request m path content with f | r
  · exact Op.runOn_bind_of_error (Op.runOn_ofExcept _ c)
  · rw [Op.runOn_bind_of_ok (Op.runOn_ofExcept _ c), Op.runOn_bind_of_ok (Op.runOn_exchange r c)]
    dsimp only
    rcases (c.network.exchange r).1 with _ | _ | reply
    · rfl
    · rfl
    · by_cases hs : reply.isSuccess <;> simp [Net.Outcome.reply, hs]

/-- Asking is one request, whose answer is read. -/
theorem runOn_ask [JsonForm α] (e : Endpoint) (m : Net.Method) (path : String)
    (content : Net.Content) (c : Connection) :
    (e.ask m path content : Op α).runOn c
      = c.single (e.request m path content) Net.Outcome.value := by
  unfold ask
  rw [Op.runOn_bind, runOn_send]
  rcases e.request m path content with f | r
  · rfl
  · unfold Net.Outcome.value
    dsimp only [Connection.single]
    rcases (c.network.exchange r).1.reply with f | reply
    · rfl
    · dsimp only [Except.bind]
      rcases readBody? reply.content with _ | a <;> rfl

/-- What is asked for does not touch the cache. -/
theorem groups_of_ask [JsonForm α] {e : Endpoint} {m : Net.Method} {path : String}
    {content : Net.Content} {c c' : Connection} {r : Except Fault α}
    (h : (e.ask m path content : Op α).runOn c = (r, c')) : c'.groups = c.groups := by
  rw [runOn_ask] at h
  have hgroups := Connection.groups_single c (e.request m path content) (Net.Outcome.value (α := α))
  rwa [h] at hgroups

/-- Deleting is one request, whose answer is not read. -/
theorem runOn_delete (e : Endpoint) (path : String) (c : Connection) :
    (e.delete path).runOn c
      = c.single (e.request .delete path .empty) fun o => o.reply.map fun _ => () :=
  Op.runOn_bind_single (runOn_send e .delete path .empty c) ()

/-! ## What is asked for -/

/-- A request that can be made has the method, the address and the content that it is to have. -/
theorem request_eq_ok {e : Endpoint} {m : Net.Method} {path : String} {content : Net.Content}
    {r : Net.Request} (h : e.request m path content = .ok r) :
    r.method = m ∧ r.url = e.urlOf path ∧ r.content = content := by
  unfold request at h
  rcases he : e.requestHeaders with f | headers
  · rw [he] at h
    exact absurd h (by rintro ⟨⟩)
  · rw [he] at h
    obtain rfl := Except.ok.inj h
    exact ⟨rfl, rfl, rfl⟩

/-- The address of the endpoint is all that the addresses of paths depend on. -/
theorem urlOf_congr {e e' : Endpoint} (h : e.baseUrl = e'.baseUrl) (path : String) :
    e.urlOf path = e'.urlOf path := by
  rw [urlOf, urlOf, h]

/-- The message that carries something to a path of the endpoint with a method. -/
def message (e : Endpoint) (sent : Net.Method × String × Net.Content) :
    Net.Method × String × Net.Content :=
  (sent.1, e.urlOf sent.2.1, sent.2.2)

/-- A request that can be made is the message to its path. -/
theorem message_of_request {e : Endpoint} {m : Net.Method} {path : String}
    {content : Net.Content} {r : Net.Request} (h : e.request m path content = .ok r) :
    r.message = e.message (m, path, content) := by
  obtain ⟨hmethod, hurl, hcontent⟩ := request_eq_ok h
  exact Prod.ext hmethod (Prod.ext hurl hcontent)

/-- The further headers of an endpoint count over its token and its zone. -/
theorem requestHeaders_eq_ok {e : Endpoint} {headers : NameMap String}
    (h : e.requestHeaders = .ok headers) (k : String) :
    headers.get? k = (e.headers.get? k).or
      ((NameMap.ofList
        [(Net.Header.authorization.key, e.token), (Net.Header.zoneId.key, e.zone)]).get? k) := by
  unfold requestHeaders at h
  rcases ht : Net.Header.checkValue Net.Header.authorization.name e.token with f | _
  · rw [ht] at h
    exact absurd h (by rintro ⟨⟩)
  rw [ht] at h
  rcases hz : Net.Header.checkValue Net.Header.zoneId.name e.zone with f | _
  · rw [hz] at h
    exact absurd h (by rintro ⟨⟩)
  rw [hz] at h
  rcases hc : Net.Header.checkAll e.headers.entries with f | _
  · rw [hc] at h
    exact absurd h (by rintro ⟨⟩)
  rw [hc] at h
  obtain rfl := Except.ok.inj h
  exact NameMap.get?_insertMany_entries _ _ k

/-- A request that is made has the headers of the endpoint, and is marked with what it carries. -/
theorem get?_of_request {e : Endpoint} {m : Net.Method} {path : String} {content : Net.Content}
    {r : Net.Request} (h : e.request m path content = .ok r) :
    ∃ headers, e.requestHeaders = .ok headers ∧
      ∀ k, r.headers.get? k = (headers.get? k).or (content.header? k) := by
  unfold request at h
  rcases he : e.requestHeaders with f | headers
  · rw [he] at h
    exact absurd h (by rintro ⟨⟩)
  rw [he] at h
  obtain rfl := Except.ok.inj h
  refine ⟨headers, rfl, fun k => ?_⟩
  cases content with
  | json v =>
    show NameMap.get? (if headers.contains "content-type" then headers
      else headers.insert "content-type" "application/json") k
        = (headers.get? k).or (if k = "content-type" then some "application/json" else none)
    by_cases hk : k = "content-type"
    · subst hk
      unfold NameMap.contains
      rcases hc : headers.get? "content-type" with _ | v <;> simp [hc]
    · rw [if_neg hk, Option.or_none]
      split
      · rfl
      · rw [NameMap.get?_insert, if_neg hk]
  | empty => exact Option.or_none.symm
  | form fields => exact Option.or_none.symm

/-- A request goes to the zone of the endpoint, unless a further header names another one. -/
theorem zone_of_request {e : Endpoint} {m : Net.Method} {path : String} {content : Net.Content}
    {r : Net.Request} (h : e.request m path content = .ok r) :
    r.headers.get? Net.Header.zoneId.key
      = some ((e.headers.get? Net.Header.zoneId.key).getD e.zone) := by
  obtain ⟨headers, he, hget⟩ := get?_of_request h
  rw [hget, requestHeaders_eq_ok he, NameMap.get?_ofList]
  cases e.headers.get? Net.Header.zoneId.key <;> rfl

end Endpoint

/-! ## Operations by what they ask for -/

namespace Op

/-- All exchanges that the operation makes satisfy `P`, and no earlier one is forgotten. -/
def Makes (P : Net.Exchange → Prop) (op : Op α) : Prop :=
  ∀ c, ∃ xs, (op.runOn c).2.network.log = c.network.log ++ xs ∧ ∀ x ∈ xs, P x

variable {P : Net.Exchange → Prop}

theorem makes_of_log_eq {op : Op α}
    (h : ∀ c, (op.runOn c).2.network.log = c.network.log) : op.Makes P :=
  fun c => ⟨[], by rw [h, List.append_nil], by simp⟩

theorem Makes.bind {op : Op α} {f : α → Op β} (hop : op.Makes P) (hf : ∀ a, (f a).Makes P) :
    (op >>= f).Makes P := by
  intro c
  obtain ⟨xs, hlog, hxs⟩ := hop c
  rcases hr : op.runOn c with ⟨r, c₁⟩
  rw [hr] at hlog
  cases r with
  | error e =>
    rw [runOn_bind_of_error hr]
    exact ⟨xs, hlog, hxs⟩
  | ok a =>
    rw [runOn_bind_of_ok hr]
    obtain ⟨ys, hlog', hys⟩ := hf a c₁
    refine ⟨xs ++ ys, ?_, ?_⟩
    · rw [hlog', hlog, List.append_assoc]
    · intro x hx
      rcases List.mem_append.mp hx with hx | hx
      · exact hxs x hx
      · exact hys x hx

theorem Makes.mono {Q : Net.Exchange → Prop} {op : Op α} (h : op.Makes P)
    (hpq : ∀ x, P x → Q x) : op.Makes Q := by
  intro c
  obtain ⟨xs, hlog, hxs⟩ := h c
  exact ⟨xs, hlog, fun x hx => hpq x (hxs x hx)⟩

/-- An operation that is one request has at most the exchange for it. -/
theorem makes_single {op : Op α} {request : Except Fault Net.Request}
    {read : Net.Outcome → Except Fault α} (hop : ∀ c, op.runOn c = c.single request read)
    (h : ∀ x : Net.Exchange, request = .ok x.request → P x) : op.Makes P := by
  intro c
  rw [hop]
  unfold Connection.single
  rcases hr : request with f | r
  · exact ⟨[], (List.append_nil _).symm, by simp⟩
  · refine ⟨[⟨r, (c.network.exchange r).1⟩], Net.Network.exchange_log _ _, ?_⟩
    intro x hx
    rw [List.mem_singleton] at hx
    subst hx
    exact h _ hr

theorem makes_ask [JsonForm α] {e : Endpoint} {m : Net.Method} {path : String}
    {content : Net.Content}
    (h : ∀ x : Net.Exchange, e.request m path content = .ok x.request → P x) :
    (e.ask m path content : Op α).Makes P :=
  makes_single (Endpoint.runOn_ask e m path content) h

theorem makes_delete {e : Endpoint} {path : String}
    (h : ∀ x : Net.Exchange, e.request .delete path .empty = .ok x.request → P x) :
    (e.delete path).Makes P :=
  makes_single (Endpoint.runOn_delete e path) h

theorem makes_pure (a : α) : (pure a : Op α).Makes P := makes_of_log_eq fun _ => rfl

theorem makes_throw (f : Fault) : (throw f : Op α).Makes P := makes_of_log_eq fun _ => rfl

theorem makes_ofExcept (r : Except Fault α) : (ofExcept r).Makes P :=
  makes_of_log_eq fun c => by rw [runOn_ofExcept]

/-- What is done about a fault comes after the exchanges that led to it. -/
theorem Makes.tryCatch {op : Op α} {g : Fault → Op α} (hop : op.Makes P)
    (hg : ∀ f, (g f).Makes P) : (tryCatch op g).Makes P := by
  intro c
  obtain ⟨xs, hlog, hxs⟩ := hop c
  rw [runOn_tryCatch]
  rcases hr : op.runOn c with ⟨f | a, c₁⟩
  · rw [hr] at hlog
    obtain ⟨ys, hlog', hys⟩ := hg f c₁
    refine ⟨xs ++ ys, ?_, ?_⟩
    · rw [hlog', hlog, List.append_assoc]
    · intro x hx
      rcases List.mem_append.mp hx with hx | hx
      · exact hxs x hx
      · exact hys x hx
  · rw [hr] at hlog
    exact ⟨xs, hlog, hxs⟩

end Op

end UaaAdmin
