import UaaAdmin.Proofs.Creation
import UaaAdmin.Proofs.SlashRuns
import UaaAdmin.Proofs.Tasks
import UaaAdmin.Proofs.UserReading

/-!
# Requests of a session

A session is used by calls: of its managers, which come to one task each, of those that have to do
with the groups of users, and of the handlers for an object. `Call.Sends` says which tasks the
exchanges of a call are for: those of its own step, with the id of its own object. `Call.sends` says
that they are, however the call ends.

That a request applies to any version shows in the request itself: it is the one that replaces the
record of a group or a user (`Call.Sends.isMarked`). No other request of the same call has its
method and address (`Task.urlOf_changePassword_ne`).

The payoff is `session_requests`: after the one request for a token, whatever calls are made one
after the other, the exchanges of each are for its own tasks, in its own zone, and bear the token.
-/

namespace UaaAdmin

open Users (Advanced CacheCall)

variable {α : Type}

/-! ## Groups of users -/

/-- The tasks that tell what groups there are in a zone. -/
inductive Task.IsForGroups (zone : String) : Task → Prop where
  | list : IsForGroups zone .listGroups
  | record : IsForGroups zone (.get .zone zone)

/-- The tasks that have to do with the groups that a user of a zone is in. -/
inductive Task.IsForRoles (zone userId : String) : Task → Prop where
  | load {task : Task} (h : task.IsForGroups zone) : IsForRoles zone userId task
  | add (groupId : String) : IsForRoles zone userId (.addMember groupId)
  | remove (groupId : String) : IsForRoles zone userId (.removeMember groupId userId)

/-- Such a task says nothing about versions, and replaces nothing. -/
theorem Task.IsForRoles.version? {zone userId : String} {task : Task}
    (h : task.IsForRoles zone userId) : task.version? = none ∧ task.method ≠ .put := by
  cases h with
  | load h =>
    cases h with
    | list => exact ⟨rfl, by simp [method]⟩
    | record => exact ⟨rfl, by simp [method]⟩
  | add groupId => exact ⟨rfl, by simp [method]⟩
  | remove groupId => exact ⟨rfl, by simp [method]⟩

/-- What a call that has to do with groups may ask for. -/
def Users.CacheCall.Allows : CacheCall → Task → Prop
  | load zone, task => task.IsForGroups zone
  | isDefault zone _, task => task.IsForGroups zone
  | updateRoles userId _ _ _ zone, task => task.IsForRoles zone userId
  | invalidate _, _ => False
  | reset, _ => False

/-- The exchange asks for one of some tasks. -/
def AsksOneOf (e : Endpoint) (token zone : String) (allowed : Task → Prop) (x : Net.Exchange) :
    Prop :=
  ∃ task, allowed task ∧ Asks e token zone task x

section

variable {s : Session} {t zone : String}

theorem Asks.oneOf {e : Endpoint} {task : Task} {allowed : Task → Prop} (h : allowed task)
    (x : Net.Exchange) (hx : Asks e t zone task x) : AsksOneOf e t zone allowed x :=
  ⟨task, h, hx⟩

/-- What asks for one of some tasks asks for one of more tasks. -/
theorem AsksOneOf.mono {e : Endpoint} {allowed allowed' : Task → Prop}
    (h : ∀ task, allowed task → allowed' task) (x : Net.Exchange)
    (hx : AsksOneOf e t zone allowed x) : AsksOneOf e t zone allowed' x := by
  obtain ⟨task, htask, hasks⟩ := hx
  exact ⟨task, h task htask, hasks⟩

/-- A load asks for the groups and for the record of the zone. -/
theorem loadGroups_asks (hs : s.Bears t) (zone : String) :
    (Users.loadGroups s.users zone).Makes
      (AsksOneOf s.endpoint t zone (Task.IsForGroups zone)) := by
  refine Users.loadGroups_makes_of ?_ ?_
  · have hlist : (Users.listingOf s.users zone).Makes (Asks s.endpoint t zone .listGroups) :=
      hs.makes rfl rfl
    exact hlist.mono (Asks.oneOf .list)
  · have hrecord : (Zones.get s.endpoint zone).Makes (Asks s.endpoint t zone (.get .zone zone)) :=
      hs.makes_outside rfl rfl rfl
    exact hrecord.mono (Asks.oneOf .record)

/-- The load that comes before a change of memberships. -/
theorem loadGroups_asks_roles (hs : s.Bears t) (zone userId : String) :
    (Users.loadGroups s.users zone).Makes
      (AsksOneOf s.endpoint t zone (Task.IsForRoles zone userId)) :=
  (loadGroups_asks hs zone).mono (AsksOneOf.mono fun _ => .load)

/-- A change of memberships asks for a member to be added or removed. -/
theorem change_asks (hs : s.Bears t) {userId origin : String} (ch : Users.Change)
    (x : Net.Exchange) (h : ch.request s.users.endpoint userId origin zone = .ok x.request) :
    AsksOneOf s.endpoint t zone (Task.IsForRoles zone userId) x := by
  unfold Users.Change.request at h
  cases ch with
  | remove g =>
    have hx : Asks s.endpoint t zone (.removeMember g userId) x := hs.asks rfl rfl h
    exact Asks.oneOf (.remove g) x hx
  | add g =>
    have hx : Asks s.endpoint t zone (.addMember g) x := hs.asks rfl rfl h
    exact Asks.oneOf (.add g) x hx

theorem extraGroups_asks (hs : s.Bears t) (zone : String) (found : NameSet)
    (gs : List Wire.UserGroup) :
    (Lifecycle.User.extraGroups s.users zone found gs).Makes
      (AsksOneOf s.endpoint t zone (Task.IsForGroups zone)) := by
  induction gs generalizing found with
  | nil => exact Op.makes_pure _
  | cons g gs ih =>
    refine Op.Makes.bind ?_ fun isDefault => ih _
    exact (loadGroups_asks hs zone).bind fun _ => Op.makes_pure _

/-- A call that needs the groups of a zone asks for nothing else. -/
theorem cacheCall_asks (hs : s.Bears t) {call : CacheCall} (hzone : call.zone? = some zone) :
    (call.op s.users).Makes (AsksOneOf s.endpoint t zone call.Allows) := by
  cases call with
  | load z =>
    obtain rfl := Option.some.inj hzone
    exact (loadGroups_asks hs z).bind fun _ => Op.makes_pure _
  | isDefault z group =>
    obtain rfl := Option.some.inj hzone
    exact ((loadGroups_asks hs z).bind fun _ => Op.makes_pure _).bind fun _ => Op.makes_pure _
  | updateRoles userId toDelete toAdd origin z =>
    obtain rfl := Option.some.inj hzone
    have hroles : (Users.updateRoles s.users userId toDelete toAdd origin z).Makes _ :=
      Users.updateRoles_makes (loadGroups_asks_roles hs z userId) (change_asks hs) toDelete toAdd
    exact hroles.bind fun _ => Op.makes_pure _
  | invalidate z => exact absurd hzone (by simp [CacheCall.zone?])
  | reset => exact absurd hzone (by simp [CacheCall.zone?])

/-- A call that needs no groups asks for nothing. -/
theorem log_of_zone?_eq_none {call : CacheCall} (h : call.zone? = none) (a : UserAdmin)
    (c : Connection) : ((call.op a).runOn c).2.network.log = c.network.log := by
  cases call with
  | load z => exact absurd h (by simp [CacheCall.zone?])
  | isDefault z group => exact absurd h (by simp [CacheCall.zone?])
  | updateRoles userId toDelete toAdd origin z => exact absurd h (by simp [CacheCall.zone?])
  | invalidate z => rfl
  | reset => rfl

end

/-! ## Handlers -/

/-- What can be done with an object. -/
inductive Lifecycle.Step where
  | check
  | create
  | read
  | update
  | delete
  | lookup

/-- The connection after a step with an object. -/
def Lifecycle.Step.after {M : Type} (l : Lifecycle M) (s : Session) (d : Snapshot M)
    (c : Connection) : Step → Connection
  | check => ((Op.ofExcept (l.check d.desired)).runOn c).2
  | create => ((l.create s).runOn d c).2.2
  | read => ((l.read s).runOn d c).2.2
  | update => ((l.update s).runOn d c).2.2
  | delete => ((l.delete s d).runOn c).2
  | lookup => ((l.lookup s).runOn d c).2.2

/-- An object of any kind. -/
inductive Object where
  | client (d : Snapshot Declared.Client)
  | group (d : Snapshot Declared.Group)
  | user (d : Snapshot Declared.User)
  | zone (d : Snapshot Declared.Zone)

namespace Object

/-- The kind of the object. -/
def kind : Object → Kind
  | client _ => .client
  | group _ => .group
  | user _ => .user
  | zone _ => .zone

/-- The zone in which the object is declared. A client that names none is in the default zone, and
an identity zone is in none. -/
def zoneId : Object → String
  | client d => if d.desired.zoneId = "" then "uaa" else d.desired.zoneId
  | group d => d.desired.zoneId
  | user d => d.desired.zoneId
  | zone _ => ""

/-- The id by which the object is known. -/
def id : Object → String
  | client d => d.id
  | group d => d.id
  | user d => d.id
  | zone d => d.id

/-- The name by which the object is found. -/
def name : Object → String
  | client d => d.desired.clientId
  | group d => d.desired.displayName
  | user d => d.desired.username
  | zone d => d.desired.name

/-- What a step asks for about the object itself. An update replaces its record, and for some kinds
there is more to it. -/
def tasks (object : Object) : Lifecycle.Step → List Task
  | .check => []
  | .create => [.create object.kind]
  | .read => [.get object.kind object.id]
  | .update => .replace object.kind object.id ::
    match object with
    | client d => [.changeSecret d.id, .get .client d.id]
    | group _ => []
    | user d => [.changePassword d.id]
    | zone _ => []
  | .delete => [.delete object.kind object.id]
  | .lookup => [.find object.kind object.name]

/-- What a step may ask for about the groups of the object, if it is a user. -/
def AllowsForGroups : Object → Lifecycle.Step → Task → Prop
  | user d, .read, task => task.IsForGroups d.desired.zoneId
  | user d, .update, task => task.IsForRoles d.desired.zoneId d.id
  | _, _, _ => False

/-- What a step with the object may ask for. -/
def Allows (object : Object) (step : Lifecycle.Step) (task : Task) : Prop :=
  task ∈ object.tasks step ∨ object.AllowsForGroups step task

/-- The connection after a step with the object. -/
def after (s : Session) (object : Object) (step : Lifecycle.Step) (c : Connection) : Connection :=
  match object with
  | client d => step.after Lifecycle.Client.handlers s d c
  | group d => step.after Lifecycle.Group.handlers s d c
  | user d => step.after Lifecycle.User.handlers s d c
  | zone d => step.after Lifecycle.Zone.handlers s d c

end Object

/-- The exchanges of a creation: the one for the object, and if the answer to it gives a record,
those that have to do with what is in the record. -/
inductive Creates [JsonForm α] (first : Net.Exchange → Prop) (next : α → Net.Exchange → Prop) :
    List Net.Exchange → Prop where
  | refused : Creates first next []
  | failed {x} (h : first x) : Creates first next [x]
  | created {x xs} {record : α} (h : first x) (hx : x.outcome.Gives record)
    (hxs : ∀ y ∈ xs, next record y) : Creates first next (x :: xs)

/-- What the exchanges of a step with the object ask for. A client is read back by the id that was
given to it, and a user is put into groups by its id and in the zone that was reported. -/
def Object.Sends (e : Endpoint) (token : String) (object : Object) (step : Lifecycle.Step)
    (xs : List Net.Exchange) : Prop :=
  match object, step with
  | client _, .create =>
    Creates (Asks e token object.zoneId (.create .client))
      (fun record : Wire.Client => Asks e token object.zoneId (.get .client record.clientId)) xs
  | user d, .create =>
    Creates (Asks e token d.desired.zoneId (.create .user))
      (fun record : Wire.User =>
        let zone := if record.zoneId = "" then d.desired.zoneId else record.zoneId
        AsksOneOf e token zone (Task.IsForRoles zone record.id)) xs
  | _, _ => ∀ x ∈ xs, AsksOneOf e token object.zoneId (object.Allows step) x

section

variable {s : Session} {t : String}

/-- A request that was asked, and what is done with the answer, make the exchanges of a creation. -/
theorem Asked.creates [JsonForm α] {request : Except Fault Net.Request} {c c' : Connection}
    {run : Except Fault α × Connection} {first : Net.Exchange → Prop}
    {next : α → Net.Exchange → Prop} (h : Asked request c run)
    (hfirst : ∀ x : Net.Exchange, request = .ok x.request → first x)
    (hfailed : ∀ f c₁, run = (.error f, c₁) → c' = c₁)
    (hcreated : ∀ record c₁, run = (.ok record, c₁) →
      ∃ xs, c'.network.log = c₁.network.log ++ xs ∧ ∀ y ∈ xs, next record y) :
    ∃ xs, c'.network.log = c.network.log ++ xs ∧ Creates first next xs := by
  cases h with
  | refused h =>
    obtain rfl := hfailed _ _ rfl
    exact ⟨[], (List.append_nil _).symm, .refused⟩
  | @failed x f c₁ h hadv hx =>
    obtain rfl := hfailed _ _ rfl
    exact ⟨[x], hadv.log, .failed (hfirst x h)⟩
  | @answered x record c₁ h hadv hx =>
    obtain ⟨xs, hlog, hxs⟩ := hcreated record c₁ rfl
    refine ⟨x :: xs, ?_, .created (hfirst x h) hx hxs⟩
    rw [hlog, hadv.log, List.append_assoc]
    rfl

/-- A call whose task is one of a step may be made in it. -/
theorem Object.makes_of_task (object : Object) (hs : s.Bears t) (step : Lifecycle.Step)
    (call : ManagerCall α) (htask : call.task ∈ object.tasks step) :
    (call.op s).Makes (AsksOneOf s.endpoint t call.zone (object.Allows step)) :=
  (call.makes hs).mono (Asks.oneOf (.inl htask))

/-- A handler that writes last has the exchanges of its operation. -/
theorem Handler.log_writing {M β : Type} {P : Net.Exchange → Prop} {op : Snapshot M → Op β}
    {write : β → Snapshot M → Snapshot M} {d : Snapshot M} (h : (op d).Makes P) (c : Connection) :
    ∃ xs, ((writing op write).runOn d c).2.2.network.log = c.network.log ++ xs ∧
      ∀ x ∈ xs, P x := by
  rw [connection_writing]
  exact h c

namespace Lifecycle

/-- A creation asks for the client, and for what has become of it. -/
theorem Client.connection_create (s : Session) (d : Snapshot Declared.Client) (c : Connection) :
    ((create s).runOn d c).2.2 = ((do
      let record ← register s d
      Clients.get s.endpoint record.clientId d.desired.zone).runOn c).2 := by
  have hzone : ({ d.desired with zoneId := d.desired.zone } : Declared.Client).zone
      = d.desired.zone := by
    show (if d.desired.zone = "" then _ else d.desired.zone) = _
    unfold Declared.Client.zone
    split <;> simp_all [Declared.Client.defaultZone]
  rw [runOn_create, Op.runOn_bind]
  rcases (register s d).runOn c with ⟨f | record, c₁⟩
  · rfl
  · dsimp only
    rw [read_eq, Handler.connection_writing, hzone]

/-- What a step with a client asks for is told by the step and the client. -/
theorem Client.step_asks (hs : s.Bears t) (d : Snapshot Declared.Client) (c : Connection)
    (step : Step) : ∃ xs, (step.after handlers s d c).network.log = c.network.log ++ xs ∧
      (Object.client d).Sends s.endpoint t step xs := by
  have hcall {α : Type} := (Object.client d).makes_of_task (α := α) hs
  cases step with
  | check => exact Op.makes_ofExcept _ c
  | create =>
    have hasked := (Endpoint.asked_create (α := Wire.Client)
      (s.endpoint.withZone d.desired.zone) Clients.collection d.desired.toWire "client"
      d.desired.toWire.clientId c).check d.desired.check
    refine Asked.creates hasked (fun x hx => ?first) ?failed ?created
    case first =>
      rcases hcheck : d.desired.check with f | _
      · rw [hcheck] at hx
        cases hx
      · rw [hcheck] at hx
        have hrequest : (s.endpoint.withZone d.desired.zone).request .post Clients.collection
            (.json (JsonForm.write d.desired.toWire)) = .ok x.request := hx
        exact hs.asks rfl rfl hrequest
    case failed =>
      intro f c₁ hrun
      have hregister : (register s d).runOn c = (.error f, c₁) := hrun
      show ((create s).runOn d c).2.2 = c₁
      rw [runOn_create, hregister]
    case created =>
      intro record c₁ hrun
      have hregister : (register s d).runOn c = (.ok record, c₁) := hrun
      -- The client is read back under the id that the answer gives it.
      obtain ⟨xs, hlog, hxs⟩ :=
        ManagerCall.makes hs (.getClient record.clientId d.desired.zone) c₁
      refine ⟨xs, ?_, hxs⟩
      show ((create s).runOn d c).2.2.network.log = _
      rw [connection_create, Op.runOn_bind_of_ok hregister]
      exact hlog
  | read => exact Handler.log_writing (hcall .read (.getClient d.id d.desired.zone) (.head _)) c
  | update =>
    show ∃ xs, ((update s).runOn d c).2.2.network.log = _ ∧ _
    rw [update_eq]
    refine Handler.log_writing ?_ c
    -- A part of the update that changes nothing asks for nothing.
    refine (Op.makes_ofExcept _).bind fun _ => Op.Makes.bind ?settings fun _ =>
      Op.Makes.bind ?secret fun _ =>
        hcall .update (.getClient d.id d.desired.zone) (.tail _ (.tail _ (.head _)))
    case settings =>
      unfold replaceSettings
      split
      · exact (hcall .update (.updateClient (settingsRecord d) d.desired.zone) (.head _)).bind
          fun _ => Op.makes_pure _
      · exact Op.makes_pure _
    case secret =>
      unfold replaceSecret
      rcases secretChange? d with _ | ⟨old, new⟩
      · exact Op.makes_pure _
      · exact hcall .update (.changeSecret d.id (some old) new d.desired.zone) (.tail _ (.head _))
  | delete => exact hcall .delete (.deleteClient d.id d.desired.zone) (.head _) c
  | lookup =>
    exact Handler.log_writing
      (hcall .lookup (.findClient d.desired.clientId d.desired.zone) (.head _)) c

/-- What a step with a group asks for. -/
theorem Group.step_asks (hs : s.Bears t) (d : Snapshot Declared.Group) (c : Connection)
    (step : Step) : ∃ xs, (step.after handlers s d c).network.log = c.network.log ++ xs ∧
      (Object.group d).Sends s.endpoint t step xs := by
  have hcall {α : Type} := (Object.group d).makes_of_task (α := α) hs
  cases step with
  | check => exact Op.makes_ofExcept _ c
  | create =>
    exact Handler.log_writing (hcall .create
      (.createGroup d.desired.displayName d.desired.description d.desired.zoneId) (.head _)) c
  | read => exact Handler.log_writing (hcall .read (.getGroup d.id d.desired.zoneId) (.head _)) c
  | update =>
    show ∃ xs, ((update s).runOn d c).2.2.network.log = _ ∧ _
    rw [update_eq]
    refine Handler.log_writing ?_ c
    unfold replace?
    split
    · exact (hcall .update (.updateGroup d.id d.desired.displayName d.desired.description
        d.desired.zoneId) (.head _)).bind fun _ => Op.makes_pure _
    · exact Op.makes_pure _
  | delete => exact hcall .delete (.deleteGroup d.id d.desired.zoneId) (.head _) c
  | lookup =>
    exact Handler.log_writing
      (hcall .lookup (.findGroup d.desired.displayName d.desired.zoneId) (.head _)) c

/-- What a step with an identity zone asks for, which is all outside of zones. -/
theorem Zone.step_asks (hs : s.Bears t) (d : Snapshot Declared.Zone) (c : Connection)
    (step : Step) : ∃ xs, (step.after handlers s d c).network.log = c.network.log ++ xs ∧
      (Object.zone d).Sends s.endpoint t step xs := by
  have hcall {α : Type} := (Object.zone d).makes_of_task (α := α) hs
  cases step with
  | check => exact Op.makes_ofExcept _ c
  | create =>
    exact Handler.log_writing (hcall .create (.createZone (d.desired.toWire d.id)) (.head _)) c
  | read => exact Handler.log_writing (hcall .read (.getZone d.id) (.head _)) c
  | update =>
    exact Handler.log_writing (hcall .update (.updateZone d.id (d.desired.toWire d.id)) (.head _)) c
  | delete => exact hcall .delete (.deleteZone d.id) (.head _) c
  | lookup => exact Handler.log_writing (hcall .lookup (.findZone d.desired.name) (.head _)) c

/-- A read asks for the user, and then for what tells its groups apart. -/
theorem User.connection_read (s : Session) (d : Snapshot Declared.User) (c : Connection) :
    ((read s).runOn d c).2.2 = ((do
      let record ← recordOf s d
      extraGroups s.users d.desired.zoneId ∅ record.groups).runOn c).2 := by
  rw [runOn_read, Op.runOn_bind]
  rcases (recordOf s d).runOn c with ⟨f | record, c₁⟩
  · rfl
  · dsimp only
    rcases (extraGroups s.users d.desired.zoneId ∅ record.groups).runOn c₁ with
      ⟨f | groups, c₂⟩ <;> rfl

/-- What a step with a user asks for, its groups included. -/
theorem User.step_asks (hs : s.Bears t) (d : Snapshot Declared.User) (c : Connection)
    (step : Step) : ∃ xs, (step.after handlers s d c).network.log = c.network.log ++ xs ∧
      (Object.user d).Sends s.endpoint t step xs := by
  have hcall {α : Type} := (Object.user d).makes_of_task (α := α) hs
  cases step with
  | check => exact Op.makes_ofExcept _ c
  | create =>
    have hasked : Asked _ c ((register s d).runOn c) := Endpoint.asked_create _ _ _ _ _ c
    refine hasked.creates (fun x hx => hs.asks rfl rfl hx) ?failed ?created
    case failed =>
      intro f c₁ hregister
      show ((create s).runOn d c).2.2 = c₁
      rw [runOn_create, hregister]
    case created =>
      -- From here on id and zone are those of the record, if it names a zone.
      intro record c₁ hregister
      have hsync : (syncRoles s.users (placed record d)).Makes _ :=
        syncRoles_makes (loadGroups_asks_roles hs _ _) (change_asks hs)
      obtain ⟨xs, hlog, hxs⟩ := hsync c₁
      refine ⟨xs, ?_, hxs⟩
      show ((create s).runOn d c).2.2.network.log = _
      rw [runOn_create, hregister]
      exact hlog
  | read =>
    show ∃ xs, ((read s).runOn d c).2.2.network.log = _ ∧ _
    rw [connection_read]
    refine Op.Makes.bind (hcall .read (.getUser d.id d.desired.zoneId) (.head _))
      (fun record => ?_) c
    exact (extraGroups_asks hs d.desired.zoneId ∅ record.groups).mono
      (AsksOneOf.mono fun _ => .inr)
  | update =>
    show ∃ xs, ((update s).runOn d c).2.2.network.log = _ ∧ _
    rw [update_eq]
    refine Handler.log_writing ?_ c
    refine Op.Makes.bind ?profile fun _ => Op.Makes.bind ?password fun _ => ?roles
    case profile =>
      exact replaceProfile_makes_of
        (hcall .update (.updateUser d.id d.desired.profile d.desired.zoneId) (.head _))
    case password =>
      exact replacePassword_makes_of fun old new =>
        hcall .update (.changePassword d.id old new d.desired.zoneId) (.tail _ (.head _))
    case roles =>
      have hsync : (syncRoles s.users d).Makes _ :=
        syncRoles_makes (loadGroups_asks_roles hs _ _) (change_asks hs)
      exact hsync.mono (AsksOneOf.mono fun _ => .inr)
  | delete =>
    exact Op.Makes.tryCatch (hcall .delete (.deleteUser d.id d.desired.zoneId) (.head _))
      (fun _ => Op.makes_pure _) c
  | lookup =>
    exact Handler.log_writing
      (hcall .lookup (.findUser d.desired.username d.desired.zoneId) (.head _)) c

end Lifecycle

end

/-- The request for the password of a user goes to another address than the one for its record. -/
theorem Task.urlOf_changePassword_ne (e : Endpoint) (id : String) :
    e.urlOf (changePassword id).path ≠ e.urlOf (replace .user id).path :=
  Endpoint.urlOf_append_ne (by decide)

/-! ## Calls -/

/-- A call on a session: of a manager, about the groups of users, or of a handler. -/
inductive Call where
  | manager {α : Type} (call : ManagerCall α)
  | groups (call : CacheCall)
  | handle (step : Lifecycle.Step) (object : Object)

namespace Call

/-- The connection after the call. -/
def after (s : Session) (c : Connection) : Call → Connection
  | manager call => ((call.op s).runOn c).2
  | groups call => ((call.op s.users).runOn c).2
  | handle step object => object.after s step c

/-- What the exchanges of the call are about: each asks for a task of the call, in its zone. -/
def Sends (e : Endpoint) (token : String) : Call → List Net.Exchange → Prop
  | manager call, xs => ∀ x ∈ xs, Asks e token call.zone call.task x
  | groups call, xs => ∀ x ∈ xs, ∃ zone, call.zone? = some zone ∧
      AsksOneOf e token zone call.Allows x
  | handle step object, xs => object.Sends e token step xs

variable {s : Session} {t : String}

/-- Every call adds what it sends to the log. -/
theorem sends (hs : s.Bears t) (c : Connection) (call : Call) :
    ∃ xs, (call.after s c).network.log = c.network.log ++ xs ∧ call.Sends s.endpoint t xs := by
  cases call with
  | manager call => exact call.makes hs c
  | groups call =>
    rcases hzone : call.zone? with _ | zone
    · exact ⟨[], by rw [List.append_nil]; exact log_of_zone?_eq_none hzone _ _, by simp [Sends]⟩
    · obtain ⟨xs, hlog, hxs⟩ := cacheCall_asks hs hzone c
      exact ⟨xs, hlog, fun x hx => ⟨zone, hzone, hxs x hx⟩⟩
  | handle step object =>
    cases object with
    | client d => exact Lifecycle.Client.step_asks hs d c step
    | group d => exact Lifecycle.Group.step_asks hs d c step
    | user d => exact Lifecycle.User.step_asks hs d c step
    | zone d => exact Lifecycle.Zone.step_asks hs d c step

/-! ### Requests for any version -/

/-- What the call may ask for, in whatever zone. -/
def Allows : Call → Task → Prop
  | manager call, task => task = call.task
  | groups call, task => call.Allows task
  | handle .create (.client _), task => task = .create .client ∨ ∃ id, task = .get .client id
  | handle .create (.user _), task => task = .create .user ∨ ∃ zone id, task.IsForRoles zone id
  | handle step object, task => object.Allows step task

/-- The record of a group or a user that the call is to replace. -/
def replaced? : Call → Option Task
  | manager (.updateGroup id _ _ _) => some (.replace .group id)
  | manager (.updateUser id _ _) => some (.replace .user id)
  | handle .update object =>
    if object.kind = .group ∨ object.kind = .user then some (.replace object.kind object.id)
    else none
  | _ => none

/-- The request replaces the record of a group or a user. -/
def Replaces (e : Endpoint) (call : Call) (r : Net.Request) : Prop :=
  r.method = .put ∧ ∃ task, call.replaced? = some task ∧ r.url = e.urlOf task.path

/-- The request bears the token, and says that it applies to any version exactly if it replaces the
record of a group or a user. -/
structure IsMarked (e : Endpoint) (token : String) (call : Call) (r : Net.Request) : Prop where
  token : r.headers.get? "authorization" = some token
  version : call.Replaces e r ∧ r.headers.get? "if-match" = some "*" ∨
    ¬call.Replaces e r ∧ r.headers.get? "if-match" = none

/-- Every exchange of a call is for a task that the call may ask for. -/
theorem Sends.exists_task {e : Endpoint} {call : Call} {xs : List Net.Exchange}
    (h : call.Sends e t xs) {x : Net.Exchange} (hx : x ∈ xs) :
    ∃ zone task, call.Allows task ∧ Asks e t zone task x := by
  have hone {zone : String} {allowed : Task → Prop} (hallowed : ∀ task, allowed task →
      call.Allows task) (hasks : AsksOneOf e t zone allowed x) :
      ∃ zone task, call.Allows task ∧ Asks e t zone task x := by
    obtain ⟨task, htask, hasks⟩ := hasks
    exact ⟨zone, task, hallowed task htask, hasks⟩
  have hcreates {α : Type} [JsonForm α] {first : Net.Exchange → Prop}
      {next : α → Net.Exchange → Prop} (hsends : Creates first next xs)
      (hfirst : first x → ∃ zone task, call.Allows task ∧ Asks e t zone task x)
      (hnext : ∀ record, next record x → ∃ zone task, call.Allows task ∧ Asks e t zone task x) :
      ∃ zone task, call.Allows task ∧ Asks e t zone task x := by
    cases hsends with
    | refused => cases hx
    | failed hasked => exact hfirst (List.mem_singleton.mp hx ▸ hasked)
    | created hasked _ hxs =>
      rcases List.mem_cons.mp hx with rfl | hx
      · exact hfirst hasked
      · exact hnext _ (hxs x hx)
  -- Creations of clients and users are the only calls whose later tasks depend on an answer.
  cases call with
  | manager call => exact ⟨_, _, rfl, h x hx⟩
  | groups call =>
    obtain ⟨zone, -, hasks⟩ := h x hx
    exact hone (fun _ => id) hasks
  | handle step object =>
    cases object with
    | client d =>
      cases step with
      | create =>
        exact hcreates h (fun hfirst => ⟨_, _, .inl rfl, hfirst⟩)
          fun record hnext => ⟨_, _, .inr ⟨_, rfl⟩, hnext⟩
      | _ => exact hone (fun _ => id) (h x hx)
    | user d =>
      cases step with
      | create =>
        exact hcreates h (fun hfirst => ⟨_, _, .inl rfl, hfirst⟩)
          fun record hnext => hone (fun _ hroles => .inr ⟨_, _, hroles⟩) hnext
      | _ => exact hone (fun _ => id) (h x hx)
    | group d => cases step <;> exact hone (fun _ => id) (h x hx)
    | zone d => cases step <;> exact hone (fun _ => id) (h x hx)

/-- A task of a step replaces the record of a group or a user, or it says nothing about versions. If
it is another `PUT` in an update of one of these, then it is the one for the password of a user. -/
theorem cases_of_allows {object : Object} {step : Lifecycle.Step} {task : Task}
    (h : object.Allows step task) :
    step = .update ∧ (object.kind = .group ∨ object.kind = .user) ∧
        task = .replace object.kind object.id ∨
      task.version? = none ∧ (task.method = .put → step = .update →
        object.kind = .group ∨ object.kind = .user →
          object.kind = .user ∧ task = .changePassword object.id) := by
  -- What has to do with groups neither replaces anything nor says anything about versions.
  rcases h with h | h
  · cases step with
    | check => cases h
    | create =>
      obtain rfl := List.mem_singleton.mp h
      exact .inr ⟨rfl, by simp [Task.method]⟩
    | read =>
      obtain rfl := List.mem_singleton.mp h
      exact .inr ⟨rfl, by simp [Task.method]⟩
    | update =>
      rcases List.mem_cons.mp h with rfl | h
      · cases object with
        | client d => exact .inr ⟨rfl, by simp [Object.kind]⟩
        | group d => exact .inl ⟨rfl, .inl rfl, rfl⟩
        | user d => exact .inl ⟨rfl, .inr rfl, rfl⟩
        | zone d => exact .inr ⟨rfl, by simp [Object.kind]⟩
      · cases object with
        | client d =>
          refine .inr ⟨?_, by simp [Object.kind]⟩
          rcases List.mem_pair.mp h with rfl | rfl <;> rfl
        | group d => cases h
        | user d =>
          obtain rfl := List.mem_singleton.mp h
          exact .inr ⟨rfl, fun _ _ _ => ⟨rfl, rfl⟩⟩
        | zone d => cases h
    | delete =>
      obtain rfl := List.mem_singleton.mp h
      exact .inr ⟨rfl, by simp [Task.method]⟩
    | lookup =>
      obtain rfl := List.mem_singleton.mp h
      exact .inr ⟨rfl, by simp [Task.method]⟩
  · cases object with
    | user d =>
      have hroles : task.IsForRoles d.desired.zoneId d.id := by
        cases step with
        | read => exact .load h
        | update => exact h
        | _ => cases h
      exact .inr ⟨hroles.version?.1, fun hput => absurd hput hroles.version?.2⟩
    | _ => cases h

/-- A task of a call replaces the record that the call is to replace, or it says nothing about
versions and, if it is another `PUT`, is the one for the password of the same user. -/
theorem Allows.cases {call : Call} {task : Task} (h : call.Allows task) :
    call.replaced? = some task ∧ task.method = .put ∧ task.version? = some "*" ∨
      task.version? = none ∧ ∀ task', call.replaced? = some task' → task.method = .put →
        ∃ id, task' = .replace .user id ∧ task = .changePassword id := by
  have hnone {P : Task → Prop} (hreplaced : call.replaced? = none) :
      ∀ task', call.replaced? = some task' → P task' := by
    intro task' htask'
    rw [hreplaced] at htask'
    cases htask'
  cases call with
  | manager call =>
    obtain rfl : task = call.task := h
    cases call
    -- Two calls of the managers replace such a record, and make no other request.
    case updateGroup => exact .inl ⟨rfl, rfl, rfl⟩
    case updateUser => exact .inl ⟨rfl, rfl, rfl⟩
    all_goals exact .inr ⟨rfl, hnone rfl⟩
  | groups call =>
    refine .inr ⟨?_, hnone rfl⟩
    cases call with
    | load zone => exact (Task.IsForRoles.load h : task.IsForRoles zone "").version?.1
    | isDefault zone group => exact (Task.IsForRoles.load h : task.IsForRoles zone "").version?.1
    | updateRoles userId toDelete toAdd origin zone =>
      have hroles : task.IsForRoles zone userId := h
      exact hroles.version?.1
    | invalidate zone => cases h
    | reset => cases h
  | handle step object =>
    have hallowed (hobject : object.Allows step task) :
        (handle step object).replaced? = some task ∧ task.method = .put ∧
            task.version? = some "*" ∨
          task.version? = none ∧
            ∀ task', (handle step object).replaced? = some task' → task.method = .put →
              ∃ id, task' = .replace .user id ∧ task = .changePassword id := by
      rcases cases_of_allows hobject with ⟨rfl, hkind, rfl⟩ | ⟨hversion, hput⟩
      · refine .inl ⟨if_pos hkind, rfl, ?_⟩
        rcases hkind with hkind | hkind <;> rw [hkind] <;> rfl
      · refine .inr ⟨hversion, fun task' htask' hmethod => ?_⟩
        cases step with
        | update =>
          have hrecord : (if object.kind = .group ∨ object.kind = .user then
              some (Task.replace object.kind object.id) else none) = some task' := htask'
          split at hrecord
          · rename_i hkind
            obtain ⟨huser, rfl⟩ := hput hmethod rfl hkind
            rw [huser] at hrecord
            exact ⟨_, (Option.some.inj hrecord).symm, rfl⟩
          · cases hrecord
        | _ => cases htask'
    cases object with
    | client d =>
      cases step with
      | create =>
        refine .inr ⟨?_, hnone rfl⟩
        rcases h with rfl | ⟨id, rfl⟩ <;> rfl
      | _ => exact hallowed h
    | user d =>
      cases step with
      | create =>
        refine .inr ⟨?_, hnone rfl⟩
        rcases h with rfl | ⟨zone, id, hroles⟩
        · rfl
        · exact hroles.version?.1
      | _ => exact hallowed h
    | group d => cases step <;> exact hallowed h
    | zone d => cases step <;> exact hallowed h

/-- What a call sends is marked, whatever it is for. -/
theorem Sends.isMarked {e : Endpoint} {call : Call} {xs : List Net.Exchange}
    (h : call.Sends e t xs) : ∀ x ∈ xs, call.IsMarked e t x.request := by
  intro x hx
  obtain ⟨zone, task, htask, hasks⟩ := h.exists_task hx
  have hmatch : x.request.headers.get? "if-match" = task.version? := hasks.headers "if-match"
  refine ⟨hasks.headers "authorization", ?_⟩
  rcases htask.cases with ⟨hreplaced, hput, hversion⟩ | ⟨hversion, hother⟩
  · refine .inl ⟨⟨hasks.method.trans hput, task, hreplaced, hasks.url⟩, hmatch.trans hversion⟩
  · refine .inr ⟨?_, hmatch.trans hversion⟩
    -- Another `PUT` can only be that for the password, and goes elsewhere.
    rintro ⟨hput, task', hreplaced, hurl⟩
    obtain ⟨id, rfl, rfl⟩ := hother task' hreplaced (hasks.method.symm.trans hput)
    exact Task.urlOf_changePassword_ne e id (hasks.url.symm.trans hurl)

/-- The connection after some calls, one after the other. -/
def afterAll (s : Session) (calls : List Call) (c : Connection) : Connection :=
  calls.foldl (fun c call => call.after s c) c

/-- A run of calls adds what they send to the log, call by call. -/
theorem sends_all (hs : s.Bears t) (calls : List Call) (c : Connection) :
    ∃ blocks, (afterAll s calls c).network.log = c.network.log ++ blocks.flatten ∧
      List.Forall₂ (Sends s.endpoint t) calls blocks := by
  induction calls generalizing c with
  | nil => exact ⟨[], (List.append_nil _).symm, .nil⟩
  | cons call calls ih =>
    obtain ⟨xs, hlog, hxs⟩ := call.sends hs c
    obtain ⟨blocks, hlogs, hblocks⟩ := ih (call.after s c)
    refine ⟨xs :: blocks, ?_, .cons hxs hblocks⟩
    show (afterAll s calls (call.after s c)).network.log = _
    rw [hlogs, hlog, List.append_assoc, List.flatten_cons]

end Call

/-! ## The token of a session -/

namespace Login

/-- The headers of a request that is made in the name of a client: its id and its secret go in one
of them, in the letters of their bytes, and there are two more for what is sent and expected. -/
structure BearsCredentials (clientId clientSecret : String) (headers : NameMap String) : Prop where
  accept : headers.get? "accept" = some "application/json"
  contentType : headers.get? "content-type" = some "application/x-www-form-urlencoded"
  authorization : ∃ letters,
    headers.get? "authorization" = some ("Basic " ++ String.ofList letters) ∧
    let bytes := Text.Utf8.encode (clientId ++ ":" ++ clientSecret)
    letters.length = (bytes.length + 2) / 3 * 4 ∧ Text.Base64.decode? letters = some bytes
  others : ∀ name, name ∉ ["accept", "authorization", "content-type"] → headers.get? name = none

/-- The request for a token is made in the name of the client. -/
theorem bearsCredentials (url clientId clientSecret : String) :
    BearsCredentials clientId clientSecret (tokenRequest url clientId clientSecret).headers := by
  have hget (name : String) : (tokenRequest url clientId clientSecret).headers.get? name
      = if name = "content-type" then some "application/x-www-form-urlencoded"
        else if name = "authorization" then some (basicCredentials clientId clientSecret)
        else if name = "accept" then some "application/json" else none := by
    unfold tokenRequest
    rw [NameMap.get?_ofList]
    show [("content-type", _), ("authorization", _), ("accept", _)].lookup name = _
    rw [NameMap.lookup_cons_eq_ite, NameMap.lookup_cons_eq_ite, NameMap.lookup_cons_eq_ite]
    rfl
  refine ⟨?_, ?_, ⟨Text.Base64.encodeChars _, ?_, Text.Base64.length_encodeChars _,
    Text.Base64.decode?_encodeChars _⟩, fun name hname => ?_⟩
  · rw [hget]
    rfl
  · rw [hget]
    rfl
  · rw [hget]
    rfl
  · simp only [List.mem_cons, List.not_mem_nil, or_false, not_or] at hname
    rw [hget, if_neg hname.2.2, if_neg hname.2.1, if_neg hname.1]

end Login

/-- A token is given by the answer to the one request for it. -/
theorem Login.clientToken_ok {l : Login} {clientId clientSecret subdomain token : String}
    {c c₁ : Connection}
    (h : (l.clientToken clientId clientSecret subdomain).runOn c = (.ok token, c₁)) :
    ∃ url x reply grant, l.tokenUrl subdomain = .ok url ∧
      x.request = tokenRequest url clientId clientSecret ∧ Advanced c [x] c₁ ∧
      x.outcome = .answered reply ∧ readGrant reply = .ok grant ∧ token = grant.authorization := by
  unfold clientToken at h
  obtain ⟨url, c₂, hparse, h⟩ := Op.runOn_bind_eq_ok.mp h
  rw [Op.runOn_ofExcept] at hparse
  obtain ⟨hurl, rfl⟩ := Prod.mk.inj hparse
  obtain ⟨outcome, c₃, hexchange, h⟩ := Op.runOn_bind_eq_ok.mp h
  rw [Op.runOn_exchange] at hexchange
  obtain ⟨houtcome, rfl⟩ := Prod.mk.inj hexchange
  obtain rfl := Except.ok.inj houtcome
  have hadv := Users.advanced_exchange c (tokenRequest url clientId clientSecret)
  generalize (c.network.exchange (tokenRequest url clientId clientSecret)).1 = outcome at h hadv
  cases outcome with
  | unsent => exact absurd (Prod.mk.inj h).1 (by simp)
  | dropped => exact absurd (Prod.mk.inj h).1 (by simp)
  | answered reply =>
    dsimp only at h
    rcases hgrant : readGrant reply with why | grant
    · rw [hgrant] at h
      exact absurd (Prod.mk.inj h).1 (by simp)
    · rw [hgrant] at h
      obtain ⟨htoken, rfl⟩ := Prod.mk.inj h
      exact ⟨url, _, reply, grant, hurl, rfl, hadv, rfl, hgrant, (Except.ok.inj htoken).symm⟩

/-- A session that is opened bears the token that it was given. -/
theorem Session.openWith_ok {config : Config} {s : Session} {c c₁ : Connection}
    (h : (openWith config).runOn c = (.ok s, c₁)) :
    ∃ url x reply grant, (Login.new config.loginUrl).tokenUrl "" = .ok url ∧
      x.request = Login.tokenRequest url config.clientId config.clientSecret ∧
      Advanced c [x] c₁ ∧ x.outcome = .answered reply ∧ Login.readGrant reply = .ok grant ∧
      s.Bears grant.authorization := by
  unfold openWith at h
  dsimp only at h
  split at h
  · exact absurd (Prod.mk.inj h).1 (by simp)
  obtain ⟨_, c₂, hcert, h⟩ := Op.runOn_bind_eq_ok.mp h
  rw [Op.runOn_ofExcept] at hcert
  obtain ⟨-, rfl⟩ := Prod.mk.inj hcert
  obtain ⟨token, c₃, htoken, h⟩ := Op.runOn_bind_eq_ok.mp h
  obtain ⟨url, x, reply, grant, hurl, hrequest, hadv, hreply, hgrant, rfl⟩ :=
    Login.clientToken_ok htoken
  obtain ⟨e, c₄, hmake, h⟩ := Op.runOn_bind_eq_ok.mp h
  rw [Op.runOn_ofExcept] at hmake
  obtain ⟨hnew, rfl⟩ := Prod.mk.inj hmake
  obtain ⟨hs, rfl⟩ := Prod.mk.inj h
  obtain rfl := Except.ok.inj hs
  obtain ⟨htoken, hzone, hheaders⟩ := Endpoint.new_eq_ok hnew
  exact ⟨url, x, reply, grant, hurl, hrequest, hadv, hreply, hgrant, htoken, rfl, hzone, hheaders⟩

/-- Opening a session takes one request, which is made in the name of the client, and whose answer
gives it a token. Whatever calls are made on the session afterwards, and however they end, what each
sends are requests for tasks of its own, in its own zone and with the token, whose headers are
exactly those of their tasks. Only the request that replaces the record of a group or a user says
that it applies to any version. -/
theorem session_requests {config : Config} {s : Session} {c c₁ : Connection}
    (h : (Session.openWith config).runOn c = (.ok s, c₁)) :
    ∃ url x reply grant, (Login.new config.loginUrl).tokenUrl "" = .ok url ∧
      x.request.method = .post ∧ x.request.url = url ∧
      Login.BearsCredentials config.clientId config.clientSecret x.request.headers ∧
      x.outcome = .answered reply ∧ Login.readGrant reply = .ok grant ∧
      c₁.network.log = c.network.log ++ [x] ∧
      ∀ calls, ∃ blocks,
        (Call.afterAll s calls c₁).network.log = c.network.log ++ x :: blocks.flatten ∧
        List.Forall₂ (Call.Sends s.endpoint grant.authorization) calls blocks ∧
        List.Forall₂ (fun call xs => ∀ x ∈ xs, Call.IsMarked s.endpoint grant.authorization call
          x.request) calls blocks := by
  obtain ⟨url, x, reply, grant, hurl, hrequest, hadv, hreply, hgrant, hs⟩ := Session.openWith_ok h
  have hmade : x.request.method = .post ∧ x.request.url = url ∧
      Login.BearsCredentials config.clientId config.clientSecret x.request.headers := by
    rw [hrequest]
    exact ⟨rfl, rfl, Login.bearsCredentials _ _ _⟩
  refine ⟨url, x, reply, grant, hurl, hmade.1, hmade.2.1, hmade.2.2, hreply, hgrant, hadv.log,
    fun calls => ?_⟩
  obtain ⟨blocks, hlog, hblocks⟩ := Call.sends_all hs calls c₁
  refine ⟨blocks, ?_, hblocks, hblocks.imp fun _ _ hsends => hsends.isMarked⟩
  rw [hlog, hadv.log, List.append_assoc]
  rfl

/-- The configuration of a client that may set passwords. -/
def resetting : Config := ⟨"http://login", "http://uaa", "admin", "secret", none, false, none, {}⟩

/-- A server that gives a token and then does what it is asked for. -/
def granting : Connection :=
  let bodies := ["\x7b\"access_token\":\"t\"\x7d", "null"]
  { network := { replies := bodies.map fun body => some ⟨200, Text.Utf8.encode body⟩ } }

/-- A password is set with the token of the session, which is the second request that is made. -/
theorem session_requests_resetting :
    ∃ s c₁ x y token, (Session.openWith resetting).runOn granting = (.ok s, c₁) ∧
      (Call.afterAll s [.manager (.changePassword "u1" none "new" "z")] c₁).network.log = [x, y] ∧
      Asks s.endpoint token "z" (.changePassword "u1") y := by
  have hlength : (match (Session.openWith resetting).runOn granting with
      | (.ok s, c₁) =>
        (Call.afterAll s [.manager (.changePassword "u1" none "new" "z")] c₁).network.log.length
      | (.error _, _) => 0) = 2 := by decide +kernel
  rcases hrun : (Session.openWith resetting).runOn granting with ⟨f | s, c₁⟩
  · rw [hrun] at hlength
    exact absurd hlength (by simp)
  · rw [hrun] at hlength
    dsimp only at hlength
    obtain ⟨url, x, reply, grant, -, -, -, -, -, -, -, hcalls⟩ := session_requests hrun
    obtain ⟨blocks, hlog, hblocks, -⟩ := hcalls [.manager (.changePassword "u1" none "new" "z")]
    obtain ⟨xs, rest, hxs, hrest, rfl⟩ := List.forall₂_cons_left_iff.mp hblocks
    obtain rfl := List.forall₂_nil_left_iff.mp hrest
    have hone : xs.length = 1 := by
      rw [hlog] at hlength
      simpa [granting] using hlength
    obtain ⟨y, rfl⟩ := List.length_eq_one_iff.mp hone
    exact ⟨s, c₁, x, y, grant.authorization, rfl, hlog, hxs y List.mem_cons_self⟩

end UaaAdmin
