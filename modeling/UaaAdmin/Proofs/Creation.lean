import UaaAdmin.Proofs.CacheRuns
import UaaAdmin.Proofs.WritesLast

/-!
# Creating objects

A creation begins with one request for the object. What may follow it, reading the object back or
putting a user into its groups, can fail when the object is there already. `Creation` holds what is
particular to each kind of object, and `Creation.Goes` says how a creation can go: the request
cannot be made, or no record comes of it, or one does, and then the snapshot has its id, however the
rest ends.

The payoff is `created_object_is_kept`, which says so of all four kinds.
-/

namespace UaaAdmin

variable {M R : Type}

/-- What is particular to creating objects with declared state `M` and records `R`. -/
structure Creation (M R : Type) where
  /-- The request for the object, or what keeps it from being made. -/
  request : Snapshot M → Except Fault Net.Request
  /-- The id in a record. -/
  idOf : R → String
  /-- The declared state as long as there is no record. -/
  pending : M → M
  /-- The declared state once there is a record and something later has failed. -/
  placed : R → M → M

namespace Creation

/-- A creation that got a record keeps its id and the state before. If it fails later on, the
declared state is only `placed`. -/
structure Keeps (p : Creation M R) (d : Snapshot M) (record : R) (r : Except Fault Unit)
    (d' : Snapshot M) : Prop where
  id : d'.id = p.idOf record
  prior : d'.prior = d.prior
  desired : ∀ f, r = .error f → d'.desired = p.placed record d.desired

/-- How a creation can go: the exchanges, the result, and the snapshot that it leaves. -/
inductive Goes [JsonForm R] (p : Creation M R) (d : Snapshot M) :
    List Net.Exchange → Except Fault Unit → Snapshot M → Prop
  /-- The request cannot be made. -/
  | refused {f f'} (h : p.request d = .error f) :
      Goes p d [] (.error f') { d with desired := p.pending d.desired }
  /-- It is made, and no record comes of it. -/
  | failed {x f} (h : p.request d = .ok x.request) (hx : ∀ record : R, ¬x.outcome.Gives record) :
      Goes p d [x] (.error f) { d with desired := p.pending d.desired }
  /-- A record comes of it, and is kept whatever comes of later requests. -/
  | created {x record later r d'} (h : p.request d = .ok x.request) (hx : x.outcome.Gives record)
      (hkeeps : p.Keeps d record r d') : Goes p d (x :: later) r d'

/-- Every run of the handler goes as a creation can go. -/
def Describes [JsonForm R] (p : Creation M R) (create : Handler M Unit) : Prop :=
  ∀ d c, ∃ xs, (create.runOn d c).2.2.network.log = c.network.log ++ xs ∧
    p.Goes d xs (create.runOn d c).1 (create.runOn d c).2.1

section

variable [JsonForm R] {p : Creation M R}

/-- A handler creates objects if it begins with the request for a record, and keeps the record in
what it does `next`. -/
theorem describes {create : Handler M Unit} (op : Snapshot M → Op R)
    (next : Snapshot M → R → Connection → Except Fault Unit × Snapshot M × Connection)
    (hrun : ∀ d c, create.runOn d c = match (op d).runOn c with
      | (.error f, c₁) => (.error f, { d with desired := p.pending d.desired }, c₁)
      | (.ok record, c₁) => next d record c₁)
    (hasked : ∀ d c, Asked (p.request d) c ((op d).runOn c))
    (hlog : ∀ d record c₁, ∃ xs, (next d record c₁).2.2.network.log = c₁.network.log ++ xs)
    (hkeeps : ∀ d record c₁, p.Keeps d record (next d record c₁).1 (next d record c₁).2.1) :
    p.Describes create := by
  intro d c
  rw [hrun]
  have hop := hasked d c
  generalize (op d).runOn c = r at hop ⊢
  cases hop with
  | refused h => exact ⟨[], (List.append_nil _).symm, .refused h⟩
  | failed h hadv hx => exact ⟨_, hadv.log, .failed h hx⟩
  | @answered x record c₁ h hadv hx =>
    obtain ⟨later, hlater⟩ := hlog d record c₁
    refine ⟨x :: later, ?_, .created h hx (hkeeps d record c₁)⟩
    rw [hlater, hadv.log, List.append_assoc]
    rfl

/-- Nothing follows the record in a handler that is one operation and then one change. -/
theorem describes_writing {op : Snapshot M → Op R} {write : R → Snapshot M → Snapshot M}
    (hasked : ∀ d c, Asked (p.request d) c ((op d).runOn c)) (hpending : ∀ m, p.pending m = m)
    (hid : ∀ record d, (write record d).id = p.idOf record)
    (hprior : ∀ record d, (write record d).prior = d.prior) :
    p.Describes (Handler.writing op write) := by
  refine describes op (fun d record c₁ => (.ok (), write record d, c₁)) ?_ hasked ?_ ?_
  · intro d c
    rw [Handler.runOn_writing, hpending]
    rcases (op d).runOn c with ⟨f | record, c₁⟩ <;> rfl
  · exact fun d record c₁ => ⟨[], (List.append_nil _).symm⟩
  · exact fun d record c₁ => ⟨hid record d, hprior record d, fun f hf => absurd hf (by simp)⟩

end

end Creation

/-! ## The four kinds -/

namespace Users

/-- The exchanges of a change of memberships are those of the load and of the changes. -/
theorem updateRoles_makes {P : Net.Exchange → Prop} {a : UserAdmin} {userId origin zone : String}
    (hload : (loadGroups a zone).Makes P)
    (hchange : ∀ (ch : Change) (x : Net.Exchange),
      ch.request a.endpoint userId origin zone = .ok x.request → P x)
    (toDelete toAdd : List String) :
    (updateRoles a userId toDelete toAdd origin zone).Makes P := by
  have hmade := Change.makeAll_has_of hchange
  refine hload.bind fun groups => ?_
  refine (Op.makes_ofExcept _).bind fun deleteIds => ?_
  refine (Op.makes_ofExcept _).bind fun addIds => ?_
  rw [Change.removeAll_eq a.endpoint userId origin, Change.addAll_eq]
  exact ((hmade _).bind fun _ => hmade _).makes

end Users

namespace Lifecycle

/-- A client is checked before it is asked for. Once there is a record, its zone is filled in. -/
def Client.creation (s : Session) : Creation Declared.Client Wire.Client where
  request d := do
    d.desired.check
    (s.endpoint.withZone d.desired.zone).request .post "/oauth/clients"
      (.json (JsonForm.write d.desired.toWire))
  idOf record := record.clientId
  pending m := m
  placed _ m := { m with zoneId := m.zone }

/-- The request of a creation, which is not made for a client that does not pass its check. -/
def Client.register (s : Session) (d : Snapshot Declared.Client) : Op Wire.Client := do
  Op.ofExcept d.desired.check
  Clients.create s.endpoint d.desired.toWire d.desired.zone

/-- A client is read back once there is a record of it. -/
theorem Client.runOn_create (s : Session) (d : Snapshot Declared.Client) (c : Connection) :
    (create s).runOn d c = match (register s d).runOn c with
      | (.error f, c₁) => (.error f, d, c₁)
      | (.ok record, c₁) => (read s).runOn
          ⟨record.clientId, d.prior, { d.desired with zoneId := d.desired.zone }⟩ c₁ := by
  unfold create register
  rw [Handler.runOn_snapshot_bind, Handler.runOn_bind, Handler.runOn_call, Op.runOn_bind,
    Op.runOn_ofExcept]
  rcases d.desired.check with f | _
  · rfl
  · dsimp only
    rw [Handler.runOn_bind, Handler.runOn_call]
    rcases (Clients.create s.endpoint d.desired.toWire d.desired.zone).runOn c with
      ⟨f | record, c₁⟩ <;> rfl

theorem Client.describes_create (s : Session) : (creation s).Describes (create s) := by
  refine Creation.describes (register s)
    (fun d record c₁ => (read s).runOn
      ⟨record.clientId, d.prior, (creation s).placed record d.desired⟩ c₁) ?_ ?_ ?_ ?_
  · intro d c
    rw [runOn_create]
    rcases (register s d).runOn c with ⟨f | record, c₁⟩ <;> rfl
  · exact fun d c => (Endpoint.asked_create _ _ d.desired.toWire _ _ c).check _
  · intro d record c₁
    rw [read_eq, Handler.connection_writing]
    have hread (id zone : String) : (Clients.get s.endpoint id zone).Makes fun _ => True :=
      Op.makes_ask fun _ _ => trivial
    obtain ⟨xs, hlog, -⟩ := hread _ _ c₁
    exact ⟨xs, hlog⟩
  · intro d record c₁
    rw [read_eq, Handler.runOn_writing]
    rcases (Clients.get s.endpoint record.clientId _).runOn c₁ with ⟨f | found, c₂⟩
    · exact ⟨rfl, rfl, fun _ _ => rfl⟩
    · exact ⟨rfl, rfl, fun f hf => absurd hf (by simp)⟩

/-- A group is there with its record. -/
def Group.creation (s : Session) : Creation Declared.Group Wire.Group where
  request d :=
    let group : Wire.Group :=
      { displayName := d.desired.displayName, description := d.desired.description,
        zoneId := d.desired.zoneId }
    (s.endpoint.withZone d.desired.zoneId).request .post "/Groups" (.json (JsonForm.write group))
  idOf record := record.id
  pending m := m
  placed _ m := m

theorem Group.describes_create (s : Session) : (creation s).Describes (create s) := by
  rw [create_eq]
  exact Creation.describes_writing (fun d c => Endpoint.asked_create _ _ _ _ _ c)
    (fun _ => rfl) (fun _ _ => rfl) fun _ _ => rfl

/-- The user with its name as its address, if it has none. -/
def User.pending (u : Declared.User) : Declared.User :=
  { u with email := if u.email = "" then u.username else u.email }

/-- A user gets an address before it is asked for. Once there is a record, the zone is taken from
it. -/
def User.creation (s : Session) : Creation Declared.User Wire.User where
  request d :=
    let u := pending d.desired
    let user := { u.profile.toUser with password := u.password, origin := u.provider }
    (s.users.endpoint.withZone u.zoneId).request .post "/Users" (.json (JsonForm.write user))
  idOf record := record.id
  pending := pending
  placed record u := { pending u with zoneId := Declared.reportedOr u.zoneId record.zoneId }

theorem User.syncRoles_makes {P : Net.Exchange → Prop} {a : UserAdmin}
    {d : Snapshot Declared.User} (hload : (Users.loadGroups a d.desired.zoneId).Makes P)
    (hchange : ∀ (ch : Users.Change) (x : Net.Exchange),
      ch.request a.endpoint d.id d.desired.provider d.desired.zoneId = .ok x.request → P x) :
    (syncRoles a d).Makes P := by
  unfold syncRoles
  dsimp only
  split
  · exact Op.makes_pure _
  · exact Users.updateRoles_makes hload hchange _ _

/-- The request of a creation. -/
def User.register (s : Session) (d : Snapshot Declared.User) : Op Wire.User :=
  let u := pending d.desired
  Users.create s.users u.profile u.password u.provider u.zoneId

/-- A user of whom there is a record, with the id and the zone in it. -/
def User.placed (record : Wire.User) (d : Snapshot Declared.User) : Snapshot Declared.User :=
  { d with
    id := record.id
    desired := { pending d.desired with
      zoneId := Declared.reportedOr d.desired.zoneId record.zoneId } }

/-- A user is put into its groups once there is a record of it. -/
theorem User.runOn_create (s : Session) (d : Snapshot Declared.User) (c : Connection) :
    (create s).runOn d c = match (register s d).runOn c with
      | (.error f, c₁) => (.error f, { d with desired := pending d.desired }, c₁)
      | (.ok record, c₁) =>
        (Handler.call (syncRoles s.users (placed record d))).runOn (placed record d) c₁ := by
  have hpending : (if d.desired.email = "" then { d.desired with email := d.desired.username }
      else d.desired) = pending d.desired := by
    unfold pending
    split <;> rfl
  unfold create register
  rw [Handler.runOn_bind, Handler.runOn_changeDesired, hpending]
  dsimp only
  rw [Handler.runOn_snapshot_bind, Handler.runOn_bind, Handler.runOn_call]
  rcases (Users.create s.users (pending d.desired).profile (pending d.desired).password
    (pending d.desired).provider (pending d.desired).zoneId).runOn c with ⟨f | record, c₁⟩ <;> rfl

theorem User.describes_create (s : Session) : (creation s).Describes (create s) := by
  refine Creation.describes (register s)
    (fun d record c₁ => (Handler.call (syncRoles s.users (placed record d))).runOn
      (placed record d) c₁) ?_ ?_ ?_ ?_
  · intro d c
    rw [runOn_create]
    rcases (register s d).runOn c with ⟨f | record, c₁⟩ <;> rfl
  · exact fun d c => Endpoint.asked_create _ _ _ _ _ c
  · intro d record c₁
    have hload (zone : String) : (Users.loadGroups s.users zone).Makes fun _ => True :=
      (Users.loadGroups_makes s.users zone).mono fun _ _ => trivial
    obtain ⟨xs, hlog, -⟩ := syncRoles_makes (hload _) (fun _ _ _ => trivial) c₁
    exact ⟨xs, hlog⟩
  · exact fun d record c₁ => ⟨rfl, rfl, fun _ _ => rfl⟩

/-- A zone is there with its record. -/
def Zone.creation (s : Session) : Creation Declared.Zone Wire.Zone where
  request d :=
    s.endpoint.request .post "/identity-zones" (.json (JsonForm.write (d.desired.toWire d.id)))
  idOf record := record.id
  pending m := m
  placed _ m := m

theorem Zone.describes_create (s : Session) : (creation s).Describes (create s) := by
  rw [create_eq]
  exact Creation.describes_writing
    (fun d c => Endpoint.asked_create _ _ (d.desired.toWire d.id) _ _ c)
    (fun _ => rfl) (fun _ _ => rfl) fun _ _ => rfl

/-- An object that was created on the server is never lost: as soon as there is a record of it the
snapshot has its id, and what fails before that leaves the snapshot as it was. -/
theorem created_object_is_kept (s : Session) :
    (Client.creation s).Describes (Client.create s) ∧
    (Group.creation s).Describes (Group.create s) ∧
    (User.creation s).Describes (User.create s) ∧
    (Zone.creation s).Describes (Zone.create s) :=
  ⟨Client.describes_create s, Group.describes_create s, User.describes_create s,
    Zone.describes_create s⟩

end Lifecycle

end UaaAdmin
