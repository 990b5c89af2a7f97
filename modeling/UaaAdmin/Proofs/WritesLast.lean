import UaaAdmin.Lifecycle.Client
import UaaAdmin.Lifecycle.Group
import UaaAdmin.Lifecycle.Zone
import UaaAdmin.Proofs.RoleSync

/-!
# Handlers that write last

A handler that makes all of its requests before it changes the snapshot is one operation and then
one change (`Handler.writing`), and where that operation stops does not matter: a failure leaves the
snapshot as it was (`Handler.failsClean_writing`). Each handler below is shown to be of this form,
with the operation and the change that it consists of.

The payoff is `failure_leaves_snapshot`, for reading, updating and finding objects of every kind,
but for reading users: that drops the id of a user that cannot be read.
-/

namespace UaaAdmin

variable {M α β : Type}

namespace Handler

/-- Handlers with the same runs are the same. -/
theorem ext_runOn {h h' : Handler M α} (heq : ∀ d c, h.runOn d c = h'.runOn d c) : h = h' := by
  funext d c
  show (((h.runOn d c).1, (h.runOn d c).2.1), (h.runOn d c).2.2)
    = (((h'.runOn d c).1, (h'.runOn d c).2.1), (h'.runOn d c).2.2)
  rw [heq]

/-- What begins with what the snapshot holds. -/
theorem runOn_snapshot_bind (f : Snapshot M → Handler M α) (d : Snapshot M) (c : Connection) :
    (snapshot >>= f).runOn d c = (f d).runOn d c := by
  rw [runOn_bind, runOn_snapshot]

/-! ## One operation and then one change -/

/-- An operation that is made of what the snapshot holds, and then a change of the snapshot. -/
def writing (op : Snapshot M → Op α) (write : α → Snapshot M → Snapshot M) : Handler M Unit := do
  let d ← snapshot
  let a ← call (op d)
  change (write a)

/-- The snapshot is written when the operation has given something. -/
theorem runOn_writing (op : Snapshot M → Op α) (write : α → Snapshot M → Snapshot M)
    (d : Snapshot M) (c : Connection) :
    (writing op write).runOn d c = match (op d).runOn c with
      | (.ok a, c') => (.ok (), write a d, c')
      | (.error f, c') => (.error f, d, c') := by
  unfold writing
  rw [runOn_snapshot_bind, runOn_bind, runOn_call]
  rcases (op d).runOn c with ⟨f | a, c'⟩ <;> rfl

/-- Writing leaves the connection as the operation left it. -/
theorem connection_writing (op : Snapshot M → Op α) (write : α → Snapshot M → Snapshot M)
    (d : Snapshot M) (c : Connection) :
    ((writing op write).runOn d c).2.2 = ((op d).runOn c).2 := by
  rw [runOn_writing]
  rcases (op d).runOn c with ⟨f | a, c'⟩ <;> rfl

/-- A failure leaves the snapshot as it was. -/
def FailsClean (h : Handler M α) : Prop :=
  ∀ d c f, (h.runOn d c).1 = .error f → (h.runOn d c).2.1 = d

/-- What writes last leaves the snapshot as it is if it fails. -/
theorem failsClean_writing (op : Snapshot M → Op α) (write : α → Snapshot M → Snapshot M) :
    (writing op write).FailsClean := by
  intro d c f hf
  rw [runOn_writing] at hf ⊢
  rcases hop : (op d).runOn c with ⟨r, c'⟩
  rw [hop] at hf
  cases r with
  | error e => rfl
  | ok a => exact absurd hf (by simp)

/-- Operations that are called one after the other before a change can be called as one. -/
theorem runOn_call_bind_change {op : Op α} {g : α → Handler M Unit} {f : α → Op β}
    {write : β → Snapshot M → Snapshot M} {d : Snapshot M}
    (h : ∀ a c, (g a).runOn d c = (call (f a) >>= fun b => change (write b)).runOn d c)
    (c : Connection) :
    (call op >>= g).runOn d c = (call (op >>= f) >>= fun b => change (write b)).runOn d c := by
  rw [runOn_bind, runOn_bind, runOn_call, runOn_call, Op.runOn_bind]
  rcases op.runOn c with ⟨r, c'⟩
  cases r with
  | error f => rfl
  | ok a =>
    dsimp only
    rw [h, runOn_bind, runOn_call]

end Handler

namespace Lifecycle

/-! ## Clients -/

namespace Client

open Declared (Client)

/-- Takes over what the server reports. -/
def absorb (record : Wire.Client) (d : Snapshot Client) : Snapshot Client :=
  { d with desired := d.desired.absorb record }

theorem read_eq (s : Session) :
    read s = Handler.writing (fun d => Clients.get s.endpoint d.id d.desired.zone) absorb := rfl

/-- The part of an update that is about the settings. -/
def replaceSettings (e : Endpoint) (d : Snapshot Client) : Op Unit :=
  if settingsDiffer d then do
    let _ ← Clients.update e (settingsRecord d) d.desired.zone
  else return ()

/-- The part of an update that is about the secret. -/
def replaceSecret (e : Endpoint) (d : Snapshot Client) : Op Unit :=
  match secretChange? d with
  | some (old, new) => Clients.changeSecret e d.id (some old) new d.desired.zone
  | none => return ()

/-- An update is one operation up to where the client has been read back. -/
theorem update_eq (s : Session) :
    update s = Handler.writing (fun d => do
      Op.ofExcept d.desired.check
      replaceSettings s.endpoint d
      replaceSecret s.endpoint d
      Clients.get s.endpoint d.id d.desired.zone) absorb := by
  refine Handler.ext_runOn fun d c => ?_
  unfold update Handler.writing
  rw [Handler.runOn_snapshot_bind, Handler.runOn_snapshot_bind]
  refine Handler.runOn_call_bind_change (fun _ c => ?_) c
  have hread (c : Connection) : (read s).runOn d c
      = (Handler.call (Clients.get s.endpoint d.id d.desired.zone)
          >>= fun record => Handler.change (absorb record)).runOn d c :=
    Handler.runOn_snapshot_bind _ d c
  unfold replaceSettings replaceSecret
  -- What is left out on one side is an operation that does nothing on the other.
  rcases hd : settingsDiffer d <;> rcases hc : secretChange? d with _ | ⟨old, new⟩ <;>
    simp only [Bool.false_eq_true, if_false, if_true, bind_assoc, pure_bind]
  · exact hread c
  · refine Handler.runOn_call_bind_change (fun _ c => ?_) c
    exact hread c
  · refine Handler.runOn_call_bind_change (fun _ c => ?_) c
    exact hread c
  · refine Handler.runOn_call_bind_change (fun _ c => ?_) c
    refine Handler.runOn_call_bind_change (fun _ c => ?_) c
    exact hread c

theorem lookup_eq (s : Session) :
    lookup s = Handler.writing
      (fun d => Clients.find s.endpoint d.desired.clientId d.desired.zone)
      (fun record d => { absorb record d with id := record.clientId }) := rfl

end Client

/-! ## Groups -/

namespace Group

open Declared (Group)

/-- Takes over what the server reports. -/
def absorb (record : Wire.Group) (d : Snapshot Group) : Snapshot Group :=
  { d with desired := d.desired.absorb record }

theorem create_eq (s : Session) :
    create s = Handler.writing
      (fun d => Groups.create s.endpoint d.desired.displayName d.desired.description
        d.desired.zoneId)
      (fun record d => { absorb record d with id := record.id }) := rfl

theorem read_eq (s : Session) :
    read s = Handler.writing (fun d => Groups.get s.endpoint d.id d.desired.zoneId) absorb := rfl

/-- Name or description differ from those before, or there are none before. -/
def differs (d : Snapshot Group) : Bool :=
  (d.changedValue (·.description) (d.changedValue (·.displayName) false).2).2

/-- The request of an update, which is left out if there is nothing to change. -/
def replace? (e : Endpoint) (d : Snapshot Group) : Op (Option Wire.Group) :=
  if differs d then do
    let record ← Groups.update e d.id d.desired.displayName d.desired.description d.desired.zoneId
    return some record
  else return none

theorem update_eq (s : Session) :
    update s = Handler.writing (replace? s.endpoint)
      (fun record? d => record?.elim d (absorb · d)) := by
  refine Handler.ext_runOn fun d c => ?_
  unfold update
  rw [Handler.runOn_snapshot_bind, Handler.runOn_writing]
  change Handler.runOn (if differs d = true then _ else _) d c = _
  unfold replace?
  by_cases hd : differs d = true
  · rw [if_pos hd, if_pos hd, Handler.runOn_bind, Handler.runOn_call, Op.runOn_bind]
    rcases (Groups.update s.endpoint d.id d.desired.displayName d.desired.description
      d.desired.zoneId).runOn c with ⟨f | record, c'⟩ <;> rfl
  · rw [if_neg hd, if_neg hd]
    rfl

theorem lookup_eq (s : Session) :
    lookup s = Handler.writing
      (fun d => Groups.find s.endpoint d.desired.displayName d.desired.zoneId)
      (fun record d => { absorb record d with id := record.id }) := rfl

end Group

/-! ## Zones -/

namespace Zone

open Declared (Zone)

/-- Takes over what the server reports. -/
def replace (record : Wire.Zone) (d : Snapshot Zone) : Snapshot Zone :=
  { d with desired := Zone.ofWire record }

theorem create_eq (s : Session) :
    create s = Handler.writing (fun d => Zones.create s.endpoint (d.desired.toWire d.id))
      (fun record d => { replace record d with id := record.id }) := rfl

theorem read_eq (s : Session) :
    read s = Handler.writing (fun d => Zones.get s.endpoint d.id) replace := rfl

theorem update_eq (s : Session) :
    update s = Handler.writing
      (fun d => Zones.update s.endpoint d.id (d.desired.toWire d.id)) replace := rfl

theorem lookup_eq (s : Session) :
    lookup s = Handler.writing (fun d => Zones.find s.endpoint d.desired.name)
      (fun record d => { replace record d with id := record.id }) := rfl

end Zone

/-! ## Users -/

namespace User

open Declared (User)

/-- An update of a user takes nothing over. -/
theorem update_eq (s : Session) :
    update s = Handler.writing (fun d => do
      replaceProfile s.users d
      replacePassword s.users d
      syncRoles s.users d) (fun _ d => d) := by
  refine Handler.ext_runOn fun d c => ?_
  rw [runOn_update, Handler.runOn_call, Handler.runOn_writing]
  rcases (do
    replaceProfile s.users d
    replacePassword s.users d
    syncRoles s.users d : Op Unit).runOn c with ⟨f | _, c'⟩ <;> rfl

theorem lookup_eq (s : Session) :
    lookup s = Handler.writing
      (fun d => Users.find s.users d.desired.username d.desired.zoneId)
      (fun record d => { d with id := record.id, desired := d.desired.absorb record }) := rfl

end User

/-! ## Failures -/

/-- Reading, updating or finding an object leaves its snapshot as it was if it fails, wherever that
is. -/
theorem failure_leaves_snapshot (s : Session) :
    (Client.read s).FailsClean ∧ (Client.update s).FailsClean ∧ (Client.lookup s).FailsClean ∧
    (Group.read s).FailsClean ∧ (Group.update s).FailsClean ∧ (Group.lookup s).FailsClean ∧
    (Zone.read s).FailsClean ∧ (Zone.update s).FailsClean ∧ (Zone.lookup s).FailsClean ∧
    (User.update s).FailsClean ∧ (User.lookup s).FailsClean := by
  rw [Client.read_eq, Client.update_eq, Client.lookup_eq, Group.read_eq, Group.update_eq,
    Group.lookup_eq, Zone.read_eq, Zone.update_eq, Zone.lookup_eq, User.update_eq, User.lookup_eq]
  simp only [Handler.failsClean_writing, and_self]

end Lifecycle

end UaaAdmin
