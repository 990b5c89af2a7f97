import UaaAdmin.Proofs.CallSequences
import UaaAdmin.Proofs.RecordForms
import UaaAdmin.Proofs.WritesLast

/-!
# What an update of a client sends

An update replaces the settings of a client if there are other ones (`SettingsDiffer`), gives it a
new secret if there is one (`HasNewSecret`), and reads the client back. The record that replaces the
settings goes to the client of the snapshot and has no secret in it (`write_settingsRecord`), so the
secret is only ever sent where it is changed.

The payoff is `client_update_sends`: a declaration that is incomplete is found to be so before
anything is sent, and any other one has those calls made in a row.
-/

namespace UaaAdmin

/-- A member that is left out if its text is empty. -/
def textMember (name text : String) : List (String × Json) :=
  if text = "" then [] else [(name, .text text)]

/-- A text is left out of a record if it is empty. -/
theorem Field.toMember?_sparse {σ : Type} (name : String) (get : σ → String) (put : String → σ → σ)
    (record : σ) :
    (toMember? ⟨name, .sparse, get, put⟩ record).toList = textMember name (get record) := by
  unfold toMember? Slot.sparse Slot.nullable textMember
  dsimp only
  by_cases h : get record = ""
  · have homit : (get record == default) = true := beq_iff_eq.mpr h
    rw [if_pos h, if_pos homit]
    rfl
  · have hkeep : ¬(get record == default) = true := mt beq_iff_eq.mp h
    rw [if_neg h, if_neg hkeep]
    rfl

namespace Lifecycle.Client

open Declared (Client)
open Users (Advanced)

/-! ## When there is something to send -/

/-- The declaration lacks an id, or a secret for the grant that needs one. -/
def IsIncomplete (m : Client) : Prop :=
  m.clientId = "" ∨ "client_credentials" ∈ m.authorizedGrantTypes ∧ m.clientSecret = ""

/-- The client is not known to be as declared, apart from its secret and its zone. -/
def SettingsDiffer (d : Snapshot Client) : Prop :=
  ∀ prior, d.prior = some prior →
    { prior with clientSecret := d.desired.clientSecret, zoneId := d.desired.zoneId } ≠ d.desired

/-- The secret that the client has, as far as it is known. -/
def oldSecret (d : Snapshot Client) : String := (d.prior.map (·.clientSecret)).getD ""

/-- The client is to have a secret, and another one than it has. -/
def HasNewSecret (d : Snapshot Client) : Prop :=
  d.desired.clientSecret ≠ "" ∧ d.desired.clientSecret ≠ oldSecret d

instance (d : Snapshot Client) : Decidable (HasNewSecret d) := by
  unfold HasNewSecret
  exact inferInstance

/-- An incomplete declaration is refused. -/
theorem check_of_incomplete {m : Client} (h : IsIncomplete m) :
    ∃ why, m.check = .error (.validation why) := by
  unfold Client.check
  by_cases hid : m.clientId = ""
  · exact ⟨_, if_pos hid⟩
  · rw [if_neg hid]
    exact ⟨_, if_pos (h.resolve_left hid)⟩

/-- A complete declaration passes. -/
theorem check_of_complete {m : Client} (h : ¬IsIncomplete m) : m.check = .ok () := by
  unfold Client.check
  rw [if_neg fun hid => h (.inl hid)]
  exact if_neg fun hsecret => h (.inr hsecret)

/-- Settings are the same exactly if nothing but the secret and the zone is not. -/
theorem settings_eq_iff {prior m : Client} :
    prior.settings = m.settings ↔
      { prior with clientSecret := m.clientSecret, zoneId := m.zoneId } = m := by
  constructor
  · intro h
    exact congrArg
      (fun x : Client => { x with clientSecret := m.clientSecret, zoneId := m.zoneId }) h
  · exact congrArg Client.settings

theorem settingsDiffer_iff {d : Snapshot Client} : settingsDiffer d = true ↔ SettingsDiffer d := by
  unfold settingsDiffer Snapshot.differs SettingsDiffer
  rcases d.prior with _ | prior
  · exact ⟨fun _ _ h => absurd h (by simp), fun _ => rfl⟩
  · rw [bne_iff_ne, Ne, settings_eq_iff]
    exact ⟨fun h p hp => Option.some.inj hp ▸ h, fun h => h prior rfl⟩

instance (d : Snapshot Client) : Decidable (SettingsDiffer d) :=
  decidable_of_iff _ settingsDiffer_iff

theorem secretChange?_of_new {d : Snapshot Client} (h : HasNewSecret d) :
    secretChange? d = some (oldSecret d, d.desired.clientSecret) := by
  have hne : oldSecret d ≠ d.desired.clientSecret := Ne.symm h.2
  have hchange : d.change (·.clientSecret) = some (oldSecret d, d.desired.clientSecret) :=
    if_neg hne
  rw [secretChange?, hchange, Option.filter_some, if_pos (by simpa using h.1)]

theorem secretChange?_of_not_new {d : Snapshot Client} (h : ¬HasNewSecret d) :
    secretChange? d = none := by
  rw [secretChange?, Option.filter_eq_none_iff]
  intro change hchange
  unfold Snapshot.change at hchange
  split at hchange
  · exact absurd hchange (by simp)
  · rename_i hne
    obtain rfl := Option.some.inj hchange
    simp only [decide_eq_true_eq, ne_eq, not_not]
    -- The secret does change, so it is not sent only if it is empty.
    by_contra hsecret
    exact h ⟨hsecret, Ne.symm hne⟩

/-! ## What is sent -/

/-- The calls of an update. -/
def updateCalls (d : Snapshot Client) : List AnyCall :=
  (if SettingsDiffer d then [⟨.updateClient (settingsRecord d) d.desired.zone⟩] else []) ++
    (if HasNewSecret d then
      [⟨.changeSecret d.id (some (oldSecret d)) d.desired.clientSecret d.desired.zone⟩] else []) ++
    [⟨.getClient d.id d.desired.zone⟩]

/-- All of them are made in the zone of the client. -/
theorem endpoint_of_updateCalls (s : Session) {d : Snapshot Client} {call : AnyCall}
    (h : call ∈ updateCalls d) : call.call.endpoint s = s.endpoint.withZone d.desired.zone := by
  simp only [updateCalls, List.mem_append, List.mem_ite_nil_right, List.mem_singleton] at h
  rcases h with (⟨-, rfl⟩ | ⟨-, rfl⟩) | rfl <;> rfl

/-- What the record of a client holds besides its id and its secret. -/
def otherMembers (record : Wire.Client) : List (String × Json) :=
  Layout.members (Wire.Client.layout.fields.drop 2) record

theorem name_of_mem_otherMembers {record : Wire.Client} {m : String × Json}
    (h : m ∈ otherMembers record) : m.1 ≠ "client_id" ∧ m.1 ≠ "client_secret" := by
  have hname := Layout.name_of_mem_members h
  refine ⟨fun hid => ?_, fun hsecret => ?_⟩
  · rw [hid] at hname
    exact absurd hname (by decide)
  · rw [hsecret] at hname
    exact absurd hname (by decide)

/-- The record of a client is written with its id, its secret and all else in this order. -/
theorem write_client (record : Wire.Client) :
    JsonForm.write record = .object (textMember "client_id" record.clientId
      ++ textMember "client_secret" record.clientSecret ++ otherMembers record) := by
  show Json.object (Layout.members Wire.Client.layout.fields record) = _
  rw [Wire.Client.layout, Layout.members_cons, Layout.members_cons,
    Field.toMember?_sparse, Field.toMember?_sparse, List.append_assoc]
  rfl

/-- The record that replaces the settings is that of the declaration with the id of the snapshot and
without a secret. -/
theorem write_settingsRecord (d : Snapshot Client) :
    JsonForm.write (settingsRecord d)
      = .object (textMember "client_id" d.id ++ otherMembers d.desired.toWire) := by
  rw [write_client]
  show Json.object (textMember "client_id" d.id ++ textMember "client_secret" ""
    ++ otherMembers d.desired.toWire) = _
  rw [show textMember "client_secret" "" = [] from rfl, List.append_nil]

theorem secretChange_eq (old new : String) :
    Clients.secretChange (some old) new
      = .object (textMember "oldSecret" old ++ [("secret", .text new)]) := by
  unfold Clients.secretChange textMember
  by_cases h : old = ""
  · rw [if_pos h, Option.filter_some, if_neg (by simpa using h)]
    rfl
  · rw [if_neg h, Option.filter_some, if_pos (by simpa using h)]
    rfl

/-- What the calls of an update send. -/
theorem sent_updateCalls (d : Snapshot Client) :
    (updateCalls d).map AnyCall.sent
      = (if SettingsDiffer d then
          [(.put, "/oauth/clients/" ++ d.id, .json (.object
            (textMember "client_id" d.id ++ otherMembers d.desired.toWire)))] else []) ++
        (if HasNewSecret d then
          [(.put, "/oauth/clients/" ++ d.id ++ "/secret", .json (.object
            (textMember "oldSecret" (oldSecret d) ++
              [("secret", .text d.desired.clientSecret)])))] else []) ++
        [(.get, "/oauth/clients/" ++ d.id, .empty)] := by
  have hput : AnyCall.sent ⟨.updateClient (settingsRecord d) d.desired.zone⟩
      = (.put, "/oauth/clients/" ++ d.id, .json (.object
          (textMember "client_id" d.id ++ otherMembers d.desired.toWire))) := by
    rw [← write_settingsRecord]
    rfl
  have hsecret : AnyCall.sent
        ⟨.changeSecret d.id (some (oldSecret d)) d.desired.clientSecret d.desired.zone⟩
      = (.put, "/oauth/clients/" ++ d.id ++ "/secret", .json (.object
          (textMember "oldSecret" (oldSecret d) ++
            [("secret", .text d.desired.clientSecret)]))) := by
    rw [← secretChange_eq]
    rfl
  have hget : AnyCall.sent ⟨.getClient d.id d.desired.zone⟩
      = (.get, "/oauth/clients/" ++ d.id, .empty) := rfl
  rw [← hput, ← hsecret, ← hget]
  unfold updateCalls
  rw [List.map_append, List.map_append, apply_ite (List.map AnyCall.sent),
    apply_ite (List.map AnyCall.sent)]
  rfl

/-! ## The calls are made -/

/-- What an update does before it changes the snapshot. -/
def updating (s : Session) (d : Snapshot Client) : Op Wire.Client := do
  Op.ofExcept d.desired.check
  replaceSettings s.endpoint d
  replaceSecret s.endpoint d
  Clients.get s.endpoint d.id d.desired.zone

/-- An update writes what it read back when all calls are made. -/
theorem update_eq_writing (s : Session) : update s = Handler.writing (updating s) absorb :=
  update_eq s

/-- Settings that differ are replaced by one call. -/
theorem replaceSettings_attempts (s : Session) (d : Snapshot Client) :
    (replaceSettings s.endpoint d).Attempts s
      (if SettingsDiffer d then [⟨.updateClient (settingsRecord d) d.desired.zone⟩] else []) := by
  unfold replaceSettings
  by_cases h : SettingsDiffer d
  · rw [if_pos h, if_pos (settingsDiffer_iff.mpr h)]
    exact (Op.attempts_call (.updateClient (settingsRecord d) d.desired.zone)).bind
      fun _ => Op.attempts_pure ()
  · rw [if_neg h, if_neg (mt settingsDiffer_iff.mp h)]
    exact Op.attempts_pure ()

/-- A new secret is set by one call. -/
theorem replaceSecret_attempts (s : Session) (d : Snapshot Client) :
    (replaceSecret s.endpoint d).Attempts s
      (if HasNewSecret d then
        [⟨.changeSecret d.id (some (oldSecret d)) d.desired.clientSecret d.desired.zone⟩]
      else []) := by
  unfold replaceSecret
  by_cases h : HasNewSecret d
  · rw [if_pos h, secretChange?_of_new h]
    exact Op.attempts_call
      (.changeSecret d.id (some (oldSecret d)) d.desired.clientSecret d.desired.zone)
  · rw [if_neg h, secretChange?_of_not_new h]
    exact Op.attempts_pure ()

/-- If the declaration is complete, the calls are made, and the last one gives the record. -/
theorem updating_attempts (s : Session) {d : Snapshot Client} (h : ¬IsIncomplete d.desired)
    (c : Connection) :
    let run := (updating s d).runOn c
    ∃ xs, Advanced c xs run.2 ∧ Attempted s (updateCalls d) xs (run.1.map fun _ => ()) ∧
      ∀ record, run.1 = .ok record → ∃ x, xs.getLast? = some x ∧ x.outcome.Gives record := by
  intro run
  -- The check passes, and what is left are the changes, which may fail, and the reading.
  have hrun : run = (do
      (do replaceSettings s.endpoint d; replaceSecret s.endpoint d : Op Unit)
      (ManagerCall.getClient d.id d.desired.zone).op s : Op Wire.Client).runOn c := by
    show Op.runOn (updating s d) c = _
    rw [updating, check_of_complete h, Op.runOn_bind_of_ok (Op.runOn_ofExcept _ c), bind_assoc]
    rfl
  rw [hrun]
  obtain ⟨xs, hadv, hattempted, hlast⟩ :=
    ((replaceSettings_attempts s d).bind fun _ => replaceSecret_attempts s d).last
      (.getClient d.id d.desired.zone) c
  refine ⟨xs, hadv, hattempted, fun record hrecord => ?_⟩
  obtain ⟨x, hx, hends⟩ := hlast record hrecord
  exact ⟨x, hx, hends.gives⟩

end Lifecycle.Client

open Lifecycle.Client in
/-- An update of a client whose declaration is incomplete says so and sends nothing. Any other one
makes its calls in a row and in the zone of the client: it replaces the settings if they differ, by
the record of the declaration without its secret; changes the secret if there is a new one, naming
the old one if that is known; and reads the client back. What is sent are the first of their
messages. What is read back goes into the snapshot, which a failure leaves as it is. -/
theorem client_update_sends (s : Session) (d : Snapshot Declared.Client) (c : Connection) :
    let run := (update s).runOn d c
    (IsIncomplete d.desired → ∃ why, run = (.error (.validation why), d, c)) ∧
    (¬IsIncomplete d.desired → ∃ xs rest,
      Users.Advanced c xs run.2.2 ∧ Attempted s (updateCalls d) xs run.1 ∧
      (updateCalls d).map AnyCall.sent
        = (if SettingsDiffer d then
            [(.put, "/oauth/clients/" ++ d.id,
              .json (.object (textMember "client_id" d.id ++ rest)))] else []) ++
          (if HasNewSecret d then
            [(.put, "/oauth/clients/" ++ d.id ++ "/secret", .json (.object
              (textMember "oldSecret" (oldSecret d) ++
                [("secret", .text d.desired.clientSecret)])))] else []) ++
          [(.get, "/oauth/clients/" ++ d.id, .empty)] ∧
      xs.map (·.request.message) <+: ((updateCalls d).map AnyCall.sent).map s.endpoint.message ∧
      JsonForm.write d.desired.toWire = .object (textMember "client_id" d.desired.clientId ++
        textMember "client_secret" d.desired.clientSecret ++ rest) ∧
      (∀ m ∈ rest, m.1 ≠ "client_id" ∧ m.1 ≠ "client_secret") ∧
      (∀ x ∈ xs, x.request.headers.get? "x-identity-zone-id"
        = some ((s.endpoint.headers.get? "x-identity-zone-id").getD
            (if d.desired.zoneId = "" then "uaa" else d.desired.zoneId))) ∧
      (∀ f, run.1 = .error f → run.2.1 = d) ∧
      (run.1 = .ok () → ∃ x record, xs.getLast? = some x ∧ x.outcome.Gives record ∧
        run.2.1 = { d with desired := d.desired.absorb record })) := by
  intro run
  have hrun : run = (update s).runOn d c := rfl
  rw [update_eq_writing, Handler.runOn_writing] at hrun
  refine ⟨fun hincomplete => ?_, fun hcomplete => ?_⟩
  · obtain ⟨why, hwhy⟩ := check_of_incomplete hincomplete
    rw [updating, hwhy, Op.runOn_bind_of_error (Op.runOn_ofExcept _ c)] at hrun
    exact ⟨why, hrun⟩
  · obtain ⟨xs, hadv, hattempted, hlast⟩ := updating_attempts s hcomplete c
    rcases hop : (updating s d).runOn c with ⟨r, c'⟩
    rw [hop] at hrun hadv hattempted hlast
    -- All calls of the update go to the zone of the client.
    have hzone : ∀ x ∈ xs, x.request.headers.get? "x-identity-zone-id"
        = some ((s.endpoint.headers.get? "x-identity-zone-id").getD d.desired.zone) := by
      intro x hx
      obtain ⟨call, hmem, hrequest⟩ := hattempted.exists_call hx
      have hheader := Endpoint.zone_of_request hrequest
      rwa [endpoint_of_updateCalls s hmem] at hheader
    have hrest := fun m (hm : m ∈ otherMembers d.desired.toWire) => name_of_mem_otherMembers hm
    cases r with
    | error f =>
      rw [hrun]
      exact ⟨xs, _, hadv, hattempted, sent_updateCalls d, hattempted.messages, write_client _,
        hrest, hzone, fun _ _ => rfl, fun h => absurd h (by simp)⟩
    | ok record =>
      rw [hrun]
      refine ⟨xs, _, hadv, hattempted, sent_updateCalls d, hattempted.messages, write_client _,
        hrest, hzone, fun _ h => absurd h (by simp), fun _ => ?_⟩
      obtain ⟨x, hx, hgives⟩ := hlast record rfl
      exact ⟨x, record, hx, hgives, rfl⟩

end UaaAdmin
