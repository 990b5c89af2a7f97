import UaaAdmin.Proofs.ClientRecords
import UaaAdmin.Proofs.Keeping
import UaaAdmin.Proofs.SessionRequests
import UaaAdmin.Proofs.ZoneNormal

/-!
# Applying a declaration again

An object is created, read, and applied once more in the state that it is in then
(`Lifecycle.apply`). It settles if all of this succeeds and the declared state comes out of it as it
was (`Applied.Settles`).

The payoff is `applying_converges`: on a server that keeps what it is sent (`Keeps`) objects settle,
and applying them once more changes nothing. It cannot be so for declarations that have their record
in common with another one: clients of which a set looks like the marker of an empty one, and zones
that are not in normal form.
-/

namespace UaaAdmin

variable {M R : Type}

/-! ## Exchanges are only added -/

theorem Connection.isPrefix_of_log {c c' : Connection} {P : List Net.Exchange → Prop}
    (h : ∃ xs, c'.network.log = c.network.log ++ xs ∧ P xs) :
    c.network.log <+: c'.network.log := by
  obtain ⟨xs, hlog, -⟩ := h
  exact ⟨xs, hlog.symm⟩

/-- A step of an operation comes before what follows it. -/
theorem Op.isPrefix_bind {α β : Type} {P : Net.Exchange → Prop} {op : Op α} {f : α → Op β}
    (hf : ∀ a, (f a).Makes P) (c : Connection) :
    (op.runOn c).2.network.log <+: ((op >>= f).runOn c).2.network.log := by
  rw [Op.runOn_bind]
  rcases op.runOn c with ⟨e | a, c₁⟩
  · exact List.prefix_rfl
  · exact Connection.isPrefix_of_log (hf a c₁)

/-! ## Applying twice -/

/-- What comes of an object that is created, read, and applied once more as it is then. -/
structure Applied (M : Type) where
  created : Except Fault Unit × Snapshot M × Connection
  reread : Except Fault Unit × Snapshot M × Connection
  reapplied : Except Fault Unit × Snapshot M × Connection

/-- Creates an object, reads it, and applies the state that it is in then once more. -/
def Lifecycle.apply (l : Lifecycle M) (s : Session) (d : Snapshot M) (c : Connection) :
    Applied M :=
  let created := (l.create s).runOn d c
  let reread := (l.read s).runOn created.2.1 created.2.2
  let settled := Snapshot.existing reread.2.1.id reread.2.1.desired
  ⟨created, reread, (l.update s).runOn settled reread.2.2⟩

namespace Applied

/-- All of it succeeds, and the declared state comes out as it was. -/
structure Settles (a : Applied M) (m : M) : Prop where
  created : a.created.1 = .ok ()
  reread : a.reread.1 = .ok ()
  found : a.reread.2.1.desired = m
  reapplied : a.reapplied.1 = .ok ()
  kept : a.reapplied.2.1.desired = m

/-- The exchanges of all of it. -/
def exchanges (a : Applied M) (c : Connection) : List Net.Exchange := c.since a.reapplied.2.2

/-- The exchanges of applying the state again. -/
def repeated (a : Applied M) : List Net.Exchange := a.reread.2.2.since a.reapplied.2.2

end Applied

/-- Applying settles if a creation gives the state that was declared, a read gives it again, and so
does an update to the same state, of whose exchanges `Q` holds. -/
theorem Lifecycle.settles_of_keeps [JsonForm R] {k : Keeping R} {l : Lifecycle M} {s : Session}
    {d : Snapshot M} {c : Connection} (sent : R) (Q : String → List Net.Exchange → Prop)
    (hgrow : ∀ (step : Step) (d : Snapshot M) (c : Connection),
      c.network.log <+: (step.after l s d c).network.log)
    (hcreate : ∀ c', ((l.create s).runOn d c).2.2.network.log <+: c'.network.log →
      Keeps k none (c.since c') → ∃ d' c₁, (l.create s).runOn d c = (.ok (), d', c₁) ∧
        d'.desired = d.desired ∧ Keeps k (some sent) (c₁.since c'))
    (hread : ∀ d' c₁ c', d'.desired = d.desired →
      ((l.read s).runOn d' c₁).2.2.network.log <+: c'.network.log →
      Keeps k (some sent) (c₁.since c') → ∃ c₂, (l.read s).runOn d' c₁ = (.ok (), d', c₂) ∧
        Keeps k (some sent) (c₂.since c'))
    (hupdate : ∀ id c₂, let run := (l.update s).runOn (.existing id d.desired) c₂
      Keeps k (some sent) (c₂.since run.2.2) →
      run.1 = .ok () ∧ run.2.1.desired = d.desired ∧ Q id (c₂.since run.2.2))
    (hkeeps : Keeps k none ((l.apply s d c).exchanges c)) :
    (l.apply s d c).Settles d.desired ∧
      Q (l.apply s d c).reread.2.1.id (l.apply s d c).repeated := by
  -- `Keeps` is about the log of the whole run, so each step has to lie before its end.
  have hlater₂ : (l.apply s d c).reread.2.2.network.log
      <+: (l.apply s d c).reapplied.2.2.network.log := hgrow .update _ _
  have hlater₁ : (l.apply s d c).created.2.2.network.log
      <+: (l.apply s d c).reapplied.2.2.network.log := (hgrow .read _ _).trans hlater₂
  obtain ⟨d', c₁, hcreated, hd', hkept₁⟩ := hcreate _ hlater₁ hkeeps
  have hreread : (l.apply s d c).reread = (l.read s).runOn d' c₁ := by
    show (l.read s).runOn ((l.create s).runOn d c).2.1 ((l.create s).runOn d c).2.2 = _
    rw [hcreated]
  rw [hreread] at hlater₂
  obtain ⟨c₂, hfound, hkept₂⟩ := hread d' c₁ _ hd' hlater₂ hkept₁
  have hreapplied : (l.apply s d c).reapplied
      = (l.update s).runOn (.existing d'.id d.desired) c₂ := by
    show (l.update s).runOn (.existing (l.apply s d c).reread.2.1.id
      (l.apply s d c).reread.2.1.desired) (l.apply s d c).reread.2.2 = _
    rw [hreread, hfound, ← hd']
  rw [hreapplied] at hkept₂
  obtain ⟨hok, hsame, hQ⟩ := hupdate d'.id c₂ hkept₂
  refine ⟨⟨congrArg Prod.fst hcreated, ?_, ?_, ?_, ?_⟩, ?_⟩
  · rw [hreread, hfound]
  · rw [hreread, hfound]
    exact hd'
  · rw [hreapplied]
    exact hok
  · rw [hreapplied]
    exact hsame
  · unfold Applied.repeated
    rw [hreapplied, hreread, hfound]
    exact hQ

/-! ## Clients -/

namespace Lifecycle.Client

open Declared (Client)

/-- A server may leave the secret out. -/
def keeping : Keeping Wire.Client where
  stored record answer := answer = record ∨ answer = { record with clientSecret := "" }
  shown record answer := answer = record ∨ answer = { record with clientSecret := "" }

/-- The client is acceptable, names its zone, and no set of it looks like the marker of an empty
one. -/
structure IsPlain (m : Client) : Prop where
  check : m.check = .ok ()
  zone : m.zoneId ≠ ""
  scope : m.scope ≠ NameSet.ofList ["uaa.none"]
  authorities : m.authorities ≠ NameSet.ofList ["uaa.none"]
  resourceIds : m.resourceIds ≠ NameSet.ofList ["none"]

/-- A plain client comes out of its record as it is, with or without the secret. -/
theorem absorb_of_shown {m : Client} (hplain : IsPlain m) {answer : Wire.Client}
    (h : keeping.shown m.toWire answer) : m.absorb answer = m := by
  have hsecret : m.absorb answer = m.absorb m.toWire := by
    rcases h with rfl | rfl <;> rfl
  rw [hsecret, Declared.Client.absorb_toWire]
  unfold Declared.Client.unmarked
  rw [if_neg hplain.scope, if_neg hplain.authorities, if_neg hplain.resourceIds]

theorem zone_of_isPlain {m : Client} (hplain : IsPlain m) : m.zone = m.zoneId := if_neg hplain.zone

variable {s : Session} {t : String} {d : Snapshot Client} {c c' : Connection}

/-- A plain client that the server keeps is read as it is declared. -/
theorem read_of_keeps (hs : s.Bears t) (ht : Net.Header.isValue t = true) {m : Client}
    (hplain : IsPlain m) (hzone : Net.Header.isValue m.zoneId = true) (hd : d.desired = m)
    (hlater : ((read s).runOn d c).2.2.network.log <+: c'.network.log)
    (hkeeps : Keeps keeping (some m.toWire) (c.since c')) :
    ∃ x c₁, (read s).runOn d c = (.ok (), d, c₁) ∧ c₁.network.log = c.network.log ++ [x] ∧
      x.request.method = .get ∧ Keeps keeping (some m.toWire) (c₁.since c') := by
  subst hd
  obtain ⟨r, hr⟩ := hs.request_ok ht hzone .get (Clients.pathOf d.id) .empty
  have hasked : Asked (.ok r) c ((Clients.get s.endpoint d.id d.desired.zone).runOn c) := by
    rw [zone_of_isPlain hplain, ← hr]
    exact Endpoint.asked _ .get _ _ c
  rw [read_eq] at hlater ⊢
  obtain ⟨x, answer, c₁, hrun, hlog, hx, hshown, hrest⟩ :=
    Handler.writing_of_shown hasked (Endpoint.request_eq_ok hr).1 hlater hkeeps
  refine ⟨x, c₁, ?_, hlog, ?_, hrest⟩
  · rw [hrun]
    show (Except.ok (), { d with desired := d.desired.absorb answer }, c₁) = _
    rw [absorb_of_shown hplain hshown]
  · rw [hx]
    exact (Endpoint.request_eq_ok hr).1

/-- A plain client that is created on a server that keeps it is as it is declared. -/
theorem create_of_keeps (hs : s.Bears t) (ht : Net.Header.isValue t = true)
    (hplain : IsPlain d.desired) (hzone : Net.Header.isValue d.desired.zoneId = true)
    (hlater : ((create s).runOn d c).2.2.network.log <+: c'.network.log)
    (hkeeps : Keeps keeping none (c.since c')) :
    ∃ d' c₁, (create s).runOn d c = (.ok (), d', c₁) ∧ d'.desired = d.desired ∧
      Keeps keeping (some d.desired.toWire) (c₁.since c') := by
  let content := Net.Content.json (JsonForm.write d.desired.toWire)
  obtain ⟨r, hr⟩ := hs.request_ok ht hzone .post Clients.collection content
  obtain ⟨hmethod, -, hcontent⟩ := Endpoint.request_eq_ok hr
  have hasked : Asked (.ok r) c ((register s d).runOn c) := by
    unfold register
    rw [hplain.check, Op.runOn_bind_of_ok (Op.runOn_ofExcept _ c), zone_of_isPlain hplain, ← hr]
    exact Endpoint.asked_create _ _ _ _ _ c
  have hrecord : r.content.record? = some d.desired.toWire := by
    rw [hcontent]
    exact Net.Content.record?_write _ rfl
  -- The read that follows the registration is part of the creation.
  have hafter : ((register s d).runOn c).2.network.log <+: c'.network.log := by
    have hread (record : Wire.Client) :
        (Clients.get s.endpoint record.clientId d.desired.zone).Makes fun _ => True :=
      Op.makes_ask fun _ _ => trivial
    rw [connection_create] at hlater
    exact (Op.isPrefix_bind hread c).trans hlater
  obtain ⟨x, answer, c₁, hrun, hlog, -, hstored, hrest⟩ :=
    hasked.of_stored (by rw [hmethod]; decide) hrecord hafter hkeeps
  have hplaced : { d.desired with zoneId := d.desired.zone } = d.desired := by
    rw [zone_of_isPlain hplain]
  let d' : Snapshot Client := ⟨answer.clientId, d.prior, d.desired⟩
  have hcreate : (create s).runOn d c = (read s).runOn d' c₁ := by
    rw [runOn_create, hrun]
    dsimp only
    rw [hplaced]
  rw [hcreate] at hlater ⊢
  have hd' : d'.desired = d.desired := rfl
  obtain ⟨y, c₂, hread, -, -, hkept⟩ := read_of_keeps hs ht hplain hzone hd' hlater hrest
  exact ⟨d', c₂, hread, rfl, hkept⟩

/-- A client that is to stay as it is is only read. -/
theorem runOn_update_existing (s : Session) (id : String) {m : Client} (hcheck : m.check = .ok ())
    (c : Connection) :
    (update s).runOn (.existing id m) c = (read s).runOn (.existing id m) c := by
  -- Prior and desired state are one, so neither the settings nor the secret are sent.
  have hsettings : settingsDiffer (.existing id m) = false := bne_self_eq_false m.settings
  have hsecret : secretChange? (.existing id m) = none := by
    have hnone : (Snapshot.existing id m).change (·.clientSecret) = none :=
      (Snapshot.change_eq_none_iff _ _).mpr rfl
    unfold secretChange?
    rw [hnone]
    rfl
  have hcheck' : (Snapshot.existing id m).desired.check = .ok () := hcheck
  rw [update_eq, read_eq, Handler.runOn_writing, Handler.runOn_writing]
  unfold replaceSettings replaceSecret
  rw [hcheck', hsettings, hsecret]
  rfl

/-- A plain client settles on a server that keeps it, and is only read when it is applied again. -/
theorem settles (hs : s.Bears t) (ht : Net.Header.isValue t = true) (hplain : IsPlain d.desired)
    (hzone : Net.Header.isValue d.desired.zoneId = true)
    (hkeeps : Keeps keeping none ((handlers.apply s d c).exchanges c)) :
    (handlers.apply s d c).Settles d.desired ∧
      ∀ x ∈ (handlers.apply s d c).repeated, x.request.method = .get := by
  refine Lifecycle.settles_of_keeps d.desired.toWire
    (fun _ xs => ∀ x ∈ xs, x.request.method = .get) ?grow ?create ?read ?update hkeeps
  case grow =>
    exact fun step d c => Connection.isPrefix_of_log (step_asks hs d c step)
  case create =>
    exact fun c' hlater hkept => create_of_keeps hs ht hplain hzone hlater hkept
  case read =>
    intro d' c₁ c' hd' hlater hkept
    obtain ⟨x, c₂, hrun, -, -, hrest⟩ := read_of_keeps hs ht hplain hzone hd' hlater hkept
    exact ⟨c₂, hrun, hrest⟩
  case update =>
    intro id c₂ run hkept
    have hrun : run = (read s).runOn (.existing id d.desired) c₂ :=
      runOn_update_existing s id hplain.check c₂
    have hlater : ((read s).runOn (.existing id d.desired) c₂).2.2.network.log
        <+: run.2.2.network.log := hrun ▸ List.prefix_rfl
    have hd : (Snapshot.existing id d.desired).desired = d.desired := rfl
    obtain ⟨x, c₃, hfound, hlog, hget, -⟩ := read_of_keeps hs ht hplain hzone hd hlater hkept
    have hlast : run = (.ok (), .existing id d.desired, c₃) := hrun.trans hfound
    refine ⟨congrArg Prod.fst hlast, congrArg (·.2.1.desired) hlast, ?_⟩
    rw [hlast, Connection.since_cons hlog List.prefix_rfl, Connection.since_self]
    intro y hy
    rwa [List.mem_singleton.mp hy]

end Lifecycle.Client

/-! ## Groups -/

namespace Lifecycle.Group

open Declared (Group)

/-- A server gives a group some id. -/
def keeping : Keeping Wire.Group := .identified (·.id) fun id record => { record with id }

/-- The record in which a group is sent. -/
def sent (m : Group) : Wire.Group :=
  { displayName := m.displayName, description := m.description, zoneId := m.zoneId }

/-- A group comes out of its record as it is, whatever the id. -/
theorem absorb_of_shown {m : Group} {answer : Wire.Group} (h : keeping.shown (sent m) answer) :
    m.absorb answer = m := by
  have hzone : Declared.reportedOr m.zoneId m.zoneId = m.zoneId := ite_self _
  have hanswer : answer = { sent m with id := answer.id } := h
  rw [hanswer]
  show (⟨m.displayName, m.description, Declared.reportedOr m.zoneId m.zoneId⟩ : Group) = m
  rw [hzone]

variable {s : Session} {t : String} {d : Snapshot Group} {c c' : Connection}

/-- A group that the server keeps is read as it is declared. -/
theorem read_of_keeps (hs : s.Bears t) (ht : Net.Header.isValue t = true) {m : Group}
    (hzone : Net.Header.isValue m.zoneId = true) (hd : d.desired = m)
    (hlater : ((read s).runOn d c).2.2.network.log <+: c'.network.log)
    (hkeeps : Keeps keeping (some (sent m)) (c.since c')) :
    ∃ c₁, (read s).runOn d c = (.ok (), d, c₁) ∧ Keeps keeping (some (sent m)) (c₁.since c') := by
  subst hd
  obtain ⟨r, hr⟩ := hs.request_ok ht hzone .get (Groups.pathOf d.id) .empty
  have hasked : Asked (.ok r) c ((Groups.get s.endpoint d.id d.desired.zoneId).runOn c) := by
    rw [← hr]
    exact Endpoint.asked _ .get _ _ c
  rw [read_eq] at hlater ⊢
  obtain ⟨-, answer, c₁, hrun, -, -, hshown, hrest⟩ :=
    Handler.writing_of_shown hasked (Endpoint.request_eq_ok hr).1 hlater hkeeps
  refine ⟨c₁, ?_, hrest⟩
  rw [hrun]
  show (Except.ok (), { d with desired := d.desired.absorb answer }, c₁) = _
  rw [absorb_of_shown hshown]

/-- A group that is created on a server that keeps it is as it is declared. -/
theorem create_of_keeps (hs : s.Bears t) (ht : Net.Header.isValue t = true)
    (hzone : Net.Header.isValue d.desired.zoneId = true)
    (hlater : ((create s).runOn d c).2.2.network.log <+: c'.network.log)
    (hkeeps : Keeps keeping none (c.since c')) :
    ∃ d' c₁, (create s).runOn d c = (.ok (), d', c₁) ∧ d'.desired = d.desired ∧
      Keeps keeping (some (sent d.desired)) (c₁.since c') := by
  obtain ⟨r, hr⟩ := hs.request_ok ht hzone .post Groups.collection
    (.json (JsonForm.write (sent d.desired)))
  obtain ⟨hmethod, -, hcontent⟩ := Endpoint.request_eq_ok hr
  have hasked : Asked (.ok r) c ((Groups.create s.endpoint d.desired.displayName
      d.desired.description d.desired.zoneId).runOn c) := by
    rw [← hr]
    exact Endpoint.asked_create _ _ _ _ _ c
  have hrecord : r.content.record? = some (sent d.desired) := by
    rw [hcontent]
    exact Net.Content.record?_write _ rfl
  rw [create_eq] at hlater ⊢
  obtain ⟨-, answer, c₁, hrun, -, -, hstored, hrest⟩ :=
    Handler.writing_of_stored hasked (by rw [hmethod]; decide) hrecord hlater hkeeps
  refine ⟨⟨answer.id, d.prior, d.desired⟩, c₁, ?_, rfl, hrest⟩
  rw [hrun]
  show (Except.ok (), (⟨answer.id, d.prior, d.desired.absorb answer⟩ : Snapshot Group), c₁) = _
  rw [absorb_of_shown hstored.2]

/-- Nothing is done about a group that is to stay as it is. -/
theorem runOn_update_existing (s : Session) (id : String) (m : Group) (c : Connection) :
    (update s).runOn (.existing id m) c = (.ok (), .existing id m, c) := by
  have hdiffers : differs (.existing id m) = false := by
    simp [differs, Snapshot.changedValue, Snapshot.differs, Snapshot.existing]
  rw [update_eq, Handler.runOn_writing]
  unfold replace?
  rw [hdiffers]
  rfl

/-- A group settles on a server that keeps it, and nothing is asked for when it is applied again. -/
theorem settles (hs : s.Bears t) (ht : Net.Header.isValue t = true)
    (hzone : Net.Header.isValue d.desired.zoneId = true)
    (hkeeps : Keeps keeping none ((handlers.apply s d c).exchanges c)) :
    (handlers.apply s d c).Settles d.desired ∧ (handlers.apply s d c).repeated = [] := by
  refine Lifecycle.settles_of_keeps (sent d.desired) (fun _ xs => xs = []) ?grow ?create ?read
    ?update hkeeps
  case grow =>
    exact fun step d c => Connection.isPrefix_of_log (step_asks hs d c step)
  case create =>
    exact fun c' hlater hkept => create_of_keeps hs ht hzone hlater hkept
  case read =>
    exact fun d' c₁ c' hd' hlater hkept => read_of_keeps hs ht hzone hd' hlater hkept
  case update =>
    intro id c₂ run _
    have hrun : run = (.ok (), .existing id d.desired, c₂) := runOn_update_existing s id _ c₂
    rw [hrun]
    exact ⟨rfl, rfl, Connection.since_self c₂⟩

end Lifecycle.Group

/-! ## Zones -/

namespace Lifecycle.Zone

open Declared (Zone)

/-- A server gives a zone some id. -/
def keeping : Keeping Wire.Zone := .identified (·.id) fun id record => { record with id }

/-- A zone in normal form comes out of its record as it is, whatever the id. -/
theorem ofWire_of_shown {m : Zone} (hnormal : m.IsNormal) {id : String} {answer : Wire.Zone}
    (h : keeping.shown (m.toWire id) answer) : Zone.ofWire answer = m := by
  have hanswer : answer = m.toWire answer.id := h
  rw [hanswer, Declared.Zone.ofWire_toWire_eq_normal, m.normal_eq_self_iff.mpr hnormal]

variable {s : Session} {t : String} {d : Snapshot Zone} {c c' : Connection}

/-- A zone in normal form is read as it is declared. -/
theorem read_of_keeps (hs : s.Bears t) (ht : Net.Header.isValue t = true) {m : Zone}
    (hnormal : m.IsNormal) {id : String} (hd : d.desired = m)
    (hlater : ((read s).runOn d c).2.2.network.log <+: c'.network.log)
    (hkeeps : Keeps keeping (some (m.toWire id)) (c.since c')) :
    ∃ c₁, (read s).runOn d c = (.ok (), d, c₁) ∧
      Keeps keeping (some (m.toWire id)) (c₁.since c') := by
  subst hd
  obtain ⟨r, hr⟩ := hs.request_ok_outside ht .get (Zones.pathOf d.id) .empty
  have hasked : Asked (.ok r) c ((Zones.get s.endpoint d.id).runOn c) := by
    rw [← hr]
    exact Endpoint.asked _ .get _ _ c
  rw [read_eq] at hlater ⊢
  obtain ⟨-, answer, c₁, hrun, -, -, hshown, hrest⟩ :=
    Handler.writing_of_shown hasked (Endpoint.request_eq_ok hr).1 hlater hkeeps
  refine ⟨c₁, ?_, hrest⟩
  rw [hrun]
  show (Except.ok (), { d with desired := Zone.ofWire answer }, c₁) = _
  rw [ofWire_of_shown hnormal hshown]

/-- A zone in normal form that is created on a server that keeps it is as it is declared. -/
theorem create_of_keeps (hs : s.Bears t) (ht : Net.Header.isValue t = true)
    (hnormal : d.desired.IsNormal)
    (hlater : ((create s).runOn d c).2.2.network.log <+: c'.network.log)
    (hkeeps : Keeps keeping none (c.since c')) :
    ∃ d' c₁, (create s).runOn d c = (.ok (), d', c₁) ∧ d'.desired = d.desired ∧
      Keeps keeping (some (d.desired.toWire d.id)) (c₁.since c') := by
  obtain ⟨r, hr⟩ := hs.request_ok_outside ht .post Zones.collection
    (.json (JsonForm.write (d.desired.toWire d.id)))
  obtain ⟨hmethod, -, hcontent⟩ := Endpoint.request_eq_ok hr
  have hasked : Asked (.ok r) c ((Zones.create s.endpoint (d.desired.toWire d.id)).runOn c) := by
    rw [← hr]
    exact Endpoint.asked_create _ _ _ _ _ c
  have hrecord : r.content.record? = some (d.desired.toWire d.id) := by
    rw [hcontent]
    exact Net.Content.record?_write _ rfl
  rw [create_eq] at hlater ⊢
  obtain ⟨-, answer, c₁, hrun, -, -, hstored, hrest⟩ :=
    Handler.writing_of_stored hasked (by rw [hmethod]; decide) hrecord hlater hkeeps
  refine ⟨⟨answer.id, d.prior, d.desired⟩, c₁, ?_, rfl, hrest⟩
  rw [hrun]
  show (Except.ok (), (⟨answer.id, d.prior, Zone.ofWire answer⟩ : Snapshot Zone), c₁) = _
  rw [ofWire_of_shown hnormal hstored.2]

/-- The exchanges are one replacement of the zone by what it is declared as. -/
def ReplacedOnce (s : Session) (m : Zone) (id : String) (xs : List Net.Exchange) : Prop :=
  ∃ x, xs = [x] ∧ x.request.method = .put ∧
    x.request.url = s.endpoint.urlOf ("/identity-zones/" ++ id) ∧
    x.request.content = .json (JsonForm.write (m.toWire id))

/-- A zone in normal form that is to stay as it is is sent once, and stays as it is. -/
theorem update_of_keeps (hs : s.Bears t) (ht : Net.Header.isValue t = true) {m : Zone}
    (hnormal : m.IsNormal) (id : String) {last : Option Wire.Zone} (c : Connection)
    (hkeeps : Keeps keeping last (c.since ((update s).runOn (.existing id m) c).2.2)) :
    ∃ c₁, (update s).runOn (.existing id m) c = (.ok (), .existing id m, c₁) ∧
      ReplacedOnce s m id (c.since c₁) := by
  obtain ⟨r, hr⟩ := hs.request_ok_outside ht .put (Zones.pathOf id)
    (.json (JsonForm.write (m.toWire id)))
  obtain ⟨hmethod, hurl, hcontent⟩ := Endpoint.request_eq_ok hr
  have hasked : Asked (.ok r) c ((Zones.update s.endpoint id (m.toWire id)).runOn c) := by
    rw [← hr]
    exact Endpoint.asked _ .put _ _ c
  have hrecord : r.content.record? = some (m.toWire id) := by
    rw [hcontent]
    exact Net.Content.record?_write _ rfl
  rw [update_eq] at hkeeps ⊢
  obtain ⟨x, answer, c₁, hrun, hlog, rfl, hstored, -⟩ :=
    Handler.writing_of_stored (d := .existing id m) hasked (by rw [hmethod]; decide) hrecord
      List.prefix_rfl hkeeps
  refine ⟨c₁, ?_, x, ?_, hmethod, hurl, hcontent⟩
  · rw [hrun]
    show (Except.ok (), (⟨id, some m, Zone.ofWire answer⟩ : Snapshot Zone), c₁) = _
    rw [ofWire_of_shown hnormal hstored.2]
    rfl
  · rw [Connection.since_cons hlog List.prefix_rfl, Connection.since_self]

/-- A zone in normal form settles on a server that keeps it, and is sent once when it is applied
again. -/
theorem settles (hs : s.Bears t) (ht : Net.Header.isValue t = true)
    (hnormal : d.desired.IsNormal)
    (hkeeps : Keeps keeping none ((handlers.apply s d c).exchanges c)) :
    (handlers.apply s d c).Settles d.desired ∧
      ReplacedOnce s d.desired (handlers.apply s d c).reread.2.1.id
        (handlers.apply s d c).repeated := by
  refine Lifecycle.settles_of_keeps (d.desired.toWire d.id) (ReplacedOnce s d.desired) ?grow
    ?create ?read ?update hkeeps
  case grow =>
    exact fun step d c => Connection.isPrefix_of_log (step_asks hs d c step)
  case create =>
    exact fun c' hlater hkept => create_of_keeps hs ht hnormal hlater hkept
  case read =>
    exact fun d' c₁ c' hd' hlater hkept => read_of_keeps hs ht hnormal hd' hlater hkept
  case update =>
    intro id c₂ run hkept
    obtain ⟨c₃, hrun, hput⟩ := update_of_keeps hs ht hnormal id c₂ hkept
    have hlast : run = (.ok (), .existing id d.desired, c₃) := hrun
    rw [hlast]
    exact ⟨rfl, rfl, hput⟩

end Lifecycle.Zone

/-! ## All of them -/

/-- On a server that keeps what it is sent, an object that is created and read comes out as it was
declared, and applying that state once more succeeds and leaves it as it is. For that a client is
only read and a group is not asked for at all, while a zone is sent once more as it is. It is so for
every plain client, every group, and every zone in normal form. -/
theorem Lifecycle.applying_converges {s : Session} {t : String} (hs : s.Bears t)
    (ht : Net.Header.isValue t = true) (c : Connection) :
    (∀ d : Snapshot Declared.Client, Client.IsPlain d.desired →
      Net.Header.isValue d.desired.zoneId = true →
      Keeps Client.keeping none ((Client.handlers.apply s d c).exchanges c) →
      (Client.handlers.apply s d c).Settles d.desired ∧
        ∀ x ∈ (Client.handlers.apply s d c).repeated, x.request.method = .get) ∧
    (∀ d : Snapshot Declared.Group, Net.Header.isValue d.desired.zoneId = true →
      Keeps Group.keeping none ((Group.handlers.apply s d c).exchanges c) →
      (Group.handlers.apply s d c).Settles d.desired ∧
        (Group.handlers.apply s d c).repeated = []) ∧
    ∀ d : Snapshot Declared.Zone, d.desired.IsNormal →
      Keeps Zone.keeping none ((Zone.handlers.apply s d c).exchanges c) →
      (Zone.handlers.apply s d c).Settles d.desired ∧
        Zone.ReplacedOnce s d.desired (Zone.handlers.apply s d c).reread.2.1.id
          (Zone.handlers.apply s d c).repeated :=
  ⟨fun _ hplain hzone hkeeps => Client.settles hs ht hplain hzone hkeeps,
    fun _ hzone hkeeps => Group.settles hs ht hzone hkeeps,
    fun _ hnormal hkeeps => Zone.settles hs ht hnormal hkeeps⟩

namespace Lifecycle

/-- A session with a server at some address. -/
def administering : Session :=
  ⟨⟨"", "", "", "", none, false, none, {}⟩, ⟨""⟩, ⟨"http://h", "bearer t", "", ∅⟩, "bearer t"⟩

/-- A connection on which the answers are these records. -/
def answeringWith [JsonForm R] (records : List R) : Connection :=
  { network :=
      { replies := records.map fun record => some ⟨200, (JsonForm.write record).bytes⟩ } }

/-- A client of which one set holds more than a marker. -/
def declaredClient : Snapshot Declared.Client :=
  .new {
    clientId := "c"
    clientSecret := "s"
    scope := NameSet.ofList ["uaa.none", "b"]
    zoneId := "z" }

def declaredGroup : Snapshot Declared.Group := .new { displayName := "\"é\"", zoneId := "z" }

/-- A zone with links in order. -/
def declaredZone : Snapshot Declared.Zone :=
  .new {
    name := "n"
    prompts := [⟨"p", "password", ""⟩]
    branding := some { footerLinks := [⟨"a", "2"⟩, ⟨"b", "1"⟩] } }

/-- The server leaves the secret out when it shows the client. -/
def keepingClient : Connection :=
  let record := declaredClient.desired.toWire
  let shown := { record with clientSecret := "" }
  answeringWith [record, shown, shown, shown]

def keepingGroup : Connection :=
  let record := { Group.sent declaredGroup.desired with id := "i" }
  answeringWith [record, record]

def keepingZone : Connection :=
  let record := declaredZone.desired.toWire "i"
  answeringWith [record, record, record]

theorem keeps_client : Keeps Client.keeping none
    ((Client.handlers.apply administering declaredClient keepingClient).exchanges keepingClient) :=
  by decide +kernel

theorem keeps_group : Keeps Group.keeping none
    ((Group.handlers.apply administering declaredGroup keepingGroup).exchanges keepingGroup) := by
  decide +kernel

theorem keeps_zone : Keeps Zone.keeping none
    ((Zone.handlers.apply administering declaredZone keepingZone).exchanges keepingZone) := by
  decide +kernel

theorem applying_converges_administering :
    (let a := Client.handlers.apply administering declaredClient keepingClient
     a.Settles declaredClient.desired ∧ ∀ x ∈ a.repeated, x.request.method = .get) ∧
    (let a := Group.handlers.apply administering declaredGroup keepingGroup
     a.Settles declaredGroup.desired ∧ a.repeated = []) ∧
    let a := Zone.handlers.apply administering declaredZone keepingZone
    a.Settles declaredZone.desired ∧
      Zone.ReplacedOnce administering declaredZone.desired a.reread.2.1.id a.repeated := by
  have hs : administering.Bears "bearer t" := ⟨rfl, rfl, rfl, rfl⟩
  have ht : Net.Header.isValue "bearer t" = true := by decide +kernel
  have hplain : Client.IsPlain declaredClient.desired :=
    ⟨by decide +kernel, by decide, by decide +kernel, by decide +kernel, by decide +kernel⟩
  have hnormal : declaredZone.desired.IsNormal :=
    ⟨by decide +kernel, by decide, by decide +kernel, by decide +kernel⟩
  obtain ⟨hclient, -, -⟩ := applying_converges hs ht keepingClient
  obtain ⟨-, hgroup, -⟩ := applying_converges hs ht keepingGroup
  obtain ⟨-, -, hzone⟩ := applying_converges hs ht keepingZone
  exact ⟨hclient declaredClient hplain (by decide +kernel) keeps_client,
    hgroup declaredGroup (by decide +kernel) keeps_group, hzone declaredZone hnormal keeps_zone⟩

end Lifecycle

end UaaAdmin
