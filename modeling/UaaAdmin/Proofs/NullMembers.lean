import UaaAdmin.Proofs.FieldReading
import UaaAdmin.Proofs.Keeping
import UaaAdmin.Proofs.ManagerCalls
import UaaAdmin.Proofs.RoleSync

/-!
# Answers that hold lists

Two answers may differ only in that members, at any depth, are `null` in one and missing in the
other (`NullsApart`). A form that makes no difference between the two (`IgnoresNulls`) reads the
same from both. The forms of clients, groups and users do, and the envelope of a list does but for
one case: a list that is `null` is not read, while a missing one is empty
(`Wire.Listing.read?_apart`).

So `list_answers_apart` says that every look-up ends in the same way with both answers, and that the
operations that return the whole list do unless the list itself is `null` in one of them. That this
exception is needed is seen from `null_list_not_empty`.
-/

namespace UaaAdmin

variable {α β σ : Type}

/-! ## Null and missing members -/

/-- The two values differ only in that members of objects, at any depth, are `null` in one and
missing in the other. -/
inductive NullsApart : Json → Json → Prop
  | refl (v : Json) : NullsApart v v
  | symm {v w : Json} (h : NullsApart v w) : NullsApart w v
  | trans {v w x : Json} (h : NullsApart v w) (h' : NullsApart w x) : NullsApart v x
  | null {name : String} {xs ys : List (String × Json)} (h : name ∉ (xs ++ ys).map Prod.fst) :
    NullsApart (.object (xs ++ ys)) (.object (xs ++ (name, .null) :: ys))
  | member {v w : Json} (h : NullsApart v w) (name : String) (xs ys : List (String × Json)) :
    NullsApart (.object (xs ++ (name, v) :: ys)) (.object (xs ++ (name, w) :: ys))
  | item {v w : Json} (h : NullsApart v w) (xs ys : List Json) :
    NullsApart (.array (xs ++ v :: ys)) (.array (xs ++ w :: ys))

theorem NullsApart.eq_null_iff {v w : Json} (h : NullsApart v w) : v = .null ↔ w = .null := by
  induction h with
  | refl => exact Iff.rfl
  | symm h ih => exact ih.symm
  | trans h h' ih ih' => exact ih.trans ih'
  | _ => exact iff_of_false (by simp) (by simp)

/-! ## Forms -/

/-- A form that makes no difference between members that are `null` and missing ones. -/
class IgnoresNulls (α : Type) [JsonForm α] : Prop where
  read?_eq : ∀ {v w : Json}, NullsApart v w → JsonForm.read? (α := α) v = JsonForm.read? w

namespace IgnoresNulls

/-- What is read neither from objects nor from arrays does not depend on members. -/
theorem of_atoms [JsonForm α] (hobject : ∀ ms, JsonForm.read? (α := α) (.object ms) = none)
    (harray : ∀ vs, JsonForm.read? (α := α) (.array vs) = none) : IgnoresNulls α where
  read?_eq h := by
    induction h with
    | refl => rfl
    | symm h ih => exact ih.symm
    | trans h h' ih ih' => exact ih.trans ih'
    | null h => rw [hobject, hobject]
    | member h name xs ys => rw [hobject, hobject]
    | item h xs ys => rw [harray, harray]

instance : IgnoresNulls String := of_atoms (fun _ => rfl) fun _ => rfl

instance : IgnoresNulls Bool := of_atoms (fun _ => rfl) fun _ => rfl

instance : IgnoresNulls Int64 := of_atoms (fun _ => rfl) fun _ => rfl

instance [JsonForm α] [IgnoresNulls α] : IgnoresNulls (List α) where
  read?_eq h := by
    induction h with
    | refl => rfl
    | symm h ih => exact ih.symm
    | trans h h' ih ih' => exact ih.trans ih'
    | null h => rfl
    | member h name xs ys => rfl
    | @item v w h xs ys =>
      show (xs ++ v :: ys).mapM JsonForm.read? = (xs ++ w :: ys).mapM JsonForm.read?
      rw [List.mapM_append, List.mapM_append, List.mapM_cons, List.mapM_cons, read?_eq h]

end IgnoresNulls

/-! ## Slots and layouts -/

/-- A slot that makes no difference between members that are `null` and missing ones, neither in
what stands in it nor below. -/
class Slot.IgnoresNulls (slot : Slot α) : Prop extends slot.Plain where
  read?_eq : ∀ {v w : Json}, NullsApart v w → slot.read? v = slot.read? w

namespace Slot

theorem ignoresNulls_nullable [JsonForm α] [UaaAdmin.IgnoresNulls α] (default : α)
    (omits : α → Bool) : IgnoresNulls (nullable default omits) where
  toPlain := plain_nullable default omits
  read?_eq h := read?_nullable_congr _ _ h.eq_null_iff (UaaAdmin.IgnoresNulls.read?_eq h)

variable [JsonForm α] [UaaAdmin.IgnoresNulls α]

instance [Inhabited α] : IgnoresNulls (always : Slot α) := ignoresNulls_nullable _ _

instance [Inhabited α] [DecidableEq α] : IgnoresNulls (sparse : Slot α) := ignoresNulls_nullable _ _

instance : IgnoresNulls (required : Slot String) where
  read?_eq h := UaaAdmin.IgnoresNulls.read?_eq h

end Slot

namespace Layout

/-- Fields whose slots all make no difference between members that are `null` and missing ones. -/
class IgnoresNulls (fs : List (Field σ)) : Prop where
  slots : ∀ f ∈ fs, f.slot.IgnoresNulls

instance : IgnoresNulls ([] : List (Field σ)) where
  slots _ hf := absurd hf List.not_mem_nil

instance {name : String} {slot : Slot α} {get : σ → α} {put : α → σ → σ} {fs : List (Field σ)}
    [h : slot.IgnoresNulls] [hs : IgnoresNulls fs] :
    IgnoresNulls (⟨name, slot, get, put⟩ :: fs) where
  slots := List.forall_mem_cons.mpr ⟨h, hs.slots⟩

/-- Of an item the record sees what some field reads from it. -/
theorem readItems?_replace {fs : List (Field σ)} {v w : Json}
    (h : ∀ f ∈ fs, f.slot.read? v = f.slot.read? w) (xs ys : List Json) (s : σ) :
    readItems? fs (xs ++ v :: ys) s = readItems? fs (xs ++ w :: ys) s := by
  induction fs generalizing xs s with
  | nil => cases xs <;> rfl
  | cons f fs ih =>
    rw [List.forall_mem_cons] at h
    cases xs with
    | nil =>
      rw [List.nil_append, List.nil_append, readItems?, readItems?, h.1]
    | cons x xs =>
      rw [List.cons_append, List.cons_append, readItems?, readItems?]
      congr 1
      funext a
      exact ih h.2 xs _

theorem read?_apart [Inhabited σ] (l : Layout σ) [hl : IgnoresNulls l.fields] {v w : Json}
    (h : NullsApart v w) : read? l.fields v = read? l.fields w := by
  induction h with
  | refl => rfl
  | symm h ih => exact ih.symm
  | trans h h' ih ih' => exact ih.trans ih'
  | @null name xs ys h =>
    have hfront : (xs ++ (name, Json.null) :: ys).Perm ((name, .null) :: (xs ++ ys)) :=
      List.perm_middle
    refine readMembers?_congr (fun f hf => ?_) default
    rw [Field.ofMembers?_perm hfront]
    by_cases hname : f.name = name
    · subst hname
      exact (Field.ofMembers?_cons_null (hl.slots f hf).toPlain h).symm
    · exact (Field.ofMembers?_cons_of_ne hname _).symm
  | member h name xs ys =>
    exact readMembers?_congr
      (fun f hf => Field.ofMembers?_replace (fun _ => (hl.slots f hf).read?_eq h) xs ys) default
  | item h xs ys => exact readItems?_replace (fun f hf => (hl.slots f hf).read?_eq h) xs ys default

instance [Inhabited σ] {l : Layout σ} [IgnoresNulls l.fields] :
    @UaaAdmin.IgnoresNulls σ (form l.fields) :=
  letI := form l.fields
  { read?_eq := read?_apart l }

end Layout

/-! ## Records -/

namespace Wire

namespace Listing

variable [JsonForm α]

/-- The envelope as it would be if `null` stood for the empty list. -/
@[reducible]
def lenient (α : Type) [JsonForm α] : Layout (Listing α) where
  fields := [
    ⟨"resources", .always, resources, fun a _ => ⟨a⟩⟩]
  nodup_names := (layout α).nodup_names

/-- The value has `null` where the envelope has its list. -/
def HasNullList : Json → Prop
  | .object ms => ("resources", .null) ∈ ms
  | .array vs => vs.head? = some .null
  | _ => False

/-- But for a list that is `null` the envelope is read as if that were the empty list. -/
theorem read?_of_not_hasNullList {v : Json} (h : ¬HasNullList v) :
    JsonForm.read? v = Layout.read? (lenient α).fields v := by
  cases v with
  | object ms =>
    have hmem := @Field.mem_filter_name ms "resources"
    show Layout.readMembers? ms (layout α).fields default
      = Layout.readMembers? ms (lenient α).fields default
    unfold layout lenient Layout.readMembers? Field.ofMembers?
    dsimp only
    generalize ms.filter (fun m => m.1 == "resources") = own at hmem
    -- Only a single member is read by the slot, and the two slots differ in `null` alone.
    rcases own with _ | ⟨⟨name, v⟩, _ | ⟨m, rest⟩⟩
    · rfl
    · obtain ⟨hv, rfl⟩ := hmem.mp List.mem_cons_self
      have hne : v ≠ .null := by
        intro hnull
        rw [hnull] at hv
        exact h hv
      dsimp only [Slot.always]
      rw [Slot.read?_nullable_of_ne _ _ hne]
      rfl
    · rfl
  | array vs =>
    rcases vs with _ | ⟨v, vs⟩
    · rfl
    · have hne : v ≠ .null := by
        intro hnull
        exact h (congrArg some hnull)
      show Layout.readItems? (layout α).fields (v :: vs) default
        = Layout.readItems? (lenient α).fields (v :: vs) default
      unfold layout lenient Layout.readItems?
      dsimp only [Slot.always]
      rw [Slot.read?_nullable_of_ne _ _ hne]
      rfl
  | _ => rfl

/-- An envelope with a list that is `null` is not read, and if it were, then as the empty list. -/
theorem read?_of_hasNullList {v : Json} (h : HasNullList v) :
    JsonForm.read? (α := Listing α) v = none ∧
      (Layout.read? (lenient α).fields v = none ∨
        Layout.read? (lenient α).fields v = some ⟨[]⟩) := by
  cases v with
  | object ms =>
    have hown : ("resources", Json.null) ∈ ms.filter fun m => m.1 == "resources" :=
      Field.mem_filter_name.mpr ⟨h, rfl⟩
    show Layout.readMembers? ms (layout α).fields default = none ∧
      (Layout.readMembers? ms (lenient α).fields default = none ∨
        Layout.readMembers? ms (lenient α).fields default = some ⟨[]⟩)
    unfold layout lenient Layout.readMembers? Field.ofMembers?
    dsimp only
    generalize ms.filter (fun m => m.1 == "resources") = own at hown
    rcases own with _ | ⟨m, _ | ⟨m', rest⟩⟩
    · exact absurd hown List.not_mem_nil
    · obtain rfl := List.mem_singleton.mp hown
      exact ⟨rfl, .inr rfl⟩
    · exact ⟨rfl, .inl rfl⟩
  | array vs =>
    rcases vs with _ | ⟨v, vs⟩
    · exact absurd h (by simp [HasNullList])
    · obtain rfl : v = .null := Option.some.inj h
      refine ⟨rfl, ?_⟩
      cases vs with
      | nil => exact .inr rfl
      | cons v vs => exact .inl rfl
  | _ => exact h.elim

variable [IgnoresNulls α] {v w : Json}

/-- If the list is `null` in both values or in none of them, the same envelope is read. -/
theorem read?_apart (h : NullsApart v w) (hlist : HasNullList v ↔ HasNullList w) :
    JsonForm.read? (α := Listing α) v = JsonForm.read? w := by
  by_cases hv : HasNullList v
  · rw [(read?_of_hasNullList hv).1, (read?_of_hasNullList (hlist.mp hv)).1]
  · rw [read?_of_not_hasNullList hv, read?_of_not_hasNullList (mt hlist.mpr hv),
      (lenient α).read?_apart h]

/-- What takes nothing from the empty list takes the same from both values. -/
theorem read?_bind_apart (h : NullsApart v w) {take : Listing α → Option β}
    (hempty : take ⟨[]⟩ = none) :
    (JsonForm.read? v).bind take = (JsonForm.read? w).bind take := by
  have hlenient : ∀ u,
      (JsonForm.read? u).bind take = (Layout.read? (lenient α).fields u).bind take := by
    intro u
    by_cases hu : HasNullList u
    · obtain ⟨hnone, hread | hread⟩ := read?_of_hasNullList (α := α) hu
      · rw [hnone, hread]
      · rw [hnone, hread, Option.bind_none, Option.bind_some, hempty]
    · rw [read?_of_not_hasNullList hu]
  rw [hlenient, hlenient, (lenient α).read?_apart h]

end Listing

end Wire

/-! ## Answers -/

/-- The answer reports success and holds a JSON value. -/
structure Net.Reply.Brings (reply : Reply) (v : Json) : Prop where
  success : 200 ≤ reply.status ∧ reply.status ≤ 299
  nonblank : ¬IsBlank reply.content
  json : Json.ofBytes? reply.content = some v

namespace Net.Reply.Brings

variable [JsonForm β] {reply : Reply} {v : Json}

/-- An answer with the text of an object brings the object. -/
theorem of_object {ms : List (String × Json)} (h : (Json.object ms).IsExact) :
    Brings ⟨200, (Json.object ms).bytes⟩ (.object ms) where
  success := ⟨le_refl 200, show 200 ≤ 299 by decide⟩
  nonblank := by
    show ¬IsBlank (Json.object ms).bytes
    rw [← all_isBlankByte_iff, ← Json.encode_print, Wire.all_isBlankByte_encode_object]
    exact Bool.false_ne_true
  json := by
    show Json.ofBytes? (Json.object ms).bytes = some _
    rw [← Json.encode_print]
    exact Wire.ofBytes?_encode_print h

/-- What an answer gives is what its JSON value stands for. -/
theorem value_eq (h : reply.Brings v) :
    (Outcome.answered reply).value (α := β)
      = match JsonForm.read? v with
        | some b => .ok b
        | none => .error .decode := by
  have hreply : (Outcome.answered reply).reply = .ok reply :=
    if_pos (isSuccess_iff.mpr h.success)
  have hbody : readBody? (α := β) reply.content = JsonForm.read? v := by
    unfold readBody?
    rw [if_neg (mt all_isBlankByte_iff.mp h.nonblank), h.json, Option.bind_some]
  unfold Outcome.value
  rw [hreply, ← hbody]
  rfl

/-- What a call takes from an answer is taken from the JSON value that it holds. -/
theorem toOption_verdict (h : reply.Brings v) (take : β → Except Fault α) :
    ((Reading.body β take).verdict none (.answered reply)).toOption
      = (JsonForm.read? v).bind fun b => (take b).toOption := by
  rw [Reading.verdict, h.value_eq]
  cases JsonForm.read? (α := β) v <;> rfl

end Net.Reply.Brings

/-- The connection with `reply` as its next answer. -/
def Connection.answering (c : Connection) (reply : Net.Reply) : Connection :=
  { c with network := { c.network with replies := some reply :: c.network.replies } }

variable {c : Connection} {reply reply' : Net.Reply} {v v' : Json}

@[simp] theorem Connection.groups_answering : (c.answering reply).groups = c.groups := rfl

/-- A request that can be sent has the next answer, which is then only known from the log. -/
theorem Connection.exchange_answering {r : Net.Request}
    (h : (c.network.listening && Net.Network.canReach r.url) = true) (reply : Net.Reply) :
    (c.answering reply).network.exchange r
      = (.answered reply, { c.network with log := c.network.log ++ [⟨r, .answered reply⟩] }) := by
  have houtcome : (c.answering reply).network.outcomeOf r = (.answered reply, c.network.replies) :=
    if_pos h
  unfold Net.Network.exchange
  rw [houtcome]
  rfl

theorem Connection.exchange_answering_of_not {r : Net.Request}
    (h : ¬(c.network.listening && Net.Network.canReach r.url) = true) (reply : Net.Reply) :
    ((c.answering reply).network.exchange r).1 = .unsent := by
  have houtcome : (c.answering reply).network.outcomeOf r = (.unsent, _) := if_neg h
  unfold Net.Network.exchange
  rw [houtcome]

/-- Every answer to a request is read, or none is, as the request cannot be made or sent. -/
theorem Connection.single_answering (c : Connection) (request : Except Fault Net.Request)
    (read : Net.Outcome → Except Fault α) :
    (∀ reply, ((c.answering reply).single request read).1 = read (.answered reply)) ∨
      ∃ r, ((∃ f, r = .error f) ∨ r = read .unsent) ∧
        ∀ reply, ((c.answering reply).single request read).1 = r := by
  rcases request with f | r
  · exact .inr ⟨.error f, .inl ⟨f, rfl⟩, fun _ => rfl⟩
  · dsimp only [single]
    by_cases hsent : (c.network.listening && Net.Network.canReach r.url) = true
    · exact .inl fun reply => by rw [exchange_answering hsent]
    · exact .inr ⟨read .unsent, .inr rfl, fun reply => by rw [exchange_answering_of_not hsent]⟩

/-- The two runs come to the same: to one result and one cache, or both to a fault. -/
structure SameEnd (run run' : Except Fault α × Connection) : Prop where
  result : run.1.toOption = run'.1.toOption
  groups : run.2.groups = run'.2.groups

/-- A request whose answer is the only one that is read ends in the same way if the same is made of
the two answers. -/
theorem SameEnd.single {request : Except Fault Net.Request} {read : Net.Outcome → Except Fault α}
    (h : (read (.answered reply)).toOption = (read (.answered reply')).toOption) :
    SameEnd ((c.answering reply).single request read)
      ((c.answering reply').single request read) := by
  refine ⟨?_, by rw [Connection.groups_single, Connection.groups_single]; rfl⟩
  rcases c.single_answering request read with hread | ⟨r, -, hnone⟩
  · rw [hread, hread]
    exact h
  · rw [hnone, hnone]

/-- A request of whose answer nothing can be made gives nothing. -/
theorem Connection.toOption_single_of_unread {request : Except Fault Net.Request}
    {read : Net.Outcome → Except Fault α} (h : (read (.answered reply)).toOption = none)
    (hunsent : (read .unsent).toOption = none) :
    ((c.answering reply).single request read).1.toOption = none := by
  rcases c.single_answering request read with hread | ⟨r, ⟨f, rfl⟩ | rfl, hnone⟩
  · rw [hread]
    exact h
  · rw [hnone]
    rfl
  · rw [hnone]
    exact hunsent

/-- What a request ends with does not depend on what was logged before. -/
theorem Connection.single_of_logs (n : Net.Network) (log log' : List Net.Exchange) (g : GroupCache)
    (request : Except Fault Net.Request) (read : Net.Outcome → Except Fault α) :
    ∃ result n₁ n₂,
      Connection.single ⟨{ n with log := log }, g⟩ request read = (result, ⟨n₁, g⟩) ∧
      Connection.single ⟨{ n with log := log' }, g⟩ request read = (result, ⟨n₂, g⟩) := by
  cases request with
  | error f => exact ⟨_, _, _, rfl, rfl⟩
  | ok r => exact ⟨read (n.exchange r).1, _, _, rfl, rfl⟩

/-! ## Operations -/

/-- The operations that ask the server for a list in its envelope. -/
inductive ListCall : Type → Type where
  | findClient (clientId : String) : ListCall Wire.Client
  | findUser (username : String) : ListCall Wire.User
  | findGroup (displayName : String) : ListCall Wire.Group
  | listGroups : ListCall (List Wire.Group)
  | loadGroups : ListCall ZoneGroups

namespace ListCall

/-- The operation of a call. -/
def op (s : Session) (zone : String) : ListCall α → Op α
  | findClient clientId => Clients.find s.endpoint clientId zone
  | findUser username => Users.find s.users username zone
  | findGroup displayName => Groups.find s.endpoint displayName zone
  | listGroups => Groups.list s.endpoint zone
  | loadGroups => Users.loadGroups s.users zone

/-- The call looks one record up. -/
def IsLookUp : ListCall α → Prop
  | listGroups => False
  | loadGroups => False
  | _ => True

/-- The call asks the server, which it does not for groups that are in the cache. -/
def Asks (zone : String) (c : Connection) : ListCall α → Prop
  | loadGroups => c.groups.get? zone = none
  | _ => True

/-- A look-up, or the list of all groups, ends in the same way with two answers that are apart in
`null` and missing members only, but for the list itself where the empty one is a result. -/
theorem sameEnd_of_reading {s : Session} (call : ManagerCall α) {item : Type} [JsonForm item]
    [IgnoresNulls item] {take : Wire.Listing item → Except Fault α}
    (hreading : call.reading = .body (Wire.Listing item) take) (hconflict : call.conflict? = none)
    (hv : reply.Brings v) (hv' : reply'.Brings v') (h : NullsApart v v')
    (hlist : (take ⟨[]⟩).toOption = none ∨
      (Wire.Listing.HasNullList v ↔ Wire.Listing.HasNullList v')) :
    SameEnd ((call.op s).runOn (c.answering reply)) ((call.op s).runOn (c.answering reply')) := by
  rw [call.runOn_op, call.runOn_op, hreading, hconflict]
  refine .single ?_
  rw [hv.toOption_verdict, hv'.toOption_verdict]
  rcases hlist with hempty | hlist
  · exact Wire.Listing.read?_bind_apart h hempty
  · rw [Wire.Listing.read?_apart h hlist]

/-- A list that is `null` is neither looked through nor returned. -/
theorem toOption_of_null {s : Session} (call : ManagerCall α) {item : Type} [JsonForm item]
    {take : Wire.Listing item → Except Fault α}
    (hreading : call.reading = .body (Wire.Listing item) take) (hconflict : call.conflict? = none)
    (hv : reply.Brings v) (hnull : Wire.Listing.HasNullList v) :
    ((call.op s).runOn (c.answering reply)).1.toOption = none := by
  rw [call.runOn_op, hreading, hconflict]
  refine Connection.toOption_single_of_unread ?_ rfl
  rw [hv.toOption_verdict, (Wire.Listing.read?_of_hasNullList hnull).1, Option.bind_none]

/-- The groups of a zone are loaded alike from two answers that hold the same list. -/
theorem sameEnd_loadGroups {a : UserAdmin} {zone : String} (hv : reply.Brings v)
    (hv' : reply'.Brings v')
    (h : JsonForm.read? (α := Wire.Listing Wire.Group) v = JsonForm.read? v') :
    SameEnd ((Users.loadGroups a zone).runOn (c.answering reply))
      ((Users.loadGroups a zone).runOn (c.answering reply')) := by
  rcases hgroups : c.groups.get? zone with _ | groups
  · have habsent : ∀ reply, (c.answering reply).groups.get? zone = none := fun _ => hgroups
    rw [Users.runOn_loadGroups_of_absent (habsent _), Users.runOn_loadGroups_of_absent (habsent _)]
    unfold Users.listingOf Endpoint.get
    rw [Endpoint.runOn_ask, Endpoint.runOn_ask]
    rcases (a.endpoint.withZone zone).request .get Groups.collection .empty with f | r
    · exact ⟨rfl, rfl⟩
    · dsimp only [Connection.single]
      by_cases hsent : (c.network.listening && Net.Network.canReach r.url) = true
      · rw [Connection.exchange_answering hsent, Connection.exchange_answering hsent, hv.value_eq,
          hv'.value_eq, h]
        rcases JsonForm.read? (α := Wire.Listing Wire.Group) v' with _ | list
        · exact ⟨rfl, rfl⟩
        · -- The zone is asked for on connections that differ in what was logged.
          have hzone : ∃ result n n',
              (Zones.get a.zones zone).runOn
                ⟨{ c.network with log := c.network.log ++ [⟨r, .answered reply⟩] }, c.groups⟩
                  = (result, ⟨n, c.groups⟩) ∧
              (Zones.get a.zones zone).runOn
                ⟨{ c.network with log := c.network.log ++ [⟨r, .answered reply'⟩] }, c.groups⟩
                  = (result, ⟨n', c.groups⟩) := by
            unfold Zones.get Endpoint.get
            rw [Endpoint.runOn_ask, Endpoint.runOn_ask]
            exact Connection.single_of_logs _ _ _ _ _ _
          obtain ⟨result, n, n', hrun, hrun'⟩ := hzone
          dsimp only
          rw [Connection.groups_answering, Connection.groups_answering, hrun, hrun']
          cases result <;> exact ⟨rfl, rfl⟩
      · rw [Connection.exchange_answering_of_not hsent, Connection.exchange_answering_of_not hsent]
        exact ⟨rfl, rfl⟩
  · have hcached : ∀ reply, (c.answering reply).groups.get? zone = some groups := fun _ => hgroups
    rw [Users.runOn_loadGroups_of_cached (hcached _), Users.runOn_loadGroups_of_cached (hcached _)]
    exact ⟨rfl, rfl⟩

/-- A list that is `null` is not loaded. -/
theorem toOption_loadGroups_of_null {a : UserAdmin} {zone : String}
    (habsent : c.groups.get? zone = none) (hv : reply.Brings v)
    (hnull : Wire.Listing.HasNullList v) :
    ((Users.loadGroups a zone).runOn (c.answering reply)).1.toOption = none := by
  have habsent' : (c.answering reply).groups.get? zone = none := habsent
  have hask : ((Users.listingOf a zone).runOn (c.answering reply)).1.toOption = none := by
    unfold Users.listingOf Endpoint.get
    rw [Endpoint.runOn_ask]
    refine Connection.toOption_single_of_unread ?_ rfl
    rw [hv.value_eq, (Wire.Listing.read?_of_hasNullList hnull).1]
    rfl
  rw [Users.runOn_loadGroups_of_absent habsent']
  rcases hlisting : (Users.listingOf a zone).runOn (c.answering reply) with ⟨f | list, c₁⟩
  · rfl
  · rw [hlisting] at hask
    exact absurd hask (by simp [Except.toOption])

end ListCall

/-- Two answers that report success and hold JSON values which differ only in that members, at any
depth, are `null` in one and missing in the other are the same to every call that asks for a list,
unless the list itself is `null` in one of them: then a call that returns the whole list fails with
that one, and only a look-up, which finds nothing in an empty list either, still ends in the same
way. -/
theorem list_answers_apart (call : ListCall α) (s : Session) (zone : String) (c : Connection)
    {reply reply' : Net.Reply} {v v' : Json} (hv : reply.Brings v) (hv' : reply'.Brings v')
    (h : NullsApart v v') :
    let run := fun reply => (call.op s zone).runOn (c.answering reply)
    (call.IsLookUp ∨ (Wire.Listing.HasNullList v ↔ Wire.Listing.HasNullList v') →
      SameEnd (run reply) (run reply')) ∧
    (Wire.Listing.HasNullList v → call.Asks zone c → ∃ f, (run reply).1 = .error f) := by
  intro run
  refine ⟨fun hsame => ?_, fun hnull hasks => ?_⟩
  · cases call with
    | findClient clientId =>
      exact ListCall.sameEnd_of_reading (.findClient clientId zone) rfl rfl hv hv' h (.inl rfl)
    | findUser username =>
      exact ListCall.sameEnd_of_reading (.findUser username zone) rfl rfl hv hv' h (.inl rfl)
    | findGroup displayName =>
      exact ListCall.sameEnd_of_reading (.findGroup displayName zone) rfl rfl hv hv' h (.inl rfl)
    | listGroups =>
      exact ListCall.sameEnd_of_reading (.listGroups zone) rfl rfl hv hv' h
        (.inr (hsame.resolve_left id))
    | loadGroups =>
      exact ListCall.sameEnd_loadGroups hv hv'
        (Wire.Listing.read?_apart h (hsame.resolve_left id))
  · have hnone : (run reply).1.toOption = none := by
      cases call with
      | findClient clientId =>
        exact ListCall.toOption_of_null (.findClient clientId zone) rfl rfl hv hnull
      | findUser username =>
        exact ListCall.toOption_of_null (.findUser username zone) rfl rfl hv hnull
      | findGroup displayName =>
        exact ListCall.toOption_of_null (.findGroup displayName zone) rfl rfl hv hnull
      | listGroups => exact ListCall.toOption_of_null (.listGroups zone) rfl rfl hv hnull
      | loadGroups => exact ListCall.toOption_loadGroups_of_null hasks hv hnull
    rcases hrun : (run reply).1 with f | a
    · exact ⟨f, rfl⟩
    · rw [hrun] at hnone
      exact absurd hnone (by simp [Except.toOption])

open Lifecycle.User (session)

/-- A group is listed the same whether its description is `null` or missing. -/
theorem list_answers_apart_description :
    let groups := fun ms => [("resources", Json.array [.object (("id", .text "g") :: ms)])]
    let run := fun v => (ListCall.listGroups.op session "").runOn
      (Connection.answering {} ⟨200, Json.bytes v⟩)
    SameEnd (run (.object (groups []))) (run (.object (groups [("description", .null)]))) := by
  intro groups run
  have hexact : ∀ ms, (∀ m ∈ ms, m.2.IsExact) → (Json.object (groups ms)).IsExact := by
    intro ms hms
    have hgroup : (Json.object (("id", .text "g") :: ms)).IsExact :=
      .object (List.forall_mem_cons.mpr ⟨.text "g", hms⟩)
    exact .object (List.forall_mem_singleton.mpr (.array (List.forall_mem_singleton.mpr hgroup)))
  have hapart : NullsApart (.object (groups [])) (.object (groups [("description", .null)])) :=
    .member (.item (@NullsApart.null "description" [("id", .text "g")] [] (by decide)) [] []) _ []
      []
  have hlist : ∀ ms, ¬Wire.Listing.HasNullList (.object (groups ms)) := by
    intro ms hnull
    exact absurd (List.mem_singleton.mp hnull) (by simp)
  exact (list_answers_apart .listGroups session "" {} (.of_object (hexact _ (by simp)))
    (.of_object (hexact _ (by simpa using .null))) hapart).1
      (.inr (iff_of_false (hlist _) (hlist _)))

/-- An answer whose list is `null` is not taken for one whose list is missing: the groups cannot be
listed from the one, and from the other there are none. -/
theorem null_list_not_empty :
    let run := fun v => (ListCall.listGroups.op session "").runOn
      (Connection.answering {} ⟨200, Json.bytes v⟩)
    let nulled := Json.object [("resources", .null)]
    let missing := Json.object []
    Net.Reply.Brings ⟨200, nulled.bytes⟩ nulled ∧ Net.Reply.Brings ⟨200, missing.bytes⟩ missing ∧
    NullsApart nulled missing ∧ (run nulled).1 = .error .decode ∧ (run missing).1 = .ok [] ∧
    ¬SameEnd (run nulled) (run missing) := by
  intro run nulled missing
  have hnulled : (run nulled).1 = .error .decode := by decide +kernel
  have hmissing : (run missing).1 = .ok [] := by decide +kernel
  refine ⟨.of_object (.object (List.forall_mem_singleton.mpr .null)),
    .of_object (.object (List.forall_mem_nil _)),
    .symm (@NullsApart.null "resources" [] [] (by decide)), hnulled, hmissing, fun hsame => ?_⟩
  have hresult := hsame.result
  rw [hnulled, hmissing] at hresult
  exact absurd hresult (by simp [Except.toOption])

end UaaAdmin
