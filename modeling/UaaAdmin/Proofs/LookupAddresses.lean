import UaaAdmin.Proofs.AddressesBelow

/-!
# Addresses of look-ups

A look-up by name asks for a collection with one parameter, the filter. The filter is encoded as a
whole, so that whatever it is made of neither ends the query nor is changed when the address is
written and read: an encoded text has only letters, digits, percent signs and four marks that stand
for themselves everywhere (`IsEncoded`).

The payoff is `lookup_addresses`: the server gets the collection below its own path, and the one
parameter `filter` is read as the comparison with the value, whatever the value.
-/

namespace UaaAdmin

open Url (IsServer IsPlace)

/-! ## Encoded filters -/

/-- The character can stand in an encoded text. -/
def IsEncoded (c : Char) : Prop :=
  c = '%' ∨ Text.Percent.isUnreserved c = true

namespace Text.Percent

theorem isEncoded_of_mem_component {s : String} {c : Char} (h : c ∈ (component s).toList) :
    IsEncoded c := by
  rw [component, String.toList_ofList] at h
  rcases mem_encodeChars h with ⟨-, hkept, -⟩ | rfl | ⟨n, rfl⟩
  · exact .inr hkept
  · exact .inl rfl
  · have hall : ∀ n : Fin 16, isUnreserved (digit n) = true := by decide +kernel
    exact .inr (hall n)

/-- What was encoded is decoded to its bytes. -/
theorem decode_component (s : String) : decode (component s).toList = Utf8.encode s := by
  have hbytes : encodeChars isUnreserved s.toList = encodeBytes isUnreserved (Utf8.encode s) := by
    unfold encodeChars encodeChar encodeBytes Utf8.encode
    rw [List.flatMap_assoc]
  have hpercent : isUnreserved '%' = false := by decide
  have hdecode := decode_encodeBytes hpercent (Utf8.encode s) []
  rw [List.append_nil] at hdecode
  rw [component, String.toList_ofList, hbytes, hdecode]
  exact List.append_nil _

end Text.Percent

theorem IsEncoded.bounds {c : Char} (h : IsEncoded c) : 0x20 < c.toNat ∧ c.toNat < 0x7f := by
  have hrange {a b : Char} (ha : 0x20 < a.toNat) (hb : b.toNat < 0x7f) (h : a ≤ c ∧ c ≤ b) :
      0x20 < c.toNat ∧ c.toNat < 0x7f :=
    ⟨Nat.lt_of_lt_of_le ha h.1, Nat.lt_of_le_of_lt h.2 hb⟩
  rcases h with rfl | h
  · decide
  · simp only [Text.Percent.isUnreserved, Bool.or_eq_true, Bool.and_eq_true, decide_eq_true_eq,
      beq_iff_eq] at h
    rcases h with (((((h | h) | h) | rfl) | rfl) | rfl) | rfl
    · exact hrange (by decide) (by decide) h
    · exact hrange (by decide) (by decide) h
    · exact hrange (by decide) (by decide) h
    all_goals decide

theorem IsEncoded.ne {c d : Char} (h : IsEncoded c) (hpercent : d ≠ '%')
    (hd : Text.Percent.isUnreserved d = false) : c ≠ d := by
  rintro rfl
  rcases h with rfl | h
  · exact hpercent rfl
  · rw [hd] at h
    cases h

/-- In a query nothing of an encoded text is encoded again. -/
theorem IsEncoded.keptInQuery {c : Char} (h : IsEncoded c) : Url.keptInQuery true c = true := by
  have hmarks : "\x22#<>".toList = ['"', '#', '<', '>'] := by decide
  have hquote : c ≠ '\x27' := h.ne (by decide) (by decide)
  have hmark : c ∉ ['"', '#', '<', '>'] := by
    simp only [List.mem_cons, List.not_mem_nil, or_false, not_or]
    exact ⟨h.ne (by decide) (by decide), h.ne (by decide) (by decide),
      h.ne (by decide) (by decide), h.ne (by decide) (by decide)⟩
  unfold Url.keptInQuery
  rw [hmarks]
  simpa [h.bounds, hquote] using hmark

/-! ## Queries -/

/-- The text that an encoded part of an address stands for, if it is one. -/
def decodedText? (cs : List Char) : Option String :=
  ((Text.Utf8.decode (Text.Percent.decode cs)).mapM id).map String.ofList

/-- The names and values of the parameters of a query, as they are decoded. -/
def parametersOf (query : String) : List (Option String × Option String) :=
  (query.toList.splitOn '&').map fun parameter =>
    let (name, value) := Url.cutOff '=' parameter
    (decodedText? name, decodedText? (value.getD []))

theorem decodedText?_component (s : String) :
    decodedText? (Text.Percent.component s).toList = some s := by
  rw [decodedText?, Text.Percent.decode_component, Text.Utf8.decode_encode, Url.mapM_id_map_some,
    Option.map_some, String.ofList_toList]

/-- The query of a look-up. -/
def lookupQuery (name value : String) : String := "filter=" ++ encodedFilter name value

theorem toList_lookupQuery (name value : String) :
    (lookupQuery name value).toList
      = "filter".toList ++ '=' :: (encodedFilter name value).toList := by
  rw [lookupQuery, String.toList_append]
  rfl

theorem mem_lookupQuery {name value : String} {c : Char} (h : c ∈ (lookupQuery name value).toList) :
    c = '=' ∨ IsEncoded c := by
  rw [toList_lookupQuery, List.mem_append, List.mem_cons] at h
  rcases h with h | h | h
  · have hall : ∀ c ∈ "filter".toList, Text.Percent.isUnreserved c = true :=
      List.all_iff_forall_prop.1 (by decide +kernel)
    exact .inr (.inr (hall c h))
  · exact .inl h
  · exact .inr (Text.Percent.isEncoded_of_mem_component h)

/-- The query of a look-up has one parameter, the comparison with the value. -/
theorem parametersOf_lookupQuery (name value : String) :
    parametersOf (lookupQuery name value)
      = [(some "filter", some (equalityFilter name value))] := by
  have hand : '&' ∉ (lookupQuery name value).toList := by
    intro h
    rcases mem_lookupQuery h with h | h
    · exact absurd h (by decide)
    · exact h.ne (by decide) (by decide) rfl
  have hname : decodedText? "filter".toList = some "filter" := by decide +kernel
  unfold parametersOf
  rw [List.splitOn_eq_singleton hand, List.map_singleton, toList_lookupQuery,
    Url.cutOff_append (by decide)]
  dsimp only
  rw [hname, Option.getD_some, encodedFilter, decodedText?_component]

/-! ## Look-ups -/

/-- The look-up of a value below the place of a server. -/
def Url.lookup (u : Url) (dirs : List String) (kind : Kind) (value : String) : Url :=
  { u with
    path := .segments (dirs ++ kind.places)
    query := some (lookupQuery kind.nameField value) }

/-- What a look-up is asked for with, behind the slash. -/
def lookupTail (kind : Kind) (value : String) : List Char :=
  kind.bare ++ '?' :: (lookupQuery kind.nameField value).toList

/-- The path of a look-up is written as it is. -/
theorem sentPath_find (kind : Kind) (value : String) :
    sentPath (Task.find kind value).path.toList = lookupTail kind value := by
  have hquery : '/' ∉ '?' :: (lookupQuery kind.nameField value).toList := by
    rw [List.mem_cons, not_or]
    refine ⟨by decide, fun h => ?_⟩
    rcases mem_lookupQuery h with h | h
    · exact absurd h (by decide)
    · exact h.ne (by decide) (by decide) rfl
  have hpath : (Task.find kind value).path.toList
      = kind.collection.toList ++ '?' :: (lookupQuery kind.nameField value).toList := by
    show (kind.collection ++ "?filter=" ++ encodedFilter kind.nameField value).toList = _
    rw [lookupQuery]
    simp [String.toList_append]
  obtain ⟨c, cs, hbare, hc⟩ := kind.exists_bare
  have hsingle := hasDoubleSlash_append_plain kind.collection.toList hquery
  rw [kind.hasDoubleSlash_collection] at hsingle
  rw [hpath, lookupTail]
  rw [kind.toList_collection, hbare] at hsingle ⊢
  exact sentPath_of_single hc hsingle

/-- Nothing of a look-up is changed when its address is read. -/
theorem below_lookupTail {u : Url} (hfragment : u.fragment = none) (dirs : List String)
    (kind : Kind) (value : String) :
    u.below dirs.reverse (Url.cleanEnd (lookupTail kind value)) = u.lookup dirs kind value := by
  have hquery : ∀ c ∈ (lookupQuery kind.nameField value).toList,
      0x20 < c.toNat ∧ c ≠ '#' ∧ c.toNat < 0x80 ∧ Url.keptInQuery true c = true := by
    intro c hc
    rcases mem_lookupQuery hc with rfl | h
    · decide +kernel
    · have hbounds := h.bounds
      exact ⟨hbounds.1, h.ne (by decide) (by decide), by omega, h.keptInQuery⟩
  have hall : ∀ c ∈ lookupTail kind value, 0x20 < c.toNat ∧ c ≠ '#' :=
    List.forall_mem_append.2 ⟨fun c hc => ⟨(kind.bare_bounds c hc).1, (kind.bare_bounds c hc).2.1⟩,
      List.forall_mem_cons.2 ⟨by decide, fun c hc => ⟨(hquery c hc).1, (hquery c hc).2.1⟩⟩⟩
  have hencoded : Url.encodeText (Url.keptInQuery true) (lookupQuery kind.nameField value).toList
      = lookupQuery kind.nameField value := by
    rw [Url.encodeText, Text.Percent.encodeChars_kept fun c hc => (hquery c hc).2.2,
      String.ofList_toList]
  rw [Url.cleanEnd_of_visible fun c hc => (hall c hc).1, lookupTail,
    Url.below_of_query hfragment _ (fun h => (hall _ h).2 rfl)
      fun h => (kind.bare_bounds _ h).2.2 rfl,
    kind.splitOnP_bare, Url.walk_segments _ kind.isSegment_places, List.reverse_reverse, hencoded]
  rfl

/-- Look-ups of one kind differ in what stands behind the mark of the query only. -/
theorem exists_target_lookup (u : Url) (dirs : List String) (kind : Kind) :
    ∃ front, ∀ value,
      (u.lookup dirs kind value).target = front ++ lookupQuery kind.nameField value := by
  let collection : Url :=
    { u with username := "", password := "", path := .segments (dirs ++ kind.places) }
  refine ⟨u.scheme ++ ":" ++ collection.printAuthority ++ collection.path.print ++ "?",
    fun value => ?_⟩
  unfold Url.target Url.print Url.lookup
  dsimp only
  rw [Option.map_some, Option.getD_some, Option.map_none, Option.getD_none, String.append_empty,
    ← String.append_assoc]
  rfl

theorem equalityFilter_injective (name : String) : Function.Injective (equalityFilter name) := by
  intro value value' h
  unfold equalityFilter at h
  exact (String.append_right_inj _).mp ((String.append_left_inj _).mp h)

theorem lookupQuery_injective (name : String) : Function.Injective (lookupQuery name) := by
  intro value value' h
  have hparameters := congrArg parametersOf h
  rw [parametersOf_lookupQuery, parametersOf_lookupQuery] at hparameters
  refine equalityFilter_injective name ?_
  simpa using hparameters

/-- A look-up by name asks for its collection below the path of the server, and for nothing else:
the one parameter of its query is a filter, and that is the comparison with the value, whatever the
value. So what is asked for is different for different values. -/
theorem lookup_addresses {base : String} {u : Url} (h : IsServer base u) :
    ∃ dirs, IsPlace base u dirs ∧
      (∀ kind value x, AsksAt base (.find kind value) x →
        Net.Network.canReach x.request.url = true ∧
        ∃ query, Url.parse x.request.url
            = .ok { u with path := .segments (dirs ++ kind.places), query := some query } ∧
          parametersOf query
            = [(some "filter", some (kind.nameField ++ " Eq \x22" ++ value ++ "\x22"))]) ∧
      ∀ kind value value' x x',
        AsksAt base (.find kind value) x → AsksAt base (.find kind value') x' →
        (Url.parse x.request.url).map Url.target = (Url.parse x'.request.url).map Url.target →
          value = value' := by
  obtain ⟨dirs, hplace, hasked⟩ := h.parse_asked
  have hread {kind : Kind} {value : String} {x : Net.Exchange}
      (hx : AsksAt base (.find kind value) x) :
      Url.parse x.request.url = .ok (u.lookup dirs kind value) := by
    rw [(hasked hx).2, sentPath_find, below_lookupTail h.noFragment]
  refine ⟨dirs, hplace, fun kind value x hx => ⟨(hasked hx).1, lookupQuery kind.nameField value,
    hread hx, parametersOf_lookupQuery _ _⟩, fun kind value value' x x' hx hx' htarget => ?_⟩
  · obtain ⟨front, hfront⟩ := exists_target_lookup u dirs kind
    rw [hread hx, hread hx'] at htarget
    have htarget : (u.lookup dirs kind value).target = (u.lookup dirs kind value').target :=
      Except.ok.inj htarget
    rw [hfront, hfront, String.append_right_inj] at htarget
    exact lookupQuery_injective _ htarget

theorem lookup_addresses_of_marks :
    let base := "http://uaa.test:8080/uaa/"
    IsServer base Url.atPort ∧ ∃ x query, AsksAt base (.find .user "a//b?&%41+#\x22é") x ∧
      Url.parse x.request.url
        = .ok { Url.atPort with path := .segments ["uaa", "Users"], query := some query } ∧
      parametersOf query = [(some "filter", some "userName Eq \x22a//b?&%41+#\x22é\x22")] := by
  intro base
  let call : ManagerCall Wire.User := .findUser "a//b?&%41+#\x22é" "z"
  have hone : ((call.op Session.atPort).runOn {}).2.network.log.length = 1 := by decide +kernel
  obtain ⟨x, hx⟩ := List.length_eq_one_iff.mp hone
  have htask : call.task = .find .user "a//b?&%41+#\x22é" := rfl
  have hasks : AsksAt base (.find .user "a//b?&%41+#\x22é") x :=
    .of_call baseUrl_atPort htask hx
  obtain ⟨dirs, hplace, hread, -⟩ := lookup_addresses isServer_atPort
  obtain ⟨-, query, hquery, hparameters⟩ := hread _ _ _ hasks
  obtain rfl := dirs_atPort hplace
  refine ⟨isServer_atPort, x, query, hasks, hquery, ?_⟩
  rw [hparameters]
  decide +kernel

end UaaAdmin
