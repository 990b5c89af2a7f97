import UaaAdmin.Proofs.WireForms
import UaaAdmin.Proofs.WritesLast
import UaaAdmin.Proofs.Exchanges

/-!
# A server that keeps what it is sent

A server keeps what it is sent if it answers a record that is sent with that record, and a request
for it with the record that was sent last (`Keeps`). It may give it an id, or leave a secret out;
which liberties it has with records of a kind is said by a `Keeping`. Both sides read the text of a
body, so that a round trip goes from a record to the members that are not left out, to the text of
these, and all the way back.

What comes of a request to such a server is certain: `Handler.writing_of_stored` and
`Handler.writing_of_shown` say what a handler then writes.
-/

namespace UaaAdmin

variable {M R : Type}

/-! ## Records and answers -/

/-- The bytes of the text of a value. -/
def Json.bytes (v : Json) : List UInt8 := v.printChars.flatMap String.utf8EncodeChar

theorem Json.encode_print (v : Json) : Text.Utf8.encode v.print = v.bytes := by
  unfold Text.Utf8.encode Json.print Json.bytes
  rw [String.toList_ofList]

/-- The record in the body of a request, as the server reads it. -/
def Net.Content.record? [JsonForm R] : Net.Content → Option R
  | .json v => readBody? v.bytes
  | _ => none

theorem Net.Content.record?_write [JsonForm R] [LawfulForm R] (record : R)
    {members : List (String × Json)} (h : JsonForm.write record = .object members) :
    (Net.Content.json (JsonForm.write record)).record? = some record := by
  have hread := Wire.readBody?_encode_write record h
  rwa [Json.encode_print] at hread

/-- The answers that a server may give about records of a kind. -/
structure Keeping (R : Type) where
  /-- The answer to a record that is sent. -/
  stored : R → R → Prop
  /-- The answer to a request for what was sent last. -/
  shown : R → R → Prop
  [decidableStored : DecidableRel stored]
  [decidableShown : DecidableRel shown]

attribute [instance] Keeping.decidableStored Keeping.decidableShown

/-- A server gives a record some id. -/
def Keeping.identified [DecidableEq R] (id : R → String) (withId : String → R → R) :
    Keeping R where
  stored record answer := id answer ≠ "" ∧ answer = withId (id answer) record
  shown record answer := answer = withId (id answer) record

/-- The exchanges are those of a server that keeps records, of which the last one before them is
given. All of them are answered with success. -/
def Keeps [JsonForm R] (k : Keeping R) : Option R → List Net.Exchange → Prop
  | _, [] => True
  | last, x :: xs =>
    if x.request.method = .get then
      (∃ record ∈ last, ∃ answer, x.outcome.Gives answer ∧ k.shown record answer) ∧ Keeps k last xs
    else
      (∃ record ∈ x.request.content.record?,
        ∃ answer, x.outcome.Gives answer ∧ k.stored record answer) ∧
      Keeps k x.request.content.record? xs

instance Net.Outcome.decidableExistsGives [JsonForm R] (o : Outcome) (p : R → Prop)
    [DecidablePred p] : Decidable (∃ answer, o.Gives answer ∧ p answer) :=
  match h : o.value (α := R) with
  | .ok answer => decidable_of_iff (p answer)
      ⟨fun hp => ⟨answer, value_eq_ok_iff.mp h, hp⟩,
        fun ⟨_, hgives, hp⟩ => (value_eq_ok_iff.mp h).unique hgives ▸ hp⟩
  | .error _ => .isFalse fun ⟨_, hgives, _⟩ =>
      absurd (h.symm.trans (value_eq_ok_iff.mpr hgives)) (by simp)

instance Keeps.decidable [JsonForm R] (k : Keeping R) :
    ∀ last xs, Decidable (Keeps k last xs)
  | _, [] => inferInstanceAs (Decidable True)
  | last, x :: xs =>
    have := Keeps.decidable k last xs
    have := Keeps.decidable k x.request.content.record? xs
    inferInstanceAs (Decidable (if x.request.method = .get then
        (∃ record ∈ last, ∃ answer, x.outcome.Gives answer ∧ k.shown record answer) ∧
          Keeps k last xs
      else
        (∃ record ∈ x.request.content.record?,
          ∃ answer, x.outcome.Gives answer ∧ k.stored record answer) ∧
        Keeps k x.request.content.record? xs))

/-- The exchanges that led from one connection to a later one. -/
def Connection.since (c c' : Connection) : List Net.Exchange :=
  c'.network.log.drop c.network.log.length

theorem Connection.since_self (c : Connection) : c.since c = [] := List.drop_length

theorem Connection.since_cons {c c₁ c' : Connection} {x : Net.Exchange}
    (h : c₁.network.log = c.network.log ++ [x]) (hlater : c₁.network.log <+: c'.network.log) :
    c.since c' = x :: c₁.since c' := by
  obtain ⟨xs, hxs⟩ := hlater
  unfold since
  rw [← hxs, List.drop_left, h, List.append_assoc, List.drop_left]
  rfl

/-! ## Requests to such a server -/

section

variable [JsonForm R] {k : Keeping R} {c c' : Connection} {r : Net.Request} {last : Option R}
  {run : Except Fault R × Connection}

/-- Every request is answered with a record. -/
theorem Keeps.gives {x : Net.Exchange} {xs : List Net.Exchange} (h : Keeps k last (x :: xs)) :
    ∃ answer : R, x.outcome.Gives answer := by
  unfold Keeps at h
  split at h
  · obtain ⟨⟨_, -, answer, hgives, -⟩, -⟩ := h
    exact ⟨answer, hgives⟩
  · obtain ⟨⟨_, -, answer, hgives, -⟩, -⟩ := h
    exact ⟨answer, hgives⟩

/-- A request that can be made is the next exchange, and its answer is the result. -/
theorem Asked.of_keeps (h : Asked (.ok r) c run) (hlater : run.2.network.log <+: c'.network.log)
    (hkeeps : Keeps k last (c.since c')) :
    ∃ x answer c₁, run = (.ok answer, c₁) ∧ c₁.network.log = c.network.log ++ [x] ∧
      x.request = r ∧ x.outcome.Gives answer ∧ Keeps k last (x :: c₁.since c') := by
  cases h with
  | refused h => exact absurd h (by simp)
  | failed h hadv hx =>
    rw [Connection.since_cons hadv.log hlater] at hkeeps
    obtain ⟨answer, hgives⟩ := hkeeps.gives
    exact absurd hgives (hx answer)
  | answered h hadv hx =>
    rw [Connection.since_cons hadv.log hlater] at hkeeps
    exact ⟨_, _, _, rfl, hadv.log, (Except.ok.inj h).symm, hx, hkeeps⟩

/-- A record that is sent is answered. -/
theorem Asked.of_stored (h : Asked (.ok r) c run) (hmethod : r.method ≠ .get) {record : R}
    (hrecord : r.content.record? = some record) (hlater : run.2.network.log <+: c'.network.log)
    (hkeeps : Keeps k last (c.since c')) :
    ∃ x answer c₁, run = (.ok answer, c₁) ∧ c₁.network.log = c.network.log ++ [x] ∧
      x.request = r ∧ k.stored record answer ∧ Keeps k (some record) (c₁.since c') := by
  obtain ⟨x, answer, c₁, hrun, hlog, rfl, hgives, hkept⟩ := h.of_keeps hlater hkeeps
  rw [Keeps, if_neg hmethod, hrecord] at hkept
  obtain ⟨⟨_, hmem, answer', hgives', hstored⟩, hrest⟩ := hkept
  obtain rfl := Option.some.inj hmem
  obtain rfl := hgives.unique hgives'
  exact ⟨x, answer, c₁, hrun, hlog, rfl, hstored, hrest⟩

/-- What was sent last is found again. -/
theorem Asked.of_shown (h : Asked (.ok r) c run) (hmethod : r.method = .get) {record : R}
    (hlater : run.2.network.log <+: c'.network.log)
    (hkeeps : Keeps k (some record) (c.since c')) :
    ∃ x answer c₁, run = (.ok answer, c₁) ∧ c₁.network.log = c.network.log ++ [x] ∧
      x.request = r ∧ k.shown record answer ∧ Keeps k (some record) (c₁.since c') := by
  obtain ⟨x, answer, c₁, hrun, hlog, rfl, hgives, hkept⟩ := h.of_keeps hlater hkeeps
  rw [Keeps, if_pos hmethod] at hkept
  obtain ⟨⟨_, hmem, answer', hgives', hshown⟩, hrest⟩ := hkept
  obtain rfl := Option.some.inj hmem
  obtain rfl := hgives.unique hgives'
  exact ⟨x, answer, c₁, hrun, hlog, rfl, hshown, hrest⟩

variable {op : Snapshot M → Op R} {write : R → Snapshot M → Snapshot M} {d : Snapshot M}

/-- A handler that sends a record writes the answer to it. -/
theorem Handler.writing_of_stored (h : Asked (.ok r) c ((op d).runOn c)) (hmethod : r.method ≠ .get)
    {record : R} (hrecord : r.content.record? = some record)
    (hlater : ((writing op write).runOn d c).2.2.network.log <+: c'.network.log)
    (hkeeps : Keeps k last (c.since c')) :
    ∃ x answer c₁, (writing op write).runOn d c = (.ok (), write answer d, c₁) ∧
      c₁.network.log = c.network.log ++ [x] ∧ x.request = r ∧ k.stored record answer ∧
      Keeps k (some record) (c₁.since c') := by
  rw [connection_writing] at hlater
  obtain ⟨x, answer, c₁, hrun, hrest⟩ := h.of_stored hmethod hrecord hlater hkeeps
  refine ⟨x, answer, c₁, ?_, hrest⟩
  rw [runOn_writing, hrun]

/-- A handler that asks for what was sent last writes it. -/
theorem Handler.writing_of_shown (h : Asked (.ok r) c ((op d).runOn c)) (hmethod : r.method = .get)
    {record : R} (hlater : ((writing op write).runOn d c).2.2.network.log <+: c'.network.log)
    (hkeeps : Keeps k (some record) (c.since c')) :
    ∃ x answer c₁, (writing op write).runOn d c = (.ok (), write answer d, c₁) ∧
      c₁.network.log = c.network.log ++ [x] ∧ x.request = r ∧ k.shown record answer ∧
      Keeps k (some record) (c₁.since c') := by
  rw [connection_writing] at hlater
  obtain ⟨x, answer, c₁, hrun, hrest⟩ := h.of_shown hmethod hlater hkeeps
  refine ⟨x, answer, c₁, ?_, hrest⟩
  rw [runOn_writing, hrun]

end

end UaaAdmin
