import UaaAdmin.Proofs.Membership

/-!
# Exchanges of operations

What a request for a value comes to is said by `Asked`: it cannot be made, or its exchange gives no
value, or it gives one, and the result is that of the operation. `Op.Has` says of an operation in
steps what all of its exchanges satisfy, and that it does nothing else to the connection.
-/

namespace UaaAdmin

open Users (Advanced)

variable {α β : Type}

/-! ## One request for a value -/

/-- What comes of an operation that is one request for a value. -/
inductive Asked [JsonForm α] (request : Except Fault Net.Request) (c : Connection) :
    Except Fault α × Connection → Prop
  /-- The request cannot be made. -/
  | refused {f f'} (h : request = .error f) : Asked request c (.error f', c)
  /-- It is made, and no value comes of it. -/
  | failed {x f c'} (h : request = .ok x.request) (hadv : Advanced c [x] c')
      (hx : ∀ v : α, ¬x.outcome.Gives v) : Asked request c (.error f, c')
  /-- It is made, and a value comes of it. -/
  | answered {x v c'} (h : request = .ok x.request) (hadv : Advanced c [x] c')
      (hx : x.outcome.Gives v) : Asked request c (.ok v, c')

section

variable [JsonForm α] {request : Except Fault Net.Request} {c : Connection}

/-- Every request of an endpoint is asked in this way. -/
theorem Endpoint.asked (e : Endpoint) (m : Net.Method) (path : String) (content : Net.Content)
    (c : Connection) :
    Asked (e.request m path content) c ((e.ask m path content : Op α).runOn c) := by
  rw [runOn_ask]
  unfold Connection.single
  rcases hr : e.request m path content with f | r
  · exact .refused rfl
  · have hadv := Users.advanced_exchange c r
    dsimp only
    rcases hv : (c.network.exchange r).1.value (α := α) with f | v
    · refine .failed rfl hadv fun v hgives => ?_
      exact absurd (hv.symm.trans (Net.Outcome.value_eq_ok_iff.mpr hgives)) (by simp)
    · exact .answered rfl hadv (Net.Outcome.value_eq_ok_iff.mp hv)

/-- How a fault is reported does not matter. -/
theorem Asked.orExists {op : Op α} (h : Asked request c (op.runOn c)) (kind key : String) :
    Asked request c ((op.orExists kind key).runOn c) := by
  unfold Op.orExists
  rw [Op.runOn_tryCatch]
  generalize op.runOn c = r at h ⊢
  cases h with
  | refused h => exact .refused h
  | failed h hadv hx => exact .failed h hadv hx
  | answered h hadv hx => exact .answered h hadv hx

/-- A request that creates something. -/
theorem Endpoint.asked_create {β : Type} [JsonForm β] (e : Endpoint) (path : String) (body : β)
    (kind key : String) (c : Connection) :
    Asked (e.request .post path (.json (JsonForm.write body))) c
      (((e.post path body : Op α).orExists kind key).runOn c) :=
  (e.asked .post path _ c).orExists kind key

/-- A check before a request can keep it from being made. -/
theorem Asked.check {op : Op α} (h : Asked request c (op.runOn c)) (check : Except Fault Unit) :
    Asked (check >>= fun _ => request) c ((Op.ofExcept check >>= fun _ => op).runOn c) := by
  rw [Op.runOn_bind, Op.runOn_ofExcept]
  cases check with
  | error f => exact .refused rfl
  | ok _ => exact h

end

/-! ## What an operation makes of an answer -/

section

variable {P : Net.Exchange → Prop}

theorem Op.makes_orExists {op : Op α} (h : op.Makes P) (kind key : String) :
    (op.orExists kind key).Makes P :=
  h.tryCatch fun _ => makes_throw _

/-- The first of a list is taken without another exchange. -/
theorem Op.makes_firstOf (list : Wire.Listing α) (kind key : String) :
    (firstOf list kind key).Makes P := by
  unfold firstOf
  split
  · exact makes_pure _
  · exact makes_throw _

end

/-! ## Operations that leave the cache alone -/

namespace Op

variable {P : Net.Exchange → Prop}

/-- The operation has exchanges that satisfy `P`, and does nothing else to the connection. -/
def Has (P : Net.Exchange → Prop) (op : Op α) : Prop :=
  ∀ c, ∃ xs, Advanced c xs (op.runOn c).2 ∧ ∀ x ∈ xs, P x

theorem Has.makes {op : Op α} (h : op.Has P) : op.Makes P := by
  intro c
  obtain ⟨xs, hadv, hxs⟩ := h c
  exact ⟨xs, hadv.log, hxs⟩

theorem has_ofExcept (r : Except Fault α) : (ofExcept r).Has P := by
  intro c
  rw [runOn_ofExcept]
  exact ⟨[], .refl c, by simp⟩

theorem has_pure (a : α) : (pure a : Op α).Has P := has_ofExcept (.ok a)

/-- One operation after the other has the exchanges of both. -/
theorem Has.bind {op : Op α} {f : α → Op β} (hop : op.Has P) (hf : ∀ a, (f a).Has P) :
    (op >>= f).Has P := by
  intro c
  obtain ⟨xs, hadv, hxs⟩ := hop c
  rcases hr : op.runOn c with ⟨r, c₁⟩
  rw [hr] at hadv
  cases r with
  | error e =>
    rw [runOn_bind_of_error hr]
    exact ⟨xs, hadv, hxs⟩
  | ok a =>
    rw [runOn_bind_of_ok hr]
    obtain ⟨ys, hadv', hys⟩ := hf a c₁
    refine ⟨xs ++ ys, hadv.trans hadv', ?_⟩
    intro x hx
    rcases List.mem_append.mp hx with hx | hx
    · exact hxs x hx
    · exact hys x hx

end Op

/-- The exchanges of changes of memberships are those of their requests. -/
theorem Users.Change.makeAll_has_of {e : Endpoint} {userId origin zone : String}
    {P : Net.Exchange → Prop}
    (h : ∀ (ch : Change) (x : Net.Exchange), request e userId origin zone ch = .ok x.request → P x)
    (chs : List Change) : (makeAll e userId origin zone chs).Has P := by
  intro c
  obtain ⟨xs, hadv, hmade⟩ := runOn_makeAll e userId origin zone chs c
  refine ⟨xs, hadv, fun x hx => ?_⟩
  obtain ⟨ch, -, hch⟩ := hmade.exists_change hx
  exact h ch x hch

end UaaAdmin
