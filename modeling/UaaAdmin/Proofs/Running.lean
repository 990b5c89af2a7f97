import UaaAdmin.Lifecycle.Handler

/-!
# Running operations and handlers

What a run of each building block gives, so that no later proof has to open the monads. An operation
in steps runs its first step and, if that gave a result, the rest on the connection that is left
(`Op.runOn_bind_of_ok`, `Op.runOn_bind_of_error`); so a run that gives a result has given one at
every step (`Op.runOn_bind_eq_ok`). A handler does the same with a snapshot beside the connection,
and an operation that is called from a handler leaves the snapshot as it is (`Handler.runOn_call`).
-/

namespace UaaAdmin

variable {α β M : Type}

/-! ## Operations -/

namespace Op

/-- Nothing is done for a result that is there. -/
@[simp] theorem runOn_pure (a : α) (c : Connection) : runOn (pure a) c = (.ok a, c) := rfl

/-- A fault ends an operation without touching the connection. -/
@[simp] theorem runOn_throw (f : Fault) (c : Connection) :
    runOn (throw f : Op α) c = (.error f, c) := rfl

/-- Looking at the connection leaves it as it is. -/
@[simp] theorem runOn_getThe (c : Connection) : runOn (getThe Connection) c = (.ok c, c) := rfl

/-- The connection can be replaced as a whole. -/
@[simp] theorem runOn_set (c c' : Connection) : runOn (set c' : Op PUnit) c = (.ok (), c') := rfl

/-- A result that is there or a fault is what an operation made of it ends with. -/
@[simp] theorem runOn_ofExcept (r : Except Fault α) (c : Connection) :
    runOn (ofExcept r) c = (r, c) := by
  cases r <;> rfl

/-- The first step is run, and then, if it gave something, the rest. -/
theorem runOn_bind (op : Op α) (f : α → Op β) (c : Connection) :
    runOn (op >>= f) c = match op.runOn c with
      | (.ok a, c') => (f a).runOn c'
      | (.error e, c') => (.error e, c') := by
  show (ExceptT.bindCont f (op.runOn c).1).run (op.runOn c).2 = _
  rcases op.runOn c with ⟨r, c'⟩
  cases r <;> rfl

/-- The rest is run on what the first step gave and on the connection that it left. -/
theorem runOn_bind_of_ok {op : Op α} {f : α → Op β} {c c' : Connection} {a : α}
    (h : op.runOn c = (.ok a, c')) : runOn (op >>= f) c = (f a).runOn c' := by
  rw [runOn_bind, h]

/-- A first step that fails is all that is run. -/
theorem runOn_bind_of_error {op : Op α} {f : α → Op β} {c c' : Connection} {e : Fault}
    (h : op.runOn c = (.error e, c')) : runOn (op >>= f) c = (.error e, c') := by
  rw [runOn_bind, h]

/-- A run in steps gives a result only if every step does. -/
theorem runOn_bind_eq_ok {op : Op α} {f : α → Op β} {c c₂ : Connection} {b : β} :
    runOn (op >>= f) c = (.ok b, c₂) ↔
      ∃ a c₁, op.runOn c = (.ok a, c₁) ∧ (f a).runOn c₁ = (.ok b, c₂) := by
  constructor
  · intro h
    rcases hop : op.runOn c with ⟨r, c₁⟩
    cases r with
    | error e =>
      rw [runOn_bind_of_error hop] at h
      exact absurd (congrArg Prod.fst h) (by simp)
    | ok a =>
      rw [runOn_bind_of_ok hop] at h
      exact ⟨a, c₁, rfl, h⟩
  · rintro ⟨a, c₁, hop, hf⟩
    rw [runOn_bind_of_ok hop, hf]

/-- An exchange gives its outcome, and all that it changes is the network. -/
theorem runOn_exchange (r : Net.Request) (c : Connection) :
    runOn (exchange r) c
      = (.ok (c.network.exchange r).1, { c with network := (c.network.exchange r).2 }) := rfl

/-- What is to be done about a fault is run on the connection that the operation left. -/
theorem runOn_tryCatch (op : Op α) (g : Fault → Op α) (c : Connection) :
    runOn (tryCatch op g) c = match op.runOn c with
      | (.ok a, c') => (.ok a, c')
      | (.error e, c') => (g e).runOn c' := by
  rcases h : op.runOn c with ⟨r, c'⟩
  have hop : StateT.run op c = (r, c') := h
  simp only [runOn, tryCatch, tryCatchThe, MonadExceptOf.tryCatch, ExceptT.tryCatch, ExceptT.run_mk,
    StateT.run_bind, hop]
  cases r <;> rfl

end Op

/-! ## Handlers -/

namespace Handler

/-- An operation that is called leaves the snapshot as it is. -/
@[simp] theorem runOn_call (op : Op α) (s : Snapshot M) (c : Connection) :
    runOn (call op) s c = ((op.runOn c).1, s, (op.runOn c).2) := rfl

/-- Looking at the snapshot leaves it and the connection as they are. -/
@[simp] theorem runOn_snapshot (s : Snapshot M) (c : Connection) :
    runOn snapshot s c = (.ok s, s, c) := rfl

/-- A change of the snapshot leaves the connection as it is. -/
@[simp] theorem runOn_change (f : Snapshot M → Snapshot M) (s : Snapshot M) (c : Connection) :
    runOn (change f) s c = (.ok (), f s, c) := rfl

/-- A change of what is declared leaves the rest of the snapshot as it is. -/
@[simp] theorem runOn_changeDesired (f : M → M) (s : Snapshot M) (c : Connection) :
    runOn (changeDesired f) s c = (.ok (), { s with desired := f s.desired }, c) := rfl

/-- The first step is run, and then, if it gave something, the rest on the snapshot and the
connection that it left. -/
theorem runOn_bind (h : Handler M α) (f : α → Handler M β) (s : Snapshot M) (c : Connection) :
    runOn (h >>= f) s c = match h.runOn s c with
      | (.ok a, s', c') => (f a).runOn s' c'
      | (.error e, s', c') => (.error e, s', c') := by
  show runOn (ExceptT.bindCont f (h.runOn s c).1 : StateT (Snapshot M) (StateM Connection) _)
    (h.runOn s c).2.1 (h.runOn s c).2.2 = _
  rcases h.runOn s c with ⟨r, s', c'⟩
  cases r <;> rfl

/-- What is to be done about a fault is run on the snapshot and the connection that are left. -/
theorem runOn_tryCatch (h : Handler M α) (g : Fault → Handler M α) (s : Snapshot M)
    (c : Connection) :
    runOn (tryCatch h g) s c = match h.runOn s c with
      | (.ok a, s', c') => (.ok a, s', c')
      | (.error e, s', c') => (g e).runOn s' c' := by
  rcases hh : h.runOn s c with ⟨r, s', c'⟩
  have hrun : StateT.run (StateT.run h s) c = ((r, s'), c') := by
    obtain ⟨rfl, hs⟩ := Prod.mk.inj hh
    obtain ⟨rfl, rfl⟩ := Prod.mk.inj hs
    rfl
  simp only [runOn, tryCatch, tryCatchThe, MonadExceptOf.tryCatch, ExceptT.tryCatch, ExceptT.run_mk,
    StateT.run_bind, hrun]
  cases r <;> rfl

/-- Operations that are called one after the other can be called as one. -/
theorem runOn_call_bind {op : Op α} {g : α → Handler M β} {f : α → Op β} {s : Snapshot M}
    (h : ∀ a c, (g a).runOn s c = (call (f a)).runOn s c) (c : Connection) :
    runOn (call op >>= g) s c = runOn (call (op >>= f)) s c := by
  rw [runOn_bind, runOn_call, runOn_call, Op.runOn_bind]
  rcases op.runOn c with ⟨r, c'⟩
  cases r with
  | error e => rfl
  | ok a => exact h a c'

/-- A run in steps gives a result only if every step does. -/
theorem runOn_bind_eq_ok {h : Handler M α} {f : α → Handler M β} {s s₂ : Snapshot M}
    {c c₂ : Connection} {b : β} :
    runOn (h >>= f) s c = (.ok b, s₂, c₂) ↔
      ∃ a s₁ c₁, h.runOn s c = (.ok a, s₁, c₁) ∧ (f a).runOn s₁ c₁ = (.ok b, s₂, c₂) := by
  rw [runOn_bind]
  constructor
  · intro hrun
    rcases hh : h.runOn s c with ⟨r, s₁, c₁⟩
    rw [hh] at hrun
    cases r with
    | error e => exact absurd (congrArg Prod.fst hrun) (by simp)
    | ok a => exact ⟨a, s₁, c₁, rfl, hrun⟩
  · rintro ⟨a, s₁, c₁, hh, hf⟩
    rw [hh]
    exact hf

end Handler

end UaaAdmin
