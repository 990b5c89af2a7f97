import UaaAdmin.Proofs.ManagerCalls

/-!
# Calls in a row

Calls that are made one after the other stop at the first one that fails. `Attempted` says which
exchanges that makes, and how it ends: an exchange for every call up to the one that fails, of which
there is none if its request cannot be made, and the fault is that of this call.

An operation that makes certain calls (`Op.Attempts`) is built of calls and of operations that make
some. If its last call gives a value, that is what the last exchange was answered with
(`Op.Attempts.last`).
-/

namespace UaaAdmin

open Users (Advanced)

/-- A call, whatever it gives. -/
structure AnyCall where
  {α : Type}
  call : ManagerCall α

/-- The method, the path and the content of the request of a call. -/
def AnyCall.sent (call : AnyCall) : Net.Method × String × Net.Content :=
  (call.call.task.method, call.call.task.path, call.call.content)

/-- The exchanges of calls that are made in a row, each only after the one before it has given
something, and how the last one of them ends. -/
inductive Attempted (s : Session) :
    List AnyCall → List Net.Exchange → Except Fault Unit → Prop
  /-- All calls are made. -/
  | done : Attempted s [] [] (.ok ())
  /-- The request of a call cannot be made. -/
  | refused {α} {call : ManagerCall α} {rest why} (h : call.request s = .error (.config why)) :
    Attempted s (⟨call⟩ :: rest) [] (.error (.config why))
  /-- A call fails. -/
  | failed {α} {call : ManagerCall α} {rest x f} (h : call.request s = .ok x.request)
    (hends : Ends call.conflict? call.reading x.outcome (.error f)) :
    Attempted s (⟨call⟩ :: rest) [x] (.error f)
  /-- A call gives something, and the rest is made. -/
  | passed {α} {call : ManagerCall α} {rest x xs a r} (h : call.request s = .ok x.request)
    (hends : Ends call.conflict? call.reading x.outcome (.ok a)) (hrest : Attempted s rest xs r) :
    Attempted s (⟨call⟩ :: rest) (x :: xs) r

variable {α β : Type}

namespace Attempted

variable {s : Session} {calls calls' : List AnyCall} {xs ys : List Net.Exchange}
  {r : Except Fault Unit}

/-- After all calls the next ones are made. -/
theorem append (h : Attempted s calls xs (.ok ())) (h' : Attempted s calls' ys r) :
    Attempted s (calls ++ calls') (xs ++ ys) r := by
  -- The way the first calls end is an index of `Attempted`, so it has to be a variable here.
  generalize hok : (Except.ok () : Except Fault Unit) = first at h
  induction h with
  | done => exact h'
  | refused => exact absurd hok (by simp)
  | failed => exact absurd hok (by simp)
  | passed h hends _ ih => exact .passed h hends (ih hok)

/-- After a call that fails there are no others. -/
theorem append_of_error {f : Fault} (h : Attempted s calls xs (.error f)) (calls' : List AnyCall) :
    Attempted s (calls ++ calls') xs (.error f) := by
  generalize herror : (Except.error f : Except Fault Unit) = last at h
  induction h with
  | done => exact absurd herror (by simp)
  | refused h => exact .refused h
  | failed h hends => exact .failed h hends
  | passed h hends _ ih => exact .passed h hends (ih herror)

/-- Every exchange is that of one of the calls. -/
theorem exists_call (h : Attempted s calls xs r) {x : Net.Exchange} (hx : x ∈ xs) :
    ∃ call ∈ calls, call.call.request s = .ok x.request := by
  induction h with
  | done => exact absurd hx List.not_mem_nil
  | refused => exact absurd hx List.not_mem_nil
  | failed h _ =>
    rw [List.mem_singleton] at hx
    subst hx
    exact ⟨_, List.mem_cons_self, h⟩
  | passed h _ _ ih =>
    rcases List.mem_cons.mp hx with rfl | hx
    · exact ⟨_, List.mem_cons_self, h⟩
    · obtain ⟨call, hmem, hcall⟩ := ih hx
      exact ⟨call, List.mem_cons_of_mem _ hmem, hcall⟩

/-- What is sent are the messages of the first calls, in their order. -/
theorem messages (h : Attempted s calls xs r) :
    xs.map (·.request.message) <+: (calls.map AnyCall.sent).map s.endpoint.message := by
  have hcall {α : Type} {call : ManagerCall α} {x : Net.Exchange}
      (hrequest : call.request s = .ok x.request) :
      x.request.message = s.endpoint.message (AnyCall.sent ⟨call⟩) := by
    rw [Endpoint.message_of_request hrequest, Endpoint.message, Endpoint.message,
      Endpoint.urlOf_congr (call.endpoint_shared s).1]
    rfl
  induction h with
  | done => exact List.prefix_refl _
  | refused => exact List.nil_prefix
  | failed h _ => exact List.cons_prefix_cons.mpr ⟨hcall h, List.nil_prefix⟩
  | passed h _ _ ih => exact List.cons_prefix_cons.mpr ⟨hcall h, ih⟩

end Attempted

/-- What the operation does is make these calls in a row. -/
def Op.Attempts (s : Session) (calls : List AnyCall) (op : Op α) : Prop :=
  ∀ c, ∃ xs, Advanced c xs (op.runOn c).2 ∧
    Attempted s calls xs ((op.runOn c).1.map fun _ => ())

namespace Op

variable {s : Session} {calls calls' : List AnyCall}

theorem attempts_pure (a : α) : (pure a : Op α).Attempts s [] := fun c => ⟨[], .refl c, .done⟩

/-- A call makes itself, and what it gives is what its exchange ends with. -/
theorem runOn_call_attempted (s : Session) (call : ManagerCall α) (c : Connection) :
    ∃ xs, Advanced c xs ((call.op s).runOn c).2 ∧
      Attempted s [⟨call⟩] xs (((call.op s).runOn c).1.map fun _ => ()) ∧
      ∀ a, ((call.op s).runOn c).1 = .ok a →
        ∃ x, xs = [x] ∧ Ends call.conflict? call.reading x.outcome (.ok a) := by
  have hgoes := call.goes s c
  generalize (call.op s).runOn c = run at hgoes
  cases hgoes with
  | refused _ h => exact ⟨[], .refl c, .refused h, fun a ha => absurd ha (by simp)⟩
  | @made x r c' _ h hadv hends =>
    refine ⟨[x], hadv, ?_, fun a ha => ⟨x, rfl, ?_⟩⟩
    · rcases r with f | a
      · exact .failed h hends
      · exact .passed h hends .done
    · dsimp only at ha
      rwa [ha] at hends

theorem attempts_call (call : ManagerCall α) : (call.op s).Attempts s [⟨call⟩] := by
  intro c
  obtain ⟨xs, hadv, hattempted, -⟩ := runOn_call_attempted s call c
  exact ⟨xs, hadv, hattempted⟩

/-- The calls of the rest come after those of the first step. -/
theorem Attempts.bind {op : Op α} {f : α → Op β} (hop : op.Attempts s calls)
    (hf : ∀ a, (f a).Attempts s calls') : (op >>= f).Attempts s (calls ++ calls') := by
  intro c
  obtain ⟨xs, hadv, hattempted⟩ := hop c
  rcases hr : op.runOn c with ⟨e | a, c₁⟩
  · rw [hr] at hadv hattempted
    rw [runOn_bind_of_error hr]
    exact ⟨xs, hadv, hattempted.append_of_error calls'⟩
  · rw [hr] at hadv hattempted
    rw [runOn_bind_of_ok hr]
    obtain ⟨ys, hadv', hattempted'⟩ := hf a c₁
    exact ⟨xs ++ ys, hadv.trans hadv', hattempted.append hattempted'⟩

/-- What the last call gives is what the last exchange ends with. -/
theorem Attempts.last {op : Op β} (hop : op.Attempts s calls) (call : ManagerCall α)
    (c : Connection) :
    let run := (op >>= fun _ => call.op s).runOn c
    ∃ xs, Advanced c xs run.2 ∧ Attempted s (calls ++ [⟨call⟩]) xs (run.1.map fun _ => ()) ∧
      ∀ a, run.1 = .ok a →
        ∃ x, xs.getLast? = some x ∧ Ends call.conflict? call.reading x.outcome (.ok a) := by
  intro run
  have hrun : run = (op >>= fun _ => call.op s).runOn c := rfl
  obtain ⟨xs, hadv, hattempted⟩ := hop c
  rcases hr : op.runOn c with ⟨e | b, c₁⟩
  · rw [hr] at hadv hattempted
    rw [hrun, runOn_bind_of_error hr]
    exact ⟨xs, hadv, hattempted.append_of_error _, fun a ha => absurd ha (by simp)⟩
  · rw [hr] at hadv hattempted
    rw [hrun, runOn_bind_of_ok hr]
    obtain ⟨ys, hadv', hattempted', hgiven⟩ := runOn_call_attempted s call c₁
    refine ⟨xs ++ ys, hadv.trans hadv', hattempted.append hattempted', fun a ha => ?_⟩
    obtain ⟨x, rfl, hends⟩ := hgiven a ha
    exact ⟨x, by rw [List.getLast?_concat], hends⟩

end Op

end UaaAdmin
