import UaaAdmin.GroupCache
import UaaAdmin.Net.Exchange

/-!
# Operations

An operation talks to the server, may load groups into the cache, and gives a result or a fault.
What it did before a fault stays done.
-/

namespace UaaAdmin

/-- What operations work on. -/
structure Connection where
  network : Net.Network := {}
  groups : GroupCache := ∅

/-- An operation with a result of type `α`. -/
abbrev Op (α : Type) : Type := ExceptT Fault (StateM Connection) α

namespace Op

/-- Runs an operation: its result or fault, and the connection after it. -/
def runOn {α : Type} (op : Op α) (c : Connection) : Except Fault α × Connection :=
  (ExceptT.run op).run c

/-- Lets a request happen. -/
def exchange (r : Net.Request) : Op Net.Outcome := do
  let c ← getThe Connection
  let (outcome, network) := c.network.exchange r
  set { c with network := network }
  return outcome

/-- Fails unless a check passed. -/
def ofExcept {α : Type} : Except Fault α → Op α
  | .ok a => pure a
  | .error f => throw f

end Op

end UaaAdmin
