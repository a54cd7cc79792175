import BlockLattice.Delegation
import BlockLattice.Metrics
import BlockLattice.Node.Error

-- The node: one ledger, its delegation, and what goes with them. A request is
-- served to its end before the next one starts.
namespace BlockLattice

structure Node where
  params : Params
  ledger : Ledger
  delegation : Delegation
  clock : Clock
  metrics : Metrics
  keys : KeySource

namespace Node

def new (params : Params) (clock : Clock) (keys : KeySource) : Node :=
  ⟨params, .empty, .empty, clock, .empty, keys⟩

-- Something a node does that may fail. A failure does not undo by itself what
-- was done before it; operations that promise that undo it themselves.
abbrev Action (α : Type) := ExceptT NodeError (StateM Node) α

def perform (n : Node) (action : Action α) : Except NodeError α × Node := (ExceptT.run action).run n

def carryOut (n : Node) (task : StateM Node α) : α × Node := task.run n

def raise (wrap : ε → NodeError) : Except ε α → Action α
  | .ok a => pure a
  | .error e => throw (wrap e)

def account (id : AccountId) : Action Account := do
  match (← get).ledger.account? id with
  | some a => return a
  | none => throw (.accountNotFound id)

def tip (id : AccountId) : Action Block := do
  match (← get).ledger.latest? id with
  | some b => return b
  | none => throw (.ledger (.notOpened id))

def withLedger (n : Node) (l : Ledger) : Node := { n with ledger := l }

def later (n : Node) : Node := { n with clock := n.clock.next }

def readClock : Action Timestamp := do
  let n ← get
  set n.later
  return n.clock.now

def refreshGauges (n : Node) : Node := { n with metrics := n.metrics.observe n.ledger.summary }

def snapshot : Action Snapshot := do
  let time ← readClock
  return (← get).ledger.snapshot time

end Node
end BlockLattice
