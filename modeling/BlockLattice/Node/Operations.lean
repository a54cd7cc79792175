import BlockLattice.Election
import BlockLattice.Ledger.Genesis
import BlockLattice.Node.Process

namespace BlockLattice.Node

def openGenesis (keys : KeyPair) (username : String) : Action AccountId := do
  let n ← get
  match n.ledger.openGenesis n.params keys username n.clock with
  | (l, clock, .ok id) =>
    set { n.withLedger l with clock := clock, delegation := n.delegation.register id }.refreshGauges
    return id
  | (l, clock, .error e) =>
    set { n.withLedger l with clock := clock }
    throw (.ledger e)

def deregister (id : AccountId) : Action Unit := do
  let n ← get
  let (l, _) ← raise .ledger (n.ledger.removeUnopened id)
  set (n.withLedger l)

-- Registers and opens an account. If it cannot be opened the registration is
-- undone, so that its name stays free.
def openAccountWithKeys (keys : KeyPair) (username : String) : Action AccountId := do
  let n ← get
  let (l, id) ← raise .ledger (n.ledger.register (.new keys) username)
  set (n.withLedger l)
  tryCatch
    (do
      let _ ← process ⟨id, Account.openBlueprint⟩
      return id)
    fun e => do
      deregister id
      throw e

def drawKeys : Action KeyPair := do
  let n ← get
  let (keys, rest) := n.keys.draw
  set { n with keys := rest }
  return keys

def openAccount (username : String) : Action AccountId := do
  let keys ← drawKeys
  openAccountWithKeys keys username

def transfer (source destination : AccountId) (amount : Amount) : Action Outcome := do
  let a ← account source
  let previous ← tip source
  let blueprint ← raise .validation (a.sendBlueprint (← get).params amount destination previous)
  process ⟨source, blueprint⟩

def registerDelegate (id : AccountId) (percent : Float) : Action Outcome := do
  let a ← account id
  let previous ← tip id
  let blueprint ← raise .validation (a.delegateBlueprint (← get).params previous percent)
  process ⟨id, blueprint⟩

def electChunk (id : AccountId) (tokens : List String) : Action (Option Outcome) := do
  let a ← account id
  let n ← get
  let changes := Election.planChunk n.ledger a tokens
  if changes.isEmpty then return none
  let previous ← tip id
  let blueprint ← raise .validation (a.changeBlueprint n.params changes previous)
  return some (← process ⟨id, blueprint⟩)

def electChunks (id : AccountId) : List (List String) → Action (List Outcome)
  | [] => return []
  | chunk :: rest => do
    let outcome ← electChunk id chunk
    let outcomes ← electChunks id rest
    return outcome.toList ++ outcomes

-- The whole list of tokens is held to the limit before any of it is planned.
def elect (id : AccountId) (tokens : List String) : Action (List Outcome) := do
  let a ← account id
  let n ← get
  raise .validation (Election.checkLimit n.params a tokens)
  electChunks id (Election.chunks n.params tokens)

end BlockLattice.Node
