import BlockLattice.Ledger.Check
import BlockLattice.Node.Basic

-- From a blueprint to a block on the ledger: check it, elect if the round is
-- over, forge with the forger whose turn it is, sign, verify, append, and let
-- the block take effect on its account. Nothing before the append changes the
-- ledger, except that a forger whose block cannot be built has missed its turn.
namespace BlockLattice.Node

inductive Origin where
  -- A client's request, or the receive block that settles it.
  | client
  | reward
deriving DecidableEq, Repr

structure Forged where
  hash : BlockHash
  kind : BlockKind
  forger : AccountId
  reward : Amount
deriving DecidableEq, Repr

def checkRequest (origin : Origin) (r : Request) : Action Unit := do
  let n ← get
  match origin with
  | .client => raise .ledger (n.ledger.check n.params r.account r.blueprint)
  | .reward => raise .ledger (n.ledger.checkReward r.account r.blueprint)

def refreshRound (n : Node) : Node :=
  { n with
    delegation := n.delegation.update n.ledger n.params
    metrics := if n.delegation.round.hasEnded then n.metrics.countRound else n.metrics }

def nextForger (n : Node) : Except ConsensusError AccountId × Node :=
  (n.refreshRound.delegation.currentForger, n.refreshRound)

def chooseForger : Action AccountId := do
  let (forger, n) := (← get).nextForger
  set n
  raise .consensus forger

def missTurn (n : Node) (forger : AccountId) : Node :=
  { n with
    ledger := n.ledger.modifyAccount forger fun a => { a with missed := a.missed + 1 }
    metrics := n.metrics.countFailure }

def buildBlock (forger : AccountId) (r : Request) : Action Block := do
  let time ← readClock
  let n ← get
  match n.delegation.round.forge n.ledger r.account r.blueprint time with
  | .ok (round, block) =>
    set { n with delegation := { n.delegation with round := round } }
    return block
  | .error e =>
    set (n.missTurn forger)
    throw (.consensus e)

def signed (owner forger : AccountId) (b : Block) : Action Block := do
  let a ← account owner
  let block := b.sign a.privateKey
  if !block.verify a.publicKey then throw (.signatureInvalid .owner)
  let witness ← account forger
  if !block.verifyWitness witness.publicKey then throw (.signatureInvalid .witness)
  return block

def appendBlock (id : AccountId) (b : Block) : Action BlockHash := do
  let n ← get
  let (l, hash) ← raise .appendFailed (n.ledger.append id b)
  set (n.withLedger l)
  return hash

-- What is minted for the forger of a block: the forging reward and all that
-- the account paid for the block. A receive block pays nothing.
def rewardFor (p : Params) : Payload → Amount
  | .opening => p.forgeReward
  | .send _ => p.forgeReward.saturatingAdd p.transactionFee
  | .receive _ => .zero
  | .change _ => p.forgeReward.saturatingAdd p.changeCost
  | .delegate _ => p.forgeReward.saturatingAdd p.delegateCost

def applyPayload (n : Node) (id : AccountId) : Payload → Node
  | .change changes => n.withLedger (n.ledger.modifyAccount id (·.applyVotes changes))
  | .delegate share =>
    { n with
      ledger := n.ledger.modifyAccount id fun a => { a with isDelegate := true, share := share }
      delegation := n.delegation.register id }
  | _ => n

def applyEffects (id : AccountId) (payload : Payload) : Action Amount := do
  let _ ← account id
  let n ← get
  set (n.applyPayload id payload)
  return rewardFor n.params payload

-- The forger is not credited here but when the whole request has been served.
def forgeAndAppend (origin : Origin) (r : Request) : Action Forged := do
  checkRequest origin r
  let forger ← chooseForger
  let block ← buildBlock forger r
  let block ← signed r.account forger block
  let hash ← appendBlock r.account block
  let reward ← applyEffects r.account r.blueprint.payload
  return ⟨hash, r.blueprint.kind, forger, reward⟩

def recordForged (n : Node) (f : Forged) : Node :=
  { n with
    ledger := n.ledger.modifyAccount f.forger fun a => { a with forged := a.forged + 1 }
    metrics := n.metrics.countForged }

end BlockLattice.Node
