import BlockLattice.Node.Payout
import BlockLattice.Outcome

-- Serving a request. A send is settled in the same breath: the receive block
-- that consumes it is forged at once, or the send is taken back.
namespace BlockLattice.Node

def pairReceive (send : BlockHash) (sender destination : AccountId) (amount : Amount) : Action Forged := do
  let receiver ← account destination
  let previous ← tip destination
  match (← get).ledger.block? send with
  | none => throw (.ledger (.blockNotFound send))
  | some source =>
    let a ← account sender
    let blueprint ← raise .validation (receiver.receiveBlueprint amount previous source a.publicKey)
    forgeAndAppend .client ⟨destination, blueprint⟩

def takeBack (sender : AccountId) (send : BlockHash) : Action Unit := do
  let n ← get
  let (l, _) ← raise .ledger (n.ledger.rollback sender send)
  set (n.withLedger l)

def settle (send : BlockHash) (sender destination : AccountId) (amount : Amount) : Action BlockHash :=
  tryCatch
    (do
      let receive ← pairReceive send sender destination amount
      modify fun n => n.recordForged receive
      return receive.hash)
    fun e => do
      takeBack sender send
      throw e

def settlePayload (f : Forged) (r : Request) : Action (Option BlockHash) := do
  match r.blueprint.payload with
  | .send destination => return some (← settle f.hash r.account destination r.blueprint.amount)
  | _ => return none

def payForger (f : Forged) : StateM Node Payout.Report :=
  if f.reward.isZero then return .empty else payout f.forger f.reward

-- The transfer is settled before anyone is paid for it.
def serve (r : Request) : Action Outcome := do
  let forged ← forgeAndAppend .client r
  let paired ← settlePayload forged r
  modify fun n => n.recordForged forged
  let report ← payForger forged
  return ⟨forged.hash, forged.kind, forged.forger, forged.reward, paired, report.credits, report.warnings⟩

def isAccepted : Except ε α → Bool
  | .ok _ => true
  | .error _ => false

def process (r : Request) : Action Outcome :=
  ExceptT.mk do
    let result ← (serve r).run
    modify fun n =>
      let n := n.refreshGauges
      { n with metrics := n.metrics.countRequest (isAccepted result) }
    return result

end BlockLattice.Node
