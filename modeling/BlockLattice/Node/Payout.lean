import BlockLattice.Ledger.Query
import BlockLattice.Node.Forging
import BlockLattice.Payout

-- Paying a reward out. Each due is forged as a receive block without a source
-- on the chain of the account it is for. A due that cannot be forged becomes a
-- warning, and the others are paid all the same.
namespace BlockLattice.Node

open Payout

def creditReward (d : Due) : Action Forged := do
  let a ← account d.account
  let previous ← tip d.account
  let blueprint ← raise .validation (a.rewardBlueprint d.amount previous)
  forgeAndAppend .reward ⟨d.account, blueprint⟩

def warn (report : Report) (d : Due) (reason : String) : StateM Node Report := do
  modify fun n => { n with metrics := n.metrics.countWarning }
  return report.addWarning ⟨d.account, d.amount, reason⟩

def recordCredit (n : Node) (f : Forged) : Node :=
  let n := n.recordForged f
  { n with metrics := n.metrics.countCredit }

def payDue (report : Report) (d : Due) : StateM Node Report := do
  match ← (creditReward d).run with
  | .ok forged =>
    modify fun n => n.recordCredit forged
    return report.addCredit ⟨d.account, d.amount, forged.hash⟩
  | .error e => warn report d e.message

def payout (forger : AccountId) (reward : Amount) : StateM Node Report := do
  let n ← get
  match n.ledger.account? forger with
  | none => warn .empty ⟨forger, reward⟩ "forger is not in the ledger"
  | some a =>
    match plan reward a.share forger (n.ledger.stakeholders forger) with
    | .ok dues => dues.foldlM payDue .empty
    | .error e => warn .empty ⟨forger, reward⟩ e.message

end BlockLattice.Node
