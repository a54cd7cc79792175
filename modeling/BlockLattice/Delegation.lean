import BlockLattice.Params
import BlockLattice.Round

namespace BlockLattice

structure Delegation where
  delegates : List Delegate
  registered : Std.ExtTreeSet AccountId
  round : Round
  roundsStarted : Nat

namespace Delegation

def empty : Delegation := ⟨[], ∅, .empty, 0⟩

def register (d : Delegation) (account : AccountId) : Delegation :=
  { d with registered := d.registered.insert account }

def isRegistered (d : Delegation) (account : AccountId) : Bool := d.registered.contains account

def eligible (d : Delegation) (l : Ledger) : List Delegate :=
  l.ranking.filter fun x => d.isRegistered x.account

-- Starts a new round if the present one has ended. Elections wait for the first
-- request that finds the round over.
def update (d : Delegation) (l : Ledger) (p : Params) : Delegation :=
  if d.round.hasEnded then
    { d with
      delegates := d.eligible l
      round := .ofRanking (d.eligible l) p.maxForgers.toNat
      roundsStarted := d.roundsStarted + 1 }
  else d

def currentForger (d : Delegation) : Except ConsensusError AccountId :=
  if d.round.forgers.isEmpty then .error .noForger
  else
    match d.round.forger with
    | .ok x => .ok x.account
    | .error e => .error e

end Delegation
end BlockLattice
